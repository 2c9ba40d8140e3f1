import TaskScheduling.Dispatch.Submission
import TaskScheduling.Proofs.Backlog.Due
import TaskScheduling.Proofs.Backlog.Tidy
import TaskScheduling.Tick.Scheduler

/-!
# Backlogs whose whole past is known

`Backlog.Orderly` says that all queues are in order and that no ready task is later than the latest time that was seen,
whatever others are in the middle of.

`Backlog.Accounted` relates a backlog to everything that has happened to it: the submissions that were accepted, the
insertions into its queues, and the latest time that was seen.  Each operation that a scheduler carries out with nothing
in between keeps the account: `Accounted.enlist` for a submission, `Accounted.of_thins` for cancellations,
`Accounted.launch` for the start of a run and `Accounted.complete` for its end.
-/

namespace TaskScheduling

namespace Request

/-- The task that is built for a request. -/
def task (r : Request) (defaultPriority : Priority) (id : TaskId) (now : Nat) : Task :=
  Task.build id (r.options.priority.getD defaultPriority) r.kind r.delay now r.options.handler

/-- What never changes about that task; the time of the submission is not part of it. -/
def identity (r : Request) (defaultPriority : Priority) (id : TaskId) :
    TaskId × Priority × TaskKind × Bool × Option FailureHandler :=
  (id, r.options.priority.getD defaultPriority, r.kind, !r.kind.isRecurring && r.delay.isZero, r.options.handler)

theorem identity_task (r : Request) (defaultPriority : Priority) (id : TaskId) (now : Nat) :
    (r.task defaultPriority id now).identity = r.identity defaultPriority id := rfl

theorem slot_task (r : Request) (defaultPriority : Priority) (id : TaskId) (now : Nat) :
    (r.task defaultPriority id now).slot = none := rfl

theorem isRecurring_task {r : Request} {defaultPriority : Priority} {id : TaskId} {now : Nat}
    (h : (r.task defaultPriority id now).immediate = true) : (r.task defaultPriority id now).isRecurring = false := by
  obtain ⟨hk, -⟩ := (Task.immediate_build_iff ..).1 h
  simp only [task, Task.isRecurring, Task.build, hk, TaskKind.isRecurring]

theorem runAt_task {r : Request} {defaultPriority : Priority} {id : TaskId} {now : Nat}
    (h : (r.task defaultPriority id now).immediate = true) :
    (r.task defaultPriority id now).runAt = min now Time.limit := by
  obtain ⟨-, hz⟩ := (Task.immediate_build_iff ..).1 h
  simp only [Duration.isZero, Bool.and_eq_true, beq_iff_eq] at hz
  have hmillis : r.delay.millis = 0 := by simp [Duration.millis, hz.1, hz.2]
  simp only [task, Task.build, hmillis, Time.plus, Nat.add_zero]

end Request

namespace Backlog

theorem Tidy.state_of_nextDue {b : Backlog} (h : b.Tidy none) {now : Nat} {lowWait : Option Nat} {id : TaskId}
    (hnext : b.nextDue now lowWait = some id) : (b.task id).state = .pending := by
  have hmem := (h.toKept.eligible_iff.1 (eligible_of_nextDue h.toKept hnext)).1
  exact h.state_of_slot (h.toKept.mem_queue_iff.1 hmem)

/-- The backlog after a task has been built and entered. -/
def enroll (b : Backlog) (now : Nat) (r : Request) (defaultPriority : Priority) : Backlog :=
  { b with nextId := b.nextId + 1 }.enter (r.task defaultPriority ⟨b.nextId⟩ now)

/-- The backlog after a task has been built, entered and queued. -/
def enlist (b : Backlog) (now : Nat) (r : Request) (defaultPriority : Priority) : Backlog :=
  (b.enroll now r defaultPriority).place ⟨b.nextId⟩

/-- The backlog after a task has been taken out, claimed and counted. -/
def launch (b : Backlog) (id : TaskId) : Backlog :=
  ((b.unlink id (b.task id).home).transition id .pending .executing).1.modify id Task.countRun

theorem nextId_launch (b : Backlog) (id : TaskId) : (b.launch id).nextId = b.nextId := by
  rw [launch, nextId_modify, nextId_transition, nextId_unlink]

theorem queue_launch (b : Backlog) (id : TaskId) (slot : QueueSlot) :
    (b.launch id).queue slot = if slot = (b.task id).home then (b.queue slot).erase id else b.queue slot := by
  rw [launch, queue_modify, queue_transition, queue_unlink]

/-- A pending task that has been taken out can be claimed. -/
theorem begin_unlink {b : Backlog} {id : TaskId} (hstate : (b.task id).state = .pending) :
    (b.unlink id (b.task id).home).begin id =
      (((b.unlink id (b.task id).home).transition id .pending .executing).1, true) := by
  have hunlinked : ((b.unlink id (b.task id).home).task id).state = .pending := by
    rw [task_unlink, if_pos rfl]
    exact hstate
  have hsnd := transition_snd (b.unlink id (b.task id).home) id .pending .executing
  rw [hunlinked, decide_eq_true rfl] at hsnd
  exact Prod.ext rfl hsnd

theorem Tidy.launch {b : Backlog} (h : b.Tidy none) {id : TaskId} (hstate : (b.task id).state = .pending) :
    (b.launch id).Tidy none := by
  have hlt : id.index < b.nextId := h.index_lt (by simp [hstate])
  have hexecuting : (((b.unlink id (b.task id).home).transition id .pending .executing).1.task id).state =
      .executing := by
    rw [task_transition, task_unlink, if_pos rfl, if_pos ⟨rfl, hstate⟩]
  rw [Backlog.launch]
  refine (h.unlink hstate).begin.countRun (by simp [hexecuting]) ?_
  rw [nextId_transition, nextId_unlink]
  exact hlt

/-- Whether a task is being run: it is claimed, and further runs of it may have been cancelled since. -/
def IsTaken (b : Backlog) (id : TaskId) : Prop :=
  (b.task id).state = .executing ∨ (b.task id).state = .cancelled ∧ (b.task id).isRecurring = true

theorem IsTaken.of_same {b c : Backlog} {id : TaskId} (h : b.IsTaken id)
    (hstate : (c.task id).state = (b.task id).state) (hid : (c.task id).identity = (b.task id).identity) :
    c.IsTaken id := by
  rwa [IsTaken, hstate, Task.isRecurring_eq_of_identity hid]

theorem Thins.isTaken {b c : Backlog} (h : b.Thins c) {id : TaskId} (htaken : b.IsTaken id) : c.IsTaken id := by
  have hrecurring := Task.isRecurring_eq_of_identity (h.identity_eq id)
  rcases h.state_eq id with hs | ⟨hs, hbefore⟩
  · exact htaken.of_same hs (h.identity_eq id)
  · -- whoever cancels a task that is being run knows that it is recurring
    rcases hbefore with hpending | ⟨-, hr⟩
    · rcases htaken with ht | ⟨ht, -⟩ <;> rw [hpending] at ht <;> cases ht
    · exact .inr ⟨hs, hrecurring.trans hr⟩

/-- Every queue is in the order in which its tasks are served, and ready tasks had their time when they were queued. -/
structure Orderly (b : Backlog) (insertions : List TaskId) (latestTime : Nat) : Prop extends b.Kept where
  inTurn : b.InTurn insertions
  runAt_le (p : Priority) : ∀ id ∈ b.queue ⟨p, .ready⟩, (b.task id).runAt ≤ min latestTime Time.limit

namespace Orderly

variable {b : Backlog} {insertions : List TaskId} {latestTime : Nat}

protected theorem empty (latestTime : Nat) : Backlog.empty.Orderly [] latestTime where
  toKept := Kept.empty
  inTurn := InTurn.empty
  runAt_le p := by
    intro id hid
    cases p <;> cases hid

theorem mono (h : b.Orderly insertions latestTime) {t : Nat} (ht : latestTime ≤ t) : b.Orderly insertions t :=
  { h with runAt_le := fun p id hid => (h.runAt_le p id hid).trans (by omega) }

/-- Taking tasks out keeps the rest in order. -/
theorem of_sublist (h : b.Orderly insertions latestTime) {c : Backlog} (hkept : c.Kept)
    (hsub : ∀ slot, (c.queue slot).Sublist (b.queue slot))
    (htime : ∀ slot, ∀ id ∈ c.queue slot, (c.task id).runAt = (b.task id).runAt) : c.Orderly insertions latestTime where
  toKept := hkept
  inTurn := h.inTurn.of_sublist hsub htime
  runAt_le p := by
    intro id hmem
    rw [htime _ id hmem]
    exact h.runAt_le p id ((hsub _).subset hmem)

end Orderly

structure Accounted (b : Backlog) (insertions : List TaskId) (requests : List Request) (defaultPriority : Priority)
    (latestTime : Nat) : Prop where
  tidy : b.Tidy none
  inTurn : b.InTurn insertions
  /-- Ready tasks had their time when they were queued. -/
  runAt_le (p : Priority) : ∀ id ∈ b.queue ⟨p, .ready⟩, (b.task id).runAt ≤ min latestTime Time.limit
  nextId_eq : b.nextId = requests.length
  identity_eq (id : TaskId) (r : Request) : requests[id.index]? = some r →
    (b.task id).identity = r.identity defaultPriority id

namespace Accounted

variable {b : Backlog} {insertions : List TaskId} {requests : List Request} {defaultPriority : Priority}
  {latestTime : Nat}

protected theorem empty (defaultPriority : Priority) (latestTime : Nat) :
    Backlog.empty.Accounted [] [] defaultPriority latestTime where
  tidy := Tidy.empty
  inTurn := InTurn.empty
  runAt_le p := by
    intro id hid
    cases p <;> cases hid
  nextId_eq := rfl
  identity_eq id r hr := by simp at hr

theorem orderly (h : b.Accounted insertions requests defaultPriority latestTime) : b.Orderly insertions latestTime :=
  ⟨h.tidy.toKept, h.inTurn, h.runAt_le⟩

theorem mono (h : b.Accounted insertions requests defaultPriority latestTime) {t : Nat} (ht : latestTime ≤ t) :
    b.Accounted insertions requests defaultPriority t :=
  { h with runAt_le := (h.orderly.mono ht).runAt_le }

/-- Whoever is queued was asked for. -/
theorem exists_request (h : b.Accounted insertions requests defaultPriority latestTime) {id : TaskId}
    (hid : id.index < b.nextId) :
    ∃ r, requests[id.index]? = some r ∧ (b.task id).identity = r.identity defaultPriority id := by
  rw [h.nextId_eq] at hid
  obtain ⟨r, hr⟩ : ∃ r, requests[id.index]? = some r := ⟨_, List.getElem?_eq_getElem hid⟩
  exact ⟨r, hr, h.identity_eq id r hr⟩

/-- A change that puts nothing into a queue keeps the account. -/
theorem of_sublist (h : b.Accounted insertions requests defaultPriority latestTime) {c : Backlog} (htidy : c.Tidy none)
    (hsub : ∀ slot, (c.queue slot).Sublist (b.queue slot)) (hid : ∀ id, (c.task id).identity = (b.task id).identity)
    (htime : ∀ slot, ∀ id ∈ c.queue slot, (c.task id).runAt = (b.task id).runAt) (hnext : c.nextId = b.nextId) :
    c.Accounted insertions requests defaultPriority latestTime := by
  have horderly := h.orderly.of_sublist htidy.toKept hsub htime
  exact ⟨htidy, horderly.inTurn, horderly.runAt_le, hnext.trans h.nextId_eq,
    fun id r hr => (hid id).trans (h.identity_eq id r hr)⟩

theorem of_thins (h : b.Accounted insertions requests defaultPriority latestTime) {c : Backlog} (hthins : b.Thins c)
    (htidy : c.Tidy none) : c.Accounted insertions requests defaultPriority latestTime :=
  h.of_sublist htidy hthins.queue_sublist hthins.identity_eq (fun _ id _ => hthins.runAt_eq id) hthins.nextId_eq

/-! ### Submissions -/

theorem task_enroll (b : Backlog) (now : Nat) (r : Request) (defaultPriority : Priority) (id : TaskId) :
    (b.enroll now r defaultPriority).task id =
      if id = ⟨b.nextId⟩ then r.task defaultPriority ⟨b.nextId⟩ now else b.task id :=
  task_enter _ _ id

theorem queue_enroll (b : Backlog) (now : Nat) (r : Request) (defaultPriority : Priority) (slot : QueueSlot) :
    (b.enroll now r defaultPriority).queue slot = b.queue slot := by
  rw [enroll, queue_enter]
  obtain ⟨p, k⟩ := slot
  cases p <;> rfl

private theorem task_enroll_of_mem (hkept : b.Kept) (now : Nat) (r : Request) (defaultPriority : Priority)
    {slot : QueueSlot} {id : TaskId} (hid : id ∈ b.queue slot) :
    (b.enroll now r defaultPriority).task id = b.task id := by
  rw [task_enroll, if_neg]
  rintro rfl
  have hslot := hkept.mem_queue_iff.1 hid
  rw [hkept.task_eq_absent ⟨b.nextId⟩ (Nat.le_refl _)] at hslot
  cases hslot

theorem kept_enroll (hkept : b.Kept) (now : Nat) (r : Request) (defaultPriority : Priority) :
    (b.enroll now r defaultPriority).Kept := by
  have hfree : (b.task ⟨b.nextId⟩).slot = none := by
    rw [hkept.task_eq_absent ⟨b.nextId⟩ (Nat.le_refl _)]
    rfl
  have hbuilt := hkept.build now r.delay r.kind (r.options.priority.getD defaultPriority) r.options.handler
  exact hbuilt.enter (Nat.lt_succ_self _) rfl Request.isRecurring_task hfree

theorem tidy_enlist (htidy : b.Tidy none) (now : Nat) (r : Request) (defaultPriority : Priority) :
    (b.enlist now r defaultPriority).Tidy none := by
  have hbuilt : Kept { b with nextId := b.nextId + 1 } :=
    htidy.toKept.build now r.delay r.kind (r.options.priority.getD defaultPriority) r.options.handler
  exact htidy.accept (t := r.task defaultPriority ⟨b.nextId⟩ now) hbuilt (fun _ => rfl) (Nat.lt_succ_self _)
    (Nat.le_refl _) rfl Request.isRecurring_task rfl

theorem task_enlist (b : Backlog) (now : Nat) (r : Request) (defaultPriority : Priority) (id : TaskId) :
    (b.enlist now r defaultPriority).task id =
      if id = ⟨b.nextId⟩ then
        { r.task defaultPriority ⟨b.nextId⟩ now with slot := some (r.task defaultPriority ⟨b.nextId⟩ now).home }
      else b.task id := by
  have hself : (b.enroll now r defaultPriority).task ⟨b.nextId⟩ = r.task defaultPriority ⟨b.nextId⟩ now := by
    rw [task_enroll, if_pos rfl]
  rw [Backlog.enlist, task_place, hself, task_enroll]
  split <;> rfl

theorem nextId_enlist (b : Backlog) (now : Nat) (r : Request) (defaultPriority : Priority) :
    (b.enlist now r defaultPriority).nextId = b.nextId + 1 := by
  rw [Backlog.enlist, nextId_place]
  rfl

theorem isTaken_enlist {id : TaskId} (htaken : b.IsTaken id) (hid : id.index < b.nextId) (now : Nat) (r : Request)
    (defaultPriority : Priority) : (b.enlist now r defaultPriority).IsTaken id := by
  have hne : id ≠ ⟨b.nextId⟩ := by
    rintro rfl
    exact Nat.lt_irrefl _ hid
  have hold : (b.enroll now r defaultPriority).task id = b.task id := by rw [task_enroll, if_neg hne]
  refine htaken.of_same ?_ ?_
  · rw [Backlog.enlist, state_place, hold]
  · rw [Backlog.enlist, identity_place, hold]

/-- Who is in a ready queue after a submission is new, or was there before. -/
private theorem mem_ready_enlist {now : Nat} {r : Request} {p : Priority} {id : TaskId}
    (hid : id ∈ (b.enlist now r defaultPriority).queue ⟨p, .ready⟩) :
    id = ⟨b.nextId⟩ ∧ (r.task defaultPriority ⟨b.nextId⟩ now).immediate = true ∨ id ∈ b.queue ⟨p, .ready⟩ := by
  have hself : (b.enroll now r defaultPriority).task ⟨b.nextId⟩ = r.task defaultPriority ⟨b.nextId⟩ now := by
    rw [task_enroll, if_pos rfl]
  by_cases hs : (⟨p, .ready⟩ : QueueSlot) = (r.task defaultPriority ⟨b.nextId⟩ now).home
  · have hperm := perm_queue_place (b.enroll now r defaultPriority) ⟨b.nextId⟩
    rw [hself, ← hs, queue_enroll] at hperm
    rcases List.mem_cons.1 (hperm.mem_iff.1 hid) with rfl | hid
    · exact .inl ⟨rfl, Task.immediate_of_home hs.symm⟩
    · exact .inr hid
  · rw [enlist, queue_place_of_ne _ _ (by rwa [hself]), queue_enroll] at hid
    exact .inr hid

end Accounted

namespace Orderly

variable {b : Backlog} {insertions : List TaskId} {latestTime : Nat}

/-- A submission at a time that is not before any that was seen. -/
theorem enlist (h : b.Orderly insertions latestTime) {now : Nat} (hnow : latestTime ≤ now) (r : Request)
    (defaultPriority : Priority) : (b.enlist now r defaultPriority).Orderly (⟨b.nextId⟩ :: insertions) now := by
  let t := r.task defaultPriority ⟨b.nextId⟩ now
  have hkept := Accounted.kept_enroll h.toKept now r defaultPriority
  have hself : (b.enroll now r defaultPriority).task ⟨b.nextId⟩ = t := by rw [Accounted.task_enroll, if_pos rfl]
  have hslot : ((b.enroll now r defaultPriority).task ⟨b.nextId⟩).slot = none := by
    rw [hself]
    exact Request.slot_task r defaultPriority _ now
  have hinTurn : (b.enroll now r defaultPriority).InTurn insertions := by
    refine h.inTurn.of_sublist (fun slot => ?_) fun slot x hx => ?_
    · simp only [Accounted.queue_enroll, List.Sublist.refl]
    · rw [Accounted.queue_enroll] at hx
      rw [Accounted.task_enroll_of_mem h.toKept now r defaultPriority hx]
  -- a new immediate task is as late as any ready one, since those had their time before
  have hlast : t.immediate = true → ∀ x ∈ (b.enroll now r defaultPriority).queue t.home,
      ((b.enroll now r defaultPriority).task x).runAt ≤ t.runAt := by
    intro hi x hx
    have hhome : t.home = ⟨t.priority, .ready⟩ := by simp [Task.home, Task.queueKind, hi]
    rw [Accounted.queue_enroll, hhome] at hx
    have hle := h.runAt_le t.priority x hx
    rw [Accounted.task_enroll_of_mem h.toKept now r defaultPriority hx, Request.runAt_task hi]
    omega
  refine ⟨hkept.place (Nat.lt_succ_self _) hslot, hinTurn.place hkept hslot (by rwa [hself]), ?_⟩
  intro p id hid
  rw [Backlog.enlist, runAt_place]
  rcases Accounted.mem_ready_enlist hid with ⟨rfl, hi⟩ | hmem
  · rw [hself, Request.runAt_task hi]
  · have hle := h.runAt_le p id hmem
    rw [Accounted.task_enroll_of_mem h.toKept now r defaultPriority hmem]
    omega

/-- A recurring task returns to its queue, which is not a ready one. -/
theorem place (h : b.Orderly insertions latestTime) {id : TaskId} (hid : id.index < b.nextId)
    (hslot : (b.task id).slot = none) (hr : (b.task id).isRecurring = true) :
    (b.place id).Orderly (id :: insertions) latestTime := by
  have himmediate : (b.task id).immediate ≠ true := by
    intro hi
    rw [h.isRecurring_of_immediate id hi] at hr
    cases hr
  refine ⟨h.toKept.place hid hslot, h.inTurn.place h.toKept hslot fun hi => absurd hi himmediate, ?_⟩
  intro p j hj
  have hne : (⟨p, .ready⟩ : QueueSlot) ≠ (b.task id).home := fun heq => himmediate (Task.immediate_of_home heq.symm)
  rw [queue_place_of_ne b id hne] at hj
  rw [runAt_place]
  exact h.runAt_le p j hj

end Orderly

namespace Accounted

variable {b : Backlog} {insertions : List TaskId} {requests : List Request} {defaultPriority : Priority}
  {latestTime : Nat}

/-- A submission at a time that is not before any that was seen. -/
theorem enlist (h : b.Accounted insertions requests defaultPriority latestTime) {now : Nat} (hnow : latestTime ≤ now)
    (r : Request) :
    (b.enlist now r defaultPriority).Accounted (⟨b.nextId⟩ :: insertions) (requests ++ [r]) defaultPriority now := by
  have horderly := h.orderly.enlist hnow r defaultPriority
  refine ⟨tidy_enlist h.tidy now r defaultPriority, horderly.inTurn, horderly.runAt_le, ?_, ?_⟩
  · rw [nextId_enlist, List.length_append, List.length_singleton, ← h.nextId_eq]
  · intro id q hq
    rw [Backlog.enlist, identity_place, task_enroll]
    by_cases hnew : id = ⟨b.nextId⟩
    · subst hnew
      rw [h.nextId_eq, List.getElem?_concat_length] at hq
      rw [if_pos rfl, ← Option.some.inj hq, Request.identity_task]
    · rw [if_neg hnew]
      have hlt : id.index < requests.length := by
        have hle : id.index < (requests ++ [r]).length := (List.getElem?_eq_some_iff.1 hq).1
        rw [List.length_append, List.length_singleton] at hle
        have hne : id.index ≠ b.nextId := fun heq => hnew (Table.index_injective.1 heq)
        rw [h.nextId_eq] at hne
        omega
      rw [List.getElem?_append_left hlt] at hq
      exact h.identity_eq id q hq

/-! ### Runs -/

theorem task_launch {id : TaskId} (hstate : (b.task id).state = .pending) (j : TaskId) :
    (b.launch id).task j =
      if j = id then { b.task j with slot := none, state := .executing, runs := (b.task j).runs + 1 }
      else b.task j := by
  have hunlinked : ((b.unlink id (b.task id).home).task id).state = .pending := by
    rw [task_unlink, if_pos rfl]
    exact hstate
  rw [Backlog.launch, task_modify, task_transition_eq]
  by_cases hj : j = id
  · rw [if_pos hj, if_pos hj, if_pos ⟨hj, hunlinked⟩, task_unlink, if_pos hj]
    rfl
  · rw [if_neg hj, if_neg hj, if_neg fun h => hj h.1, task_unlink, if_neg hj]

theorem state_launch {id : TaskId} (hstate : (b.task id).state = .pending) : ((b.launch id).task id).state = .executing := by
  rw [task_launch hstate, if_pos rfl]

theorem slot_launch {id : TaskId} (hstate : (b.task id).state = .pending) : ((b.launch id).task id).slot = none := by
  rw [task_launch hstate, if_pos rfl]

/-- The start of a run. -/
theorem launch (h : b.Accounted insertions requests defaultPriority latestTime) {id : TaskId}
    (hstate : (b.task id).state = .pending) :
    (b.launch id).Accounted insertions requests defaultPriority latestTime := by
  refine h.of_sublist (h.tidy.launch hstate) ?_ ?_ ?_ (nextId_launch b id)
  · intro slot
    rw [Backlog.launch, queue_modify, queue_transition]
    exact (Thins.unlink b id _).queue_sublist slot
  · intro j
    rw [task_launch hstate]
    split <;> rfl
  · intro slot j _
    rw [task_launch hstate]
    split <;> rfl

theorem isTaken_launch {id : TaskId} (hstate : (b.task id).state = .pending) : (b.launch id).IsTaken id := by
  rw [IsTaken, task_launch hstate, if_pos rfl]
  exact .inl rfl

theorem task_replan_of_ne (b : Backlog) {id j : TaskId} (completedAt : Nat) (hne : j ≠ id) :
    (b.replan id completedAt).task j = b.task j := by
  rw [Backlog.replan, task_modify, if_neg hne]

private theorem identity_replan (b : Backlog) (id j : TaskId) (completedAt : Nat) :
    ((b.replan id completedAt).task j).identity = (b.task j).identity := by
  rw [Backlog.replan, task_modify]
  split <;> rfl

theorem replan (h : b.Accounted insertions requests defaultPriority latestTime) {id : TaskId}
    (hstate : (b.task id).state ≠ .pending) (hid : id.index < b.nextId) (completedAt : Nat) :
    (b.replan id completedAt).Accounted insertions requests defaultPriority latestTime := by
  refine h.of_sublist (h.tidy.replan hstate hid completedAt) ?_ (fun j => identity_replan b id j completedAt) ?_ rfl
  · intro slot
    simp only [Backlog.replan, queue_modify, List.Sublist.refl]
  · intro slot j hj
    -- the task that is planned anew is in no queue
    have hne : j ≠ id := by
      rintro rfl
      rw [Backlog.replan, queue_modify] at hj
      have hslot := h.tidy.mem_queue_iff.1 hj
      rw [h.tidy.slot_eq_none hstate] at hslot
      cases hslot
    rw [task_replan_of_ne b completedAt hne]

theorem requeue (h : b.Accounted insertions requests defaultPriority latestTime) {id : TaskId}
    (hr : (b.task id).isRecurring = true) (hs : (b.task id).state = .executing) (completedAt : Nat) :
    (b.requeue id completedAt).Accounted (id :: insertions) requests defaultPriority latestTime := by
  have hne : (b.task id).state ≠ .pending := by simp [hs]
  have hlt : id.index < b.nextId := h.tidy.index_lt (by simp [hs])
  have hreplan := h.replan hne hlt completedAt
  -- the backlog just before the task is queued again
  obtain ⟨c, hc⟩ : ∃ c, c = ((b.replan id completedAt).transition id .executing .pending).1 := ⟨_, rfl⟩
  have hrequeue : b.requeue id completedAt = c.place id := by rw [hc, Backlog.requeue]
  have hident (j : TaskId) : (c.task j).identity = (b.task j).identity := by
    rw [hc, identity_transition, identity_replan]
  have hslot : (c.task id).slot = none := by
    rw [hc, slot_transition]
    exact hreplan.tidy.slot_eq_none (by simp [Backlog.replan, task_modify, hs])
  have hnext : c.nextId = b.nextId := by
    rw [hc, nextId_transition]
    rfl
  have horderly : c.Orderly insertions latestTime := by
    refine hreplan.orderly.of_sublist (hc ▸ hreplan.tidy.toKept.transition_of_ne id .pending (by decide)) ?_ ?_
    · intro slot
      simp only [hc, queue_transition, List.Sublist.refl]
    · intro slot j _
      rw [hc, runAt_transition]
  have hplace := horderly.place (hnext ▸ hlt) hslot (Task.isRecurring_eq_of_identity (hident id) ▸ hr)
  have htidy := h.tidy.requeue hs completedAt
  rw [hrequeue] at htidy ⊢
  refine ⟨htidy, hplace.inTurn, hplace.runAt_le, ?_, ?_⟩
  · rw [nextId_place, hnext]
    exact h.nextId_eq
  · intro j r hj
    rw [identity_place, hident]
    exact h.identity_eq j r hj

/-- The end of a run; what is queued again counts as one more insertion. -/
theorem complete (h : b.Accounted insertions requests defaultPriority latestTime) {id : TaskId} (htaken : b.IsTaken id)
    (hid : id.index < b.nextId) (completedAt : Nat) :
    (b.complete id completedAt).1.Accounted
        (if (b.complete id completedAt).2 = .ok true then id :: insertions else insertions) requests defaultPriority
        latestTime ∧ ∀ fault, (b.complete id completedAt).2 ≠ .error fault := by
  have hstate : (b.task id).state ≠ .pending := by
    rcases htaken with hs | ⟨hs, -⟩ <;> simp [hs]
  rcases complete_cases (h.tidy.slot_eq_none hstate) completedAt with ⟨-, hc⟩ | ⟨hr, hs, hc⟩ | ⟨-, -, hc⟩ <;> rw [hc]
  · refine ⟨?_, fun fault => by simp⟩
    rw [if_neg (by simp)]
    refine h.of_sublist (h.tidy.finish id) ?_ ?_ ?_ (nextId_transition ..)
    · intro slot
      simp only [queue_transition, List.Sublist.refl]
    · exact identity_transition b id .executing .done
    · exact fun slot j _ => runAt_transition b id .executing .done j
  · have hrequeue := h.requeue hr hs completedAt
    generalize b.requeue id completedAt = c at hrequeue ⊢
    rw [if_pos rfl]
    exact ⟨hrequeue, fun fault => by simp⟩
  · rw [if_neg (by simp)]
    exact ⟨h.replan hstate hid completedAt, fun fault => by simp⟩

end Accounted

/-- Settling a task means nothing to the others. -/
theorem task_complete_of_ne {b : Backlog} {id j : TaskId} (hslot : (b.task id).slot = none) (hne : j ≠ id)
    (completedAt : Nat) : (b.complete id completedAt).1.task j = b.task j := by
  rcases complete_cases hslot completedAt with ⟨-, hc⟩ | ⟨-, -, hc⟩ | ⟨-, -, hc⟩ <;> rw [hc]
  · rw [task_transition_eq, if_neg fun h => hne h.1]
  · rw [requeue, task_place, if_neg hne, task_transition_eq, if_neg fun h => hne h.1,
      Accounted.task_replan_of_ne b completedAt hne]
  · rw [Accounted.task_replan_of_ne b completedAt hne]

end Backlog

/-- A submission of a valid kind is accepted, at the time at which the clock is held. -/
theorem TickScheduler.accept_of_valid {s : TickScheduler} {r : Request} (h : r.kind.isValid = true) :
    s.accept r.delay r.kind r.options =
      ({ s with
          backlog := s.backlog.enlist s.clock.hold.cached r s.defaultPriority
          clock := s.clock.hold.release }, .ok ⟨s.backlog.nextId⟩) := by
  have hslot : ((s.backlog.enroll s.clock.hold.cached r s.defaultPriority).task ⟨s.backlog.nextId⟩).slot = none := by
    rw [Backlog.Accounted.task_enroll, if_pos rfl, Request.slot_task]
  have hadd : (s.backlog.enroll s.clock.hold.cached r s.defaultPriority).add
      (r.task s.defaultPriority ⟨s.backlog.nextId⟩ s.clock.hold.cached).id =
      .ok (s.backlog.enlist s.clock.hold.cached r s.defaultPriority) := Backlog.add_eq_ok hslot
  unfold Backlog.enroll Request.task at hadd
  simp only [accept, h, ↓reduceIte, Backlog.build, hadd]
  rfl

theorem TickScheduler.submit_of_valid {s : TickScheduler} {r : Request} (h : r.kind.isValid = true) :
    s.submit r.delay r.kind r.options =
      ({ s with
          backlog := s.backlog.enlist s.clock.hold.cached r s.defaultPriority
          clock := s.clock.hold.release }.announce.notify, .ok ⟨s.backlog.nextId⟩) := by
  rw [submit, accept_of_valid h]

end TaskScheduling
