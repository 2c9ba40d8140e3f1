import Mathlib.Data.List.Basic
import Mathlib.Logic.Function.Basic
import Mathlib.Logic.Relation
import TaskScheduling.Proofs.Backlog.Queues
import TaskScheduling.Queue.Completion

/-!
# Contests for the tasks of a backlog

Any number of actors work on one backlog: some cancel tasks, one by one or in bulk, others take tasks out of their
queues, claim them, run them and settle them, or put them back.  Each takes single steps, between which others take
theirs; `Contest.Step` is one of them, and `Contest.Reachable` says that a contest has come about by such steps.  What
the actors have done is written down.

Main statement: each step of an actor affects a task in one of six ways (`Actor.Acts.affects`).
-/

namespace TaskScheduling

/-- What tells how far a task has got: whether it recurs, its state, and how often it has run. -/
def Task.status (t : Task) : Bool × TaskState × Nat := (t.isRecurring, t.state, t.runs)

theorem Task.status_eq_iff {t : Task} {recurring : Bool} {state : TaskState} {runs : Nat} :
    t.status = (recurring, state, runs) ↔ t.isRecurring = recurring ∧ t.state = state ∧ t.runs = runs := by
  simp only [status, Prod.mk.injEq]

namespace Backlog

theorem status_transition (b : Backlog) (id : TaskId) (source target : TaskState) (j : TaskId) :
    ((b.transition id source target).1.task j).status =
      if j = id ∧ (b.task id).state = source then ((b.task j).isRecurring, target, (b.task j).runs)
      else (b.task j).status := by
  rw [task_transition_eq]
  split <;> rfl

theorem status_remove (b : Backlog) (id j : TaskId) : ((b.remove id).1.task j).status = (b.task j).status := by
  by_cases hnamed : ∃ slot, (b.task id).slot = some slot ∧ id ∈ b.queue slot
  · obtain ⟨slot, hslot, hmem⟩ := hnamed
    rw [remove_eq_unlink hslot hmem, task_unlink]
    split <;> rfl
  · rw [remove_eq_self fun slot hslot hmem => hnamed ⟨slot, hslot, hmem⟩]

theorem status_takeOut (b : Backlog) (scope : Scope) (slot : QueueSlot) (j : TaskId) :
    ((b.takeOut scope slot).2.task j).status = (b.task j).status := by
  rw [task_takeOut]
  split <;> rfl

/-- Whoever queues a task changes nothing else about it. -/
theorem status_add {b c : Backlog} {id : TaskId} (h : b.add id = .ok c) (j : TaskId) :
    (c.task j).status = (b.task j).status := by
  obtain ⟨-, rfl⟩ := eq_place_of_add h
  rw [task_place]
  split <;> rfl

theorem status_popDue {b c : Backlog} {now : Nat} {id : TaskId} (h : b.popDue now = some (id, c)) (j : TaskId) :
    (c.task j).status = (b.task j).status := by
  rw [popDue_eq] at h
  obtain ⟨p, -, hp⟩ := List.exists_of_findSome?_eq_some h
  simp only [Option.map_eq_some_iff, Prod.exists, QueueSet.popDue] at hp
  obtain ⟨i, s, tasks, hpop, heq⟩ := hp
  split at hpop
  · cases hpop
  · next k hk =>
    split at hpop
    · next s' tasks' hremove =>
      cases hpop
      cases heq
      -- a task is taken out of a queue by wiping its note
      have htasks : tasks = b.tasks.setSlot id none := by
        unfold QueueSet.remove at hremove
        split at hremove
        · cases hremove
        · split at hremove <;> cases hremove
          rfl
      rw [task_withQueueSet, htasks, Table.setSlot, Table.get_modify]
      split <;> rfl
    · cases hpop

end Backlog

/-- What somebody is in the middle of. -/
inductive Actor where
  | idle
  | cancelling (id : TaskId) (c : Cancellation)
  | clearing (scope : Scope) (c : Clearance)
  /-- The task has left its queue, and is about to be claimed. -/
  | claiming (id : TaskId)
  /-- The task is claimed, and its run has not begun. -/
  | holding (id : TaskId)
  /-- Nobody was there to run the task; it is pending again, and about to be queued. -/
  | restoring (id : TaskId)
  | running (id : TaskId)
  /-- The task has run, and its further runs are about to be cancelled. -/
  | dropping (id : TaskId)
  | settling (id : TaskId) (completedAt : Nat) (c : Completion)
  deriving DecidableEq

/-- What is written down. -/
inductive Deed where
  /-- A cancellation has answered. -/
  | answered (id : TaskId) (claimed : Bool)
  /-- A bulk cancellation has answered. -/
  | cleared (claimed : List TaskId)
  /-- The further runs of a task have been cancelled after its run. -/
  | dropped (id : TaskId)
  /-- A task has been claimed for a run. -/
  | begun (id : TaskId)
  /-- The action of a task has been started. -/
  | invoked (id : TaskId)
  deriving DecidableEq

/-- The tasks that somebody has cancelled, and says so. -/
def Deed.claims : Deed → List TaskId
  | answered id claimed => if claimed then [id] else []
  | cleared claimed => claimed
  | dropped id => [id]
  | _ => []

namespace Actor

/-- The task that is claimed for a run. -/
def active? : Actor → Option TaskId
  | holding id => some id
  | running id => some id
  | dropping id => some id
  | settling id _ .settling => some id
  | settling id _ .returning => some id
  | _ => none

/-- The tasks that have been cancelled, in a call that has not answered yet. -/
def claims : Actor → List TaskId
  | cancelling id .unlinking => [id]
  | cancelling id (.ended true) => [id]
  | clearing _ (.marking _ claimed) => claimed
  | clearing _ (.ended claimed) => claimed
  | _ => []

/-- What one step makes of an actor and of the backlog, and what is written down then. -/
inductive Acts (b : Backlog) : Actor → Actor → Backlog → List Deed → Prop where
  | call (id : TaskId) : Acts b idle (cancelling id .looking) b []
  | callAll (scope : Scope) : Acts b idle (clearing scope (.begin scope)) b []
  | cancel (id : TaskId) (c : Cancellation) : (∀ claimed, c ≠ .ended claimed) →
      Acts b (cancelling id c) (cancelling id (c.step b id).2) (c.step b id).1 []
  | answer (id : TaskId) (claimed : Bool) : Acts b (cancelling id (.ended claimed)) idle b [.answered id claimed]
  | clear (scope : Scope) (c : Clearance) : (∀ claimed, c ≠ .ended claimed) →
      Acts b (clearing scope c) (clearing scope (c.step scope b).2) (c.step scope b).1 []
  | answerAll (scope : Scope) (claimed : List TaskId) :
      Acts b (clearing scope (.ended claimed)) idle b [.cleared claimed]
  /-- The dispatcher takes out what it has picked before. -/
  | take (id : TaskId) (b' : Backlog) : b.remove id = (b', true) → Acts b idle (claiming id) b' []
  /-- A tick takes out what is due. -/
  | pop (now : Nat) (id : TaskId) (b' : Backlog) : b.popDue now = some (id, b') → Acts b idle (claiming id) b' []
  | begin (id : TaskId) (b' : Backlog) : b.begin id = (b', true) → Acts b (claiming id) (holding id) b' [.begun id]
  | miss (id : TaskId) (b' : Backlog) : b.begin id = (b', false) → Acts b (claiming id) idle b' []
  | restore (id : TaskId) (b' : Backlog) : b.transition id .executing .pending = (b', true) →
      Acts b (holding id) (restoring id) b' []
  | letGo (id : TaskId) (b' : Backlog) : b.transition id .executing .pending = (b', false) →
      Acts b (holding id) idle b' []
  | reinsert (id : TaskId) (b' : Backlog) : b.add id = .ok b' → Acts b (restoring id) idle b' []
  | refuse (id : TaskId) (fault : Fault) : b.add id = .error fault → Acts b (restoring id) idle b []
  | invoke (id : TaskId) : Acts b (holding id) (running id) (b.modify id Task.countRun) [.invoked id]
  | doom (id : TaskId) : (b.task id).isRecurring = true → Acts b (running id) (dropping id) b []
  | drop (id : TaskId) (b' : Backlog) : b.transition id .executing .cancelled = (b', true) →
      Acts b (dropping id) idle b' [.dropped id]
  | dropLate (id : TaskId) (b' : Backlog) : b.transition id .executing .cancelled = (b', false) →
      Acts b (dropping id) idle b' []
  | settle (id : TaskId) (completedAt : Nat) : Acts b (running id) (settling id completedAt .settling) b []
  | complete (id : TaskId) (completedAt : Nat) (c : Completion) :
      Acts b (settling id completedAt c) (settling id completedAt (c.step b id completedAt).2)
        (c.step b id completedAt).1 []
  | leave (id : TaskId) (completedAt : Nat) (requeued : Bool) :
      Acts b (settling id completedAt (.ended requeued)) idle b []
  | fail (id : TaskId) (completedAt : Nat) (fault : Fault) : Acts b (settling id completedAt (.faulted fault)) idle b []

/-- What an actor has found out about its task and relies on. -/
def Knows (b : Backlog) : Actor → Prop
  | cancelling id (.claiming seen) => seen = .pending ∨ seen = .executing ∧ (b.task id).isRecurring = true
  | dropping id => (b.task id).isRecurring = true
  | settling id _ .returning => (b.task id).isRecurring = true
  | _ => True

/-- What a step of one actor does to a task. -/
inductive Affects (b : Backlog) (a : Actor) (id : TaskId) (a' : Actor) (b' : Backlog) (ds : List Deed) : Prop where
  | spares : (b'.task id).status = (b.task id).status → (a'.active? = some id → a.active? = some id) →
      (a' = holding id → a = holding id) →
      a'.claims.count id + (ds.flatMap Deed.claims).count id = a.claims.count id → Deed.begun id ∉ ds →
      Deed.invoked id ∉ ds → Affects b a id a' b' ds
  | cancels : ((b.task id).state = .pending ∨ (b.task id).state = .executing ∧ (b.task id).isRecurring = true) →
      (b'.task id).status = ((b.task id).isRecurring, .cancelled, (b.task id).runs) →
      (a'.active? = some id → a.active? = some id) → (a' = holding id → a = holding id) →
      a'.claims.count id + (ds.flatMap Deed.claims).count id = a.claims.count id + 1 → Deed.begun id ∉ ds →
      Deed.invoked id ∉ ds → Affects b a id a' b' ds
  | begins : (b.task id).state = .pending →
      (b'.task id).status = ((b.task id).isRecurring, .executing, (b.task id).runs) →
      a = claiming id → a' = holding id → ds = [.begun id] → Affects b a id a' b' ds
  | invokes : (b'.task id).status = ((b.task id).isRecurring, (b.task id).state, (b.task id).runs + 1) →
      a = holding id → a' = running id → ds = [.invoked id] → Affects b a id a' b' ds
  | returns : (b.task id).state = .executing →
      (b'.task id).status = ((b.task id).isRecurring, .pending, (b.task id).runs) → a.active? = some id → a'.active? = none →
      (a = holding id ∨ (b.task id).isRecurring = true) → a.claims = [] → a'.claims = [] → ds = [] →
      Affects b a id a' b' ds
  | finishes : (b.task id).state = .executing →
      (b'.task id).status = ((b.task id).isRecurring, .done, (b.task id).runs) → a.active? = some id →
      a'.active? = none → a.claims = [] → a'.claims = [] → ds = [] → Affects b a id a' b' ds

variable {b b' : Backlog} {a a' : Actor} {ds : List Deed} {id : TaskId}

/-- Nothing is done to the task, and nothing is found out that concerns it. -/
private theorem Affects.of_same (hstatus : (b'.task id).status = (b.task id).status)
    (hactive : a'.active? = none ∨ a'.active? = a.active? ∧ (a' = holding id → a = holding id))
    (hclaims : a'.claims.count id + (ds.flatMap Deed.claims).count id = a.claims.count id)
    (hds : Deed.begun id ∉ ds ∧ Deed.invoked id ∉ ds) : Affects b a id a' b' ds := by
  refine .spares hstatus (fun hid => ?_) (fun hid => ?_) hclaims hds.1 hds.2
  · rcases hactive with hnone | ⟨hsame, -⟩
    · rw [hnone] at hid
      cases hid
    · rwa [← hsame]
  · rcases hactive with hnone | ⟨-, hholding⟩
    · rw [hid] at hnone
      cases hnone
    · exact hholding hid

private theorem affects_cancel {c : Cancellation} (hc : ∀ claimed, c ≠ .ended claimed)
    (hknows : (cancelling id c).Knows b) (j : TaskId) :
    Affects b (cancelling id c) j (cancelling id (c.step b id).2) (c.step b id).1 [] := by
  cases c with
  | looking =>
    refine .of_same rfl (.inl rfl) ?_ (by simp)
    simp only [Cancellation.step, Cancellation.look]
    cases (b.task id).state <;> cases (b.task id).isRecurring <;> rfl
  | claiming seen =>
    have hmoved := b.transition_snd id seen .cancelled
    have hstatus := b.status_transition id seen .cancelled j
    simp only [Cancellation.step]
    rcases htransition : b.transition id seen .cancelled with ⟨b', _ | _⟩ <;>
      rw [htransition] at hmoved hstatus
    · have hne : (b.task id).state ≠ seen := of_decide_eq_false hmoved.symm
      rw [if_neg fun h => hne h.2] at hstatus
      exact .of_same hstatus (.inl rfl) rfl (by simp)
    · have heq : (b.task id).state = seen := of_decide_eq_true hmoved.symm
      have hclaims : (cancelling id (if seen = .pending then .unlinking else .ended true)).claims = [id] := by
        split <;> rfl
      by_cases hj : j = id
      · subst hj
        rw [if_pos ⟨rfl, heq⟩] at hstatus
        refine .cancels ?_ hstatus (by rintro ⟨⟩) (by rintro ⟨⟩) ?_ List.not_mem_nil List.not_mem_nil
        · rw [heq]
          exact hknows
        · change List.count j (cancelling j _).claims + 0 = 0 + 1
          simp only [hclaims, List.count_singleton_self]
      · rw [if_neg fun h => hj h.1] at hstatus
        refine .of_same hstatus (.inl rfl) ?_ (by simp)
        change List.count j (cancelling id _).claims + 0 = 0
        simp only [hclaims, List.count_singleton, beq_iff_eq, if_neg (Ne.symm hj)]
  | unlinking => exact .of_same (b.status_remove id j) (.inl rfl) rfl (by simp)
  | ended claimed => exact absurd rfl (hc claimed)

private theorem affects_clear {scope : Scope} {c : Clearance} (hc : ∀ claimed, c ≠ .ended claimed) (j : TaskId) :
    Affects b (clearing scope c) j (clearing scope (c.step scope b).2) (c.step scope b).1 [] := by
  cases c with
  | draining left drained =>
    cases left with
    | nil => exact .of_same rfl (.inl rfl) rfl (by simp)
    | cons slot left => exact .of_same (b.status_takeOut scope slot j) (.inl rfl) rfl (by simp)
  | marking left claimed =>
    cases left with
    | nil => exact .of_same rfl (.inl rfl) rfl (by simp)
    | cons id left =>
      have hmoved := b.transition_snd id .pending .cancelled
      have hstatus := b.status_transition id .pending .cancelled j
      simp only [Clearance.step]
      rcases htransition : b.transition id .pending .cancelled with ⟨b', _ | _⟩ <;>
        rw [htransition] at hmoved hstatus
      · have hne : (b.task id).state ≠ .pending := of_decide_eq_false hmoved.symm
        rw [if_neg fun h => hne h.2] at hstatus
        exact .of_same hstatus (.inl rfl) rfl (by simp)
      · have heq : (b.task id).state = .pending := of_decide_eq_true hmoved.symm
        by_cases hj : j = id
        · subst hj
          rw [if_pos ⟨rfl, heq⟩] at hstatus
          refine .cancels (.inl heq) hstatus (by rintro ⟨⟩) (by rintro ⟨⟩) ?_ List.not_mem_nil List.not_mem_nil
          simp [claims]
        · rw [if_neg fun h => hj h.1] at hstatus
          refine .of_same hstatus (.inl rfl) ?_ (by simp)
          simp [claims, Ne.symm hj]
  | ended claimed => exact absurd rfl (hc claimed)

private theorem affects_complete {completedAt : Nat} {c : Completion} (hknows : (settling id completedAt c).Knows b)
    (j : TaskId) : Affects b (settling id completedAt c) j (settling id completedAt (c.step b id completedAt).2)
      (c.step b id completedAt).1 [] := by
  cases c with
  | settling =>
    cases hr : (b.task id).isRecurring with
    | true =>
      simp only [Completion.step, hr, ↓reduceIte]
      refine .of_same ?_ (.inr ⟨rfl, by simp⟩) rfl (by simp)
      rw [Backlog.task_modify]
      split <;> rfl
    | false =>
      have hstatus := b.status_transition id .executing .done j
      simp only [Completion.step, hr, Bool.false_eq_true, ↓reduceIte]
      split at hstatus
      · next h =>
        obtain ⟨rfl, hstate⟩ := h
        exact .finishes hstate hstatus rfl rfl rfl rfl rfl
      · exact .of_same hstatus (.inl rfl) rfl (by simp)
  | returning =>
    have hmoved := b.transition_snd id .executing .pending
    have hstatus := b.status_transition id .executing .pending j
    simp only [Completion.step]
    rcases htransition : b.transition id .executing .pending with ⟨b', _ | _⟩ <;>
      rw [htransition] at hmoved hstatus
    · have hne : (b.task id).state ≠ .executing := of_decide_eq_false hmoved.symm
      rw [if_neg fun h => hne h.2] at hstatus
      exact .of_same hstatus (.inl rfl) rfl (by simp)
    · split at hstatus
      · next h =>
        obtain ⟨rfl, hstate⟩ := h
        exact .returns hstate hstatus rfl rfl (.inr hknows) rfl rfl rfl
      · exact .of_same hstatus (.inl rfl) rfl (by simp)
  | inserting =>
    simp only [Completion.step]
    rcases hadd : b.add id with fault | c
    · exact .of_same rfl (.inl rfl) rfl (by simp)
    · exact .of_same (Backlog.status_add hadd j) (.inl rfl) rfl (by simp)
  | rechecking =>
    refine .of_same rfl (.inl ?_) rfl (by simp)
    simp only [Completion.step]
    split <;> rfl
  | withdrawing => exact .of_same (b.status_remove id j) (.inl rfl) rfl (by simp)
  | ended requeued => exact .of_same rfl (.inl rfl) rfl (by simp)
  | faulted fault => exact .of_same rfl (.inl rfl) rfl (by simp)

/-- Every step of an actor affects each task in one of six ways. -/
theorem Acts.affects (h : Acts b a a' b' ds) (hknows : a.Knows b) (j : TaskId) : Affects b a j a' b' ds := by
  cases h with
  | call id => exact .of_same rfl (.inl rfl) rfl (by simp)
  | callAll scope => exact .of_same rfl (.inl rfl) rfl (by simp)
  | cancel id c hc => exact affects_cancel hc hknows j
  | answer id claimed => cases claimed <;> exact .of_same rfl (.inl rfl) (by simp [claims, Deed.claims]) (by simp)
  | clear scope c hc => exact affects_clear hc j
  | answerAll scope claimed => exact .of_same rfl (.inl rfl) (by simp [claims, Deed.claims]) (by simp)
  | take id b' hremove =>
    have hstatus := b.status_remove id j
    rw [hremove] at hstatus
    exact .of_same hstatus (.inl rfl) rfl (by simp)
  | pop now id b' hpop => exact .of_same (Backlog.status_popDue hpop j) (.inl rfl) rfl (by simp)
  | begin id b' hbegin =>
    obtain ⟨hstate, rfl⟩ := Backlog.transition_eq_true hbegin
    have hstatus := b.status_transition id .pending .executing j
    by_cases hj : j = id
    · subst hj
      rw [if_pos ⟨rfl, hstate⟩] at hstatus
      exact .begins hstate hstatus rfl rfl rfl
    · rw [if_neg fun h => hj h.1] at hstatus
      refine .spares hstatus ?_ ?_ rfl ?_ ?_ <;> simp [active?, hj, Ne.symm hj]
  | miss id b' hbegin =>
    obtain ⟨-, rfl⟩ := Backlog.transition_eq_false hbegin
    exact .of_same rfl (.inl rfl) rfl (by simp)
  | restore id b' hmoved =>
    obtain ⟨hstate, rfl⟩ := Backlog.transition_eq_true hmoved
    have hstatus := b.status_transition id .executing .pending j
    by_cases hj : j = id
    · subst hj
      rw [if_pos ⟨rfl, hstate⟩] at hstatus
      exact .returns hstate hstatus rfl rfl (.inl rfl) rfl rfl rfl
    · rw [if_neg fun h => hj h.1] at hstatus
      exact .of_same hstatus (.inl rfl) rfl (by simp)
  | letGo id b' hmoved =>
    obtain ⟨-, rfl⟩ := Backlog.transition_eq_false hmoved
    exact .of_same rfl (.inl rfl) rfl (by simp)
  | reinsert id b' hadd => exact .of_same (Backlog.status_add hadd j) (.inl rfl) rfl (by simp)
  | refuse id fault _ => exact .of_same rfl (.inl rfl) rfl (by simp)
  | invoke id =>
    by_cases hj : j = id
    · subst hj
      refine .invokes ?_ rfl rfl rfl
      rw [Backlog.task_modify, if_pos rfl]
      rfl
    · refine .spares ?_ (fun h => absurd (Option.some.inj h).symm hj) (by simp) rfl (by simp) (by simp [hj])
      rw [Backlog.task_modify, if_neg hj]
  | doom id _ => exact .of_same rfl (.inr ⟨rfl, by simp⟩) rfl (by simp)
  | drop id b' hmoved =>
    obtain ⟨hstate, rfl⟩ := Backlog.transition_eq_true hmoved
    have hstatus := b.status_transition id .executing .cancelled j
    by_cases hj : j = id
    · subst hj
      rw [if_pos ⟨rfl, hstate⟩] at hstatus
      refine .cancels (.inr ⟨hstate, hknows⟩) hstatus (by rintro ⟨⟩) (by rintro ⟨⟩) ?_ (by simp) (by simp)
      simp [claims, Deed.claims]
    · rw [if_neg fun h => hj h.1] at hstatus
      refine .of_same hstatus (.inl rfl) ?_ (by simp)
      simp [claims, Deed.claims, Ne.symm hj]
  | dropLate id b' hmoved =>
    obtain ⟨-, rfl⟩ := Backlog.transition_eq_false hmoved
    exact .of_same rfl (.inl rfl) rfl (by simp)
  | settle id completedAt => exact .of_same rfl (.inr ⟨rfl, by simp⟩) rfl (by simp)
  | complete id completedAt c => exact affects_complete hknows j
  | leave id completedAt requeued => exact .of_same rfl (.inl rfl) rfl (by simp)
  | fail id completedAt fault => exact .of_same rfl (.inl rfl) rfl (by simp)

end Actor

/-- A backlog with everybody who works on it. -/
structure Contest (α : Type) where
  backlog : Backlog
  actors : α → Actor
  /-- The tasks that have been entered. -/
  entered : List TaskId
  /-- What has been written down, the last deed first. -/
  deeds : List Deed

namespace Contest

variable {α : Type} [DecidableEq α]

/-- Nobody has done anything yet. -/
def start : Contest α := ⟨.empty, fun _ => .idle, [], []⟩

/-- An actor has got on. -/
def act (c : Contest α) (x : α) (a : Actor) (b : Backlog) (ds : List Deed) : Contest α :=
  { c with backlog := b, actors := Function.update c.actors x a, deeds := ds ++ c.deeds }

/-- One actor passes the task that it has claimed on to another. -/
def pass (c : Contest α) (x y : α) (id : TaskId) : Contest α :=
  { c with actors := Function.update (Function.update c.actors x .idle) y (.holding id) }

inductive Step (c : Contest α) : Contest α → Prop where
  | act (x : α) (a : Actor) (b : Backlog) (ds : List Deed) :
      (c.actors x).Acts c.backlog a b ds → Step c (c.act x a b ds)
  | pass (x y : α) (id : TaskId) :
      c.actors x = .holding id → c.actors y = .idle → Step c (c.pass x y id)
  /-- A number for a new task is drawn. -/
  | number : Step c { c with backlog := { c.backlog with nextId := c.backlog.nextId + 1 } }
  /-- A new task is entered and queued. -/
  | enter (t : Task) (b : Backlog) : t.id ∉ c.entered → t.state = .pending → t.runs = 0 →
      (c.backlog.enter t).add t.id = .ok b → Step c { c with backlog := b, entered := t.id :: c.entered }

inductive Reachable : Contest α → Prop where
  | start : Reachable start
  | step {c c' : Contest α} : Reachable c → Step c c' → Reachable c'

theorem Reachable.run {c c' : Contest α} (h : c.Reachable) (hrun : Relation.ReflTransGen Step c c') : c'.Reachable := by
  induction hrun with
  | refl => exact h
  | tail _ hstep ih => exact ih.step hstep

/-- The tasks that have been cancelled, in calls that have answered. -/
def claims (c : Contest α) : List TaskId := c.deeds.flatMap Deed.claims

end Contest

end TaskScheduling
