import TaskScheduling.Proofs.Dispatch.Phases
import TaskScheduling.Proofs.Dispatch.Turns
import TaskScheduling.Proofs.Dispatch.UnderWay

/-!
# What a shutdown leaves behind

After a shutdown the dispatcher takes its leave when it has found all queues empty.  It looks at one after the other,
and others may act in between (`Vigil`).  Whatever gets into a queue after the dispatcher has looked at it is left to
others: a submission takes back what it has queued, and whoever has cancelled a task takes it out of its queue.  There
is one exception (`Vigil.Stranded`): a worker that has looked for a shutdown just before one was requested queues its
recurring task again, and nobody takes it out.

Main statement: `Vigil.Reachable.accountsForAll`.
-/

namespace TaskScheduling

open Backlog

/-- Whether the dispatcher has found all queues empty. -/
def Dispatcher.isGoing : Dispatcher → Bool
  | stopping | leaving | exited => true
  | _ => false

theorem Dispatcher.of_isGoing_step {s : PooledScheduler} {d : Dispatcher} (h : (d.step s).2.isGoing = true) :
    d.isGoing = true ∨ d = leaveTaking ∧ s.isShutdown = true ∧ d.step s = (s, stopping) := by
  have hgoes := d.goes_step s
  generalize d.step s = next at h hgoes ⊢
  cases hgoes with
  | leave hshutdown _ => exact .inr ⟨rfl, hshutdown, rfl⟩
  | _ => first | exact .inl rfl | cases h

/-- A system, with the queues that the dispatcher has found empty since it began to take its leave. -/
structure Vigil where
  system : System
  seen : List QueueSlot

namespace Vigil

/-- The dispatcher looks at the queues one after the other, and takes its leave when it has found all of them empty. -/
inductive Step (v : Vigil) : Vigil → Prop where
  | look (slot : QueueSlot) :
      v.system.dispatcher = some .leaveTaking → v.system.scheduler.isShutdown = true →
      v.system.backlog.queue slot = [] → Step v { v with seen := slot :: v.seen }
  | act (s : System) :
      System.Step v.system s →
      (v.system.dispatcher = some .leaveTaking → s.dispatcher = some .stopping →
        ∀ slot, slot ∈ v.seen ∨ v.system.backlog.queue slot = []) →
      Step v ⟨s, if v.system.dispatcher = some .leaveTaking then v.seen else []⟩

inductive Reachable : Vigil → Prop where
  | start (clock : Clock) (maxSize : Nat) (keepAlive : Duration) (factory : ThreadFactory) (router : FailureRouter)
      (sink : Sink) (defaultPriority : Priority) (lowWait : Nat) :
      Reachable ⟨.start clock maxSize keepAlive factory router sink defaultPriority lowWait, []⟩
  | step {v v' : Vigil} : Reachable v → Step v v' → Reachable v'

variable {v v' : Vigil} {slot : QueueSlot} {id : TaskId}

theorem Reachable.system (h : v.Reachable) : v.system.Reachable := by
  induction h with
  | start clock maxSize keepAlive factory router sink defaultPriority lowWait =>
    exact .start clock maxSize keepAlive factory router sink defaultPriority lowWait
  | step _ hstep ih =>
    cases hstep with
    | look _ _ _ _ => exact ih
    | act s hact _ => exact ih.step hact

/-- Whether the dispatcher has found the queue empty and takes its leave, or has taken it. -/
def HasPassed (v : Vigil) (slot : QueueSlot) : Prop :=
  v.system.dispatcher = some .leaveTaking ∧ slot ∈ v.seen ∨ v.system.dispatcher.any Dispatcher.isGoing = true

/-- The dispatcher passes a queue when it is empty. -/
theorem Step.passed_cases (hstep : v.Step v') (hv : v.system.IsRecorded) (h : v'.HasPassed slot) :
    v.HasPassed slot ∨ v'.system.scheduler.isShutdown = true ∧ v'.system.backlog.queue slot = [] := by
  cases hstep with
  | look other hd hshutdown hempty =>
    rcases h with ⟨-, hmem⟩ | hgoing
    · rcases List.mem_cons.1 hmem with rfl | hmem
      · exact .inr ⟨hshutdown, hempty⟩
      · exact .inl (.inl ⟨hd, hmem⟩)
    · exact .inl (.inr hgoing)
  | act s hact hguard =>
    rcases h with ⟨-, hmem⟩ | hgoing
    · left
      dsimp only at hmem
      split at hmem
      · exact .inl ⟨‹_›, hmem⟩
      · cases hmem
    · have hgoing : s.dispatcher.any Dispatcher.isGoing = true := hgoing
      cases hv.concerns hact with
      | tells hsame _ => exact .inl (.inr (hsame ▸ hgoing))
      | starts i _ hnow _ =>
        rw [hnow] at hgoing
        cases hgoing
      | goesOn d now hd =>
        rcases Dispatcher.of_isGoing_step (show (d.step v.system.scheduler).2.isGoing = true from hgoing) with
          hold | ⟨rfl, hshutdown, hnext⟩
        · exact .inl (.inr (by rw [hd]; exact hold))
        · have hstop : (v.system.stepDispatcher .leaveTaking now).dispatcher = some .stopping := by
            simp only [System.stepDispatcher, hnext]
          have hscheduler : (v.system.stepDispatcher .leaveTaking now).scheduler = v.system.scheduler := by
            simp only [System.stepDispatcher, hnext]
          rcases hguard hd hstop slot with hseen | hempty
          · exact .inl (.inl ⟨hd, hseen⟩)
          · exact .inr ⟨by rw [hscheduler]; exact hshutdown, by rw [System.backlog, hscheduler]; exact hempty⟩
      | becomes d d' hd hbecomes =>
        cases hbecomes with
        | leave hshutdown =>
          rcases hguard hd rfl slot with hseen | hempty
          · exact .inl (.inl ⟨hd, hseen⟩)
          · exact .inr ⟨hshutdown, hempty⟩
        | _ => cases hgoing

/-- Whether a worker that had not seen the shutdown was about to queue the task again when it was requested. -/
def Stranded (v : Vigil) (id : TaskId) : Prop :=
  ∃ w w', Reachable w ∧ w.system.scheduler.shutdown = none ∧ w.Step w' ∧ w'.system.scheduler.isShutdown = true ∧
    w.system.Requeues id ∧ Relation.ReflTransGen Step w' v

theorem Stranded.step (h : v.Stranded id) (hstep : v.Step v') : v'.Stranded id := by
  obtain ⟨w, w', hw, hnone, hraise, hshutdown, hrequeues, hrun⟩ := h
  exact ⟨w, w', hw, hnone, hraise, hshutdown, hrequeues, hrun.tail hstep⟩

end Vigil

namespace System

variable {s s' : System} {slot : QueueSlot} {id : TaskId}

/-- Whether somebody is about to take a queued task out of its queue: a submission as long as it waits for its run, and
whoever has cancelled it. -/
structure Reclaims (s : System) (id : TaskId) : Prop where
  recalls : (s.backlog.task id).state = .pending → s.Recalls id
  pursues : (s.backlog.task id).state = .cancelled → s.Pursues id

/-- A queued task waits for its run, unless it has been cancelled. -/
theorem Sound.state_of_slot (hs : s.Sound) (hslot : (s.backlog.task id).slot = some slot) :
    (s.backlog.task id).state = .pending ∨ (s.backlog.task id).state = .cancelled := by
  obtain ⟨l, hl⟩ := hs.located id
  obtain rfl := (hl.finds.slot_eq_iff slot).1 hslot
  exact hl.suits.1

theorem Reclaims.step (h : s.Reclaims id) (hs : s.Sound) (hshutdown : s.scheduler.isShutdown = true)
    (hstep : Step s s') (hslot : (s.backlog.task id).slot = some slot) (hslot' : (s'.backlog.task id).slot = some slot) :
    s'.Reclaims id := by
  have hpursues (hcancelled : (s.backlog.task id).state = .cancelled) : s'.Pursues id := by
    refine ((h.pursues hcancelled).step hs hstep).resolve_right fun hnone => ?_
    rw [hnone] at hslot'
    cases hslot'
  rcases hstep.state_cases hs hslot hslot' with hsame | ⟨hcancelled, hpursued⟩
  · refine ⟨fun hpending => ?_, fun hcancelled => hpursues (hsame ▸ hcancelled)⟩
    exact ((h.recalls (hsame ▸ hpending)).step hshutdown hstep).resolve_right (not_not_intro hpending)
  · refine ⟨fun hpending => ?_, fun _ => (hs.state_of_slot hslot).elim hpursued hpursues⟩
    rw [hcancelled] at hpending
    cases hpending

/-- A submission looks once more for a shutdown after it has queued its task. -/
theorem Sound.reclaims_stepClient (hs : s.Sound) {i : Nat} {r : Request} {t : Task}
    (hclient : s.clients i = .submitting r (.inserting t)) : (s.stepClient i).Reclaims t.id := by
  constructor
  · intro _
    exact ⟨i, by rw [clients_stepClient_self, hs.step_of_inserting hclient]; rfl⟩
  · intro hcancelled
    rw [hs.task_of_inserting hclient] at hcancelled
    cases (hs.isNew i t (by rw [hclient]; rfl)).state_eq.symm.trans hcancelled

end System

/-- Whether a submission is in progress. -/
def Client.isSubmitting : Client → Bool
  | submitting _ (.ended _) => false
  | submitting _ _ => true
  | _ => false

theorem Client.recalled?_eq_none {c : Client} (h : c.isSubmitting = false) : c.recalled? = none := by
  cases c with
  | submitting r m =>
    cases m with
    | ended result => rfl
    | _ => cases h
  | _ => rfl

theorem Client.of_pursued? {c : Client} (h : c.isSubmitting = false) {id : TaskId} (hc : c.pursued? = some id) :
    c = cancelling id .unlinking := by
  cases c with
  | submitting r m =>
    cases m with
    | ended result => cases hc
    | _ => cases h
  | cancelling j c =>
    cases c with
    | unlinking => rw [Option.some.inj hc]
    | _ => cases hc
  | _ => cases hc

/-- Of those who make no submission, only a shutdown has tasks in its hands, which it is about to cancel. -/
theorem Client.of_held {c : Client} (h : c.isSubmitting = false) {stage : Stage} {id : TaskId}
    (hmem : id ∈ c.held stage) : ∃ scope d, c = shutting (.clearing scope d) ∧ id ∈ d.drained := by
  cases c with
  | submitting r m =>
    cases m with
    | ended result => cases hmem
    | _ => cases h
  | shutting m =>
    cases m with
    | clearing scope d =>
      refine ⟨scope, d, rfl, ?_⟩
      simp only [held, Shutdown.held, Holding.only] at hmem
      split at hmem
      · exact hmem
      · cases hmem
    | _ => cases hmem
  | _ => cases hmem

namespace System

variable {s : System}

theorem Reachable.eq_exited (h : s.Reachable) (hsize : s.pool.size = 0) {k : Nat} {x : WorkerThread}
    (ht : s.threads k = some x) : x = .acting .exited := by
  by_contra hne
  have hreg := ((h.isStaffed k).isRegistered_iff x ht).2 hne
  rw [h.isRegistered_eq_false hsize k] at hreg
  cases hreg

/-- A scheduler terminates when the dispatcher and the workers have gone. -/
structure HasEnded (s : System) : Prop where
  dispatcher_eq : s.dispatcher = none ∨ s.dispatcher = some .exited
  threads_eq (k : Nat) (x : WorkerThread) : s.threads k = some x → x = .acting .exited
  task?_eq (k : Nat) : s.pool.task? k = none

theorem Reachable.hasEnded (h : s.Reachable) (hterminated : s.scheduler.isTerminated = true) : s.HasEnded := by
  simp only [PooledScheduler.isTerminated, Pool.isTerminated, Bool.and_eq_true, Bool.not_eq_true', beq_iff_eq]
    at hterminated
  obtain ⟨⟨-, hrunning⟩, -, hsize⟩ := hterminated
  refine ⟨?_, fun k x ht => h.eq_exited hsize ht, fun k => ?_⟩
  · rw [h.isRecorded.running_eq] at hrunning
    cases hd : s.dispatcher with
    | none => exact .inl rfl
    | some d =>
      rw [hd] at hrunning
      exact .inr (congrArg some (by simpa using hrunning))
  · exact Pool.task?_eq_none_of_not_isRegistered (h.isRegistered_eq_false hsize k)

/-- When all have gone, only a client may have a task in hand. -/
theorem HasEnded.exists_client (h : s.HasEnded) {who : Party} {stage : Stage} {id : TaskId}
    (hmem : id ∈ s.held who stage) : ∃ i, id ∈ (s.clients i).held stage := by
  cases who with
  | client i => exact ⟨i, hmem⟩
  | dispatcher => rcases h.dispatcher_eq with hd | hd <;> simp only [held, hd] at hmem <;> cases hmem
  | worker k =>
    rw [held, h.task?_eq k, Option.toList_none, Holding.only_nil] at hmem
    cases hmem
  | thread k =>
    cases ht : s.threads k with
    | none =>
      simp only [held, ht] at hmem
      cases hmem
    | some x =>
      obtain rfl := h.threads_eq k x ht
      simp only [held, ht] at hmem
      cases hmem

end System

namespace Vigil

variable {v v' : Vigil} {slot : QueueSlot} {id : TaskId}

/-- What is known about the queues that the dispatcher has passed: whatever gets into them is taken out by somebody, or
is stranded. -/
structure Guarded (v : Vigil) : Prop where
  isShutdown (slot : QueueSlot) : v.HasPassed slot → v.system.scheduler.isShutdown = true
  stranded (id : TaskId) : v.system.scheduler.isShutdown = true → v.system.Requeues id → v.Stranded id
  reclaimed (slot : QueueSlot) (id : TaskId) :
    v.HasPassed slot → id ∈ v.system.backlog.queue slot → v.Stranded id ∨ v.system.Reclaims id

namespace Guarded

/-- What a step of the system does about a task in a queue that has been passed. -/
private theorem reclaimed_act (h : v.Guarded) (hv : v.Reachable) {s : System} (hact : System.Step v.system s)
    (hpassed : v.HasPassed slot) (hmem : id ∈ s.backlog.queue slot) : v.Stranded id ∨ s.Reclaims id := by
  have hsound := hv.system.sound
  have hshutdown := h.isShutdown slot hpassed
  have hslot := (hv.system.step hact).sound.kept.mem_queue_iff.1 hmem
  rcases hact.slot_cases hsound id with hsame | hqueues | ⟨hnone, -⟩
  · -- the task has been there before
    have hwas : (v.system.backlog.task id).slot = some slot := hsame ▸ hslot
    exact (h.reclaimed slot id hpassed (hsound.kept.mem_queue_iff.2 hwas)).imp_right fun hreclaims =>
      hreclaims.step hsound hshutdown hact hwas hslot
  · cases hqueues with
    | submission i r t hclient ht => exact .inr (ht ▸ hsound.reclaims_stepClient hclient)
    | completion k completedAt name hk => exact .inl (h.stranded id hshutdown (System.Queues.requeues hk))
    | dispatcher now hd =>
      -- the dispatcher has nothing in its hands when it takes its leave
      rcases hpassed with ⟨hleaving, -⟩ | hgoing
      · cases hd.symm.trans hleaving
      · rw [hd] at hgoing
        cases hgoing
  · rw [hnone] at hslot
    cases hslot

theorem step (h : v.Guarded) (hv : v.Reachable) (hstep : v.Step v') : v'.Guarded where
  isShutdown slot hpassed := by
    rcases hstep.passed_cases hv.system.isRecorded hpassed with hold | ⟨hshutdown, -⟩
    · have hwas := h.isShutdown slot hold
      cases hstep with
      | look _ _ _ _ => exact hwas
      | act s hact _ => exact hact.isShutdown hwas
    · exact hshutdown
  stranded id hshutdown hrequeues := by
    have hwas : v.system.Requeues id := by
      cases hstep with
      | look _ _ _ _ => exact hrequeues
      | act s hact _ => exact hrequeues.of_step hv.system.sound hact hshutdown
    cases hraised : v.system.scheduler.shutdown with
    | none => exact ⟨v, v', hv, hraised, hstep, hshutdown, hwas, .refl⟩
    | some mode => exact (h.stranded id (by rw [PooledScheduler.isShutdown, hraised]; rfl) hwas).step hstep
  reclaimed slot id hpassed hmem := by
    rcases hstep.passed_cases hv.system.isRecorded hpassed with hold | ⟨-, hempty⟩
    · cases hstep with
      | look other hd hshutdown hempty =>
        exact (h.reclaimed slot id hold hmem).imp_left fun hstranded =>
          hstranded.step (.look other hd hshutdown hempty)
      | act s hact hguard =>
        exact (h.reclaimed_act hv hact hold hmem).imp_left fun hstranded => hstranded.step (.act s hact hguard)
    · rw [hempty] at hmem
      cases hmem

end Guarded

theorem Reachable.guarded (h : v.Reachable) : v.Guarded := by
  induction h with
  | start clock maxSize keepAlive factory router sink defaultPriority lowWait =>
    have hnone (slot : QueueSlot) (hpassed : HasPassed ⟨.start clock maxSize keepAlive factory router sink defaultPriority
        lowWait, []⟩ slot) : False := by
      rcases hpassed with ⟨hd, -⟩ | hgoing
      · cases hd
      · cases hgoing
    exact ⟨fun slot hpassed => (hnone slot hpassed).elim, fun _ hshutdown => absurd hshutdown Bool.false_ne_true,
      fun slot id hpassed => (hnone slot hpassed).elim⟩
  | step hv hstep ih => exact ih.step hv hstep

/-- What is still queued when all have gone. -/
private theorem Reachable.queued_cases (h : v.Reachable) (hended : v.system.HasEnded)
    (hclients : ∀ i, (v.system.clients i).isSubmitting = false) (hslot : (v.system.backlog.task id).slot = some slot) :
    v.Stranded id ∨
      (v.system.backlog.task id).state = .cancelled ∧ ∃ i, v.system.clients i = .cancelling id .unlinking := by
  have hsound := h.system.sound
  rcases hended.dispatcher_eq with hd | hd
  · rw [(h.system.isUnstarted hd).task_eq id] at hslot
    cases hslot
  · have hpassed : v.HasPassed slot := .inr (by rw [hd]; rfl)
    refine (h.guarded.reclaimed slot id hpassed (hsound.kept.mem_queue_iff.2 hslot)).imp_right fun hreclaims => ?_
    rcases hsound.state_of_slot hslot with hpending | hcancelled
    · obtain ⟨i, hi⟩ := hreclaims.recalls hpending
      rw [Client.recalled?_eq_none (hclients i)] at hi
      cases hi
    · rcases hreclaims.pursues hcancelled with ⟨i, hi⟩ | ⟨k, completedAt, hk⟩
      · exact ⟨hcancelled, i, Client.of_pursued? (hclients i) hi⟩
      · cases hended.threads_eq k _ hk

/-- What a scheduler that has terminated leaves behind, when no submission is in progress: in its queues there are only
tasks that a worker was about to queue again when the shutdown was requested, and tasks that somebody who has cancelled
them is about to take out.  All others are done or cancelled, or a shutdown has drained them and is about to cancel
them. -/
theorem Reachable.accountsForAll (h : v.Reachable) (hterminated : v.system.scheduler.isTerminated = true)
    (hclients : ∀ i, (v.system.clients i).isSubmitting = false) :
    (∀ id ∈ v.system.backlog.queued, v.Stranded id ∨
      (v.system.backlog.task id).state = .cancelled ∧ ∃ i, v.system.clients i = .cancelling id .unlinking) ∧
    ∀ id, (v.system.backlog.task id).state = .done ∨ (v.system.backlog.task id).state = .cancelled ∨
      (∃ i scope c, v.system.clients i = .shutting (.clearing scope c) ∧ id ∈ c.drained) ∨
      id ∈ v.system.backlog.queued ∧ v.Stranded id := by
  have hsound := h.system.sound
  have hended := h.system.hasEnded hterminated
  refine ⟨fun id hmem => ?_, fun id => ?_⟩
  · obtain ⟨slot, hslot⟩ := Option.isSome_iff_exists.1 (hsound.kept.mem_queued_iff.1 hmem)
    exact h.queued_cases hended hclients hslot
  · obtain ⟨l, hl⟩ := hsound.located id
    match l, hl with
    | none, hl => exact hl.suits.1.imp_right .inl
    | some (.queue slot), hl =>
      have hslot := (hl.finds.slot_eq_iff slot).2 rfl
      have hmem : id ∈ v.system.backlog.queued := hsound.kept.mem_queued_iff.2 (by rw [hslot]; rfl)
      rcases h.queued_cases hended hclients hslot with hstranded | ⟨hcancelled, -⟩
      · exact .inr (.inr (.inr ⟨hmem, hstranded⟩))
      · exact .inr (.inl hcancelled)
    | some (.held who stage), hl =>
      have hcount := hl.finds.count_held who stage
      rw [if_pos rfl] at hcount
      obtain ⟨i, hi⟩ := hended.exists_client (List.count_pos_iff.1 (hcount ▸ Nat.one_pos))
      obtain ⟨scope, c, hclient, hdrained⟩ := Client.of_held (hclients i) hi
      exact .inr (.inr (.inl ⟨i, scope, c, hclient, hdrained⟩))

theorem Reachable.followed (h : v.Reachable) (turns : List Turn) : ∃ seen, Reachable ⟨v.system.follow turns, seen⟩ := by
  induction turns generalizing v with
  | nil => exact ⟨v.seen, h⟩
  | cons turn turns ih =>
    rcases v.system.takeTurn_cases turn with hsame | ⟨hstep, hleave⟩
    · simpa only [System.follow, List.foldl_cons, hsame] using ih h
    · exact ih (h.step (.act _ hstep fun hd hd' slot => .inr (queue_eq_nil_of_isEmpty (hleave hd hd') slot)))

/-- A worker has just seen that there is no shutdown, and is to queue its task again.  A shutdown is requested, the
dispatcher finds the queues empty and leaves, and the worker goes on and leaves as well. -/
private def strandingTurns : List Turn := List.flatten
  [.submit 0 ⟨.zero, .recurring (.ofMillis 10) .fixedRate, none, none⟩ :: .replicate 8 (.client 0),
    .replicate 12 .dispatcher, .replicate 5 (.worker 0), .shutDown 1 .discardPending :: .replicate 12 (.client 1),
    .replicate 40 .dispatcher, .replicate 12 (.worker 0)]

private def stranding : System :=
  (System.start (.start (.manual 0)) 1 .zero (.plain "w") .bare .empty .high 0).follow strandingTurns

private theorem isSubmitting_stranding (i : Nat) : (stranding.clients i).isSubmitting = false := by
  match i with
  | 0 => decide +kernel
  | 1 => decide +kernel
  | i + 2 =>
    have hothers : strandingTurns.all (fun turn => turn.client?.all (· < 2)) = true := by decide +kernel
    rw [stranding, System.clients_follow_of_le hothers (Nat.le_add_left 2 i)]
    rfl

/-- The scheduler has terminated, and the task is still queued and pending. -/
theorem accountsForAll_stranding : ∃ v : Vigil, v.Reachable ∧ v.system.scheduler.isTerminated = true ∧
    (∀ i, (v.system.clients i).isSubmitting = false) ∧ v.system.backlog.queued = [⟨0⟩] ∧
    (v.system.backlog.task ⟨0⟩).state = .pending ∧ v.Stranded ⟨0⟩ := by
  obtain ⟨v, hreachable, hv⟩ : ∃ v : Vigil, v.Reachable ∧ v.system = stranding := by
    obtain ⟨seen, hseen⟩ :=
      (Reachable.start (.start (.manual 0)) 1 .zero (.plain "w") .bare .empty .high 0).followed strandingTurns
    exact ⟨⟨stranding, seen⟩, hseen, by dsimp only⟩
  have hterminated : v.system.scheduler.isTerminated = true := by rw [hv]; decide +kernel
  have hclients (i : Nat) : (v.system.clients i).isSubmitting = false := by rw [hv]; exact isSubmitting_stranding i
  have hqueued : v.system.backlog.queued = [⟨0⟩] := by rw [hv]; decide +kernel
  have hpending : (v.system.backlog.task ⟨0⟩).state = .pending := by rw [hv]; decide +kernel
  refine ⟨v, hreachable, hterminated, hclients, hqueued, hpending, ?_⟩
  rcases (hreachable.accountsForAll hterminated hclients).1 ⟨0⟩ (by simp [hqueued]) with hstranded | ⟨hcancelled, -⟩
  · exact hstranded
  · rw [hpending] at hcancelled
    cases hcancelled

end Vigil

end TaskScheduling
