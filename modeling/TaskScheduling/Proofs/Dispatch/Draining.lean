import TaskScheduling.Proofs.Dispatch.Phases
import TaskScheduling.Proofs.Dispatch.Queueing
import TaskScheduling.Proofs.Dispatch.Signals
import TaskScheduling.Proofs.Dispatch.Turns

/-!
# Dispatchers that sleep on after a shutdown

Once a shutdown has been requested, the dispatcher leaves if it finds the queues empty.  It looks at them once a round,
and goes to sleep if there is nothing to do yet.  While it sleeps, a shutdown may empty the queues, which wakes it.  But
so may whoever takes a cancelled task out of its queue, and nobody wakes the dispatcher then (`System.Overlooked`): it
sleeps until the time at which the task would have been due.

Main statement: `System.Reachable.dozes`.
-/

namespace TaskScheduling

/-- Whether the dispatcher has looked whether the queues are empty, and may come to sleep before it looks again. -/
def Dispatcher.hasLooked : Dispatcher → Bool
  | picking | acquiring _ _ _ | consulting _ _ _ | registering _ | spawning _ _ | parked _ _ => true
  | _ => false

/-- Whether a shutdown has been requested by this call, which has yet to tell the dispatcher. -/
def Shutdown.isUnderWay : Shutdown → Bool
  | clearing _ _ | counting _ | waking _ => true
  | _ => false

/-- The dispatcher comes to where it may sleep from the look that it takes at the queues. -/
theorem Dispatcher.of_hasLooked_step {s : PooledScheduler} {d : Dispatcher} (h : (d.step s).2.hasLooked = true) :
    d.hasLooked = true ∨ (s.isShutdown && s.backlog.isEmpty) = false ∧ (d.step s).1 = s := by
  have hgoes := d.goes_step s
  generalize d.step s = next at h hgoes ⊢
  cases hgoes with
  | stay hfound => exact .inr ⟨hfound, rfl⟩
  | _ => first | exact .inl rfl | cases h

namespace System

variable {s s' : System}

/-- The dispatcher may be asleep, or about to fall asleep, with no wake-up that it has not used. -/
structure Dozes (s : System) : Prop where
  hasLooked : s.dispatcher.any Dispatcher.hasLooked = true
  woken_eq : s.scheduler.dispatcher.woken = false

/-- Whether a shutdown is about to wake the dispatcher. -/
def IsShuttingDown (s : System) : Prop := ∃ i m, s.clients i = .shutting m ∧ m.isUnderWay = true

/-- Whether somebody has taken the last task out of the queues, since it was cancelled, while the dispatcher dozed. -/
def Overlooked (s : System) : Prop :=
  ∃ t t' id, Reachable t ∧ t.scheduler.isShutdown = true ∧ t.Dozes ∧ t.Withdraws id t' ∧ id ∈ t.backlog.queued ∧
    t'.backlog.queued = [] ∧ t'.Dozes ∧ Relation.ReflTransGen (fun a b => Step a b ∧ b.Dozes) t' s

/-- The last step of a shutdown wakes the dispatcher. -/
theorem Reachable.woken_waking (h : Reachable s) (hd : s.dispatcher.isSome = true) {i : Nat} {discarded : List TaskId}
    (hclient : s.clients i = .shutting (.waking discarded)) :
    (s.stepClient i).scheduler.dispatcher.woken = true := by
  have hthread := h.isRecorded.thread_isSome.trans hd
  have hscheduler : (s.stepClient i).scheduler = s.scheduler.passOnShutdown := by
    simp only [System.stepClient, hclient, Client.step, Shutdown.step]
  rw [hscheduler, PooledScheduler.passOnShutdown, if_pos hthread]
  exact PooledScheduler.woken_wakeDispatcher hthread

namespace Dozes

theorem isSome_dispatcher (h : s.Dozes) : s.dispatcher.isSome = true := by
  have hlooked := h.hasLooked
  cases hd : s.dispatcher with
  | some d => rfl
  | none =>
    rw [hd] at hlooked
    cases hlooked

/-- A dispatcher that dozes has dozed before, or it has just found something in the queues. -/
theorem of_step (h : s'.Dozes) (hs : Reachable s) (hstep : Step s s') :
    s.Dozes ∨ (s.scheduler.isShutdown && s.backlog.isEmpty) = false ∧ s'.scheduler = s.scheduler := by
  have hlooked := h.hasLooked
  cases hs.isRecorded.concerns hstep with
  | tells hsame htells => exact .inl ⟨hsame ▸ hlooked, htells.woken_eq_false h.woken_eq⟩
  | starts i _ hnow _ =>
    rw [hnow] at hlooked
    cases hlooked
  | goesOn d now hd =>
    have hnext : (d.step s.scheduler).2.hasLooked = true := hlooked
    rcases Dispatcher.of_hasLooked_step hnext with hold | ⟨hfound, hsame⟩
    · left
      refine ⟨by rw [hd]; exact hold, ?_⟩
      rcases d.record_step s.scheduler with hsame | ⟨-, -, -, hchecking⟩ | ⟨rfl, -, -⟩
      · exact (congrArg DispatcherRecord.woken hsame).symm.trans h.woken_eq
      · rw [hchecking] at hnext
        cases hnext
      · cases hold
    · exact .inr ⟨hfound, hsame⟩
  | becomes d d' hd hbecomes =>
    left
    refine ⟨?_, h.woken_eq⟩
    rw [hd]
    cases hbecomes with
    | pick _ _ _ => rfl
    | miss _ => rfl
    | leave _ => cases hlooked
    | rouse _ _ => cases hlooked

end Dozes

/-- A shutdown goes on until it wakes the dispatcher. -/
theorem IsShuttingDown.step (h : s.IsShuttingDown) (hs : Reachable s) (hd : s.dispatcher.isSome = true)
    (hstep : Step s s') (hwoken : s'.scheduler.dispatcher.woken = false) : s'.IsShuttingDown := by
  obtain ⟨i, m, hclient, hm⟩ := h
  rcases hstep.client_cases i with hsame | hfree | rfl
  · exact ⟨i, m, hsame.trans hclient, hm⟩
  · rw [hclient] at hfree
    cases m <;> cases hm <;> cases hfree
  · have hself : (s.stepClient i).clients i = .shutting (m.step s.scheduler).2 := by
      rw [clients_stepClient_self, hclient, Client.step]
    cases m with
    | clearing scope c => cases c <;> exact ⟨i, _, hself, rfl⟩
    | counting discarded => exact ⟨i, _, hself, rfl⟩
    | waking discarded =>
      rw [hs.woken_waking hd hclient] at hwoken
      cases hwoken
    | raising mode => cases hm
    | ended discarded => cases hm

/-- Whoever raises the flag goes on with the shutdown. -/
private theorem Step.isShuttingDown_of_raised (hstep : Step s s') (h : s.scheduler.shutdown = none)
    (h' : s'.scheduler.isShutdown = true) : s'.IsShuttingDown := by
  rcases hstep.shutdown_cases with hsame | ⟨i, mode, hclient, rfl⟩
  · rw [PooledScheduler.isShutdown, hsame, h] at h'
    cases h'
  · refine ⟨i, .clearing mode.scope (.begin mode.scope), ?_, rfl⟩
    rw [clients_stepClient_self, hclient, Client.step, Shutdown.step]

/-- The queues are emptied by a shutdown, or by somebody who takes a cancelled task away, while the dispatcher dozes. -/
private theorem Step.emptied_cases (hstep : Step s s') (hs : Reachable s) (h : s.Dozes) {id : TaskId}
    (hmem : id ∈ s.backlog.queued) (hempty : s'.backlog.queued = []) : s.Withdraws id s' ∨ s'.IsShuttingDown := by
  have hslot := hs.sound.kept.mem_queued_iff.1 hmem
  have hlooked := h.hasLooked
  have hgone : (s'.backlog.task id).slot = none := by
    have hout : id ∉ s'.backlog.queued := by simp [hempty]
    rwa [(hs.step hstep).sound.kept.mem_queued_iff, Option.not_isSome_iff_eq_none] at hout
  rcases hstep.slot_cases hs.sound id with hsame | hqueues | ⟨-, hwithdraws | htakes⟩
  · rw [← hsame, hgone] at hslot
    cases hslot
  · rw [hqueues.slot_eq_none hs.sound] at hslot
    cases hslot
  · exact .inl hwithdraws
  · right
    cases htakes with
    | client i hclient =>
      obtain ⟨scope, slot, left, drained, hclient⟩ := hclient
      have hself : (s.stepClient i).clients i = .shutting ((Shutdown.clearing scope
          (.draining (slot :: left) drained)).step s.scheduler).2 := by
        rw [clients_stepClient_self, hclient, Client.step]
      exact ⟨i, _, hself, rfl⟩
    | sweep scope slot left drained now hd =>
      rw [hd] at hlooked
      cases hlooked
    | dispatch id k now hd =>
      rw [hd] at hlooked
      cases hlooked

theorem Reachable.isShuttingDown_or_overlooked (h : Reachable s) (hshutdown : s.scheduler.isShutdown = true)
    (hdozes : s.Dozes) (hempty : s.backlog.queued = []) : s.IsShuttingDown ∨ s.Overlooked := by
  induction h with
  | start clock maxSize keepAlive factory router sink defaultPriority lowWait => cases hdozes.hasLooked
  | @step t t' ht hstep ih =>
    rcases hdozes.of_step ht hstep with hold | ⟨hfound, hsame⟩
    · cases hraised : t.scheduler.shutdown with
      | none => exact .inl (hstep.isShuttingDown_of_raised hraised hshutdown)
      | some mode =>
        have hwas : t.scheduler.isShutdown = true := by rw [PooledScheduler.isShutdown, hraised]; rfl
        by_cases hqueued : t.backlog.queued = []
        · rcases ih hwas hold hqueued with hunder | ⟨r, r', id, hr, hrs, hrd, hwithdraws, hmem, hlast, hrd', hrun⟩
          · exact .inl (hunder.step ht hold.isSome_dispatcher hstep hdozes.woken_eq)
          · exact .inr ⟨r, r', id, hr, hrs, hrd, hwithdraws, hmem, hlast, hrd', hrun.tail ⟨hstep, hdozes⟩⟩
        · obtain ⟨id, hmem⟩ := List.exists_mem_of_ne_nil _ hqueued
          rcases hstep.emptied_cases ht hold hmem hempty with hwithdraws | hunder
          · exact .inr ⟨t, t', id, ht, hwas, hold, hwithdraws, hmem, hempty, hdozes, .refl⟩
          · exact .inl hunder
    · -- the dispatcher has just found something in the queues
      rw [← hsame, show t.backlog.isEmpty = t'.backlog.isEmpty from congrArg (·.backlog.isEmpty) hsame.symm] at hfound
      rw [hshutdown, Backlog.isEmpty_iff.2 hempty] at hfound
      cases hfound

/-- Whoever takes a cancelled task out of its queue tells the dispatcher nothing. -/
theorem Dozes.of_withdraws (h : s.Dozes) {id : TaskId} (hwithdraws : s.Withdraws id s') : s'.Dozes := by
  cases hwithdraws with
  | client i hpursued =>
    have hrecord : ((s.clients i).step s.scheduler).1.dispatcher = s.scheduler.dispatcher := by
      generalize s.clients i = c at hpursued
      cases c with
      | submitting r m =>
        cases m with
        | withdrawing j c => cases c <;> rfl
        | _ => cases hpursued
      | cancelling j c => cases c <;> first | rfl | cases hpursued
      | _ => cases hpursued
    have hdispatcher : (s.stepClient i).dispatcher = s.dispatcher := by
      obtain ⟨d, hd⟩ := Option.isSome_iff_exists.1 h.isSome_dispatcher
      rw [dispatcher_stepClient hd, hd]
    exact ⟨hdispatcher ▸ h.hasLooked, (congrArg DispatcherRecord.woken hrecord).trans h.woken_eq⟩
  | completion k completedAt name _ => exact ⟨h.hasLooked, h.woken_eq⟩

/-- After a shutdown has been requested, the dispatcher dozes on empty queues only while a shutdown is about to wake it,
or since somebody has taken the last task out of them after it was cancelled: a shutdown wakes the dispatcher, but
nobody who withdraws a task does.  Until it wakes, the scheduler has not terminated. -/
theorem Reachable.dozes (h : Reachable s) (hshutdown : s.scheduler.isShutdown = true) (hdozes : s.Dozes) :
    (s.backlog.queued = [] → s.IsShuttingDown ∨ s.Overlooked) ∧
    (∀ i discarded, s.clients i = .shutting (.waking discarded) →
      (s.stepClient i).scheduler.dispatcher.woken = true) ∧
    (∀ id s', s.Withdraws id s' → s'.Dozes) ∧ s.scheduler.isTerminated = false := by
  refine ⟨h.isShuttingDown_or_overlooked hshutdown hdozes,
    fun i discarded => h.woken_waking hdozes.isSome_dispatcher, fun id s' => hdozes.of_withdraws, ?_⟩
  obtain ⟨d, hd⟩ := Option.isSome_iff_exists.1 hdozes.isSome_dispatcher
  have hlooked := hdozes.hasLooked
  have hrunning : s.scheduler.dispatcher.running = true := by
    rw [h.isRecorded.running_eq, hd]
    rw [hd] at hlooked
    simp only [Option.any_some, decide_eq_true_eq]
    rintro rfl
    cases hlooked
  simp only [PooledScheduler.isTerminated, hrunning, Bool.not_true, Bool.and_false, Bool.false_and]

/-- A task is to run after an hour.  A shutdown lets it wait and has ended, the dispatcher has gone to sleep, and somebody
who has cancelled the task is about to withdraw it. -/
private def drowsing : System :=
  (start (.start (.manual 0)) 1 .zero (.plain "w") .bare .empty .high 0).follow <| List.flatten
    [.submit 0 ⟨.ofMillis 3600000, .oneTime, none, none⟩ :: .replicate 7 (.client 0),
      .shutDown 1 .drainPending :: .replicate 10 (.client 1), .replicate 40 .dispatcher,
      [.cancel 2 ⟨0⟩, .client 2, .client 2]]

/-- Nobody tells the dispatcher that the queues are empty now, and it sleeps on for the hour. -/
theorem dozes_drowsing : Reachable drowsing ∧ drowsing.scheduler.isShutdown = true ∧
    (drowsing.clients 1).isFree = true ∧ drowsing.dispatcher = some (.parked (some 3600000) .nothingDue) ∧
    drowsing.Withdraws ⟨0⟩ (drowsing.stepClient 2) ∧ (drowsing.stepClient 2).backlog.queued = [] ∧
    (drowsing.stepClient 2).Dozes := by
  have hreachable : Reachable drowsing :=
    (Reachable.start (.start (.manual 0)) 1 .zero (.plain "w") .bare .empty .high 0).follow _
  have hshutdown : drowsing.scheduler.isShutdown = true := by decide +kernel
  have hdozes : drowsing.Dozes := ⟨by decide +kernel, by decide +kernel⟩
  have hwithdraws : drowsing.Withdraws ⟨0⟩ (drowsing.stepClient 2) := .client 2 (by decide +kernel)
  exact ⟨hreachable, hshutdown, by decide +kernel, by decide +kernel, hwithdraws, by decide +kernel,
    (hreachable.dozes hshutdown hdozes).2.2.1 ⟨0⟩ _ hwithdraws⟩

end System

end TaskScheduling
