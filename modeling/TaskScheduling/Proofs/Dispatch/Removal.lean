import TaskScheduling.Proofs.Dispatch.Stranding

/-!
# Cancelled tasks leave their queues

A task may be cancelled while it is in nobody's queue but about to get into one.  Whoever queues it again after its run
looks at it once more and takes it out; the dispatcher, when it puts back what no worker took, does not
(`System.Lingers`).

Main statement: `System.Reachable.unqueues`.
-/

namespace TaskScheduling

open Backlog Relation

namespace System

/-- Why a task that has been cancelled may be in a queue. -/
inductive Lingers (s : System) (id : TaskId) : Prop where
  /-- Somebody is about to take it out. -/
  | pursued : s.Pursues id → Lingers s id
  /-- Somebody has just queued it after its run, and is about to look at it once more. -/
  | rechecked (k completedAt : Nat) :
      s.threads k = some (.executing id (.completing completedAt .rechecking)) → Lingers s id
  /-- The dispatcher has put it back when it was cancelled already. -/
  | putBack (w : System) (now : Nat) :
      w.Reachable → w.dispatcher = some (.reinserting id) → (w.backlog.task id).state = .cancelled →
      ReflTransGen Step (w.stepDispatcher (.reinserting id) now) s → Lingers s id

variable {s s' : System} {slot : QueueSlot} {id : TaskId}

/-- Nobody gives up before a cancelled task has left its queue. -/
theorem Lingers.step (h : s.Lingers id) (hs : s.Sound) (hstate : (s.backlog.task id).state = .cancelled)
    (hstep : Step s s') : s'.Lingers id ∨ (s'.backlog.task id).slot = none := by
  cases h with
  | pursued hpursues => exact (hpursues.step hs hstep).imp_left .pursued
  | rechecked k completedAt ht =>
    rcases hstep.thread_cases hs.staffed ht with hstill | ⟨phase, hphase, -⟩ | ⟨j, e, hexecuting, hmoves⟩
    · exact .inl (.rechecked k completedAt hstill)
    · cases hphase
    · cases hexecuting
      rcases hmoves with hrunning | ⟨name, rfl⟩
      · cases hrunning
      -- it sees that the task has been cancelled
      · refine .inl (.pursued (.inr ⟨k, completedAt, ?_⟩))
        have hnext : ((Execution.completing completedAt .rechecking).step s.scheduler id name).2 =
            .completing completedAt .withdrawing := by
          simp only [Execution.step, Completion.step]
          rw [if_pos (show (s.scheduler.backlog.task id).state = .cancelled from hstate)]
        have hself := Function.update_self k
          (some (WorkerThread.ofExecution id ((Execution.completing completedAt .rechecking).step s.scheduler id name).2))
          s.threads
        rw [hnext] at hself
        simp only [stepExecution, hnext]
        exact hself
  | putBack w now hw hd hcancelled hrun => exact .inl (.putBack w now hw hd hcancelled (hrun.tail hstep))

/-- Whoever queues a task that has been cancelled takes it out again, except for the dispatcher. -/
theorem Queues.lingers (h : s.Queues id s') (hreachable : s.Reachable)
    (hstate : (s'.backlog.task id).state = .cancelled) : s'.Lingers id := by
  have hs := hreachable.sound
  have hnone := h.slot_eq_none hs
  cases h with
  | submission i r t hclient ht =>
    subst ht
    exact .pursued ((hs.reclaims_stepClient hclient).pursues hstate)
  | completion k completedAt name ht =>
    refine .rechecked k completedAt ?_
    have hnext : ((Execution.completing completedAt .inserting).step s.scheduler id name).2 =
        .completing completedAt .rechecking := by
      simp only [Execution.step, Completion.step]
      rw [add_eq_ok (show (s.scheduler.backlog.task id).slot = none from hnone)]
    simp only [stepExecution, hnext]
    exact Function.update_self ..
  | dispatcher now hd =>
    have hwas : (s.backlog.task id).state = .cancelled := by
      have hnext : (s.stepDispatcher (.reinserting id) now).backlog = s.backlog.place id := by
        simp only [System.stepDispatcher, Dispatcher.step, backlog]
        rw [add_eq_ok (show (s.scheduler.backlog.task id).slot = none from hnone)]
      rwa [hnext, state_place] at hstate
    exact .putBack s now hreachable hd hwas .refl

/-- A queued task that has been cancelled is about to leave its queue, unless the dispatcher has put it back. -/
theorem Reachable.lingers (h : s.Reachable) (hstate : (s.backlog.task id).state = .cancelled)
    (hslot : (s.backlog.task id).slot = some slot) : s.Lingers id := by
  induction h generalizing slot with
  | start => cases hslot
  | @step w w' hw hstep ih =>
    have hsound := hw.sound
    rcases hstep.slot_cases hsound id with hsame | hqueues | ⟨hnone, -⟩
    · have hwas : (w.backlog.task id).slot = some slot := hsame ▸ hslot
      rcases hstep.state_cases hsound hwas hslot with hkept | ⟨-, hpursued⟩
      · have hcancelled := hkept ▸ hstate
        refine ((ih hcancelled hwas).step hsound hcancelled hstep).resolve_right fun hnone => ?_
        rw [hnone] at hslot
        cases hslot
      -- it has been cancelled in its queue, in this step or before
      · rcases hsound.state_of_slot hwas with hpending | hcancelled
        · exact .pursued (hpursued hpending)
        · refine ((ih hcancelled hwas).step hsound hcancelled hstep).resolve_right fun hnone => ?_
          rw [hnone] at hslot
          cases hslot
    · exact hqueues.lingers hw hstate
    · rw [hnone] at hslot
      cases hslot

/-- A task that has been cancelled is in no queue, except while somebody is about to take it out, and except for one that
the dispatcher has put back. -/
theorem Reachable.unqueues (h : s.Reachable) (hstate : (s.backlog.task id).state = .cancelled) :
    ((s.backlog.task id).slot = none ∧ ∀ slot, id ∉ s.backlog.queue slot) ∨ s.Lingers id := by
  cases hslot : (s.backlog.task id).slot with
  | none =>
    refine .inl ⟨rfl, fun slot hmem => ?_⟩
    rw [h.sound.kept.mem_queue_iff, hslot] at hmem
    cases hmem
  | some slot => exact .inr (h.lingers hstate hslot)

/-! ### A task that is cancelled just before it is put back -/

/-- A worker that has been told to leave is reserved for a task, and leaves before it is given it.  While the dispatcher
takes the task back, a client cancels it. -/
private def lingeringTurns : List Turn := List.flatten
  [.submit 0 ⟨.zero, .oneTime, none, none⟩ :: .replicate 8 (.client 0), .replicate 11 .dispatcher,
    .submit 0 ⟨.zero, .oneTime, none, none⟩ :: .replicate 8 (.client 0), .replicate 30 .dispatcher,
    .replicate 20 (.worker 1), .setMaxPoolSize 1 :: .submit 0 ⟨.zero, .oneTime, none, none⟩ :: .replicate 8 (.client 0),
    .replicate 8 .dispatcher, .replicate 5 (.worker 1), .replicate 2 .dispatcher,
    .cancel 1 ⟨2⟩ :: .replicate 4 (.client 1), [.dispatcher]]

private def lingering : System :=
  (System.start (.start (.manual 0)) 2 (.ofMillis 1000) (.plain "w") .bare .empty .high 0).follow lingeringTurns

private theorem reachable_lingering : lingering.Reachable :=
  (Reachable.start (.start (.manual 0)) 2 (.ofMillis 1000) (.plain "w") .bare .empty .high 0).follow lingeringTurns

private theorem isFree_lingering (i : Nat) : (lingering.clients i).isFree = true := by
  match i with
  | 0 => decide +kernel
  | 1 => decide +kernel
  | i + 2 =>
    have hothers : lingeringTurns.all (fun turn => turn.client?.all (· < 2)) = true := by decide +kernel
    rw [lingering, clients_follow_of_le hothers (Nat.le_add_left 2 i)]
    rfl

private theorem not_executing_lingering (k : Nat) (id : TaskId) (e : Execution) :
    lingering.threads k ≠ some (.executing id e) := by
  intro hk
  have hlt : k < lingering.pool.nextId := (reachable_lingering.isStaffed k).lt_nextId (.inr (by rw [hk]; rfl))
  rw [show lingering.pool.nextId = 2 by decide +kernel] at hlt
  have hthreads : lingering.threads 0 = some (.acting (.fetching 0)) ∧ lingering.threads 1 = some (.acting .exited) := by
    decide +kernel
  obtain rfl | rfl : k = 0 ∨ k = 1 := by omega
  · cases hthreads.1.symm.trans hk
  · cases hthreads.2.symm.trans hk

/-- Nobody is in the middle of anything that concerns the cancelled task, and yet it is queued. -/
theorem unqueues_putBack : lingering.Reachable ∧ (lingering.backlog.task ⟨2⟩).state = .cancelled ∧
    lingering.backlog.queued = [⟨2⟩] ∧ (∀ i, (lingering.clients i).isFree = true) ∧
    (∀ k id e, lingering.threads k ≠ some (.executing id e)) ∧ lingering.dispatcher = some .checking ∧
    ∃ (w : System) (now : Nat), w.Reachable ∧ w.dispatcher = some (.reinserting ⟨2⟩) ∧ (w.backlog.task ⟨2⟩).state = .cancelled ∧
      ReflTransGen Step (w.stepDispatcher (.reinserting ⟨2⟩) now) lingering := by
  have hstate : (lingering.backlog.task ⟨2⟩).state = .cancelled := by decide +kernel
  have hslot : (lingering.backlog.task ⟨2⟩).slot ≠ none := by decide +kernel
  refine ⟨reachable_lingering, hstate, by decide +kernel, isFree_lingering, not_executing_lingering, by decide +kernel, ?_⟩
  rcases reachable_lingering.unqueues hstate with ⟨hnone, -⟩ | hlingers
  · exact absurd hnone hslot
  · cases hlingers with
    | pursued hpursues =>
      rcases hpursues with ⟨i, hclient⟩ | ⟨k, completedAt, hk⟩
      · rw [(Client.of_isFree (isFree_lingering i)).2] at hclient
        cases hclient
      · exact absurd hk (not_executing_lingering k _ _)
    | rechecked k completedAt hk => exact absurd hk (not_executing_lingering k _ _)
    | putBack w now hw hd hcancelled hrun => exact ⟨w, now, hw, hd, hcancelled, hrun⟩

end System

end TaskScheduling
