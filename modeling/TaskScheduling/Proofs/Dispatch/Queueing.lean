import TaskScheduling.Proofs.Dispatch.Conservation

/-!
# Who moves a task into a queue or out of it

`Task.Fate` says what a single step may do to a task, and the theorems called `fate_step` that the steps of each party
do so.  For a system that means: a task gets into a queue only by its submission, by its completion or by the
dispatcher that puts it back (`System.Queues`), and out of it only by whoever withdraws it after it was cancelled
(`System.Withdraws`), by a shutdown or by the dispatcher (`System.TakesOut`).  While it stays in its queue, it is only
cancelled, and then somebody is about to withdraw it.

Main statements: `System.Step.slot_cases` and `System.Step.state_cases`.
-/

namespace TaskScheduling

open Backlog

/-- What a step does to a task `t`: nothing; or somebody who has it in hand changes it; or it gets into a queue, out of
one, or is cancelled by somebody who takes it out of its queue then. -/
inductive Task.Fate (enters leaves pursued inHand : Prop) (t : Task) : Task → Prop where
  | same : Fate enters leaves pursued inHand t t
  | inHand (u : Task) : inHand → u.slot = t.slot → Fate enters leaves pursued inHand t u
  | enters (u : Task) : enters → Fate enters leaves pursued inHand t u
  | leaves : leaves → Fate enters leaves pursued inHand t { t with slot := none }
  | cancelled : (t.state = .pending → pursued) → Fate enters leaves pursued inHand t { t with state := .cancelled }

theorem Task.Fate.mono {enters leaves pursued inHand enters' leaves' pursued' inHand' : Prop} {t u : Task}
    (h : Fate enters leaves pursued inHand t u) (he : enters → enters') (hl : leaves → leaves')
    (hp : pursued → pursued') (hh : inHand → inHand') : Fate enters' leaves' pursued' inHand' t u := by
  cases h with
  | same => exact .same
  | inHand u hin hslot => exact .inHand u (hh hin) hslot
  | enters u hin => exact .enters u (he hin)
  | leaves hout => exact .leaves (hl hout)
  | cancelled hstate => exact .cancelled fun hpending => hp (hstate hpending)

/-! ### Single steps of a backlog -/

namespace Backlog

variable {b c : Backlog} {id : TaskId}

theorem fate_remove (hb : b.Kept) (id j : TaskId) :
    Task.Fate False (j = id) False False (b.task j) ((b.remove id).1.task j) := by
  cases hslot : (b.task id).slot with
  | none =>
    rw [remove_of_slot_none hslot]
    exact .same
  | some slot =>
    rw [remove_eq_unlink hslot (hb.mem_queue_iff.2 hslot)]
    dsimp only
    rw [task_unlink]
    split
    · exact .leaves ‹_›
    · exact .same

/-- A change of state, by somebody who has the task in hand. -/
theorem fate_transition (b : Backlog) (id : TaskId) (source target : TaskState) (j : TaskId) :
    Task.Fate False False False (j = id) (b.task j) ((b.transition id source target).1.task j) := by
  rw [task_transition_eq]
  split
  · next hj => exact .inHand _ hj.1 rfl
  · exact .same

end Backlog

/-! ### Steps of a party -/

theorem Cancellation.fate_step {b : Backlog} (hb : b.Kept) (id : TaskId) (c : Cancellation) (j : TaskId) :
    Task.Fate False (j = id ∧ c = .unlinking) (j = id ∧ (c.step b id).2 = .unlinking) False (b.task j)
      ((c.step b id).1.task j) := by
  cases c with
  | claiming seen =>
    rw [step_claiming_fst, task_transition_eq]
    split
    · next hj =>
      obtain ⟨rfl, hstate⟩ := hj
      refine .cancelled fun hpending => ⟨rfl, ?_⟩
      simp only [step]
      rw [transition_of_state hstate]
      exact if_pos (hstate.symm.trans hpending)
    · exact .same
  | unlinking => exact (fate_remove hb id j).mono False.elim (fun hj => ⟨hj, rfl⟩) False.elim False.elim
  | _ => exact .same

theorem Clearance.fate_step (b : Backlog) (scope : Scope) (c : Clearance) (j : TaskId) :
    Task.Fate False (∃ slot left drained, c = .draining (slot :: left) drained) False (j ∈ c.drained) (b.task j)
      ((c.step scope b).1.task j) := by
  cases c with
  | draining left drained =>
    cases left with
    | nil => exact .same
    | cons slot left =>
      simp only [step]
      rw [task_takeOut]
      split
      · exact .leaves ⟨slot, left, drained, rfl⟩
      · exact .same
  | marking left claimed =>
    cases left with
    | nil => exact .same
    | cons id left =>
      rw [step_marking_fst]
      exact (fate_transition b id .pending .cancelled j).mono False.elim False.elim False.elim fun hj => by
        simp [drained, hj]
  | ended claimed => exact .same

theorem Completion.fate_step {b : Backlog} (hb : b.Kept) (id : TaskId) (completedAt : Nat) (c : Completion)
    (j : TaskId) :
    Task.Fate (j = id ∧ c = .inserting) (j = id ∧ c = .withdrawing) False (∃ stage, j ∈ c.held id stage) (b.task j)
      ((c.step b id completedAt).1.task j) := by
  have hmem {stage : Stage} (hj : j = id) : j ∈ Holding.only stage [id] stage := by simp [Holding.only, hj]
  cases c with
  | settling =>
    simp only [step]
    split
    · rw [task_modify]
      split
      · next hj => exact .inHand _ ⟨.started, hmem hj⟩ rfl
      · exact .same
    · exact (fate_transition b id .executing .done j).mono False.elim False.elim False.elim fun hj =>
        ⟨.started, hmem hj⟩
  | returning =>
    have hfst : (returning.step b id completedAt).1 = (b.transition id .executing .pending).1 := by
      simp only [step]
      rcases b.transition id .executing .pending with ⟨c, _ | _⟩ <;> rfl
    rw [hfst]
    exact (fate_transition b id .executing .pending j).mono False.elim False.elim False.elim fun hj =>
      ⟨.planned, hmem hj⟩
  | inserting =>
    simp only [step]
    rcases hadd : b.add id with fault | c
    · exact .same
    · obtain ⟨-, rfl⟩ := eq_place_of_add hadd
      dsimp only
      rw [task_place]
      split
      · next hj => exact .enters _ (by simp [hj])
      · exact .same
  | withdrawing => exact (fate_remove hb id j).mono False.elim (fun hj => ⟨hj, rfl⟩) False.elim False.elim
  | _ => exact .same

theorem Execution.fate_step {s : PooledScheduler} (hb : s.backlog.Kept) (id : TaskId) (thread : Option String)
    (e : Execution) (j : TaskId) :
    Task.Fate (∃ completedAt, j = id ∧ e = .completing completedAt .inserting)
      (∃ completedAt, j = id ∧ e = .completing completedAt .withdrawing) False (∃ stage, j ∈ e.held id stage)
      (s.backlog.task j) ((e.step s id thread).1.backlog.task j) := by
  have hmem {stage : Stage} (hj : j = id) : j ∈ Holding.only stage [id] stage := by simp [Holding.only, hj]
  cases e with
  | starting =>
    have htask : ((starting.step s id thread).1.backlog.task j) = (s.backlog.modify id Task.countRun).task j := rfl
    rw [htask, task_modify]
    split
    · next hj => exact .inHand _ ⟨.claimed, hmem hj⟩ rfl
    · exact .same
  | dropping =>
    have hfst : (dropping.step s id thread).1.backlog = (s.backlog.transition id .executing .cancelled).1 := by
      simp only [step]
      rcases s.backlog.transition id .executing .cancelled with ⟨c, _ | _⟩ <;> rfl
    rw [hfst]
    exact (fate_transition s.backlog id .executing .cancelled j).mono False.elim False.elim False.elim fun hj =>
      ⟨.started, hmem hj⟩
  | completing completedAt c =>
    have hfate : Task.Fate (∃ t, j = id ∧ completing completedAt c = .completing t .inserting)
        (∃ t, j = id ∧ completing completedAt c = .completing t .withdrawing) False
        (∃ stage, j ∈ (completing completedAt c).held id stage) (s.backlog.task j)
        ((c.step s.backlog id completedAt).1.task j) :=
      (c.fate_step hb id completedAt j).mono (fun h => ⟨completedAt, h.1, by rw [h.2]⟩)
        (fun h => ⟨completedAt, h.1, by rw [h.2]⟩) (fun h => h) fun h => h
    cases c <;> exact hfate
  | waking =>
    simp only [step, PooledScheduler.backlog_wakeDispatcher]
    exact .same
  | _ => exact .same

theorem Dispatcher.fate_step {s : PooledScheduler} (hb : s.backlog.Kept) (d : Dispatcher) (j : TaskId) :
    Task.Fate (d = .reinserting j)
      ((∃ scope slot left drained, d = .sweeping scope (.draining (slot :: left) drained)) ∨ ∃ k, d = .unlinking j k)
      False (∃ stage, j ∈ d.held stage) (s.backlog.task j) ((d.step s).1.backlog.task j) := by
  have hmem {stage : Stage} {id : TaskId} (hj : j = id) : j ∈ Holding.only stage [id] stage := by
    simp [Holding.only, hj]
  have hremoved {id : TaskId} {k : Nat} {c : Backlog} {found : Bool} (h : s.backlog.remove id = (c, found)) :
      Task.Fate (unlinking id k = .reinserting j)
        ((∃ scope slot left drained, unlinking id k = .sweeping scope (.draining (slot :: left) drained)) ∨
          ∃ k', unlinking id k = .unlinking j k')
        False (∃ stage, j ∈ (unlinking id k).held stage) (s.backlog.task j) (c.task j) := by
    have hfate := fate_remove hb id j
    rw [h] at hfate
    exact hfate.mono False.elim (fun hj => .inr ⟨k, by rw [hj]⟩) False.elim False.elim
  have hmoved {d : Dispatcher} {id : TaskId} {source target : TaskState} {c : Backlog} {done : Bool}
      (h : s.backlog.transition id source target = (c, done)) {stage : Stage}
      (hheld : j = id → j ∈ d.held stage) :
      Task.Fate (d = .reinserting j)
        ((∃ scope slot left drained, d = .sweeping scope (.draining (slot :: left) drained)) ∨ ∃ k, d = .unlinking j k)
        False (∃ stage, j ∈ d.held stage) (s.backlog.task j) (c.task j) := by
    have hfate := fate_transition s.backlog id source target j
    rw [h] at hfate
    exact hfate.mono False.elim False.elim False.elim fun hj => ⟨stage, hheld hj⟩
  have hgoes := d.goes_step s
  generalize d.step s = next at hgoes ⊢
  cases hgoes with
  | sweep scope c _ =>
    refine (c.fate_step s.backlog scope j).mono False.elim (fun hc => .inl ⟨scope, ?_⟩) False.elim fun hj =>
      ⟨.waiting, by simpa [Dispatcher.held, Holding.only] using hj⟩
    obtain ⟨slot, left, drained, rfl⟩ := hc
    exact ⟨slot, left, drained, rfl⟩
  | unlink id k c hremove => exact hremoved hremove
  | gone id k c hremove => exact hremoved hremove
  | claim id k c hbegin => exact hmoved hbegin hmem
  | drop id k c hbegin => exact hmoved hbegin hmem
  | restore id c hmove => exact hmoved hmove hmem
  | letGo id c hmove => exact hmoved hmove hmem
  | reinsert id c hadd =>
    obtain ⟨-, rfl⟩ := eq_place_of_add hadd
    dsimp only
    rw [task_place]
    split
    · next hj => exact .enters _ (by rw [hj])
    · exact .same
  | _ => exact .same

theorem Submission.fate_step {s : PooledScheduler} (hb : s.backlog.Kept) (r : Request) (m : Submission) (j : TaskId) :
    Task.Fate (∃ t, m = .inserting t ∧ t.id = j) (m.pursued? = some j) ((m.step s r).2.pursued? = some j) False
      (s.backlog.task j) ((m.step s r).1.backlog.task j) := by
  cases m with
  | building =>
    simp only [step]
    split <;> exact .same
  | preparing task =>
    have hbacklog := s.backlog_ensureDispatcher
    simp only [step]
    split <;> simp_all <;> exact .same
  | inserting task =>
    simp only [step]
    rcases hadd : (s.backlog.enter task).add task.id with fault | c
    · exact .same
    · obtain ⟨-, rfl⟩ := eq_place_of_add hadd
      dsimp only
      by_cases hj : j = task.id
      · exact .enters _ ⟨task, rfl, hj.symm⟩
      · rw [task_place, if_neg hj, task_enter, if_neg hj]
        exact .same
  | withdrawing id c =>
    have hfate := c.fate_step hb id j
    cases c with
    | ended claimed => exact .same
    | _ =>
      refine hfate.mono False.elim (fun h => ?_) (fun h => ?_) False.elim
      · rw [h.1, h.2]
        rfl
      · simp only [step, h.2, h.1]
        rfl
  | waking id =>
    simp only [step, PooledScheduler.backlog_wakeDispatcher]
    exact .same
  | _ => exact .same

namespace Client

/-- Whether the client is emptying a queue because of a shutdown. -/
def IsDraining (c : Client) : Prop :=
  ∃ scope slot left drained, c = shutting (.clearing scope (.draining (slot :: left) drained))

theorem fate_step {s : PooledScheduler} (hb : s.backlog.Kept) (c : Client) (j : TaskId) :
    Task.Fate (∃ r t, c = submitting r (.inserting t) ∧ t.id = j) (c.pursued? = some j ∨ c.IsDraining)
      ((c.step s).2.pursued? = some j) (∃ stage, j ∈ c.held stage) (s.backlog.task j)
      ((c.step s).1.backlog.task j) := by
  cases c with
  | submitting r m =>
    refine (m.fate_step hb r j).mono (fun h => ⟨r, ?_⟩) .inl (fun h => h) False.elim
    obtain ⟨t, rfl, ht⟩ := h
    exact ⟨t, rfl, ht⟩
  | cancelling id c =>
    have hfate := c.fate_step hb id j
    cases c with
    | ended claimed =>
      simp only [step]
      split <;> exact .same
    | _ =>
      refine hfate.mono False.elim (fun h => .inl ?_) (fun h => ?_) False.elim
      · rw [h.1, h.2]
        rfl
      · simp only [step, h.2, h.1]
        rfl
  | shutting m =>
    cases m with
    | clearing scope c =>
      have hfate : Task.Fate (∃ r t, shutting (.clearing scope c) = submitting r (.inserting t) ∧ t.id = j)
          ((shutting (.clearing scope c)).pursued? = some j ∨ (shutting (.clearing scope c)).IsDraining)
          (((shutting (.clearing scope c)).step s).2.pursued? = some j)
          (∃ stage, j ∈ (shutting (.clearing scope c)).held stage) (s.backlog.task j)
          ((c.step scope s.backlog).1.task j) := by
        refine (c.fate_step s.backlog scope j).mono False.elim (fun hc => .inr ⟨scope, ?_⟩) False.elim fun hj =>
          ⟨.waiting, by simpa [Client.held, Shutdown.held, Holding.only] using hj⟩
        obtain ⟨slot, left, drained, rfl⟩ := hc
        exact ⟨slot, left, drained, rfl⟩
      cases c <;> exact hfate
    | waking discarded =>
      simp only [step, Shutdown.step, PooledScheduler.passOnShutdown]
      split
      · rw [PooledScheduler.backlog_wakeDispatcher]
        exact .same
      · exact .same
    | _ => exact .same
  | _ => exact .same

end Client

/-! ### Steps of a system -/

namespace System

variable {s s' : System} {id : TaskId}

/-- Who queues the task in a step. -/
inductive Queues (s : System) (id : TaskId) : System → Prop where
  | submission (i : Nat) (r : Request) (t : Task) :
      s.clients i = .submitting r (.inserting t) → t.id = id → Queues s id (s.stepClient i)
  | completion (k completedAt : Nat) (name : Option String) :
      s.threads k = some (.executing id (.completing completedAt .inserting)) →
        Queues s id (s.stepExecution k id (.completing completedAt .inserting) name)
  | dispatcher (now : Nat) :
      s.dispatcher = some (.reinserting id) → Queues s id (s.stepDispatcher (.reinserting id) now)

/-- A task is queued only from somebody's hands. -/
theorem Queues.slot_eq_none (h : s.Queues id s') (hs : s.Sound) : (s.backlog.task id).slot = none := by
  cases h with
  | submission i r t hclient ht =>
    subst ht
    refine (hs.frees (.client i) .unborn t.id ?_).1
    simp [held, hclient, Client.held, Submission.held, Holding.only]
  | completion k completedAt name ht =>
    refine (hs.frees (.thread k) .waiting id ?_).1
    simp [held, ht, WorkerThread.held, Execution.held, Completion.held, Holding.only]
  | dispatcher now hd =>
    refine (hs.frees .dispatcher .waiting id ?_).1
    simp [held, hd, Dispatcher.held, Holding.only]

/-- Who takes the task out of its queue in a step, since it has been cancelled. -/
inductive Withdraws (s : System) (id : TaskId) : System → Prop where
  | client (i : Nat) : (s.clients i).pursued? = some id → Withdraws s id (s.stepClient i)
  | completion (k completedAt : Nat) (name : Option String) :
      s.threads k = some (.executing id (.completing completedAt .withdrawing)) →
        Withdraws s id (s.stepExecution k id (.completing completedAt .withdrawing) name)

/-- Who takes tasks out of the queues in a step for another reason. -/
inductive TakesOut (s : System) : System → Prop where
  | client (i : Nat) : (s.clients i).IsDraining → TakesOut s (s.stepClient i)
  | sweep (scope : Scope) (slot : QueueSlot) (left : List QueueSlot) (drained : List TaskId) (now : Nat) :
      s.dispatcher = some (.sweeping scope (.draining (slot :: left) drained)) →
        TakesOut s (s.stepDispatcher (.sweeping scope (.draining (slot :: left) drained)) now)
  | dispatch (id : TaskId) (k now : Nat) :
      s.dispatcher = some (.unlinking id k) → TakesOut s (s.stepDispatcher (.unlinking id k) now)

theorem Step.fate (hstep : Step s s') (hs : s.Sound) (id : TaskId) :
    Task.Fate (s.Queues id s') (s.Withdraws id s' ∨ s.TakesOut s') (s'.Pursues id) (∃ who stage, id ∈ s.held who stage)
      (s.backlog.task id) (s'.backlog.task id) := by
  have hsame (hbacklog : s'.backlog = s.backlog) : Task.Fate (s.Queues id s') (s.Withdraws id s' ∨ s.TakesOut s')
      (s'.Pursues id) (∃ who stage, id ∈ s.held who stage) (s.backlog.task id) (s'.backlog.task id) := by
    rw [hbacklog]
    exact .same
  cases hstep with
  | client i =>
    have hself := s.clients_stepClient_self i
    refine ((s.clients i).fate_step (s := s.scheduler) hs.kept id).mono ?_ ?_ ?_ ?_
    · rintro ⟨r, t, hclient, ht⟩
      exact .submission i r t hclient ht
    · exact .imp (.client i) (.client i)
    · exact fun hpursued => .inl ⟨i, by rw [hself, hpursued]⟩
    · exact fun hmem => ⟨.client i, hmem⟩
  | dispatcher d now hd =>
    refine (d.fate_step (s := s.scheduler) hs.kept id).mono ?_ ?_ False.elim ?_
    · rintro rfl
      exact .dispatcher now hd
    · rintro (⟨scope, slot, left, drained, rfl⟩ | ⟨k, rfl⟩)
      · exact .inr (.sweep scope slot left drained now hd)
      · exact .inr (.dispatch id k now hd)
    · rintro ⟨stage, hmem⟩
      exact ⟨.dispatcher, stage, by simpa [held, hd] using hmem⟩
  | worker k phase now _ => exact hsame (backlog_stepWorker s k phase now)
  | execution k j e name ht =>
    refine (e.fate_step (s := s.scheduler) hs.kept j name id).mono ?_ ?_ False.elim ?_
    · rintro ⟨completedAt, rfl, rfl⟩
      exact .completion k completedAt name ht
    · rintro ⟨completedAt, rfl, rfl⟩
      exact .inl (.completion k completedAt name ht)
    · rintro ⟨stage, hmem⟩
      exact ⟨.thread k, stage, by simpa [held, ht, WorkerThread.held] using hmem⟩
  | setMaxPoolSize n => exact hsame (PooledScheduler.backlog_wakeDispatcher _)
  | setLowWait d => exact hsame (PooledScheduler.backlog_wakeDispatcher _)
  | _ => exact hsame rfl

/-- What a step does to the queue of a task. -/
theorem Step.slot_cases (hstep : Step s s') (hs : s.Sound) (id : TaskId) :
    (s'.backlog.task id).slot = (s.backlog.task id).slot ∨ s.Queues id s' ∨
      (s'.backlog.task id).slot = none ∧ (s.Withdraws id s' ∨ s.TakesOut s') := by
  have hfate := hstep.fate hs id
  generalize s'.backlog.task id = u at hfate
  cases hfate with
  | same => exact .inl rfl
  | inHand u _ hslot => exact .inl hslot
  | enters u hqueues => exact .inr (.inl hqueues)
  | leaves hout => exact .inr (.inr ⟨rfl, hout⟩)
  | cancelled _ => exact .inl rfl

/-- What a step does to the state of a task that remains in its queue. -/
theorem Step.state_cases (hstep : Step s s') (hs : s.Sound) {id : TaskId} {slot : QueueSlot}
    (hslot : (s.backlog.task id).slot = some slot) (hslot' : (s'.backlog.task id).slot = some slot) :
    (s'.backlog.task id).state = (s.backlog.task id).state ∨
      (s'.backlog.task id).state = .cancelled ∧ ((s.backlog.task id).state = .pending → s'.Pursues id) := by
  have hfate := hstep.fate hs id
  generalize s'.backlog.task id = u at hfate hslot'
  cases hfate with
  | same => exact .inl rfl
  | inHand u hin _ =>
    -- what somebody has in hand is in no queue
    obtain ⟨who, stage, hmem⟩ := hin
    rw [(hs.frees who stage id hmem).1] at hslot
    cases hslot
  | enters u hqueues =>
    rw [hqueues.slot_eq_none hs] at hslot
    cases hslot
  | leaves _ => cases hslot'
  | cancelled hpursued => exact .inr ⟨rfl, hpursued⟩

end System

end TaskScheduling
