import TaskScheduling.Proofs.Dispatch.Contending

/-!
# What a worker can rely on while it executes a task

Who gets a failure, and whether the sink works, is settled when a scheduler is made (`PooledScheduler.equipment`).
Nobody but the worker changes the task that it has in its hands, except for cancelling it (`System.Step.spares`), and a
task that is done remains so (`System.Reachable.done_of_step`).
-/

namespace TaskScheduling

open Backlog

/-! ### The equipment -/

/-- What decides about a failure besides the task. -/
structure Equipment where
  router : FailureRouter
  uncaught : Option FailureHandler
  /-- Whether the sink works. -/
  works : Bool

def PooledScheduler.equipment (s : PooledScheduler) : Equipment := ⟨s.router, s.factory.uncaught, s.sink.works⟩

theorem Sink.works_write (s : Sink) (text : Option String) : (s.write text).works = s.works := by
  unfold write
  split <;> rfl

theorem ThreadFactory.uncaught_spawn (f : ThreadFactory) : f.spawn.1.uncaught = f.uncaught := by
  simp only [spawn]
  split
  · rfl
  · split
    · rfl
    · split <;> rfl

namespace PooledScheduler

theorem equipment_wakeDispatcher (s : PooledScheduler) : s.wakeDispatcher.equipment = s.equipment := by
  unfold wakeDispatcher
  split <;> rfl

/-- A factory that has been asked for a thread. -/
private theorem equipment_of_spawn {s : PooledScheduler} {factory : ThreadFactory} {result : Except Trouble String}
    (h : s.factory.spawn = (factory, result)) : Equipment.mk s.router factory.uncaught s.sink.works = s.equipment := by
  rw [equipment, ← s.factory.uncaught_spawn, h]

theorem equipment_ensureDispatcher (s : PooledScheduler) : s.ensureDispatcher.1.equipment = s.equipment := by
  unfold ensureDispatcher
  split
  · rfl
  · split
    · rfl
    · rcases hspawn : s.factory.spawn with ⟨factory, trouble | name⟩ <;> exact equipment_of_spawn hspawn

end PooledScheduler

theorem Submission.equipment_step (s : PooledScheduler) (r : Request) (m : Submission) :
    (m.step s r).1.equipment = s.equipment := by
  cases m with
  | building =>
    simp only [step]
    split <;> rfl
  | preparing task =>
    have hequipment := s.equipment_ensureDispatcher
    simp only [step]
    split <;> simp_all
  | inserting task =>
    simp only [step]
    split <;> rfl
  | withdrawing id c => cases c <;> rfl
  | waking id => exact s.equipment_wakeDispatcher
  | _ => rfl

theorem Shutdown.equipment_step (s : PooledScheduler) (m : Shutdown) : (m.step s).1.equipment = s.equipment := by
  cases m with
  | clearing scope c => cases c <;> rfl
  | waking discarded =>
    simp only [step, PooledScheduler.passOnShutdown]
    split
    · exact s.equipment_wakeDispatcher
    · rfl
  | _ => rfl

theorem Client.equipment_step (s : PooledScheduler) (c : Client) : (c.step s).1.equipment = s.equipment := by
  cases c with
  | submitting r m => exact m.equipment_step s r
  | cancelling id c =>
    cases c with
    | ended claimed =>
      simp only [step]
      split <;> rfl
    | _ => rfl
  | shutting m => exact m.equipment_step s
  | _ => rfl

theorem Dispatcher.equipment_step (s : PooledScheduler) (d : Dispatcher) : (d.step s).1.equipment = s.equipment := by
  have hgoes := d.goes_step s
  generalize d.step s = next at hgoes ⊢
  cases hgoes with
  | spawn id k factory thread hspawn => exact PooledScheduler.equipment_of_spawn hspawn
  | retry id k factory error hspawn => exact PooledScheduler.equipment_of_spawn hspawn
  | spawnFault id k factory fault hspawn => exact PooledScheduler.equipment_of_spawn hspawn
  | _ => rfl

theorem Execution.equipment_step (s : PooledScheduler) (id : TaskId) (thread : Option String) (e : Execution) :
    (e.step s id thread).1.equipment = s.equipment := by
  cases e with
  | routing failure => exact congrArg (Equipment.mk s.router s.factory.uncaught) (s.sink.works_write _)
  | dropping =>
    simp only [step]
    split <;> rfl
  | completing completedAt c => cases c <;> rfl
  | waking => exact s.equipment_wakeDispatcher
  | _ => rfl

namespace System

variable {s s' : System}

theorem Step.equipment_eq (hstep : Step s s') : s'.scheduler.equipment = s.scheduler.equipment := by
  cases hstep with
  | client i => exact (s.clients i).equipment_step s.scheduler
  | dispatcher d now _ => exact d.equipment_step s.scheduler
  | worker k phase now _ =>
    cases phase with
    | announcing => exact s.scheduler.equipment_wakeDispatcher
    | _ => rfl
  | execution k id e name _ => exact e.equipment_step s.scheduler id name
  | setMaxPoolSize n => exact PooledScheduler.equipment_wakeDispatcher _
  | setLowWait d => exact PooledScheduler.equipment_wakeDispatcher _
  | _ => rfl

end System

/-! ### The task in hand -/

theorem Execution.step_fst_of_step_snd {s : PooledScheduler} {id : TaskId} {thread : Option String} {e : Execution}
    (h : (e.step s id thread).2 = e) : (e.step s id thread).1 = s := by
  cases e with
  | settling =>
    simp only [step] at h
    split at h <;> cases h
  | dropping =>
    simp only [step] at h
    split at h <;> cases h
  | completing completedAt c =>
    cases c with
    | settling | returning | inserting | rechecking =>
      simp only [step, Completion.step] at h
      split at h <;> cases h
    | ended requeued => cases requeued <;> cases h
    | _ => cases h
  | running | ended | faulted fault => rfl
  | _ => cases h

/-- A task that is in no queue, and that nobody else has in hand, is at most cancelled. -/
theorem Task.Fate.eq_or_cancelled {enters leaves pursued inHand : Prop} {t u : Task}
    (h : Fate enters leaves pursued inHand t u) (hslot : t.slot = none) (henters : ¬ enters) (hinHand : ¬ inHand) :
    u = t ∨ u = { t with state := .cancelled } := by
  cases h with
  | same => exact .inl rfl
  | inHand _ hin _ => exact absurd hin hinHand
  | enters _ hin => exact absurd hin henters
  | leaves _ => exact .inl (by rw [← hslot])
  | cancelled _ => exact .inr rfl

namespace System

variable {s s' : System} {k : Nat} {id : TaskId} {stage : Stage}

/-- What one party has in its hands, no other party has. -/
private theorem Sound.eq_party (h : s.Sound) {who other : Party} {stage' : Stage} (hmem : id ∈ s.held who stage)
    (hother : id ∈ s.held other stage') : other = who := by
  obtain ⟨l, hl⟩ := h.located id
  have hplace := (hl.eq_held hmem).symm.trans (hl.eq_held hother)
  simp only [Option.some.injEq, Place.held.injEq] at hplace
  exact hplace.1.symm

/-- Somebody else's step leaves a task in hand as it is, or cancels it. -/
private theorem Sound.spares_of_fate (h : s.Sound) (hmem : id ∈ s.held (.thread k) stage) (who : Party)
    (hwho : who ≠ .thread k) {enters leaves pursued : Prop} {t : Task}
    (hfate : Task.Fate enters leaves pursued (∃ stage, id ∈ s.held who stage) (s.backlog.task id) t)
    (henters : enters → ∃ stage, id ∈ s.held who stage) :
    t = s.backlog.task id ∨ t = { s.backlog.task id with state := .cancelled } := by
  have hnot : ¬ ∃ stage, id ∈ s.held who stage := fun ⟨_, hother⟩ => hwho (h.eq_party hmem hother)
  exact hfate.eq_or_cancelled (h.frees _ _ id hmem).1 (fun hin => hnot (henters hin)) hnot

/-- While a worker stays where it is, the task that it has in hand stays as it is, or is cancelled. -/
theorem Step.spares (hstep : Step s s') (h : s.Sound) (hmem : id ∈ s.held (.thread k) stage)
    (hk : s'.threads k = s.threads k) :
    s'.backlog.task id = s.backlog.task id ∨
      s'.backlog.task id = { s.backlog.task id with state := .cancelled } := by
  have hsame (hbacklog : s'.backlog = s.backlog) : s'.backlog.task id = s.backlog.task id ∨
      s'.backlog.task id = { s.backlog.task id with state := .cancelled } := .inl (by rw [hbacklog])
  cases hstep with
  | client i =>
    refine h.spares_of_fate hmem (.client i) (by simp) ((s.clients i).fate_step (s := s.scheduler) h.kept id) ?_
    rintro ⟨r, t, hclient, rfl⟩
    exact ⟨.unborn, by simp [held, hclient, Client.held, Submission.held, Holding.only]⟩
  | dispatcher d now hd =>
    have hheld : s.held .dispatcher = d.held := by simp only [held, hd, Option.elim_some]
    refine h.spares_of_fate hmem .dispatcher (by simp) (hheld ▸ d.fate_step (s := s.scheduler) h.kept id) ?_
    rintro rfl
    exact ⟨.waiting, by simp [hheld, Dispatcher.held, Holding.only]⟩
  | worker j phase now _ => exact hsame (s.backlog_stepWorker j phase now)
  | execution j other e name hj =>
    by_cases hjk : j = k
    -- an execution that has got nowhere has changed nothing
    · subst hjk
      have hnext : WorkerThread.ofExecution other (e.step s.scheduler other name).2 = .executing other e := by
        have hself : (s.stepExecution j other e name).threads j =
            some (.ofExecution other (e.step s.scheduler other name).2) := Function.update_self j _ s.threads
        exact Option.some.inj (hself.symm.trans (hk.trans hj))
      refine hsame (congrArg PooledScheduler.backlog (Execution.step_fst_of_step_snd (e := e) ?_))
      cases hstep : (e.step s.scheduler other name).2 <;> rw [hstep] at hnext <;> cases hnext <;> rfl
    · have hheld : s.held (.thread j) = e.held other := by
        simp only [held, hj, Option.elim_some, WorkerThread.held]
      refine h.spares_of_fate hmem (.thread j) (by simpa using hjk)
        (hheld ▸ e.fate_step (s := s.scheduler) h.kept other name id) ?_
      rintro ⟨completedAt, rfl, rfl⟩
      exact ⟨.waiting, by simp [hheld, Execution.held, Completion.held, Holding.only]⟩
  | setMaxPoolSize n => exact hsame (PooledScheduler.backlog_wakeDispatcher _)
  | setLowWait d => exact hsame (PooledScheduler.backlog_wakeDispatcher _)
  | _ => exact hsame rfl

end System

/-! ### A task that is done -/

namespace Contest

variable {α : Type} [DecidableEq α] {c c' : Contest α} {id : TaskId}

theorem IsFair.done_of_step (h : c.IsFair) (hstep : c.Step c') (hdone : (c.backlog.task id).state = .done) :
    (c'.backlog.task id).state = .done := by
  cases hstep with
  | act x a b ds hacts =>
    have haffects := hacts.affects (h.knows x) id
    cases haffects with
    | spares hstatus => exact (congrArg (·.2.1) hstatus).trans hdone
    | invokes hstatus => exact (congrArg (·.2.1) hstatus).trans hdone
    | cancels hstate =>
      rw [hdone] at hstate
      rcases hstate with hstate | ⟨hstate, -⟩ <;> cases hstate
    | begins hstate => cases hdone.symm.trans hstate
    | returns hstate => cases hdone.symm.trans hstate
    | finishes hstate => cases hdone.symm.trans hstate
  | enter t b hnew _ _ hadd =>
    have hid : id ≠ t.id := by
      rintro rfl
      exact hnew ((h.fair t.id).mem_entered (by simp [hdone]))
    have hstatus := status_add hadd id
    rw [task_enter, if_neg hid] at hstatus
    exact (congrArg (·.2.1) hstatus).trans hdone
  | _ => exact hdone

theorem Reachable.done_of_run (h : c.Reachable) (hrun : Relation.ReflTransGen Step c c')
    (hdone : (c.backlog.task id).state = .done) : (c'.backlog.task id).state = .done := by
  induction hrun with
  | refl => exact hdone
  | tail hrun hstep ih => exact (h.run hrun).isFair.done_of_step hstep ih

end Contest

theorem System.Reachable.done_of_step {s s' : System} {id : TaskId} (h : s.Reachable) (hstep : s.Step s')
    (hdone : (s.backlog.task id).state = .done) : (s'.backlog.task id).state = .done := by
  obtain ⟨c, hc, hplays⟩ := h.plays
  obtain ⟨c', hrun, hplays'⟩ := hplays.step h.sound hstep
  rw [← hplays.backlog_eq] at hdone
  rw [← hplays'.backlog_eq]
  exact hc.done_of_run hrun hdone

end TaskScheduling
