import TaskScheduling.Proofs.Dispatch.PoolUse
import TaskScheduling.Proofs.Dispatch.Queueing
import TaskScheduling.Proofs.Dispatch.Signals

/-!
# What is under way when a shutdown is requested

A submission that finds out about a shutdown takes back the task that it has queued (`System.Recalls`), and whoever has
cancelled a task takes it out of its queue (`System.Pursues`); neither gives up before the task has left its queue.  A
worker that has not seen the shutdown in time queues its recurring task again (`System.Requeues`); nobody begins to do
so after the shutdown.  Before the first submission has started the dispatcher there are no tasks
(`System.IsUnstarted`).
-/

namespace TaskScheduling

open Backlog

/-! ### Those who take a task out of its queue -/

namespace Submission

/-- The task that the submission has queued and takes back after a shutdown, as long as it waits for its run. -/
def recalled? : Submission → Option TaskId
  | rechecking id => some id
  | withdrawing id .looking => some id
  | withdrawing id (.claiming .pending) => some id
  | _ => none

theorem recalled?_step {s : PooledScheduler} (h : s.isShutdown = true) (r : Request) {m : Submission} {id : TaskId}
    (hm : m.recalled? = some id) :
    (m.step s r).2.recalled? = some id ∨ ((m.step s r).1.backlog.task id).state ≠ .pending := by
  cases m with
  | rechecking j =>
    left
    simp only [step, h, ↓reduceIte]
    exact hm
  | withdrawing j c =>
    cases c with
    | looking =>
      obtain rfl : j = id := Option.some.inj hm
      by_cases hstate : (s.backlog.task j).state = .pending
      · left
        simp only [step, Cancellation.step, Cancellation.look, hstate, recalled?]
      · exact .inr hstate
    | claiming seen =>
      cases seen with
      | pending =>
        obtain rfl : j = id := Option.some.inj hm
        by_cases hstate : (s.backlog.task j).state = .pending
        · right
          have hbacklog : ((withdrawing j (.claiming .pending)).step s r).1.backlog =
              ((Cancellation.claiming .pending).step s.backlog j).1 := rfl
          rw [hbacklog, Cancellation.step_claiming_fst, task_transition, if_pos ⟨rfl, hstate⟩]
          decide
        · left
          simp only [step, Cancellation.step]
          rw [transition_of_state_ne hstate]
          rfl
      | _ => cases hm
    | _ => cases hm
  | _ => cases hm

end Submission

namespace Client

def recalled? : Client → Option TaskId
  | submitting _ m => m.recalled?
  | _ => none

theorem recalled?_step {s : PooledScheduler} (h : s.isShutdown = true) {c : Client} {id : TaskId}
    (hc : c.recalled? = some id) :
    (c.step s).2.recalled? = some id ∨ ((c.step s).1.backlog.task id).state ≠ .pending := by
  cases c with
  | submitting r m => exact m.recalled?_step h r hc
  | _ => cases hc

/-- A client that may make another call has nothing left to do for the last one. -/
theorem of_isFree {c : Client} (hfree : c.isFree = true) : c.recalled? = none ∧ c.pursued? = none := by
  cases c with
  | submitting r m =>
    cases m with
    | ended result => exact ⟨rfl, rfl⟩
    | _ => cases hfree
  | cancelling id c => cases hfree
  | _ => exact ⟨rfl, rfl⟩

/-- Whoever pursues a task takes it out of its queue. -/
theorem slot_eq_none_of_pursued? {s : PooledScheduler} (hb : s.backlog.Kept) {c : Client} {id : TaskId}
    (hc : c.pursued? = some id) : ((c.step s).1.backlog.task id).slot = none := by
  cases c with
  | submitting r m =>
    cases m with
    | withdrawing j c =>
      cases c with
      | unlinking =>
        obtain rfl : j = id := Option.some.inj hc
        exact hb.slot_remove j
      | _ => cases hc
    | _ => cases hc
  | cancelling j c =>
    cases c with
    | unlinking =>
      obtain rfl : j = id := Option.some.inj hc
      exact hb.slot_remove j
    | _ => cases hc
  | _ => cases hc

end Client

namespace System

variable {s s' : System} {id : TaskId}

/-- Whether a submission takes back the task that it has queued, if it sees a shutdown. -/
def Recalls (s : System) (id : TaskId) : Prop := ∃ i, (s.clients i).recalled? = some id

/-- After a shutdown, a submission does not give up before its task does no longer wait. -/
theorem Recalls.step (h : s.Recalls id) (hshutdown : s.scheduler.isShutdown = true) (hstep : Step s s') :
    s'.Recalls id ∨ (s'.backlog.task id).state ≠ .pending := by
  obtain ⟨i, hclient⟩ := h
  rcases hstep.client_cases i with hsame | hfree | rfl
  · exact .inl ⟨i, hsame ▸ hclient⟩
  · rw [(Client.of_isFree hfree).1] at hclient
    cases hclient
  · rcases (s.clients i).recalled?_step hshutdown hclient with hstill | hstate
    · exact .inl ⟨i, by rw [clients_stepClient_self, hstill]⟩
    · exact .inr hstate

/-! ### Executions -/

/-- Where an execution has come from. -/
theorem Step.of_executing (hstep : Step s s') {k : Nat} {e : Execution}
    (ht : s'.threads k = some (.executing id e)) :
    s.threads k = some (.executing id e) ∨ e = .starting ∨ (∃ outcome, e = Execution.running.finish outcome) ∨
      ∃ before name, s.threads k = some (.executing id before) ∧ s' = s.stepExecution k id before name ∧
        (before.step s.scheduler id name).2 = e := by
  have hcases {j : Nat} {y : WorkerThread} (hthreads : s'.threads = Function.update s.threads j (some y)) :
      s.threads k = some (.executing id e) ∨ j = k ∧ y = .executing id e := by
    by_cases hj : k = j
    · subst hj
      rw [hthreads, Function.update_self] at ht
      exact .inr ⟨rfl, Option.some.inj ht⟩
    · rw [hthreads, Function.update_of_ne hj] at ht
      exact .inl ht
  cases hstep with
  | dispatcher d now _ => exact .inl (Sound.threads_of_stepDispatcher ht)
  | worker j phase now _ =>
    refine (hcases (s.threads_stepWorker j phase now)).imp_right fun hy => .inl ?_
    replace hy := hy.2
    cases hnext : (phase.step s.pool j now).2 <;> rw [hnext] at hy <;> cases hy
    rfl
  | rouseWorker j idleSince until? _ => exact (hcases rfl).imp_right fun hy => by cases hy.2
  | execution j other f name hj =>
    refine (hcases rfl).imp_right fun hy => .inr (.inr ?_)
    obtain ⟨rfl, hy⟩ := hy
    cases hnext : (f.step s.scheduler other name).2 <;> rw [hnext] at hy <;> cases hy <;>
      exact ⟨f, name, hj, rfl, hnext⟩
  | finish j other outcome _ =>
    exact (hcases rfl).imp_right fun hy => .inr (.inl ⟨outcome, (WorkerThread.executing.inj hy.2).2.symm⟩)
  | _ => exact .inl ht

/-- Whoever has cancelled a task does not give up before it has left its queue. -/
theorem Pursues.step (h : s.Pursues id) (hs : s.Sound) (hstep : Step s s') :
    s'.Pursues id ∨ (s'.backlog.task id).slot = none := by
  rcases h with ⟨i, hclient⟩ | ⟨k, completedAt, ht⟩
  · rcases hstep.client_cases i with hsame | hfree | rfl
    · exact .inl (.inl ⟨i, hsame ▸ hclient⟩)
    · rw [(Client.of_isFree hfree).2] at hclient
      cases hclient
    · exact .inr ((s.clients i).slot_eq_none_of_pursued? hs.kept hclient)
  · rcases hstep.thread_cases hs.staffed ht with hstill | ⟨phase, hphase, -⟩ | ⟨j, e, hexecuting, hmoves⟩
    · exact .inl (.inr ⟨k, completedAt, hstill⟩)
    · cases hphase
    · cases hexecuting
      rcases hmoves with hrunning | ⟨name, rfl⟩
      · cases hrunning
      · exact .inr (hs.kept.slot_remove id)

end System

/-! ### Those who queue a task again -/

/-- Whether the execution of a task is past its look at the shutdown, and is to queue the task again. -/
def Execution.isRequeuing (recurring : Bool) : Execution → Bool
  | stamping | completing _ .settling => recurring
  | completing _ .returning | completing _ .inserting => true
  | _ => false

theorem Execution.of_isRequeuing_step {s : PooledScheduler} (h : s.isShutdown = true) {id : TaskId}
    {name : Option String} {e : Execution}
    (hnext : (e.step s id name).2.isRequeuing (s.backlog.task id).isRecurring = true) :
    e.isRequeuing (s.backlog.task id).isRecurring = true := by
  cases e with
  | settling =>
    cases hr : (s.backlog.task id).isRecurring <;> simp only [step, h, hr] at hnext <;> cases hnext
  | stamping => exact hnext
  | dropping =>
    simp only [step] at hnext
    split at hnext <;> cases hnext
  | completing completedAt c =>
    cases c with
    | settling =>
      cases hr : (s.backlog.task id).isRecurring
      · simp only [step, Completion.step, hr] at hnext
        cases hnext
      · rfl
    | returning | inserting => rfl
    | rechecking =>
      simp only [step, Completion.step] at hnext
      split at hnext <;> cases hnext
    | ended requeued => cases requeued <;> cases hnext
    | _ => cases hnext
  | _ => cases hnext

namespace System

variable {s s' : System} {id : TaskId}

/-- Whether a worker is past its look at the shutdown, and is to queue its task again. -/
def Requeues (s : System) (id : TaskId) : Prop :=
  ∃ k e, s.threads k = some (.executing id e) ∧ e.isRequeuing (s.backlog.task id).isRecurring = true

/-- Nobody comes to queue a task again after the shutdown. -/
theorem Requeues.of_step (h : s'.Requeues id) (hs : s.Sound) (hstep : Step s s')
    (hshutdown : s'.scheduler.isShutdown = true) : s.Requeues id := by
  obtain ⟨k, e, ht, he⟩ := h
  have hsame {f : Execution} (hk : s.threads k = some (.executing id f)) :
      (s'.backlog.task id).isRecurring = (s.backlog.task id).isRecurring :=
    Task.isRecurring_eq_of_identity ((hs.step hstep).stays id (hs.born k id f hk)).identity_eq
  rcases hstep.of_executing ht with hk | rfl | ⟨outcome, rfl⟩ | ⟨before, name, hk, rfl, hnext⟩
  · exact ⟨k, e, hk, hsame hk ▸ he⟩
  · cases he
  · cases outcome <;> cases he
  · refine ⟨k, before, hk, ?_⟩
    have hwas : s.scheduler.isShutdown = true := by
      rw [PooledScheduler.isShutdown, ← before.shutdown_step s.scheduler id name]
      exact hshutdown
    rw [hsame hk, ← hnext] at he
    exact Execution.of_isRequeuing_step hwas he

/-- Only somebody who is to queue it again queues a task that has run. -/
theorem Queues.requeues {k completedAt : Nat}
    (ht : s.threads k = some (.executing id (.completing completedAt .inserting))) : s.Requeues id := ⟨k, _, ht, rfl⟩

end System

/-! ### Before the dispatcher is started -/

theorem Clearance.task_step_of_absent {b : Backlog} (h : ∀ id, b.task id = .absent) (scope : Scope) (c : Clearance)
    (id : TaskId) : (c.step scope b).1.task id = .absent := by
  cases c with
  | draining left drained =>
    cases left with
    | nil => exact h id
    | cons slot left =>
      simp only [step]
      rw [task_takeOut, h id]
      split <;> rfl
  | marking left claimed =>
    cases left with
    | nil => exact h id
    | cons j left =>
      rw [step_marking_fst, task_transition_eq, h j, if_neg fun hc => absurd hc.2 (by decide), h id]
  | ended claimed => exact h id

theorem Cancellation.task_step_of_absent {b : Backlog} (hb : b.Kept) (h : ∀ id, b.task id = .absent) (id : TaskId)
    (c : Cancellation) (j : TaskId) : (c.step b id).1.task j = .absent := by
  have hfate := c.fate_step hb id j
  rw [h j] at hfate
  generalize (c.step b id).1.task j = u at hfate
  cases hfate with
  | inHand _ hin _ => cases hin
  | enters _ hin => cases hin
  | _ => rfl

theorem PooledScheduler.isSome_thread_ensureDispatcher {s t : PooledScheduler} (h : s.ensureDispatcher = (t, .ok ())) :
    t.dispatcher.thread.isSome = true := by
  unfold ensureDispatcher at h
  split at h
  · cases h
    assumption
  · split at h
    · cases h
    · split at h <;> cases h
      rfl

/-- Whether the client has not come so far that it may have queued a task. -/
def Client.isEarly : Client → Bool
  | submitting _ m => match m with
    | .checking | .building | .preparing _ | .ended _ => true
    | _ => false
  | _ => true

/-- As long as there is no dispatcher, a client enters no task. -/
theorem Client.isEarly_step {s : PooledScheduler} (hb : s.backlog.Kept) (h : ∀ id, s.backlog.task id = .absent)
    {c : Client} (hc : c.isEarly = true) (hthread : (c.step s).1.dispatcher.thread = none) :
    (c.step s).2.isEarly = true ∧ ∀ id, (c.step s).1.backlog.task id = .absent := by
  cases c with
  | resting | answered _ _ => exact ⟨rfl, h⟩
  | submitting r m =>
    cases m with
    | checking =>
      simp only [step, Submission.step]
      split <;> exact ⟨rfl, h⟩
    | building =>
      simp only [step, Submission.step]
      split <;> exact ⟨rfl, h⟩
    | preparing task =>
      have hbacklog := s.backlog_ensureDispatcher
      simp only [step, Submission.step] at hthread ⊢
      rcases hens : s.ensureDispatcher with ⟨t, trouble | ⟨⟨⟩⟩⟩ <;> rw [hens] at hthread hbacklog
      · have hsame : t.backlog = s.backlog := hbacklog
        exact ⟨rfl, fun id => by rw [hsame, h id]⟩
      · have hsome := PooledScheduler.isSome_thread_ensureDispatcher hens
        rw [show t.dispatcher.thread = none from hthread] at hsome
        cases hsome
    | ended result => exact ⟨rfl, h⟩
    | _ => cases hc
  | cancelling id c =>
    cases c with
    | ended claimed =>
      simp only [step]
      split <;> exact ⟨rfl, h⟩
    | _ => exact ⟨rfl, Cancellation.task_step_of_absent hb h id _⟩
  | shutting m =>
    cases m with
    | clearing scope c =>
      cases c with
      | ended discarded => exact ⟨rfl, h⟩
      | _ => exact ⟨rfl, Clearance.task_step_of_absent h scope _⟩
    | waking discarded =>
      refine ⟨rfl, fun id => ?_⟩
      simp only [step, Shutdown.step, PooledScheduler.passOnShutdown]
      split
      · rw [PooledScheduler.backlog_wakeDispatcher, h id]
      · exact h id
    | _ => exact ⟨rfl, h⟩

namespace System

/-- Nobody has entered a task yet. -/
structure IsUnstarted (s : System) : Prop where
  task_eq (id : TaskId) : s.backlog.task id = .absent
  threads_eq (k : Nat) : s.threads k = none
  isEarly (i : Nat) : (s.clients i).isEarly = true

theorem Reachable.isUnstarted {s : System} (h : Reachable s) (hd : s.dispatcher = none) : s.IsUnstarted := by
  induction h with
  | start clock maxSize keepAlive factory router sink defaultPriority lowWait =>
    exact ⟨fun _ => rfl, fun _ => rfl, fun _ => rfl⟩
  | @step t t' ht hstep ih =>
    have hnone : t.dispatcher = none := by
      cases ht.isRecorded.concerns hstep with
      | tells hsame _ => rw [← hsame, hd]
      | starts _ hnone _ _ => exact hnone
      | goesOn _ _ _ => cases hd
      | becomes _ _ _ _ => cases hd
    obtain ⟨htasks, hthreads, hearly⟩ := ih hnone
    have hcall {c : Client} (i : Nat) (hc : c.isEarly = true) : (t.withClient i c).IsUnstarted := by
      refine ⟨htasks, hthreads, fun j => ?_⟩
      by_cases hj : j = i
      · subst hj
        rwa [show (t.withClient j c).clients j = c from Function.update_self j _ t.clients]
      · rw [show (t.withClient i c).clients j = t.clients j from Function.update_of_ne hj _ t.clients]
        exact hearly j
    have hwith {scheduler : PooledScheduler} (hbacklog : scheduler.backlog = t.scheduler.backlog) :
        (t.withScheduler scheduler).IsUnstarted :=
      ⟨fun id => (congrArg (·.task id) hbacklog).trans (htasks id), hthreads, hearly⟩
    cases hstep with
    | submit i r _ => exact hcall i rfl
    | cancel i id _ => exact hcall i rfl
    | shutDown i mode _ => exact hcall i rfl
    | client i =>
      have hthread : ((t.clients i).step t.scheduler).1.dispatcher.thread = none := by
        have hrecord : ((t.clients i).step t.scheduler).1.dispatcher.thread.isSome = (t.stepClient i).dispatcher.isSome :=
          (ht.step (.client i)).isRecorded.thread_isSome
        rw [hd] at hrecord
        simpa using hrecord
      obtain ⟨hstill, habsent⟩ := Client.isEarly_step (s := t.scheduler) ht.sound.kept htasks (hearly i) hthread
      refine ⟨habsent, hthreads, fun j => ?_⟩
      by_cases hj : j = i
      · subst hj
        rwa [clients_stepClient_self]
      · rw [show (t.stepClient i).clients j = t.clients j from Function.update_of_ne hj _ t.clients]
        exact hearly j
    | dispatcher _ _ hsome => rw [hnone] at hsome; cases hsome
    | pick _ _ _ hsome => rw [hnone] at hsome; cases hsome
    | miss _ hsome => rw [hnone] at hsome; cases hsome
    | leave hsome _ => rw [hnone] at hsome; cases hsome
    | rouse _ _ hsome => rw [hnone] at hsome; cases hsome
    | worker k _ _ hk => rw [hthreads k] at hk; cases hk
    | rouseWorker k _ _ hk => rw [hthreads k] at hk; cases hk
    | execution k _ _ _ hk => rw [hthreads k] at hk; cases hk
    | finish k _ _ hk => rw [hthreads k] at hk; cases hk
    | setMaxPoolSize n => exact hwith (PooledScheduler.backlog_wakeDispatcher _)
    | setLowWait d => exact hwith (PooledScheduler.backlog_wakeDispatcher _)
    | setKeepAlive d => exact hwith rfl
    | interruptAll => exact hwith rfl
    | tell clock => exact hwith rfl

end System

end TaskScheduling
