import Mathlib.Logic.Function.Basic
import TaskScheduling.Dispatch.Dispatcher
import TaskScheduling.Dispatch.Execution
import TaskScheduling.Dispatch.Shutdown
import TaskScheduling.Dispatch.Submission
import TaskScheduling.Pool.WorkerPhase

/-!
# A scheduler on a worker pool with everybody who uses it

A system is a scheduler together with any number of clients, its dispatcher and the threads of its workers, each in the
middle of what it does.  `System.Step` lets one of them take one of its single steps, or changes what nobody here
controls: the clock, the settings and the wake-ups without a reason.  `System.Reachable` says that a system has come
about by such steps, in any order.

What a task does while it runs is left to the clients: a call that an action makes is a call of some client.
-/

namespace TaskScheduling

/-- A client with the call that it is in. -/
inductive Client where
  | resting
  | submitting (r : Request) (m : Submission)
  | cancelling (id : TaskId) (c : Cancellation)
  /-- The answer of a cancellation, which has been counted. -/
  | answered (id : TaskId) (claimed : Bool)
  | shutting (m : Shutdown)

/-! ### What is left alone -/

namespace PooledScheduler

@[simp] theorem pool_wakeDispatcher (s : PooledScheduler) : s.wakeDispatcher.pool = s.pool := by
  unfold wakeDispatcher
  split <;> rfl

@[simp] theorem backlog_wakeDispatcher (s : PooledScheduler) : s.wakeDispatcher.backlog = s.backlog := by
  unfold wakeDispatcher
  split <;> rfl

theorem pool_setMaxPoolSize (s : PooledScheduler) (n : Nat) : (s.setMaxPoolSize n).pool = s.pool.setMaxSize n :=
  pool_wakeDispatcher _

theorem pool_setLowWait (s : PooledScheduler) (d : Duration) : (s.setLowWait d).pool = s.pool := pool_wakeDispatcher _

@[simp] theorem pool_ensureDispatcher (s : PooledScheduler) : s.ensureDispatcher.1.pool = s.pool := by
  unfold ensureDispatcher
  split
  · rfl
  · split
    · rfl
    · split <;> rfl

@[simp] theorem backlog_ensureDispatcher (s : PooledScheduler) : s.ensureDispatcher.1.backlog = s.backlog := by
  unfold ensureDispatcher
  split
  · rfl
  · split
    · rfl
    · split <;> rfl

end PooledScheduler

/-- A submission takes no part in the pool. -/
theorem Submission.pool_step (s : PooledScheduler) (r : Request) (m : Submission) : (m.step s r).1.pool = s.pool := by
  cases m with
  | building =>
    simp only [step]
    split <;> rfl
  | preparing task =>
    have hpool := s.pool_ensureDispatcher
    simp only [step]
    split <;> simp_all
  | inserting task =>
    simp only [step]
    split <;> rfl
  | withdrawing id c =>
    cases c <;> rfl
  | waking id => exact s.pool_wakeDispatcher
  | _ => rfl

/-- A shutdown stops the pool only where there is no dispatcher that would. -/
theorem Shutdown.pool_step (s : PooledScheduler) (m : Shutdown) :
    (m.step s).1.pool = s.pool ∨ (m.step s).1.pool = s.pool.stop := by
  cases m with
  | clearing scope c => cases c <;> exact .inl rfl
  | waking discarded =>
    simp only [step, PooledScheduler.passOnShutdown]
    split
    · exact .inl s.pool_wakeDispatcher
    · exact .inr rfl
  | _ => exact .inl rfl

/-- An execution takes no part in the pool. -/
theorem Execution.pool_step (s : PooledScheduler) (id : TaskId) (thread : Option String) (e : Execution) :
    (e.step s id thread).1.pool = s.pool := by
  cases e with
  | dropping =>
    simp only [step]
    split <;> rfl
  | completing completedAt c => cases c <;> rfl
  | waking => exact s.pool_wakeDispatcher
  | _ => rfl

namespace Client

/-- Whether the client may make another call. -/
def isFree : Client → Bool
  | resting => true
  | submitting _ (.ended _) => true
  | answered _ _ => true
  | shutting (.ended _) => true
  | _ => false

def step (s : PooledScheduler) : Client → PooledScheduler × Client
  | resting => (s, resting)
  | submitting r m => ((m.step s r).1, submitting r (m.step s r).2)
  | cancelling id (.ended claimed) => (if claimed then s.countCancelled 1 else s, answered id claimed)
  | cancelling id c => ({ s with backlog := (c.step s.backlog id).1 }, cancelling id (c.step s.backlog id).2)
  | answered id claimed => (s, answered id claimed)
  | shutting m => ((m.step s).1, shutting (m.step s).2)

theorem pool_step (s : PooledScheduler) (c : Client) :
    (c.step s).1.pool = s.pool ∨ (c.step s).1.pool = s.pool.stop := by
  cases c with
  | submitting r m => exact .inl (m.pool_step s r)
  | cancelling id c =>
    cases c with
    | ended claimed =>
      simp only [step]
      split <;> exact .inl rfl
    | _ => exact .inl rfl
  | shutting m => exact m.pool_step s
  | _ => exact .inl rfl

end Client

/-- The thread of a worker. -/
inductive WorkerThread where
  | acting (phase : WorkerPhase)
  | executing (id : TaskId) (e : Execution)
  deriving DecidableEq

namespace WorkerThread

/-- A worker that has taken its task executes it. -/
def ofPhase : WorkerPhase → WorkerThread
  | .working id => executing id .starting
  | phase => acting phase

/-- A worker whose task has been executed goes on with its life. -/
def ofExecution (id : TaskId) : Execution → WorkerThread
  | .ended => acting .finished
  | e => executing id e

end WorkerThread

structure System where
  scheduler : PooledScheduler
  clients : Nat → Client
  /-- The dispatcher, once it has been started. -/
  dispatcher : Option Dispatcher
  /-- The threads of the workers that have been started, by the number of the worker. -/
  threads : Nat → Option WorkerThread

namespace System

/-- A new scheduler, which nobody uses yet. -/
def start (clock : Clock) (maxSize : Nat) (keepAlive : Duration) (factory : ThreadFactory) (router : FailureRouter)
    (sink : Sink) (defaultPriority : Priority) (lowWait : Nat) : System where
  scheduler := .start clock (.start maxSize keepAlive) factory router sink defaultPriority lowWait
  clients := fun _ => .resting
  dispatcher := none
  threads := fun _ => none

def backlog (s : System) : Backlog := s.scheduler.backlog

def pool (s : System) : Pool := s.scheduler.pool

def withClient (s : System) (i : Nat) (c : Client) : System := { s with clients := Function.update s.clients i c }

def withDispatcher (s : System) (d : Dispatcher) : System := { s with dispatcher := some d }

def withThread (s : System) (k : Nat) (t : WorkerThread) : System :=
  { s with threads := Function.update s.threads k (some t) }

/-- A client goes on with its call.  The first submission that comes so far starts the dispatcher. -/
def stepClient (s : System) (i : Nat) : System :=
  let next := (s.clients i).step s.scheduler
  { s with
    scheduler := next.1
    clients := Function.update s.clients i next.2
    dispatcher := s.dispatcher <|> next.1.dispatcher.thread.map fun _ => .checking }

/-- The threads of the workers when the dispatcher has come to a phase: it may just have started one. -/
def startThread (threads : Nat → Option WorkerThread) (now : Nat) : Dispatcher → Nat → Option WorkerThread
  | .spawned _ k _ => Function.update threads k (some (.acting (.fetching now)))
  | _ => threads

/-- The dispatcher goes on.  A worker that it starts has been idle since `now`. -/
def stepDispatcher (s : System) (d : Dispatcher) (now : Nat) : System :=
  let next := d.step s.scheduler
  { s with scheduler := next.1, dispatcher := some next.2, threads := startThread s.threads now next.2 }

/-- A worker that is not executing a task goes on; one that has become idle tells the dispatcher. -/
def stepWorker (s : System) (k : Nat) (phase : WorkerPhase) (now : Nat) : System :=
  let scheduler := match phase with
    | .announcing => s.scheduler.wakeDispatcher
    | _ => s.scheduler
  let next := phase.step s.pool k now
  { s with
    scheduler := { scheduler with pool := next.1 }
    threads := Function.update s.threads k (some (.ofPhase next.2)) }

theorem pool_stepWorker (s : System) (k : Nat) (phase : WorkerPhase) (now : Nat) :
    (s.stepWorker k phase now).pool = (phase.step s.pool k now).1 := rfl

theorem threads_stepWorker (s : System) (k : Nat) (phase : WorkerPhase) (now : Nat) :
    (s.stepWorker k phase now).threads =
      Function.update s.threads k (some (.ofPhase (phase.step s.pool k now).2)) := rfl

theorem backlog_stepWorker (s : System) (k : Nat) (phase : WorkerPhase) (now : Nat) :
    (s.stepWorker k phase now).backlog = s.backlog := by
  cases phase with
  | announcing => exact s.scheduler.backlog_wakeDispatcher
  | _ => rfl

def stepExecution (s : System) (k : Nat) (id : TaskId) (e : Execution) (name : Option String) : System :=
  let next := e.step s.scheduler id name
  { s with scheduler := next.1, threads := Function.update s.threads k (some (.ofExecution id next.2)) }

def withScheduler (s : System) (scheduler : PooledScheduler) : System := { s with scheduler := scheduler }

inductive Step (s : System) : System → Prop where
  | submit (i : Nat) (r : Request) : (s.clients i).isFree = true → Step s (s.withClient i (.submitting r .checking))
  | cancel (i : Nat) (id : TaskId) : (s.clients i).isFree = true → Step s (s.withClient i (.cancelling id .looking))
  | shutDown (i : Nat) (mode : ShutdownMode) :
      (s.clients i).isFree = true → Step s (s.withClient i (.shutting (.raising mode)))
  | client (i : Nat) : Step s (s.stepClient i)
  | dispatcher (d : Dispatcher) (now : Nat) : s.dispatcher = some d → Step s (s.stepDispatcher d now)
  /-- The queues are looked at one after the other, so that others may have been ahead of what is picked, or have taken
  it away since. -/
  | pick (id : TaskId) (now lowWait : Nat) :
      s.dispatcher = some .picking → Step s (s.withDispatcher (.acquiring id now lowWait))
  | miss (until? : Option Nat) :
      s.dispatcher = some .picking → Step s (s.withDispatcher (.parked until? .nothingDue))
  /-- For the same reason the queues may be taken for empty. -/
  | leave : s.dispatcher = some .leaveTaking → s.scheduler.isShutdown = true → Step s (s.withDispatcher .stopping)
  /-- Whoever is parked may wake up without a reason. -/
  | rouse (until? : Option Nat) (reason : ParkReason) :
      s.dispatcher = some (.parked until? reason) → Step s (s.withDispatcher .checking)
  | worker (k : Nat) (phase : WorkerPhase) (now : Nat) :
      s.threads k = some (.acting phase) → Step s (s.stepWorker k phase now)
  | rouseWorker (k idleSince : Nat) (until? : Option Nat) :
      s.threads k = some (.acting (.parked idleSince until?)) → Step s (s.withThread k (.acting (.fetching idleSince)))
  | execution (k : Nat) (id : TaskId) (e : Execution) (name : Option String) :
      s.threads k = some (.executing id e) → Step s (s.stepExecution k id e name)
  /-- The end of an action. -/
  | finish (k : Nat) (id : TaskId) (outcome : Option Panic) :
      s.threads k = some (.executing id .running) →
      Step s (s.withThread k (.executing id (Execution.running.finish outcome)))
  | setMaxPoolSize (n : Nat) : Step s (s.withScheduler (s.scheduler.setMaxPoolSize n))
  | setKeepAlive (d : Duration) : Step s (s.withScheduler (s.scheduler.setKeepAlive d))
  | setLowWait (d : Duration) : Step s (s.withScheduler (s.scheduler.setLowWait d))
  | interruptAll : Step s (s.withScheduler { s.scheduler with pool := s.pool.interruptAll })
  /-- The clock is refreshed, held or released, or its source moves. -/
  | tell (clock : Clock) : Step s (s.withScheduler { s.scheduler with clock := clock })

inductive Reachable : System → Prop where
  | start (clock : Clock) (maxSize : Nat) (keepAlive : Duration) (factory : ThreadFactory) (router : FailureRouter)
      (sink : Sink) (defaultPriority : Priority) (lowWait : Nat) :
      Reachable (start clock maxSize keepAlive factory router sink defaultPriority lowWait)
  | step {s s' : System} : Reachable s → Step s s' → Reachable s'

/-- A client in the middle of a call stays there until it goes on itself. -/
theorem Step.client_cases {s s' : System} (hstep : Step s s') (i : Nat) :
    s'.clients i = s.clients i ∨ (s.clients i).isFree = true ∨ s' = s.stepClient i := by
  have hcall {j : Nat} (hfree : (s.clients j).isFree = true) (c : Client) :
      (s.withClient j c).clients i = s.clients i ∨ (s.clients i).isFree = true := by
    by_cases hj : i = j
    · exact .inr (hj ▸ hfree)
    · exact .inl (Function.update_of_ne hj _ _)
  cases hstep with
  | submit j r hfree => exact (hcall hfree _).imp_right .inl
  | cancel j id hfree => exact (hcall hfree _).imp_right .inl
  | shutDown j mode hfree => exact (hcall hfree _).imp_right .inl
  | client j =>
    by_cases hj : i = j
    · exact .inr (.inr (hj ▸ rfl))
    · exact .inl (Function.update_of_ne hj _ _)
  | _ => exact .inl rfl

/-- A client does not replace the dispatcher. -/
theorem dispatcher_stepClient {s : System} {d : Dispatcher} (hd : s.dispatcher = some d) (i : Nat) :
    (s.stepClient i).dispatcher = some d := by
  simp only [stepClient, hd]
  rfl

theorem backlog_stepClient (s : System) (i : Nat) :
    (s.stepClient i).backlog = ((s.clients i).step s.scheduler).1.backlog := rfl

theorem clients_stepClient_self (s : System) (i : Nat) :
    (s.stepClient i).clients i = ((s.clients i).step s.scheduler).2 := Function.update_self i _ s.clients

end System

end TaskScheduling
