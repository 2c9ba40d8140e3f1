import TaskScheduling.Clock
import TaskScheduling.Pool.Basic
import TaskScheduling.Pool.ThreadFactory
import TaskScheduling.Queue.Clearance
import TaskScheduling.Queue.Completion

/-!
# Schedulers on a worker pool

Submissions land in the backlog.  One dispatcher, started by the first submission, picks what is due and hands it to
workers.  This module holds the state that submissions, cancellations, shutdowns, the dispatcher and the workers share;
each of these is a machine of single steps in a module of its own.

* `raise_ge`: a shutdown only becomes stricter.
-/

namespace TaskScheduling

/-- What a shutdown does with queued work. -/
inductive ShutdownMode where
  /-- Recurring tasks are cancelled, the others still run. -/
  | drainPending
  /-- Everything is cancelled. -/
  | discardPending
  deriving DecidableEq, Repr

namespace ShutdownMode

def name : ShutdownMode → String
  | drainPending => "drain-pending"
  | discardPending => "discard-pending"

def ofName? (text : String) : Option ShutdownMode := [drainPending, discardPending].find? (·.name == text)

def inspect : ShutdownMode → String
  | drainPending => "DrainPending"
  | discardPending => "DiscardPending"

/-- The queued tasks that a shutdown in this mode cancels. -/
def scope : ShutdownMode → Scope
  | drainPending => .recurring
  | discardPending => .everything

/-- The mode after a further request: the stricter of the two. -/
def joined : Option ShutdownMode → ShutdownMode → ShutdownMode
  | some discardPending, _ => discardPending
  | _, m => m

/-- How strict a mode is; 0 while there is none. -/
def strictness : Option ShutdownMode → Nat
  | none => 0
  | some drainPending => 1
  | some discardPending => 2

end ShutdownMode

/-- Counters of a scheduler. -/
structure Stats where
  /-- Tasks accepted. -/
  submitted : Nat
  /-- Runs that have ended, also with a panic. -/
  executed : Nat
  /-- Runs that have ended with a panic. -/
  failed : Nat
  /-- Tasks cancelled, one by one or by a shutdown. -/
  cancelled : Nat
  deriving DecidableEq, Repr

namespace Stats

def zero : Stats := ⟨0, 0, 0, 0⟩

end Stats

/-- The counters and gauges of a scheduler at one moment. -/
structure StatsSnapshot where
  submitted : Nat
  executed : Nat
  failed : Nat
  cancelled : Nat
  poolSize : Nat
  idleWorkers : Nat
  queued : Nat
  deriving DecidableEq, Repr

namespace StatsSnapshot

/-- The fields by name, in order. -/
def fields (s : StatsSnapshot) : List (String × Nat) :=
  [("submitted", s.submitted), ("executed", s.executed), ("failed", s.failed), ("cancelled", s.cancelled),
    ("pool_size", s.poolSize), ("idle_workers", s.idleWorkers), ("queued", s.queued)]

def inspect (s : StatsSnapshot) : String :=
  Inspect.record "StatsSnapshot" (s.fields.map fun (name, n) => (name, toString n))

end StatsSnapshot

/-- What is known about the dispatcher from outside. -/
structure DispatcherRecord where
  /-- The name of its thread, once it has been started. -/
  thread : Option String
  running : Bool
  /-- A wake-up that it has not used yet. -/
  woken : Bool
  deriving DecidableEq, Repr

structure PooledScheduler where
  backlog : Backlog
  clock : Clock
  pool : Pool
  factory : ThreadFactory
  router : FailureRouter
  sink : Sink
  defaultPriority : Priority
  /-- How long due low work waits for a free worker before the pool grows for it, in milliseconds. -/
  lowWait : Nat
  shutdown : Option ShutdownMode
  dispatcher : DispatcherRecord
  stats : Stats
  deriving DecidableEq

namespace PooledScheduler

def start (clock : Clock) (pool : Pool) (factory : ThreadFactory) (router : FailureRouter) (sink : Sink)
    (defaultPriority : Priority) (lowWait : Nat) : PooledScheduler where
  backlog := .empty
  clock := clock
  pool := pool
  factory := factory
  router := router
  sink := sink
  defaultPriority := defaultPriority
  lowWait := lowWait
  shutdown := none
  dispatcher := ⟨none, false, false⟩
  stats := .zero

def isShutdown (s : PooledScheduler) : Bool := s.shutdown.isSome

/-- Wakes the dispatcher, if it has been started. -/
def wakeDispatcher (s : PooledScheduler) : PooledScheduler :=
  if s.dispatcher.thread.isSome then { s with dispatcher := { s.dispatcher with woken := true } } else s

def countSubmitted (s : PooledScheduler) : PooledScheduler :=
  { s with stats := { s.stats with submitted := s.stats.submitted + 1 } }

def countExecuted (s : PooledScheduler) : PooledScheduler :=
  { s with stats := { s.stats with executed := s.stats.executed + 1 } }

def countFailed (s : PooledScheduler) : PooledScheduler :=
  { s with stats := { s.stats with failed := s.stats.failed + 1 } }

def countCancelled (s : PooledScheduler) (n : Nat) : PooledScheduler :=
  { s with stats := { s.stats with cancelled := s.stats.cancelled + n } }

/-- Requests a shutdown, which never becomes less strict by it. -/
def raise (s : PooledScheduler) (mode : ShutdownMode) : PooledScheduler :=
  { s with shutdown := some (ShutdownMode.joined s.shutdown mode) }

def snapshot (s : PooledScheduler) : StatsSnapshot where
  submitted := s.stats.submitted
  executed := s.stats.executed
  failed := s.stats.failed
  cancelled := s.stats.cancelled
  poolSize := s.pool.size
  idleWorkers := s.pool.idle.length
  queued := s.backlog.size

/-- Whether the dispatcher and all workers have gone after a shutdown. -/
def isTerminated (s : PooledScheduler) : Bool :=
  s.isShutdown && !s.dispatcher.running && s.pool.isTerminated

/-! ### Settings -/

def setMaxPoolSize (s : PooledScheduler) (n : Nat) : PooledScheduler :=
  { s with pool := s.pool.setMaxSize n }.wakeDispatcher

def setKeepAlive (s : PooledScheduler) (d : Duration) : PooledScheduler := { s with pool := s.pool.setKeepAlive d }

def setLowWait (s : PooledScheduler) (d : Duration) : PooledScheduler := { s with lowWait := d.millis }.wakeDispatcher

/-! ### Cancellation by a caller -/

def cancel (s : PooledScheduler) (id : TaskId) : PooledScheduler × Bool :=
  match s.backlog.cancel id with
  | (backlog, true) => ({ s with backlog := backlog }.countCancelled 1, true)
  | (backlog, false) => ({ s with backlog := backlog }, false)

theorem raise_ge (s : PooledScheduler) (mode : ShutdownMode) :
    ShutdownMode.strictness s.shutdown ≤ ShutdownMode.strictness (s.raise mode).shutdown := by
  simp only [raise]
  rcases s.shutdown with _ | _ | _ <;> cases mode <;> decide

theorem isShutdown_raise (s : PooledScheduler) (mode : ShutdownMode) : (s.raise mode).isShutdown = true := rfl

end PooledScheduler

end TaskScheduling
