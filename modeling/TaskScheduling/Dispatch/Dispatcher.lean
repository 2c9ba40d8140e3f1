import TaskScheduling.Dispatch.Scheduler

/-!
# The dispatcher

One round of the dispatcher: once a shutdown has been requested, clear away what came back into the queues, and leave
if they are empty; pick what is due; ask the pool for a worker; take the task out of its queue, claim it and hand it
over.  A task that was cancelled since it was picked is dropped, and one whose worker has left goes back to its queue.
Without work, without a worker, or when no worker can be started, the dispatcher parks.

`step` takes the dispatcher one step on.  In the phase `parked` it waits for a wake-up or a time.
-/

namespace TaskScheduling

/-- What a parked dispatcher waits for. -/
inductive ParkReason where
  | nothingDue
  /-- A place in the pool for this task. -/
  | place (id : TaskId)
  /-- A worker for this task. -/
  | worker (id : TaskId)
  /-- Another attempt to start a worker. -/
  | retry
  deriving DecidableEq, Repr

inductive Dispatcher where
  | checking
  | sweeping (scope : Scope) (c : Clearance)
  | counting (discarded : List TaskId)
  | leaveTaking
  | picking
  | acquiring (id : TaskId) (now lowWait : Nat)
  /-- About to see what comes before a time at which there may be a place. -/
  | consulting (id : TaskId) (now deadline : Nat)
  | registering (id : TaskId)
  | spawning (id : TaskId) (worker : Nat)
  /-- A thread of this name has been started for the worker. -/
  | spawned (id : TaskId) (worker : Nat) (thread : String)
  | unlinking (id : TaskId) (worker : Nat)
  | claiming (id : TaskId) (worker : Nat)
  | handing (id : TaskId) (worker : Nat)
  | restoring (id : TaskId)
  | reinserting (id : TaskId)
  | releasing (worker : Nat)
  | parked (until? : Option Nat) (reason : ParkReason)
  | stopping
  | leaving
  | exited
  | faulted (fault : Fault)
  deriving DecidableEq, Repr

namespace Dispatcher

/-- The pause after a worker could not be started, in milliseconds. -/
def retryPause : Nat := 50

/-- When a dispatcher that parks at `now` until `at?` wakes up; it sleeps at least a millisecond. -/
def parkEnd (now : Nat) (at? : Option Nat) : Option Nat := at?.map fun t => now + max (t - now) 1

def step (s : PooledScheduler) : Dispatcher → PooledScheduler × Dispatcher
  | checking =>
    match s.shutdown with
    | some mode => (s, sweeping mode.scope (.begin mode.scope))
    | none => (s, counting [])
  | sweeping _ (.ended discarded) => (s, counting discarded)
  | sweeping scope c =>
    let (backlog, c) := c.step scope s.backlog
    ({ s with backlog := backlog }, sweeping scope c)
  | counting discarded => (s.countCancelled discarded.length, leaveTaking)
  | leaveTaking => (s, if s.isShutdown && s.backlog.isEmpty then stopping else picking)
  | picking =>
    let (now, clock) := s.clock.accurate
    let s := { s with clock := clock }
    match s.backlog.nextDue now (some s.lowWait) with
    | some id => (s, acquiring id now s.lowWait)
    | none => (s, parked (parkEnd now s.backlog.nextRunAt) .nothingDue)
  | acquiring id now lowWait =>
    let task := s.backlog.task id
    let (pool, answer) := s.pool.acquire task.priority task.runAt now lowWait
    let s := { s with pool := pool }
    match answer with
    | .idle worker => (s, unlinking id worker)
    | .grow => (s, registering id)
    | .waitUntil deadline => (s, consulting id now deadline)
    | .wait => (s, parked none (.worker id))
  | consulting id now deadline =>
    let wake := QueueSet.earlier (s.backlog.nextRunAfter now) (some deadline)
    (s, parked (parkEnd now wake) (.place id))
  | registering id =>
    let (pool, worker) := s.pool.register
    ({ s with pool := pool }, spawning id worker)
  | spawning id worker =>
    match s.factory.spawn with
    | (factory, .ok thread) => ({ s with factory := factory }, spawned id worker thread)
    | (factory, .error (.error _)) =>
      ({ s with factory := factory, pool := s.pool.removeWorker worker },
        parked (some (s.clock.source.reading + retryPause)) .retry)
    | (factory, .error (.fault fault)) => ({ s with factory := factory }, faulted fault)
  | spawned id worker _ => (s, unlinking id worker)
  | unlinking id worker =>
    match s.backlog.remove id with
    | (backlog, true) => ({ s with backlog := backlog }, claiming id worker)
    | (backlog, false) => ({ s with backlog := backlog }, releasing worker)
  | claiming id worker =>
    match s.backlog.begin id with
    | (backlog, true) => ({ s with backlog := backlog }, handing id worker)
    | (backlog, false) => ({ s with backlog := backlog }, releasing worker)
  | handing id worker =>
    match s.pool.hand worker id with
    | (pool, true) => ({ s with pool := pool }, checking)
    | (pool, false) => ({ s with pool := pool }, restoring id)
  | restoring id =>
    match s.backlog.transition id .executing .pending with
    | (backlog, true) => ({ s with backlog := backlog }, reinserting id)
    | (backlog, false) => ({ s with backlog := backlog }, checking)
  | reinserting id =>
    match s.backlog.add id with
    | .ok backlog => ({ s with backlog := backlog }, checking)
    | .error fault => (s, faulted fault)
  | releasing worker => ({ s with pool := s.pool.releaseUnused worker }, checking)
  | parked until? reason =>
    if s.dispatcher.woken then ({ s with dispatcher := { s.dispatcher with woken := false } }, checking)
    else if until?.any (· ≤ s.clock.source.reading) then (s, checking)
    else (s, parked until? reason)
  | stopping => ({ s with pool := s.pool.stop }, leaving)
  | leaving => ({ s with dispatcher := { s.dispatcher with running := false } }, exited)
  | exited => (s, exited)
  | faulted fault => (s, faulted fault)

/-- Whether the dispatcher has something to do now. -/
def isAwake (s : PooledScheduler) : Dispatcher → Bool
  | parked until? _ => s.dispatcher.woken || until?.any (· ≤ s.clock.source.reading)
  | exited => false
  | faulted _ => false
  | _ => true

end Dispatcher

end TaskScheduling
