import TaskScheduling.Dispatch.Scheduler

/-!
# Shutdowns

A shutdown is requested, then clears the queues as its mode says, and then wakes the dispatcher, which stops the pool
when nothing is left; without a dispatcher it stops the pool itself.  These are single steps, and others may act in
between.

`PooledScheduler.shutdownWith` is a shutdown during which nothing else happens.
-/

namespace TaskScheduling

inductive Shutdown where
  | raising (mode : ShutdownMode)
  | clearing (scope : Scope) (c : Clearance)
  | counting (discarded : List TaskId)
  | waking (discarded : List TaskId)
  | ended (discarded : List TaskId)
  deriving DecidableEq, Repr

namespace PooledScheduler

/-- Tells the dispatcher, or in its absence the pool, that a shutdown has been requested. -/
def passOnShutdown (s : PooledScheduler) : PooledScheduler :=
  if s.dispatcher.thread.isSome then s.wakeDispatcher else { s with pool := s.pool.stop }

end PooledScheduler

namespace Shutdown

def step (s : PooledScheduler) : Shutdown → PooledScheduler × Shutdown
  | raising mode => (s.raise mode, clearing mode.scope (.begin mode.scope))
  | clearing _ (.ended discarded) => (s, counting discarded)
  | clearing scope c =>
    let (backlog, c) := c.step scope s.backlog
    ({ s with backlog := backlog }, clearing scope c)
  | counting discarded => (s.countCancelled discarded.length, waking discarded)
  | waking discarded => (s.passOnShutdown, ended discarded)
  | ended discarded => (s, ended discarded)

end Shutdown

namespace PooledScheduler

/-- Requests a shutdown; the answer names the tasks that it has cancelled. -/
def shutdownWith (s : PooledScheduler) (mode : ShutdownMode) : PooledScheduler × List TaskId :=
  let s := s.raise mode
  let (backlog, discarded) := s.backlog.clear mode.scope
  (({ s with backlog := backlog }.countCancelled discarded.length).passOnShutdown, discarded)

/-- Discards everything queued and interrupts what is running. -/
def shutdownNow (s : PooledScheduler) : PooledScheduler × List TaskId :=
  let (s, discarded) := s.shutdownWith .discardPending
  ({ s with pool := s.pool.interruptAll }, discarded)

end PooledScheduler

end TaskScheduling
