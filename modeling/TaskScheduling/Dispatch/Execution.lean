import TaskScheduling.Dispatch.Scheduler

/-!
# Execution on a worker

A worker runs the action of its task, routes the failure if the action panics, and settles the task: a recurring task
is not queued again once a shutdown has been requested.

`step` takes the execution one step on.  In the phase `running` it waits for the action to end, which `finish` reports.
-/

namespace TaskScheduling

inductive Execution where
  | starting
  | running
  | failing (panic : Panic)
  | routing (failure : TaskFailure)
  /-- What was done about the failure, if there was one. -/
  | counting (delivery : Option Delivery)
  | settling
  /-- A recurring task is about to be cancelled because of a shutdown. -/
  | dropping
  | recording
  | stamping
  | completing (completedAt : Nat) (c : Completion)
  | waking
  | ended
  | faulted (fault : Fault)
  deriving DecidableEq, Repr

namespace Execution

def step (s : PooledScheduler) (id : TaskId) (thread : Option String) : Execution → PooledScheduler × Execution
  | starting => ({ s with backlog := s.backlog.modify id Task.countRun }, running)
  | running => (s, running)
  | failing panic => (s.countFailed, routing (.ofPanic thread id panic))
  | routing failure =>
    let delivery := s.router.route failure (s.backlog.task id).handler s.factory.uncaught
    ({ s with sink := s.sink.write delivery.written }, counting (some delivery))
  | counting _ => (s.countExecuted, settling)
  | settling => (s, if (s.backlog.task id).isRecurring && s.isShutdown then dropping else stamping)
  | dropping =>
    match s.backlog.transition id .executing .cancelled with
    | (backlog, true) => ({ s with backlog := backlog }, recording)
    | (backlog, false) => ({ s with backlog := backlog }, ended)
  | recording => (s.countCancelled 1, ended)
  | stamping =>
    let (now, clock) := s.clock.accurate
    ({ s with clock := clock }, completing now .settling)
  | completing _ (.ended requeued) => (s, if requeued then waking else ended)
  | completing _ (.faulted fault) => (s, faulted fault)
  | completing completedAt c =>
    let (backlog, c) := c.step s.backlog id completedAt
    ({ s with backlog := backlog }, completing completedAt c)
  | waking => (s.wakeDispatcher, ended)
  | ended => (s, ended)
  | faulted fault => (s, faulted fault)

/-- The phase after the action has ended, perhaps with a panic. -/
def finish (outcome : Option Panic) : Execution → Execution
  | running => match outcome with
    | some panic => failing panic
    | none => counting none
  | e => e

end Execution

end TaskScheduling
