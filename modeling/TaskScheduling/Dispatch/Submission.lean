import TaskScheduling.Dispatch.Scheduler

/-!
# Submissions

A submission checks that no shutdown has been requested, builds the task, starts the dispatcher if it is the first one,
and queues the task.  A shutdown that came in between may have cleared the queues already, and the dispatcher may have
gone; so the submission checks once more and takes its task back, unless it has been dispatched meanwhile.

`PooledScheduler.submit` is a submission during which nothing else happens.
-/

namespace TaskScheduling

/-- What a submission asks for. -/
structure Request where
  delay : Duration
  kind : TaskKind
  options : TaskOptions
  deriving DecidableEq

inductive Submission where
  | checking
  | building
  /-- About to make sure that there is a dispatcher. -/
  | preparing (task : Task)
  | inserting (task : Task)
  | rechecking (id : TaskId)
  | withdrawing (id : TaskId) (c : Cancellation)
  /-- The task could not be withdrawn; about to see whether somebody else has cancelled it. -/
  | examining (id : TaskId)
  | counting (id : TaskId)
  | waking (id : TaskId)
  | ended (result : Except Trouble TaskId)

namespace PooledScheduler

/-- Starts the dispatcher unless there is one.  After a shutdown nothing may start it. -/
def ensureDispatcher (s : PooledScheduler) : PooledScheduler × Except Trouble Unit :=
  if s.dispatcher.thread.isSome then (s, .ok ())
  else if s.isShutdown then (s, .error (.error .shutdown))
  else
    match s.factory.spawn with
    | (factory, .error trouble) => ({ s with factory := factory }, .error trouble)
    | (factory, .ok name) => ({ s with factory := factory, dispatcher := ⟨some name, true, false⟩ }, .ok ())

end PooledScheduler

namespace Submission

def step (s : PooledScheduler) (r : Request) : Submission → PooledScheduler × Submission
  | checking => (s, if s.isShutdown then ended (.error (.error .shutdown)) else building)
  | building =>
    let (now, clock) := s.clock.now
    let s := { s with clock := clock }
    if r.kind.isValid then
      let (task, backlog) :=
        s.backlog.build now r.delay r.kind (r.options.priority.getD s.defaultPriority) r.options.handler
      ({ s with backlog := backlog }, preparing task)
    else (s, ended (.error (.error .invalidPeriod)))
  | preparing task =>
    match s.ensureDispatcher with
    | (s, .ok ()) => (s, inserting task)
    | (s, .error trouble) => (s, ended (.error trouble))
  | inserting task =>
    match (s.backlog.enter task).add task.id with
    | .ok backlog => ({ s with backlog := backlog }, rechecking task.id)
    | .error fault => (s, ended (.error (.fault fault)))
  | rechecking id => (s, if s.isShutdown then withdrawing id .looking else counting id)
  | withdrawing id (.ended claimed) => (s, if claimed then ended (.error (.error .shutdown)) else examining id)
  | withdrawing id c =>
    let (backlog, c) := c.step s.backlog id
    ({ s with backlog := backlog }, withdrawing id c)
  | examining id =>
    (s, if (s.backlog.task id).state = .cancelled then ended (.error (.error .shutdown)) else counting id)
  | counting id => (s.countSubmitted, waking id)
  | waking id => (s.wakeDispatcher, ended (.ok id))
  | ended result => (s, ended result)

/-- Several steps with nothing in between. -/
def advance (r : Request) : Nat → PooledScheduler × Submission → PooledScheduler × Submission
  | 0, s => s
  | n + 1, (s, m) => advance r n (m.step s r)

/-- The answer of a submission that has ended. -/
def answer : Submission → Except Trouble TaskId
  | ended result => result
  | _ => .error (.error .shutdown)

end Submission

namespace PooledScheduler

def submit (s : PooledScheduler) (r : Request) : PooledScheduler × Except Trouble TaskId :=
  let (s, m) := Submission.advance r 7 (s, .checking)
  (s, m.answer)

theorem submit_of_shutdown {s : PooledScheduler} (h : s.isShutdown = true) (r : Request) :
    s.submit r = (s, .error (.error .shutdown)) := by
  simp [submit, Submission.advance, Submission.step, h, Submission.answer]

end PooledScheduler

end TaskScheduling
