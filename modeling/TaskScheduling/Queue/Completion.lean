import TaskScheduling.Queue.Backlog

/-!
# Settling a task after a run

A task that runs once is done.  A recurring task gets its next run time, becomes pending again and returns to its
queue; as it may have been cancelled between the last two steps, when there was nothing to take out of a queue yet, it
is looked at once more and withdrawn in that case.  Each step is taken by itself, and others may act in between.

`Backlog.complete` is a completion during which nothing else happens.
-/

namespace TaskScheduling

inductive Completion where
  /-- The run has ended. -/
  | settling
  /-- The next run is planned, and the task about to become pending. -/
  | returning
  /-- The task is pending, and about to be queued. -/
  | inserting
  /-- The task is queued, and its state about to be looked at again. -/
  | rechecking
  /-- The task was cancelled meanwhile, and is about to leave its queue. -/
  | withdrawing
  /-- Whether the task is queued again. -/
  | ended (requeued : Bool)
  | faulted (fault : Fault)
  deriving DecidableEq, Repr

namespace Completion

def step (b : Backlog) (id : TaskId) (completedAt : Nat) : Completion → Backlog × Completion
  | settling =>
    if (b.task id).isRecurring then
      (b.modify id fun task => { task with runAt := task.nextRunAt completedAt }, returning)
    else ((b.transition id .executing .done).1, ended false)
  | returning =>
    match b.transition id .executing .pending with
    | (b, true) => (b, inserting)
    | (b, false) => (b, ended false)
  | inserting =>
    match b.add id with
    | .ok b => (b, rechecking)
    | .error fault => (b, faulted fault)
  | rechecking => (b, if (b.task id).state = .cancelled then withdrawing else ended true)
  | withdrawing => ((b.remove id).1, ended false)
  | ended requeued => (b, ended requeued)
  | faulted fault => (b, faulted fault)

/-- Several steps with nothing in between. -/
def advance (id : TaskId) (completedAt : Nat) : Nat → Backlog × Completion → Backlog × Completion
  | 0, s => s
  | n + 1, (b, c) => advance id completedAt n (c.step b id completedAt)

/-- The answer of a completion that has ended. -/
def answer : Completion → Except Fault Bool
  | ended requeued => .ok requeued
  | faulted fault => .error fault
  | _ => .ok false

end Completion

namespace Backlog

/-- Settles a task whose run ended at `completedAt`; the answer is whether it is queued again. -/
def complete (b : Backlog) (id : TaskId) (completedAt : Nat) : Backlog × Except Fault Bool :=
  let (b, c) := Completion.advance id completedAt 5 (b, .settling)
  (b, c.answer)

theorem complete_once {b : Backlog} {id : TaskId} (h : (b.task id).isRecurring = false) (completedAt : Nat) :
    b.complete id completedAt = ((b.transition id .executing .done).1, .ok false) := by
  simp [complete, Completion.advance, Completion.step, h, Completion.answer]

end Backlog

end TaskScheduling
