import TaskScheduling.Queue.Backlog

/-!
# Cancelling one task

A cancellation looks at the state of the task, tries to move it from there to `cancelled`, and takes a task that was
pending out of its queue.  Each of these is one step, between which others may act; a task that changed its state after
it was looked at is looked at again.  A task that runs once and has begun cannot be cancelled, and of a recurring task
that is running only the further runs are.

`Backlog.cancel` is a cancellation during which nothing else happens; `cancel_of_pending` and its companions say what
it does in each state.
-/

namespace TaskScheduling

inductive Cancellation where
  /-- About to look at the state. -/
  | looking
  /-- About to move the task to `cancelled` from the state that was seen. -/
  | claiming (seen : TaskState)
  /-- The task is cancelled, and about to be taken out of its queue. -/
  | unlinking
  | ended (claimed : Bool)
  deriving DecidableEq, Repr

namespace Cancellation

def look (task : Task) : Cancellation :=
  match task.state with
  | .pending => claiming .pending
  | .executing => if task.isRecurring then claiming .executing else ended false
  | .done => ended false
  | .cancelled => ended false

def step (b : Backlog) (id : TaskId) : Cancellation → Backlog × Cancellation
  | looking => (b, look (b.task id))
  | claiming seen =>
    match b.transition id seen .cancelled with
    | (b, true) => (b, if seen = .pending then unlinking else ended true)
    | (b, false) => (b, looking)
  | unlinking => ((b.remove id).1, ended true)
  | ended claimed => (b, ended claimed)

/-- Several steps with nothing in between. -/
def advance (id : TaskId) : Nat → Backlog × Cancellation → Backlog × Cancellation
  | 0, s => s
  | n + 1, (b, c) => advance id n (c.step b id)

/-- Whether the call has claimed the task. -/
def claimed : Cancellation → Bool
  | ended claimed => claimed
  | _ => false

end Cancellation

namespace Backlog

/-- Cancels a task; the answer is whether this call did it. -/
def cancel (b : Backlog) (id : TaskId) : Backlog × Bool :=
  let (b, c) := Cancellation.advance id 3 (b, .looking)
  (b, c.claimed)

theorem cancel_of_pending {b : Backlog} {id : TaskId} (h : (b.task id).state = .pending) :
    b.cancel id = (((b.transition id .pending .cancelled).1.remove id).1, true) := by
  simp [cancel, Cancellation.advance, Cancellation.step, Cancellation.look, h, transition, Task.transition,
    Cancellation.claimed]

theorem cancel_of_executing_recurring {b : Backlog} {id : TaskId} (h : (b.task id).state = .executing)
    (hr : (b.task id).isRecurring = true) : b.cancel id = ((b.transition id .executing .cancelled).1, true) := by
  simp [cancel, Cancellation.advance, Cancellation.step, Cancellation.look, h, hr, transition, Task.transition,
    Cancellation.claimed]

theorem cancel_of_executing_once {b : Backlog} {id : TaskId} (h : (b.task id).state = .executing)
    (hr : (b.task id).isRecurring = false) : b.cancel id = (b, false) := by
  simp [cancel, Cancellation.advance, Cancellation.step, Cancellation.look, h, hr, Cancellation.claimed]

theorem cancel_of_settled {b : Backlog} {id : TaskId}
    (h : (b.task id).state = .done ∨ (b.task id).state = .cancelled) : b.cancel id = (b, false) := by
  rcases h with h | h <;>
    simp [cancel, Cancellation.advance, Cancellation.step, Cancellation.look, h, Cancellation.claimed]

end Backlog

end TaskScheduling
