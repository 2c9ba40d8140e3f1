import TaskScheduling.Priority
import TaskScheduling.Task.Id

/-!
# Faults and panics

A fault is a broken rule that a scheduler notices about its own use: it ends the operation that broke it.  A panic is
how the action of a task, or a failure handler, ends without returning; what it carries may or may not be a text.
-/

namespace TaskScheduling

inductive Fault where
  /-- A manual time source was moved past the largest time; it has wrapped around by then. -/
  | timeOverflow
  | oneTimeRescheduled (id : TaskId)
  | wrongQueueSet (id : TaskId) (set : Priority)
  | stillQueued (id : TaskId)
  /-- A tick was started while another one was in progress. -/
  | nestedTick
  /-- A thread was to be started under a name that no thread can have. -/
  | unusableThreadName
  /-- A wait was to end later than the machine's clock can tell. -/
  | unreachableDeadline
  /-- A place in a pool was given back that had never been promised. -/
  | unpromisedPlace
  /-- Something that the program relies on has broken off. -/
  | elsewhere (message : String)
  deriving DecidableEq, Repr

namespace Fault

def message : Fault → String
  | timeOverflow => "attempt to add with overflow"
  | oneTimeRescheduled id => "one-time task " ++ id.name ++ " rescheduled"
  | wrongQueueSet id set => id.name ++ " routed to the " ++ set.name ++ " queue set"
  | stillQueued id => id.name ++ " inserted while still queued"
  | nestedTick => "TickScheduler::tick entered concurrently"
  | unusableThreadName => "thread name may not contain interior null bytes"
  | unreachableDeadline => "overflow when adding duration to instant"
  | unpromisedPlace => "attempt to subtract with overflow"
  | elsewhere message => message

end Fault

/-- What a panic carries. -/
inductive Panic where
  | text (message : String)
  | other
  deriving DecidableEq, Repr

namespace Panic

/-- The best description of a panic that there is. -/
def message : Panic → String
  | text message => message
  | other => "non-string panic payload"

/-- A fault inside an action panics with the text of the fault. -/
def ofFault (fault : Fault) : Panic := text fault.message

end Panic

end TaskScheduling
