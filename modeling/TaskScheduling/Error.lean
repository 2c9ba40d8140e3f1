import TaskScheduling.Failure.Basic

/-!
# Errors of a scheduler
-/

namespace TaskScheduling

/-- Why a thread could not be started. -/
inductive SpawnCause where
  /-- The thread factory declined, with a text of its own. -/
  | declined (text : String)
  /-- The system has no room for the stack of the thread. -/
  | noRoom
  /-- The stack of the thread would not fit between any two addresses. -/
  | stackTooLarge
  deriving DecidableEq, Repr

namespace SpawnCause

def kindName : SpawnCause → String
  | declined _ => "Other"
  | noRoom => "WouldBlock"
  | stackTooLarge => "InvalidInput"

def message : SpawnCause → String
  | declined text => text
  | noRoom => "Resource temporarily unavailable (os error 11)"
  | stackTooLarge => "Invalid argument (os error 22)"

end SpawnCause

inductive SchedulerError where
  | shutdown
  | invalidPeriod
  | interrupted
  | threadSpawn (cause : SpawnCause)
  | taskFailed (failure : TaskFailure)
  deriving DecidableEq, Repr

namespace SchedulerError

def message : SchedulerError → String
  | shutdown => "Scheduler is shut down"
  | invalidPeriod => "Recurring period must be at least one millisecond"
  | interrupted => "Interrupted while waiting for tasks"
  | threadSpawn cause => "Failed to start scheduler thread: " ++ cause.message
  | taskFailed failure => failure.render

end SchedulerError

/-- Why an operation of a scheduler did not come to its end: it returned an error, or a fault broke it off. -/
inductive Trouble where
  | error (cause : SchedulerError)
  | fault (cause : Fault)
  deriving DecidableEq, Repr

/-- A defect in the bookkeeping of the queues of one priority. -/
structure InvariantViolation where
  priority : Priority
  detail : String
  deriving DecidableEq, Repr

namespace InvariantViolation

def message (v : InvariantViolation) : String :=
  "queue invariant violated in the " ++ v.priority.name ++ " queue set: " ++ v.detail

def inspect (v : InvariantViolation) : String :=
  Inspect.record "InvariantViolation" [("priority", v.priority.inspect), ("detail", Quoted.quote v.detail)]

end InvariantViolation

end TaskScheduling
