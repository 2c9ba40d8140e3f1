import TaskScheduling.Failure.Router
import TaskScheduling.Time

/-!
# Tasks

A task runs once, or again and again with a fixed delay between runs or at a fixed rate.  It carries its next run time,
its state and a note of the queue that holds it.  A task that runs once and was submitted without a delay is
*immediate*: it is queued in order of arrival and not by run time.

Facts about a single task: a change of state happens only from the state named for it (`state_transition`), and neither
it nor a new run time touches anything else.
-/

namespace TaskScheduling

/-- How a recurring task finds its next run time. -/
inductive RecurrenceMode where
  /-- The period counts from the end of the run. -/
  | fixedDelay
  /-- The period counts from the time for which the run was planned. -/
  | fixedRate
  deriving DecidableEq, Repr

namespace RecurrenceMode

def name : RecurrenceMode → String
  | fixedDelay => "fixed-delay"
  | fixedRate => "fixed-rate"

def ofName? (text : String) : Option RecurrenceMode := [fixedDelay, fixedRate].find? (·.name == text)

def inspect : RecurrenceMode → String
  | fixedDelay => "FixedDelay"
  | fixedRate => "FixedRate"

end RecurrenceMode

inductive TaskKind where
  | oneTime
  | recurring (period : Duration) (mode : RecurrenceMode)
  deriving DecidableEq

namespace TaskKind

def isRecurring : TaskKind → Bool
  | oneTime => false
  | recurring _ _ => true

/-- Whether a scheduler takes tasks of this kind: a period has at least one whole millisecond. -/
def isValid : TaskKind → Bool
  | oneTime => true
  | recurring period _ => period.millis != 0

def inspect : TaskKind → String
  | oneTime => "OneTime"
  | recurring period mode => Inspect.record "Recurring" [("period", period.render), ("mode", mode.inspect)]

end TaskKind

inductive TaskState where
  /-- Waiting for its run time. -/
  | pending
  | executing
  /-- Ran, and will not run again. -/
  | done
  /-- Taken back before it could run, or run again. -/
  | cancelled
  deriving DecidableEq, Repr

namespace TaskState

def all : List TaskState := [pending, executing, done, cancelled]

def name : TaskState → String
  | pending => "pending"
  | executing => "executing"
  | done => "done"
  | cancelled => "cancelled"

def ofName? (text : String) : Option TaskState := all.find? (·.name == text)

def inspect : TaskState → String
  | pending => "Pending"
  | executing => "Executing"
  | done => "Done"
  | cancelled => "Cancelled"

def code : TaskState → Nat
  | pending => 0
  | executing => 1
  | done => 2
  | cancelled => 3

/-- The state with this code; a number that is no code counts as `cancelled`. -/
def ofCode (n : Nat) : TaskState := all[n]?.getD cancelled

theorem ofCode_code (s : TaskState) : ofCode s.code = s := by cases s <;> rfl

/-- The first letter of the name. -/
def letter (s : TaskState) : String := String.ofList (s.name.toList.take 1)

end TaskState

/-- The two queues of a priority level. -/
inductive QueueKind where
  /-- Immediate tasks, in order of arrival. -/
  | ready
  /-- All others, in order of run time. -/
  | future
  deriving DecidableEq, Repr

namespace QueueKind

def name : QueueKind → String
  | ready => "ready"
  | future => "future"

def inspect : QueueKind → String
  | ready => "Ready"
  | future => "Future"

end QueueKind

/-- The queue that holds a task, as noted on the task. -/
structure QueueSlot where
  priority : Priority
  kind : QueueKind
  deriving DecidableEq, Repr

namespace QueueSlot

def name (s : QueueSlot) : String := s.priority.name ++ "/" ++ s.kind.name

def inspect (s : QueueSlot) : String :=
  Inspect.record "QueueSlot" [("priority", s.priority.inspect), ("kind", s.kind.inspect)]

end QueueSlot

structure Task where
  id : TaskId
  priority : Priority
  kind : TaskKind
  immediate : Bool
  runAt : Nat
  state : TaskState
  slot : Option QueueSlot
  runs : Nat
  handler : Option FailureHandler
  deriving DecidableEq

namespace Task

/-- A task that first runs `delay` after `now`. -/
def build (id : TaskId) (priority : Priority) (kind : TaskKind) (delay : Duration) (now : Nat)
    (handler : Option FailureHandler) : Task where
  id := id
  priority := priority
  kind := kind
  immediate := !kind.isRecurring && delay.isZero
  runAt := Time.plus now delay.millis
  state := .pending
  slot := none
  runs := 0
  handler := handler

/-- Stands for a task that was never built: it takes no part in anything. -/
def absent : Task where
  id := ⟨0⟩
  priority := .high
  kind := .oneTime
  immediate := false
  runAt := 0
  state := .cancelled
  slot := none
  runs := 0
  handler := none

instance : Inhabited Task := ⟨absent⟩

def isRecurring (t : Task) : Bool := t.kind.isRecurring

/-- The queue of its level in which the task belongs. -/
def queueKind (t : Task) : QueueKind := if t.immediate then .ready else .future

/-- Moves the task from one state to another, if it is in the first. -/
def transition (t : Task) (source target : TaskState) : Task × Bool :=
  if t.state = source then ({ t with state := target }, true) else (t, false)

/-- Counts one more run. -/
def countRun (t : Task) : Task := { t with runs := t.runs + 1 }

/-- The run time after a run that ended at `completedAt`. -/
def nextRunAt (t : Task) (completedAt : Nat) : Nat :=
  match t.kind with
  | .oneTime => t.runAt
  | .recurring period .fixedDelay => Time.plus completedAt period.millis
  | .recurring period .fixedRate => Time.plus t.runAt period.millis

/-- Plans the next run of a recurring task; a task that runs once has no next run. -/
def reschedule (t : Task) (completedAt : Nat) : Except Fault Task :=
  match t.kind with
  | .oneTime => .error (.oneTimeRescheduled t.id)
  | .recurring _ _ => .ok { t with runAt := t.nextRunAt completedAt }

def inspect (t : Task) : String :=
  Inspect.record "Task"
    [("id", t.id.inspect), ("priority", t.priority.inspect), ("kind", t.kind.inspect), ("run_at", toString t.runAt),
      ("state", t.state.inspect), ("slot", Inspect.optional (t.slot.map QueueSlot.inspect)),
      ("failure_handler", Inspect.flag t.handler.isSome)]

theorem state_transition (t : Task) (source target : TaskState) :
    (t.transition source target).1.state = if t.state = source then target else t.state := by
  unfold transition; split <;> rfl

theorem transition_eq_self {t : Task} {source target : TaskState} (h : t.state ≠ source) :
    t.transition source target = (t, false) := by
  simp [transition, h]

@[simp] theorem runAt_build (id : TaskId) (p : Priority) (k : TaskKind) (d : Duration) (now : Nat)
    (h : Option FailureHandler) : (build id p k d now h).runAt = Time.plus now d.millis := rfl

theorem immediate_build_iff (id : TaskId) (p : Priority) (k : TaskKind) (d : Duration) (now : Nat)
    (h : Option FailureHandler) :
    (build id p k d now h).immediate = true ↔ k = .oneTime ∧ d.isZero = true := by
  cases k <;> simp [build, TaskKind.isRecurring]

end Task

/-- What a submission may say about its task beyond the action and the times. -/
structure TaskOptions where
  priority : Option Priority
  handler : Option FailureHandler
  deriving DecidableEq

namespace TaskOptions

def inspect (o : TaskOptions) : String :=
  Inspect.record "TaskOptions"
    [("priority", Inspect.optional (o.priority.map Priority.inspect)),
      ("failure_handler", Inspect.flag o.handler.isSome)]

end TaskOptions

end TaskScheduling
