import TaskScheduling.Fault
import TaskScheduling.Text.Inspect
import TaskScheduling.Text.Quoted

/-!
# Task failures

A task whose action panics has failed.  The failure remembers the task, the name of the thread on which it ran and what
the panic said.
-/

namespace TaskScheduling

structure TaskFailure where
  task : TaskId
  thread : String
  message : String
  deriving DecidableEq, Repr

namespace TaskFailure

/-- A failure on the thread of this name, which may have none. -/
def onThread (thread : Option String) (task : TaskId) (message : String) : TaskFailure :=
  ⟨task, thread.getD "<unnamed>", message⟩

def ofPanic (thread : Option String) (task : TaskId) (panic : Panic) : TaskFailure :=
  onThread thread task panic.message

def render (f : TaskFailure) : String :=
  f.task.name ++ " panicked on thread '" ++ f.thread ++ "': " ++ f.message

/-- What is written when nobody handles the failure. -/
def trace (f : TaskFailure) : String := "Uncaught task failure: " ++ f.render ++ "\n"

def inspect (f : TaskFailure) : String :=
  Inspect.record "TaskFailure"
    [("task_id", f.task.inspect), ("thread", Quoted.quote f.thread), ("message", Quoted.quote f.message)]

@[simp] theorem task_onThread (thread : Option String) (id : TaskId) (m : String) :
    (onThread thread id m).task = id := rfl

@[simp] theorem message_onThread (thread : Option String) (id : TaskId) (m : String) :
    (onThread thread id m).message = m := rfl

end TaskFailure

end TaskScheduling
