/-!
# Task identifiers

A scheduler numbers its tasks from 0 in the order in which it builds them.
-/

namespace TaskScheduling

structure TaskId where
  index : Nat
  deriving DecidableEq, Repr, Inhabited

namespace TaskId

/-- The form used in messages. -/
def name (id : TaskId) : String := "Task(" ++ toString id.index ++ ")"

def inspect (id : TaskId) : String := "TaskId(" ++ toString id.index ++ ")"

/-- Identifiers in ascending order. -/
def sort (ids : List TaskId) : List TaskId := ids.mergeSort fun a b => a.index ≤ b.index

end TaskId

end TaskScheduling
