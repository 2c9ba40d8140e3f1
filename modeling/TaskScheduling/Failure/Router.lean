import TaskScheduling.Failure.Basic

/-!
# Routing of failures

A failure goes to the first handler there is: the one the task was submitted with, the one all workers inherit, the
default one, and last the one of the thread's factory.  With no handler the trace of the failure is written out.  A
handler that panics itself does no harm: the trace is written then as well, followed by what the handler said.

* `resolve_eq_none_iff`: only a failure that meets no handler at all is unhandled.
* `delivery_written_of_handled`: nothing is written about a failure whose handler returned.
-/

namespace TaskScheduling

/-- What a failure handler does with a failure. -/
inductive Reaction where
  | returns
  | panics (panic : Panic)
  deriving DecidableEq, Repr

structure FailureHandler where
  name : String
  reaction : Reaction
  deriving DecidableEq, Repr

/-- The handlers that a scheduler was given for all of its tasks. -/
structure FailureRouter where
  inheritable : Option FailureHandler
  fallback : Option FailureHandler
  deriving DecidableEq, Repr

/-- What routing one failure did: the handler that was called, and the text that was written out. -/
structure Delivery where
  called : Option FailureHandler
  written : Option String
  deriving DecidableEq, Repr

namespace FailureRouter

/-- A router without handlers. -/
def bare : FailureRouter := ⟨none, none⟩

/-- The handler that gets a failure of a task with the handler `own`, on a thread whose factory has `uncaught`. -/
def resolve (r : FailureRouter) (own uncaught : Option FailureHandler) : Option FailureHandler :=
  own.or (r.inheritable.or (r.fallback.or uncaught))

/-- The text written after `failure` when its handler panicked. -/
def brokenHandlerText (failure : TaskFailure) (panic : Panic) : String :=
  failure.trace ++ "Failure handler panicked: " ++ panic.message ++ "\n"

def route (r : FailureRouter) (failure : TaskFailure) (own uncaught : Option FailureHandler) : Delivery :=
  match r.resolve own uncaught with
  | none => ⟨none, some failure.trace⟩
  | some handler =>
    match handler.reaction with
    | .returns => ⟨some handler, none⟩
    | .panics panic => ⟨some handler, some (brokenHandlerText failure panic)⟩

def inspect (r : FailureRouter) : String :=
  Inspect.record "FailureRouter"
    [("inheritable", Inspect.flag r.inheritable.isSome), ("default", Inspect.flag r.fallback.isSome)]

theorem resolve_eq_none_iff (r : FailureRouter) (own uncaught : Option FailureHandler) :
    r.resolve own uncaught = none ↔
      own = none ∧ r.inheritable = none ∧ r.fallback = none ∧ uncaught = none := by
  simp [resolve]

theorem delivery_called (r : FailureRouter) (failure : TaskFailure) (own uncaught : Option FailureHandler) :
    (r.route failure own uncaught).called = r.resolve own uncaught := by
  unfold route
  split
  · simp [*]
  · split <;> simp [*]

theorem delivery_written_of_handled {r : FailureRouter} {failure : TaskFailure} {own uncaught : Option FailureHandler}
    {h : FailureHandler} (hr : r.resolve own uncaught = some h) (hreturns : h.reaction = .returns) :
    (r.route failure own uncaught).written = none := by
  simp [route, hr, hreturns]

end FailureRouter

/-- Where failures are written when no handler keeps them; a broken sink loses what is written to it. -/
structure Sink where
  works : Bool
  text : String
  deriving DecidableEq, Repr

namespace Sink

def empty : Sink := ⟨true, ""⟩

def write (s : Sink) (text : Option String) : Sink :=
  if s.works then { s with text := s.text ++ text.getD "" } else s

end Sink

end TaskScheduling
