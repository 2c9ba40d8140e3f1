import TaskScheduling.Error
import TaskScheduling.Failure.Router

/-!
# Thread factories

A factory decides how the threads of a scheduler are named, how much stack they get, whether they hold up the owner of
the scheduler when it goes (`daemon` threads do not), and which handler gets the failures that nobody else takes.
-/

namespace TaskScheduling

/-- How a factory names its threads. -/
inductive ThreadNaming where
  /-- By a stem, the number of the pool if there is one, and the number of the thread. -/
  | numbered (stem : String) (pool : Option Nat)
  | same (name : String)
  deriving DecidableEq, Repr

structure ThreadFactory where
  naming : ThreadNaming
  nextThread : Nat
  daemon : Bool
  stackSize : Option Nat
  uncaught : Option FailureHandler
  /-- Attempts to start a thread so far. -/
  attempts : Nat
  /-- The attempts, counted from 0, that the factory declines. -/
  declines : List Nat
  deriving DecidableEq, Repr

namespace ThreadFactory

/-- A factory for threads numbered from 1 behind a stem. -/
def numbered (stem : String) (pool : Option Nat) (daemon : Bool) (stackSize : Option Nat)
    (uncaught : Option FailureHandler) : ThreadFactory where
  naming := .numbered stem pool
  nextThread := 1
  daemon := daemon
  stackSize := stackSize
  uncaught := uncaught
  attempts := 0
  declines := []

/-- A factory that gives all its threads one name, and otherwise has no wishes. -/
def plain (name : String) : ThreadFactory where
  naming := .same name
  nextThread := 1
  daemon := true
  stackSize := none
  uncaught := none
  attempts := 0
  declines := []

/-- The stem of factories that were given none. -/
def defaultStem : String := "priosched"

/-- What is wrong with a stack of this size.  No machine has room for 2 ^ 40 bytes; together with the page that guards
it, a stack takes fewer than 2 ^ 64. -/
def stackDefect? (size : Nat) : Option SpawnCause :=
  if Nat.pow 2 64 - 4096 ≤ size then some .stackTooLarge
  else if Nat.pow 2 40 ≤ size then some .noRoom
  else none

def nameOf (naming : ThreadNaming) (n : Nat) : String :=
  match naming with
  | .numbered stem (some pool) => stem ++ "-" ++ toString pool ++ "-" ++ toString n
  | .numbered stem none => stem ++ "-" ++ toString n
  | .same name => name

/-- Starts a thread; the answer is its name. -/
def spawn (f : ThreadFactory) : ThreadFactory × Except Trouble String :=
  let attempt := f.attempts
  let f := { f with attempts := attempt + 1 }
  if attempt ∈ f.declines then (f, .error (.error (.threadSpawn (.declined "injected"))))
  else
    let name := nameOf f.naming f.nextThread
    let f := { f with nextThread := f.nextThread + 1 }
    if name.toList.contains '\x00' then (f, .error (.fault .unusableThreadName))
    else
      match f.stackSize.bind stackDefect? with
      | some cause => (f, .error (.error (.threadSpawn cause)))
      | none => (f, .ok name)

def inspect (f : ThreadFactory) : String :=
  match f.naming with
  | .numbered stem pool =>
    Inspect.record "ConfigurableThreadFactory"
      [("prefix", Quoted.quote stem), ("pool_id", Inspect.optional (pool.map toString)),
        ("daemon", Inspect.flag f.daemon), ("stack_size", Inspect.optional (f.stackSize.map toString)),
        ("uncaught", Inspect.flag f.uncaught.isSome)]
  | .same name => Inspect.wrapped "PlainThreadFactory" (Quoted.quote name)

end ThreadFactory

end TaskScheduling
