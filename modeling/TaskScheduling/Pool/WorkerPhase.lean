import TaskScheduling.Pool.Basic

/-!
# The life of a worker

A worker takes the task that it was given, and has it executed; then it returns to the idle stack or leaves.  With
nothing to do it sleeps until it is woken or its keep-alive time is over, and then tries to leave, which it cannot if
it has just been reserved.

`step` takes the worker one step on.  In the phase `working` it waits for its task to be executed, in the phase
`parked` for a wake-up or a time, and in the phase `announcing` for whoever is told that it is idle.
-/

namespace TaskScheduling

inductive WorkerPhase where
  /-- About to look for a task; idle since the time given. -/
  | fetching (idleSince : Nat)
  | working (task : TaskId)
  /-- The task has been executed. -/
  | finished
  | releasing
  | announcing
  /-- About to see whether to leave. -/
  | deciding (idleSince : Nat)
  | retiring (idleSince : Nat)
  | parked (idleSince : Nat) (until? : Option Nat)
  | exited
  deriving DecidableEq, Repr

namespace WorkerPhase

def step (p : Pool) (id now : Nat) : WorkerPhase → Pool × WorkerPhase
  | fetching idleSince =>
    match p.takeTask id with
    | (p, some task) => (p, working task)
    | (p, none) => (p, deciding idleSince)
  | working task => (p, working task)
  | finished => (p.modifyWorker id fun w => { w with interrupted := false }, releasing)
  | releasing =>
    match p.release id with
    | (p, true) => (p, announcing)
    | (p, false) => (p, exited)
  | announcing => (p, fetching now)
  | deciding idleSince =>
    if p.isDismissed id || p.stopping || now - idleSince ≥ p.keepAlive then (p, retiring idleSince)
    else (p, parked idleSince (some (idleSince + p.keepAlive)))
  | retiring idleSince =>
    match p.retire id with
    | (p, true) => (p, exited)
    | (p, false) => (p, parked idleSince none)
  | parked idleSince until? =>
    if p.isWoken id then (p.modifyWorker id fun w => { w with woken := false }, fetching idleSince)
    else if until?.any (· ≤ now) then (p, fetching idleSince)
    else (p, parked idleSince until?)
  | exited => (p, exited)

/-- Whether a parked worker has a reason to go on. -/
def isAwake (p : Pool) (id now : Nat) : WorkerPhase → Bool
  | parked _ until? => p.isWoken id || until?.any (· ≤ now)
  | _ => true

end WorkerPhase

end TaskScheduling
