import TaskScheduling.Dispatch.Submission

/-!
# Scripts

What the threads of a simulation do is written down as scripts, lists of commands that are carried out in order.  The
action of a task is a list of scripts as well, one for each of its runs; the last one is used again for all later runs.
-/

namespace TaskScheduling.Simulation

/-- Ways to shut a scheduler down. -/
inductive ShutdownOrder where
  | orderly (mode : ShutdownMode)
  /-- Discards what is queued and interrupts what is running. -/
  | now
  deriving DecidableEq, Repr

mutual

inductive Command where
  /-- Submits a task whose action is called `name`. -/
  | submit (name : Option String) (request : Request) (runs : List (List Line))
  | cancel (t : Nat)
  /-- Cancels the submission whose number is `k` modulo the number of submissions so far. -/
  | cancelModulo (k : Nat)
  | handle (t : Nat)
  | state (t : Nat)
  | runCount (t : Nat)
  | defaultPriority
  | interrupted
  | sleep (d : Duration)
  | drop
  /-- Waits until a gate is opened, or also until this thread is interrupted. -/
  | gate (g : Nat) (interruptible : Bool)
  | openGate (g : Nat)
  | awaitState (t : Nat) (state : Option TaskState)
  | awaitRuns (t n : Nat)
  | awaitLog (n : Nat)
  | takeLog
  | check
  | tick
  /-- A tick during which another thread carries out a script. -/
  | tickBeside (helper : List Line)
  | advance (d : Duration)
  | jump (time : Nat)
  | interrupt
  | hasDue
  | count
  | clear
  | now
  | blocking
  | nextRuns (now : Nat)
  | hold
  | release
  | awaitDone
  | awaitPool (size idle : Nat)
  | awaitExecuted (n : Nat)
  | stats
  | pool
  | queued (priority : Option Priority)
  | queues
  | shutdown (order : ShutdownOrder)
  | awaitTermination (d : Duration)
  | shutdownStatus
  | setMaxPoolSize (n : Nat)
  | setKeepAlive (d : Duration)
  | setLowWait (d : Duration)
  | settings
  | router
  | clockHeld
  /-- Ends the action with a panic. -/
  | panic (p : Panic)
  | unknown

/-- A command in a script, and whether its reply is to be logged. -/
inductive Line where
  | line (command : Command) (shown : Bool)

end

instance : Inhabited Command := ⟨.unknown⟩

namespace Line

instance : Inhabited Line := ⟨.line default false⟩

def command : Line → Command
  | line c _ => c

def shown : Line → Bool
  | line _ s => s

end Line

/-- The script for run number `run`, counted from 0. -/
def scriptOf (runs : List (List Line)) (run : Nat) : List Line :=
  (runs[run]?.or runs.getLast?).getD []

end TaskScheduling.Simulation
