import TaskScheduling.Config.JsonForm
import TaskScheduling.Logging.Console
import TaskScheduling.Simulation.Turn

/-!
# Demonstrations

A random workload for a scheduler with a pool, and a few recurring tasks for one that is driven by ticks.  Both run in
simulated time, and end with a summary.
-/

namespace TaskScheduling.CommandLine

open Simulation

/-- How a demonstration ended. -/
inductive Ending where
  | summary (json : Json)
  /-- A submission failed; it was that of a recurring task or of another one. -/
  | refused (recurring : Bool) (cause : SchedulerError)
  | panicked (message : String)
  deriving Inhabited

structure Workload where
  tasks : Nat
  recurring : Nat
  /-- How long the tasks have to run before the scheduler is shut down, in milliseconds. -/
  duration : Nat
  seed : Nat

namespace Workload

private def randomPriority (g : StdGen) : Priority × StdGen :=
  let (n, g) := randNat g 0 2
  ((Priority.ofRank? n).getD .high, g)

/-- A task that sleeps for some milliseconds at a time. -/
private def sleeper (request : Request) (work : Nat) : Command :=
  .submit none request [[.line (.sleep (.ofMillis work)) false]]

private def recurringTask (g : StdGen) : Command × StdGen :=
  let (period, g) := randNat g 50 249
  let (coin, g) := randNat g 0 1
  let (work, g) := randNat g 1 9
  let (priority, g) := randomPriority g
  let mode : RecurrenceMode := if coin = 0 then .fixedRate else .fixedDelay
  (sleeper ⟨.zero, .recurring (.ofMillis period) mode, ⟨some priority, none⟩⟩ work, g)

private def oneTimeTask (duration : Nat) (g : StdGen) : Command × StdGen :=
  let (delay, g) := randNat g 0 (duration - 1)
  let (work, g) := randNat g 1 19
  let (priority, g) := randomPriority g
  (sleeper ⟨.ofMillis delay, .oneTime, ⟨some priority, none⟩⟩ work, g)

private def draw {α : Type} (make : StdGen → α × StdGen) : Nat → StdGen → List α × StdGen
  | 0, g => ([], g)
  | n + 1, g =>
    let (x, g) := make g
    let (xs, g) := draw make n g
    (x :: xs, g)

/-- The submissions, the recurring ones first. -/
def submissions (w : Workload) : List (Bool × Command) :=
  let (recurring, g) := draw recurringTask w.recurring (mkStdGen w.seed)
  let (oneTime, _) := draw (oneTimeTask w.duration) w.tasks g
  recurring.map (true, ·) ++ oneTime.map (false, ·)

end Workload

/-- The console entry for a shutdown that has discarded some tasks. -/
private def shutdownEntry (mode : ShutdownMode) (discarded : Nat) : LogEntry :=
  ⟨.info, "main", "scheduler shutting down (" ++ mode.inspect ++ "), " ++ toString discarded ++ " tasks discarded"⟩

private def discarded : Reply → Nat
  | .ids xs => xs.length
  | _ => 0

private def shutDown (w : World) (console : Console) (mode : ShutdownMode) : World × Console :=
  let (w, r) := w.perform (.shutdown (.orderly mode))
  (w, console.log (shutdownEntry mode (discarded r)))

/-- Makes the submissions one after another, up to the first that fails. -/
private def submitAll (w : World) : List (Bool × Command) → World × Option Ending
  | [] => (w, none)
  | (recurring, command) :: rest =>
    match w.perform command with
    | (w, .refused cause) => (w, some (.refused recurring cause))
    | (w, .panicked message) => (w, some (.panicked message))
    | (w, _) => submitAll w rest

private def statsOf (w : World) : Json :=
  match w.perform .stats with
  | (_, .stats s) => s.toJson
  | _ => .null

/-- How long a scheduler that is shut down may take to end, in milliseconds. -/
def terminationTimeout : Nat := 10000

/-- Runs a workload, lets the scheduler finish what is queued, and counts what has happened. -/
def Workload.run (load : Workload) (settings : Settings) (console : Console) : Console × Ending :=
  let s := settings.scheduler settings.threadFactory .bare .empty
  match submitAll (World.start (.pooled s false) false) load.submissions with
  | (w, some ending) => ((shutDown w console .discardPending).2, ending)
  | (w, none) =>
    let (w, _) := w.perform (.sleep (.ofMillis load.duration))
    let (w, console) := shutDown w console .drainPending
    match w.perform (.awaitTermination (.ofMillis terminationTimeout)) with
    | (w, .flag true) => (console, .summary (statsOf w))
    | (w, _) =>
      let console := console.log ⟨.warn, "main", "workers still busy after 10s, discarding the rest"⟩
      (console, .summary (statsOf (w.perform (.shutdown .now)).1))

/-- What has come of a number of ticks. -/
structure TickSummary where
  ticks : Nat
  executed : Nat
  failures : Nat
  queued : Nat
  deriving DecidableEq, Repr

def TickSummary.toJson (s : TickSummary) : Json :=
  .ofFields [("ticks", .ofNat s.ticks), ("executed", .ofNat s.executed), ("failures", .ofNat s.failures),
    ("queued", .ofNat s.queued)]

/-- The recurring tasks that are driven by ticks: their priorities, periods in milliseconds and modes. -/
private def ticked : List (Priority × Nat × RecurrenceMode) :=
  [(.high, 20, .fixedRate), (.low, 50, .fixedDelay), (.starvable, 100, .fixedRate)]

private def tickAll (interval : Nat) : Nat → World → Console → Nat → World × Console × Nat
  | 0, w, console, failures => (w, console, failures)
  | n + 1, w, console, failures =>
    let (w, r) := w.perform .tick
    let (console, failures) := match r with
      | .number ran => (console.log ⟨.debug, "main", "tick ran " ++ toString ran ++ " tasks"⟩, failures)
      | .refused (.taskFailed failure) => (console.log ⟨.warn, "main", failure.render⟩, failures + 1)
      | _ => (console, failures)
    tickAll interval n (w.perform (.advance (.ofMillis interval))).1 console failures

/-- Ticks a scheduler a number of times, with a pause behind each tick. -/
def driveTicks (ticks interval : Nat) (console : Console) : Console × TickSummary :=
  let w := World.start (.ticked (.start false (.start (.manual 0)) .high) 0) false
  let w := ticked.foldl (fun w (priority, period, mode) =>
    (w.perform (.submit none ⟨.zero, .recurring (.ofMillis period) mode, ⟨some priority, none⟩⟩ [])).1) w
  let (w, console, failures) := tickAll interval ticks w console 0
  (console, ⟨ticks, w.totalRuns, failures, w.backlog.size⟩)

end TaskScheduling.CommandLine
