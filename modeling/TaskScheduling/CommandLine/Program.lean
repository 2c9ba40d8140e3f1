import TaskScheduling.CommandLine.Arguments
import TaskScheduling.CommandLine.Help
import TaskScheduling.CommandLine.Surroundings
import TaskScheduling.CommandLine.Workload
import TaskScheduling.Config.Storage

/-!
# The program

Settings are loaded before anything else is done, whatever the command.  What a command has printed stays printed when
it fails later on.
-/

namespace TaskScheduling.CommandLine

/-- What is left of a run of the program. -/
structure ExitReport where
  code : Nat
  output : String
  errors : String
  deriving DecidableEq, Repr

namespace ExitReport

def success (output : String) : ExitReport := ⟨0, output, ""⟩

/-- A failure in some attempt, after some output. -/
def failure (output attempt cause : String) : ExitReport :=
  ⟨1, output, "Error: " ++ attempt ++ "\n\nCaused by:\n    " ++ cause ++ "\n"⟩

/-- A panic after some output.  The report of a panic is set apart by an empty line. -/
def panic (output message : String) : ExitReport := ⟨101, output, "\nthread 'main' panicked:\n" ++ message ++ "\n"⟩

def ofDiversion : Diversion → ExitReport
  | .help verb => success (helpText verb)
  | .version => success (versionText ++ "\n")
  | .nothingAsked => ⟨2, "", helpText none⟩
  | .misuse e => ⟨2, "", "error: " ++ e.message ++ "\n\nFor more information, try '--help'.\n"⟩

/-- The first line of what was reported as an error. -/
def firstError (r : ExitReport) : String := (Lines.ofText r.errors).headD ""

end ExitReport

open ExitReport

private def loadAttempt : Option Path → String
  | some path => "Failed to load config: " ++ path.text
  | none => "Failed to load user config"

private def ofEnding : Console × Ending → ExitReport
  | (console, .summary json) => success (console.print (json.indented 0 ++ "\n")).text
  | (console, .refused recurring cause) =>
    let attempt := if recurring then "Failed to submit recurring task" else "Failed to submit task"
    failure console.text attempt cause.message
  | (console, .panicked message) => panic console.text message

variable {m : Type → Type} [Monad m] [FileStore m]

/-- Prints the settings, and then also writes them to a file if one is given. -/
def showSettings (settings : Settings) (save : Option Path) : m ExitReport := do
  match settings.fileText, save with
  | .error (.fault cause), _ => pure (panic "" cause.message)
  | .error e, _ => pure (failure "" "Failed to write config" e.message)
  | .ok text, none => pure (success text)
  | .ok text, some path =>
    match ← (settings.save path).run with
    | .ok () => pure (success text)
    | .error e => pure (failure text ("Failed to save config: " ++ path.text) e.message)

/-- Runs the program.  `entropy` decides on a workload for which no seed is given. -/
def runProgram (environment : Environment) (entropy : Nat) (arguments : List String) : m ExitReport := do
  match Invocation.ofArguments arguments with
  | .error diversion => pure (ofDiversion diversion)
  | .ok invocation =>
    match ← (Settings.loadOrDefault environment invocation.config).run with
    | .error e => pure (failure "" (loadAttempt invocation.config) e.message)
    | .ok settings =>
      let console := Console.start (.ofVerbosity invocation.verbosity)
      match invocation.order with
      | .run tasks recurring duration seed =>
        pure (ofEnding ((Workload.mk tasks recurring duration (seed.getD entropy)).run settings console))
      | .tick ticks interval =>
        let (console, summary) := driveTicks ticks interval console
        pure (ofEnding (console, .summary summary.toJson))
      | .config save => showSettings settings save
      | .version => pure (success (versionText ++ "\n"))

end TaskScheduling.CommandLine
