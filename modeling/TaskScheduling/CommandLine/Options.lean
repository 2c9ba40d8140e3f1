/-!
# The options of the command line

The program has options of its own and commands with further options.  Those that ask for more output and that name a
configuration file may stand on either side of the command.
-/

namespace TaskScheduling.CommandLine

inductive ValueKind where
  /-- A number of 64 bits without a sign. -/
  | number
  /-- A path that is not empty. -/
  | file
  deriving DecidableEq, Repr

/-- What an option does. -/
inductive OptionEffect where
  /-- Counts how often it is given. -/
  | count
  | takesValue (placeholder : String) (kind : ValueKind)
  | help
  | version
  deriving DecidableEq, Repr

structure CommandOption where
  long : String
  short : Option Char
  effect : OptionEffect
  description : String
  deriving DecidableEq, Repr

namespace CommandOption

/-- How messages call an option. -/
def label (o : CommandOption) : String :=
  match o.effect with
  | .count => "--" ++ o.long ++ "..."
  | .takesValue placeholder _ => "--" ++ o.long ++ " <" ++ placeholder ++ ">"
  | .help | .version => "--" ++ o.long

end CommandOption

def verboseOption : CommandOption := ⟨"verbose", some 'v', .count, "Enable verbose output (repeat for trace)"⟩

def configOption : CommandOption := ⟨"config", some 'c', .takesValue "FILE" .file, "Scheduler config file (TOML)"⟩

def helpOption : CommandOption := ⟨"help", some 'h', .help, "Print help"⟩

def versionOption : CommandOption := ⟨"version", some 'V', .version, "Print version"⟩

def tasksOption : CommandOption :=
  ⟨"tasks", none, .takesValue "TASKS" .number, "One-time tasks to submit [default: 200]"⟩

def recurringOption : CommandOption :=
  ⟨"recurring", none, .takesValue "RECURRING" .number, "Recurring tasks to submit [default: 4]"⟩

def durationOption : CommandOption :=
  ⟨"duration-ms", none, .takesValue "DURATION_MS" .number,
    "How long to let the workload run, in milliseconds [default: 2000]"⟩

def seedOption : CommandOption := ⟨"seed", none, .takesValue "SEED" .number, "Seed for the workload generator"⟩

def ticksOption : CommandOption := ⟨"ticks", none, .takesValue "TICKS" .number, "Number of ticks [default: 50]"⟩

def intervalOption : CommandOption :=
  ⟨"interval-ms", none, .takesValue "INTERVAL_MS" .number, "Pause between ticks, in milliseconds [default: 10]"⟩

def saveOption : CommandOption := ⟨"save", none, .takesValue "FILE" .file, "Also write it to this file"⟩

/-- The commands of the program. -/
inductive Verb where
  | run
  | tick
  | config
  | version
  | help
  deriving DecidableEq, Repr

namespace Verb

def all : List Verb := [run, tick, config, version, help]

def name : Verb → String
  | run => "run"
  | tick => "tick"
  | config => "config"
  | version => "version"
  | help => "help"

def ofName? (name : String) : Option Verb := all.find? (·.name = name)

def description : Verb → String
  | run => "Run a random mixed-priority workload on the thread pool scheduler"
  | tick => "Drive the cooperative scheduler for a number of ticks"
  | config => "Print the effective configuration as TOML"
  | version => "Print version information"
  | help => "Print this message or the help of the given subcommand(s)"

/-- The options of a command, those that may stand before it included. -/
def options : Verb → List CommandOption
  | run => [tasksOption, recurringOption, durationOption, seedOption, verboseOption, configOption, helpOption]
  | tick => [ticksOption, intervalOption, verboseOption, configOption, helpOption]
  | config => [saveOption, verboseOption, configOption, helpOption]
  | version | help => [verboseOption, configOption, helpOption]

theorem ofName?_name (v : Verb) : ofName? v.name = some v := by cases v <;> rfl

end Verb

/-- The options that stand before the command. -/
def programOptions : List CommandOption := [verboseOption, configOption, helpOption, versionOption]

end TaskScheduling.CommandLine
