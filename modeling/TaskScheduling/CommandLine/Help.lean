import TaskScheduling.CommandLine.Options
import TaskScheduling.Config.Location

/-!
# Help

The help of the program and of each of its commands: what it is, how it is called, and what its options do.
-/

namespace TaskScheduling.CommandLine

def versionText : String := Environment.programName ++ " 0.1.0"

private def alignLeft (width : Nat) (text : String) : String :=
  text ++ String.ofList (List.replicate (width - text.length) ' ')

/-- Names in one column and what they mean in another. -/
private def columns (rows : List (String × String)) : String :=
  let width := (rows.map (·.1.length)).foldl max 0
  String.join (rows.map fun (name, meaning) => "  " ++ alignLeft (width + 2) name ++ meaning ++ "\n")

private def optionRow (o : CommandOption) : String × String :=
  ((o.short.elim "    " fun c => "-" ++ c.toString ++ ", ") ++ o.label, o.description)

private def usage (verb : Option Verb) : String :=
  match verb with
  | none => "Usage: " ++ Environment.programName ++ " [OPTIONS] <COMMAND>"
  | some .help => "Usage: " ++ Environment.programName ++ " help [COMMAND]..."
  | some v => "Usage: " ++ Environment.programName ++ " " ++ v.name ++ " [OPTIONS]"

/-- The help of a command, or of the program. -/
def helpText : Option Verb → String
  | none =>
    Environment.programName ++ "\n\n" ++ usage none ++ "\n\nCommands:\n"
      ++ columns (Verb.all.map fun v => (v.name, v.description)) ++ "\nOptions:\n"
      ++ columns (programOptions.map optionRow)
  | some .help => Verb.help.description ++ "\n\n" ++ usage (some .help) ++ "\n"
  | some v => v.description ++ "\n\n" ++ usage (some v) ++ "\n\nOptions:\n" ++ columns (v.options.map optionRow)

end TaskScheduling.CommandLine
