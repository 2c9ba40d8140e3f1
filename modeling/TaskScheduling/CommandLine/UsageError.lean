import TaskScheduling.CommandLine.Options
import TaskScheduling.Text.Terminal

/-!
# Errors in a command line

A message repeats the arguments in question without the control sequences in them.
-/

namespace TaskScheduling.CommandLine

/-- Why a text is not a number of 64 bits without a sign. -/
inductive NumberFault where
  | empty
  | invalidDigit
  | tooLarge
  deriving DecidableEq, Repr

def NumberFault.message : NumberFault → String
  | empty => "cannot parse integer from empty string"
  | invalidDigit => "invalid digit found in string"
  | tooLarge => "number too large to fit in target type"

inductive UsageError where
  | unknownCommand (word : String)
  | unexpectedArgument (argument : String)
  | missingValue (option : CommandOption)
  | invalidNumber (option : CommandOption) (value : String) (fault : NumberFault)
  | repeated (option : CommandOption)
  /-- A value for an option that takes none. -/
  | unexpectedValue (option : CommandOption) (value : String)
  | missingCommand
  deriving DecidableEq, Repr

namespace UsageError

private def quoted (argument : String) : String := "'" ++ Terminal.plain argument ++ "'"

def message : UsageError → String
  | unknownCommand word => "unrecognized subcommand " ++ quoted word
  | unexpectedArgument argument => "unexpected argument " ++ quoted argument ++ " found"
  | missingValue option => "a value is required for '" ++ option.label ++ "' but none was supplied"
  | invalidNumber option value fault =>
    "invalid value " ++ quoted value ++ " for '" ++ option.label ++ "': " ++ fault.message
  | repeated option => "the argument '" ++ option.label ++ "' cannot be used multiple times"
  | unexpectedValue option value =>
    "unexpected value " ++ quoted value ++ " for '" ++ option.label ++ "' found; no more were expected"
  | missingCommand => "'priosched' requires a subcommand but one was not provided"

end UsageError

end TaskScheduling.CommandLine
