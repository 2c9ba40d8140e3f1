/-!
# Log levels

How important a log entry is.  A threshold lets pass what is at least as important as itself; the more verbose a program
is asked to be, the lower its threshold.
-/

namespace TaskScheduling

inductive LogLevel where
  | trace
  | debug
  | info
  | warn
  | error
  deriving DecidableEq, Repr

namespace LogLevel

/-- The importance of a level, from 0. -/
def rank : LogLevel → Nat
  | trace => 0
  | debug => 1
  | info => 2
  | warn => 3
  | error => 4

/-- Whether an entry of this level passes a threshold. -/
def passes (l threshold : LogLevel) : Bool := threshold.rank ≤ l.rank

/-- The name that is printed in front of an entry. -/
def label : LogLevel → String
  | trace => "TRACE"
  | debug => "DEBUG"
  | info => "INFO"
  | warn => "WARN"
  | error => "ERROR"

def inspect : LogLevel → String
  | trace => "Trace"
  | debug => "Debug"
  | info => "Info"
  | warn => "Warn"
  | error => "Error"

/-- The threshold for the number of times that more output was asked for. -/
def ofVerbosity : Nat → LogLevel
  | 0 => info
  | 1 => debug
  | _ => trace

theorem passes_self (l : LogLevel) : l.passes l = true := by cases l <;> rfl

/-- Who asks for more output sees no less of it. -/
theorem passes_ofVerbosity_mono {l : LogLevel} {m n : Nat} (h : m ≤ n) (hl : l.passes (ofVerbosity m) = true) :
    l.passes (ofVerbosity n) = true := by
  match m, n with
  | 0, 0 => exact hl
  | 0, 1 => revert hl; cases l <;> decide
  | 0, _ + 2 => cases l <;> rfl
  | 1, 1 => exact hl
  | 1, _ + 2 => cases l <;> rfl
  | _ + 2, _ + 2 => cases l <;> rfl

end LogLevel

end TaskScheduling
