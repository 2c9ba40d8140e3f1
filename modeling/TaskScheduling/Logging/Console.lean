import TaskScheduling.Logging.Level
import TaskScheduling.Text.Lines

/-!
# The console

Log entries are printed one to a line: the level in a column of five, the name of the thread in a column of as many
characters as the longest earlier name has bytes, and the message.  Characters with which a message could take control
of a terminal are spelled out.
-/

namespace TaskScheduling

structure LogEntry where
  level : LogLevel
  thread : String
  message : String
  deriving DecidableEq, Repr

/-- Right-aligned in a column of `width` characters. -/
def alignRight (width : Nat) (text : String) : String :=
  String.ofList (List.replicate (width - text.length) ' ') ++ text

structure Console where
  threshold : LogLevel
  /-- The length in bytes of the longest name of a thread so far; a later name is aligned to it. -/
  nameWidth : Nat
  /-- What has been printed. -/
  text : String
  deriving Repr

namespace Console

def start (threshold : LogLevel) : Console := ⟨threshold, 0, ""⟩

private def hexDigits (n : Nat) : String := String.ofList (Nat.toDigits 16 n)

/-- A character of a message; escape sequences for terminals begin with one of those that are spelled out. -/
def spell (c : Char) : String :=
  if c = '\x1b' then "\\x1b"
  else if c = '\x07' then "\\x07"
  else if c = '\x08' then "\\x08"
  else if c = '\x0c' then "\\x0c"
  else if c = '\x7f' then "\\x7f"
  else if 0x80 ≤ c.toNat && c.toNat ≤ 0x9f then "\\u\x7b" ++ hexDigits c.toNat ++ "\x7d"
  else c.toString

def print (c : Console) (text : String) : Console := { c with text := c.text ++ text }

/-- Prints an entry, unless it is below the threshold. -/
def log (c : Console) (e : LogEntry) : Console :=
  if e.level.passes c.threshold then
    let message := String.join (e.message.toList.map spell)
    { c with nameWidth := max c.nameWidth e.thread.utf8ByteSize }.print
      (alignRight 5 e.level.label ++ " " ++ alignRight c.nameWidth e.thread ++ " " ++ message ++ "\n")
  else c

/-- The printed lines. -/
def lines (c : Console) : List String := Lines.ofText c.text

/-- Nothing is printed of an entry below the threshold. -/
theorem log_of_not_passes {c : Console} {e : LogEntry} (h : e.level.passes c.threshold = false) : c.log e = c := by
  simp [log, h]

end Console

end TaskScheduling
