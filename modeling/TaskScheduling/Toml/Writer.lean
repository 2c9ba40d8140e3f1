import TaskScheduling.Text.Inspect
import TaskScheduling.Toml.Format

/-!
# Writing TOML

A text is written in the plainest of five forms that can hold it: on one line between double or single quotes, over
several lines between three of either, and at last with every troublesome character escaped.
-/

namespace TaskScheduling.Toml

/-- A control character that no form without escapes can hold. -/
def isControl (c : Char) : Bool := (c.toNat < 0x20 && c ≠ '\t' && c ≠ '\n') || c.toNat = 0x7f

inductive TextForm where
  | basic
  | literal
  | multilineBasic
  | multilineLiteral
  deriving DecidableEq, Repr

/-- The longest run of a character. -/
def longestRun (q : Char) (text : List Char) : Nat :=
  (text.foldl (fun (run, best) c => if c = q then (run + 1, max best (run + 1)) else (0, best)) (0, 0)).2

def TextForm.choose (text : List Char) : TextForm :=
  let controls := text.any isControl
  let breaks := text.contains '\n'
  if !controls && !text.contains '\\' && !text.contains '"' && !breaks then basic
  else if !controls && !text.contains '\'' && !breaks then literal
  else if !controls && !text.contains '\\' && longestRun '"' text ≤ 2 then multilineBasic
  else if !controls && longestRun '\'' text ≤ 2 then multilineLiteral
  else if breaks then multilineBasic
  else basic

private def hexDigits (n : Nat) : List Char :=
  [n / 4096, n / 256, n / 16, n].map fun d => (Nat.digitChar (d % 16)).toUpper

/-- A character other than a quote or a line feed between double quotes. -/
def escape (c : Char) : List Char :=
  if c = '\x08' then ['\\', 'b']
  else if c = '\t' then ['\\', 't']
  else if c = '\x0c' then ['\\', 'f']
  else if c = '\r' then ['\\', 'r']
  else if c = '\\' then ['\\', '\\']
  else if isControl c then '\\' :: 'u' :: hexDigits c.toNat
  else [c]

/-- Text between double quotes; of those in a row, every one after `allowed` unescaped ones is escaped. -/
def escapeAll (multiline : Bool) (allowed : Nat) : Nat → List Char → List Char
  | _, [] => []
  | run, c :: rest =>
    if c = '"' then
      if run < allowed then '"' :: escapeAll multiline allowed (run + 1) rest
      else '\\' :: '"' :: escapeAll multiline allowed 0 rest
    else if c = '\n' then (if multiline then ['\n'] else ['\\', 'n']) ++ escapeAll multiline allowed 0 rest
    else escape c ++ escapeAll multiline allowed 0 rest

def writeText (text : List Char) : List Char :=
  let opening := if text.contains '\n' then ['\n'] else []
  match TextForm.choose text with
  | .basic => '"' :: escapeAll false 0 0 text ++ ['"']
  | .literal => '\'' :: text ++ ['\'']
  | .multilineBasic => ['"', '"', '"'] ++ opening ++ escapeAll true 2 0 text ++ ['"', '"', '"']
  | .multilineLiteral => ['\'', '\'', '\''] ++ opening ++ text ++ ['\'', '\'', '\'']

def Atom.spelling : Atom → String
  | text s => .ofList (writeText s.toList)
  | number n => toString n
  | flag b => Inspect.flag b

end TaskScheduling.Toml
