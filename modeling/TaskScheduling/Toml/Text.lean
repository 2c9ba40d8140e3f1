/-!
# Text in TOML

Text stands between double quotes, with escapes, or between single quotes, as it is; three quotes on either side let it
run over several lines.  A line break right after the opening quotes does not count, and every line break counts as a
line feed.  Up to two quotes may stand right before the closing ones.
-/

namespace TaskScheduling.Toml

/-- What is left to read. -/
abbrev Rest := List Char

def isBlank (c : Char) : Bool := c = ' ' || c = '\t'

def skipBlanks (s : Rest) : Rest := s.dropWhile isBlank

/-- Whether a character may stand in text and in comments: all but the controls other than the tab. -/
def isTextChar (c : Char) : Bool := c = '\t' || (0x20 ≤ c.toNat && c.toNat ≠ 0x7f)

/-- Reads a line break. -/
def newline? : Rest → Option Rest
  | '\n' :: rest => some rest
  | '\r' :: '\n' :: rest => some rest
  | _ => none

def hexValue? (c : Char) : Option Nat :=
  if '0' ≤ c ∧ c ≤ '9' then some (c.toNat - 48)
  else if 'a' ≤ c ∧ c ≤ 'f' then some (c.toNat - 87)
  else if 'A' ≤ c ∧ c ≤ 'F' then some (c.toNat - 55)
  else none

/-- The number that the next `n` hexadecimal digits stand for, appended to those of `value`. -/
def hexNumber? : Nat → Nat → Rest → Option (Nat × Rest)
  | 0, value, s => some (value, s)
  | n + 1, value, c :: rest => (hexValue? c).bind fun d => hexNumber? n (value * 16 + d) rest
  | _ + 1, _, [] => none

/-- The character with the number in the next `n` hexadecimal digits. -/
def numbered? (n : Nat) (s : Rest) : Option (Char × Rest) :=
  (hexNumber? n 0 s).bind fun (value, rest) => if value.isValidChar then some (Char.ofNat value, rest) else none

/-- The character of an escape, behind its backslash. -/
def escaped? : Rest → Option (Char × Rest)
  | 'b' :: rest => some ('\x08', rest)
  | 't' :: rest => some ('\t', rest)
  | 'n' :: rest => some ('\n', rest)
  | 'f' :: rest => some ('\x0c', rest)
  | 'r' :: rest => some ('\r', rest)
  | '"' :: rest => some ('"', rest)
  | '\\' :: rest => some ('\\', rest)
  | 'u' :: rest => numbered? 4 rest
  | 'U' :: rest => numbered? 8 rest
  | _ => none

/-- Text with escapes up to its closing quote. -/
def basic? : Nat → Rest → Option (List Char × Rest)
  | 0, _ => none
  | fuel + 1, s =>
    match s with
    | '"' :: rest => some ([], rest)
    | '\\' :: rest => do
      let (c, rest) ← escaped? rest
      let (text, rest) ← basic? fuel rest
      pure (c :: text, rest)
    | c :: rest =>
      if isTextChar c then do
        let (text, rest) ← basic? fuel rest
        pure (c :: text, rest)
      else none
    | [] => none

/-- Text without escapes up to its closing quote. -/
def literal? : Rest → Option (List Char × Rest)
  | [] => none
  | c :: rest =>
    if c = '\'' then some ([], rest)
    else if isTextChar c then (literal? rest).map fun (text, rest) => (c :: text, rest)
    else none

/-- Skips blanks and line breaks. -/
def skipBlankLines : Rest → Rest
  | '\n' :: rest => skipBlankLines rest
  | '\r' :: '\n' :: rest => skipBlankLines rest
  | ' ' :: rest => skipBlankLines rest
  | '\t' :: rest => skipBlankLines rest
  | s => s

/-- What follows a backslash at the end of a line. -/
def continued? (s : Rest) : Option Rest := (newline? (skipBlanks s)).map skipBlankLines

/-- The quotes at a place where three or more stand side by side: those that belong to the text, and what is left
behind the closing ones. -/
def closing (q : Char) (s : Rest) : Option (List Char × Rest) :=
  match s with
  | a :: b :: c :: rest =>
    if a = q ∧ b = q ∧ c = q then
      match rest with
      | d :: e :: rest' =>
        if d = q ∧ e = q then some ([q, q], rest')
        else if d = q then some ([q], e :: rest')
        else some ([], rest)
      | [d] => if d = q then some ([q], []) else some ([], rest)
      | [] => some ([], [])
    else none
  | _ => none

/-- Text with escapes up to three closing quotes. -/
def multilineBasic? : Nat → Rest → Option (List Char × Rest)
  | 0, _ => none
  | fuel + 1, s =>
    match closing '"' s with
    | some result => some result
    | none =>
      match s with
      | '\\' :: rest =>
        match continued? rest with
        | some rest => multilineBasic? fuel rest
        | none => do
          let (c, rest) ← escaped? rest
          let (text, rest) ← multilineBasic? fuel rest
          pure (c :: text, rest)
      | c :: rest =>
        match newline? (c :: rest) with
        | some rest => (multilineBasic? fuel rest).map fun (text, rest) => ('\n' :: text, rest)
        | none =>
          if isTextChar c then (multilineBasic? fuel rest).map fun (text, rest) => (c :: text, rest) else none
      | [] => none

/-- Text without escapes up to three closing quotes. -/
def multilineLiteral? : Nat → Rest → Option (List Char × Rest)
  | 0, _ => none
  | fuel + 1, s =>
    match closing '\'' s with
    | some result => some result
    | none =>
      match s with
      | c :: rest =>
        match newline? (c :: rest) with
        | some rest => (multilineLiteral? fuel rest).map fun (text, rest) => ('\n' :: text, rest)
        | none =>
          if isTextChar c then (multilineLiteral? fuel rest).map fun (text, rest) => (c :: text, rest) else none
      | [] => none

/-- Text on one line. -/
def lineText? : Rest → Option (List Char × Rest)
  | '"' :: rest => basic? (rest.length + 1) rest
  | '\'' :: rest => literal? rest
  | _ => none

/-- Text of any form. -/
def text? : Rest → Option (List Char × Rest)
  | '"' :: '"' :: '"' :: rest =>
    let rest := (newline? rest).getD rest
    multilineBasic? (rest.length + 1) rest
  | '\'' :: '\'' :: '\'' :: rest =>
    let rest := (newline? rest).getD rest
    multilineLiteral? (rest.length + 1) rest
  | s => lineText? s

end TaskScheduling.Toml
