import TaskScheduling.Json.Basic

/-!
# Reading JSON

A text is one value, with blanks around it at will, and nothing else.  What a reader of this format need not find out
is not checked: numbers may have any size, and fields of an object may repeat.
-/

namespace TaskScheduling.Json

/-- What is left to read. -/
abbrev Rest := List Char

def skipBlanks (s : Rest) : Rest := s.dropWhile fun c => c = ' ' || c = '\n' || c = '\t' || c = '\r'

def hexValue? (c : Char) : Option Nat :=
  if '0' ≤ c ∧ c ≤ '9' then some (c.toNat - 48)
  else if 'a' ≤ c ∧ c ≤ 'f' then some (c.toNat - 87)
  else if 'A' ≤ c ∧ c ≤ 'F' then some (c.toNat - 55)
  else none

/-- The number that four hexadecimal digits stand for. -/
def unit? : Rest → Option (Nat × Rest)
  | a :: b :: c :: d :: rest => do
    let a ← hexValue? a
    let b ← hexValue? b
    let c ← hexValue? c
    let d ← hexValue? d
    pure (((a * 16 + b) * 16 + c) * 16 + d, rest)
  | _ => none

def simpleEscape? : Char → Option Char
  | '"' => some '"'
  | '\\' => some '\\'
  | '/' => some '/'
  | 'b' => some '\x08'
  | 'f' => some '\x0c'
  | 'n' => some '\n'
  | 'r' => some '\r'
  | 't' => some '\t'
  | _ => none

/-- Joins the numbers of a text into characters; the halves of a surrogate pair belong together. -/
def decode : List Nat → Option (List Char)
  | [] => some []
  | [n] => if 0xd800 ≤ n ∧ n < 0xe000 then none else some [Char.ofNat n]
  | m :: n :: rest =>
    if 0xd800 ≤ m ∧ m < 0xdc00 then
      if 0xdc00 ≤ n ∧ n < 0xe000 then
        (decode rest).map (Char.ofNat (0x10000 + (m - 0xd800) * 0x400 + (n - 0xdc00)) :: ·)
      else none
    else if 0xdc00 ≤ m ∧ m < 0xe000 then none
    else (decode (n :: rest)).map (Char.ofNat m :: ·)

/-- The numbers of the characters up to the closing quote. -/
def units? : Nat → Rest → Option (List Nat × Rest)
  | 0, _ => none
  | fuel + 1, s =>
    match s with
    | [] => none
    | '"' :: rest => some ([], rest)
    | '\\' :: 'u' :: rest => do
      let (n, rest) ← unit? rest
      let (more, rest) ← units? fuel rest
      pure (n :: more, rest)
    | '\\' :: c :: rest => do
      let c ← simpleEscape? c
      let (more, rest) ← units? fuel rest
      pure (c.toNat :: more, rest)
    | '\\' :: [] => none
    | c :: rest =>
      if c.toNat < 0x20 then none
      else do
        let (more, rest) ← units? fuel rest
        pure (c.toNat :: more, rest)

/-- A text, behind its opening quote. -/
def text? (s : Rest) : Option (Option String × Rest) := do
  let (units, rest) ← units? (s.length + 1) s
  pure ((decode units).map String.ofList, rest)

/-- Digits, at least one. -/
def digits? (s : Rest) : Option (List Char × Rest) :=
  match s.span Char.isDigit with
  | ([], _) => none
  | (ds, rest) => some (ds, rest)

/-- The whole part of a number, which has no zeros in front. -/
def whole? : Rest → Option (List Char × Rest)
  | '0' :: rest =>
    match rest with
    | c :: _ => if c.isDigit then none else some (['0'], rest)
    | [] => some (['0'], rest)
  | s => digits? s

def fraction? : Rest → Option (List Char × Rest)
  | '.' :: rest => (digits? rest).map fun (ds, rest) => ('.' :: ds, rest)
  | s => some ([], s)

def exponent? : Rest → Option (List Char × Rest)
  | c :: rest =>
    if c = 'e' || c = 'E' then
      match rest with
      | '+' :: rest => (digits? rest).map fun (ds, rest) => (c :: '+' :: ds, rest)
      | '-' :: rest => (digits? rest).map fun (ds, rest) => (c :: '-' :: ds, rest)
      | _ => (digits? rest).map fun (ds, rest) => (c :: ds, rest)
    else some ([], c :: rest)
  | [] => some ([], [])

def number? (s : Rest) : Option (List Char × Rest) := do
  let (sign, s) := match s with | '-' :: rest => (['-'], rest) | _ => ([], s)
  let (whole, s) ← whole? s
  let (fraction, s) ← fraction? s
  let (exponent, s) ← exponent? s
  pure (sign ++ whole ++ fraction ++ exponent, s)

mutual

/-- One value; the blanks before it have been skipped. -/
def value? : Nat → Rest → Option (Json × Rest)
  | 0, _ => none
  | fuel + 1, s =>
    match s with
    | 'n' :: 'u' :: 'l' :: 'l' :: rest => some (null, rest)
    | 't' :: 'r' :: 'u' :: 'e' :: rest => some (bool true, rest)
    | 'f' :: 'a' :: 'l' :: 's' :: 'e' :: rest => some (bool false, rest)
    | '"' :: rest => (text? rest).map fun (text, rest) => (string text, rest)
    | '[' :: rest =>
      match skipBlanks rest with
      | ']' :: rest => some (array [], rest)
      | rest => (items? fuel rest).map fun (items, rest) => (array items, rest)
    | '\x7b' :: rest =>
      match skipBlanks rest with
      | '\x7d' :: rest => some (object [], rest)
      | rest => (fields? fuel rest).map fun (fields, rest) => (object fields, rest)
    | _ => (number? s).map fun (digits, rest) => (number digits, rest)

/-- The items of an array that is not empty, up to its closing bracket. -/
def items? : Nat → Rest → Option (List Json × Rest)
  | 0, _ => none
  | fuel + 1, s =>
    match value? fuel (skipBlanks s) with
    | none => none
    | some (v, rest) =>
      match skipBlanks rest with
      | ']' :: rest => some ([v], rest)
      | ',' :: rest => (items? fuel rest).map fun (more, rest) => (v :: more, rest)
      | _ => none

/-- The fields of an object that is not empty, up to its closing brace. -/
def fields? : Nat → Rest → Option (List (Option String × Json) × Rest)
  | 0, _ => none
  | fuel + 1, s =>
    match skipBlanks s with
    | '"' :: rest =>
      match text? rest with
      | none => none
      | some (name, rest) =>
        match skipBlanks rest with
        | ':' :: rest =>
          match value? fuel (skipBlanks rest) with
          | none => none
          | some (v, rest) =>
            match skipBlanks rest with
            | '\x7d' :: rest => some ([(name, v)], rest)
            | ',' :: rest => (fields? fuel rest).map fun (more, rest) => ((name, v) :: more, rest)
            | _ => none
        | _ => none
    | _ => none

end

/-- Reads a whole text. -/
def parse? (text : String) : Option Json :=
  let s := text.toList
  match value? (2 * s.length + 2) (skipBlanks s) with
  | some (v, rest) => if (skipBlanks rest).isEmpty then some v else none
  | none => none

end TaskScheduling.Json
