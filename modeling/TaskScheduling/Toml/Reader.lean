import TaskScheduling.Toml.Scalar

/-!
# Reading TOML

A document is a sequence of statements, one to a line.  It may begin with a byte order mark.  Arrays and tables in
braces may be nested in each other 79 deep, and a dotted key may have as many parts.
-/

namespace TaskScheduling.Toml

/-- The first depth that is too deep, and the first number of parts of a key that is too large. -/
def depthLimit : Nat := 80

/-! ### Keys -/

/-- One part of a key. -/
def keyPart? (s : Rest) : Option (String × Rest) :=
  match s with
  | '"' :: _ => (lineText? s).map fun (text, rest) => (String.ofList text, rest)
  | '\'' :: _ => (lineText? s).map fun (text, rest) => (String.ofList text, rest)
  | _ =>
    match s.span isBareKeyChar with
    | ([], _) => none
    | (name, rest) => some (String.ofList name, rest)

/-- The parts of a key, with blanks around them: all but the last, and the last. -/
def keyParts? : Nat → Rest → Option (List String × String × Rest)
  | 0, _ => none
  | fuel + 1, s =>
    match keyPart? (skipBlanks s) with
    | none => none
    | some (part, rest) =>
      match skipBlanks rest with
      | '.' :: rest => (keyParts? fuel rest).map fun (path, last, rest) => (part :: path, last, rest)
      | rest => some ([], part, rest)

def key? (s : Rest) : Option (List String × String × Rest) := keyParts? (depthLimit - 1) s

/-! ### Blanks and comments -/

/-- A comment behind its mark, without the line break. -/
def skipComment (s : Rest) : Rest := s.dropWhile isTextChar

/-- The end of a line, or of the text. -/
def lineEnd? : Rest → Option Rest
  | [] => some []
  | s => newline? s

/-- What may follow a statement on its line. -/
def trailing? (s : Rest) : Option Rest :=
  match skipBlanks s with
  | '#' :: rest => lineEnd? (skipComment rest)
  | rest => lineEnd? rest

/-- Skips blanks, line breaks and comments. -/
def skipSpace : Nat → Rest → Option Rest
  | 0, _ => none
  | fuel + 1, s =>
    match s with
    | '#' :: rest => (newline? (skipComment rest)).bind (skipSpace fuel)
    | c :: rest =>
      if isBlank c then skipSpace fuel rest
      else
        match newline? (c :: rest) with
        | some rest => skipSpace fuel rest
        | none => some (c :: rest)
    | [] => some []

/-! ### Values -/

private def word? (word : List Char) (v : Node) (s : Rest) : Option (Node × Rest) :=
  if word.isPrefixOf s then some (v, s.drop word.length) else none

mutual

/-- A value inside `depth` arrays and tables. -/
def value? (fuel depth : Nat) (s : Rest) : Option (Node × Rest) :=
  match fuel with
  | 0 => none
  | fuel + 1 =>
    match s with
    | [] => none
    | c :: rest =>
      if c = '"' || c = '\'' then (text? s).map fun (text, rest) => (.string (String.ofList text), rest)
      else if c = '[' then
        if depth + 1 < depthLimit then
          (items? fuel (depth + 1) rest).map fun (items, rest) => (.array items, rest)
        else none
      else if c = '\x7b' then
        if depth + 1 < depthLimit then do
          let (assignments, rest) ← fields? fuel (depth + 1) rest
          let table ← inlineTable assignments
          pure (table, rest)
        else none
      else if c = 't' then word? ['t', 'r', 'u', 'e'] (.boolean true) s
      else if c = 'f' then word? ['f', 'a', 'l', 's', 'e'] (.boolean false) s
      else if c = 'i' then (infinity? s).map fun rest => (.float, rest)
      else if c = 'n' then (notANumber? s).map fun rest => (.float, rest)
      else numeric? s

/-- The items of an array up to its closing bracket. -/
def items? (fuel depth : Nat) (s : Rest) : Option (List Node × Rest) :=
  match fuel with
  | 0 => none
  | fuel + 1 =>
    match skipSpace (s.length + 1) s with
    | none => none
    | some (']' :: rest) => some ([], rest)
    | some s =>
      match value? fuel depth s with
      | none => none
      | some (v, rest) =>
        match skipSpace (rest.length + 1) rest with
        | some (']' :: rest) => some ([v], rest)
        | some (',' :: rest) => (items? fuel depth rest).map fun (more, rest) => (v :: more, rest)
        | _ => none

/-- The assignments of a table in braces up to the closing one. -/
def fields? (fuel depth : Nat) (s : Rest) : Option (List (List String × String × Node) × Rest) :=
  match fuel with
  | 0 => none
  | fuel + 1 =>
    match skipBlanks s with
    | '\x7d' :: rest => some ([], rest)
    | s => assignments? fuel depth s

/-- The same when there is at least one. -/
def assignments? (fuel depth : Nat) (s : Rest) : Option (List (List String × String × Node) × Rest) :=
  match fuel with
  | 0 => none
  | fuel + 1 =>
    match key? s with
    | some (path, key, '=' :: rest) =>
      match value? fuel depth (skipBlanks rest) with
      | none => none
      | some (v, rest) =>
        match skipBlanks rest with
        | '\x7d' :: rest => some ([(path, key, v)], rest)
        | ',' :: rest => (assignments? fuel depth rest).map fun (more, rest) => ((path, key, v) :: more, rest)
        | _ => none
    | _ => none

end

/-! ### Documents -/

/-- Headers and assignments. -/
def statement? (s : Rest) : Option (Statement × Rest) :=
  match s with
  | '[' :: '[' :: rest =>
    match key? rest with
    | some (path, key, ']' :: ']' :: rest) => (trailing? rest).map fun rest => (.elementHeader path key, rest)
    | _ => none
  | '[' :: rest =>
    match key? rest with
    | some (path, key, ']' :: rest) => (trailing? rest).map fun rest => (.header path key, rest)
    | _ => none
  | _ =>
    match key? s with
    | some (path, key, '=' :: rest) => do
      let rest := skipBlanks rest
      let (v, rest) ← value? (3 * rest.length + 1) 0 rest
      let rest ← trailing? rest
      pure (.assignment path key v, rest)
    | _ => none

/-- Lines, among them blank ones and comments. -/
def statements? : Nat → Rest → Option (List Statement)
  | 0, _ => none
  | fuel + 1, s =>
    match skipBlanks s with
    | [] => some []
    | '#' :: rest => (lineEnd? (skipComment rest)).bind (statements? fuel)
    | c :: rest =>
      match newline? (c :: rest) with
      | some rest => statements? fuel rest
      | none => do
        let (statement, rest) ← statement? (c :: rest)
        let more ← statements? fuel rest
        pure (statement :: more)

/-- The entries of the table that a text describes. -/
def parse? (text : String) : Option Entries :=
  let s := match text.toList with
    | '\ufeff' :: rest => rest
    | s => s
  (statements? (s.length + 1) s).bind (build [] [])

end TaskScheduling.Toml
