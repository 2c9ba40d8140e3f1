/-!
# TOML values and tables

How a table came about decides what may be added to it later.  A dotted key adds only to tables that dotted keys made,
and a header defines a table once; what a header passes on its way may exist already, and what is missing is implied.

Floats and dates are read and checked, but nobody asks for their values.
-/

namespace TaskScheduling.Toml

/-- How a table came about. -/
inductive TableStyle where
  /-- By a header of its own, or as the whole document. -/
  | headed
  /-- By a longer header, so that its own header may still come. -/
  | implied
  /-- By a dotted key. -/
  | dotted
  /-- By braces; nothing can be added to it. -/
  | closed
  deriving DecidableEq, Repr

inductive Node where
  | string (s : String)
  | integer (n : Int)
  | float
  | boolean (b : Bool)
  | dateTime
  | array (items : List Node)
  | table (style : TableStyle) (entries : List (String × Node))
  /-- Tables by headers in double brackets, the last one first. -/
  | tables (elements : List (List (String × Node)))

abbrev Entries := List (String × Node)

/-- Replaces the value of a key that is there. -/
def replace (key : String) (v : Node) : Entries → Entries
  | [] => []
  | (k, w) :: rest => if k = key then (k, v) :: rest else (k, w) :: replace key v rest

/-- Adds a key that is not there yet. -/
def insertNew (key : String) (v : Node) (entries : Entries) : Option Entries :=
  if (entries.lookup key).isSome then none else some (entries ++ [(key, v)])

/-- Adds a value below a table of the given style, under a key with the dotted parts `path` before it. -/
def insertDotted (style : TableStyle) (key : String) (v : Node) : List String → Entries → Option Entries
  | [], entries => if style = .dotted then insertNew key v entries else none
  | k :: path, entries =>
    match entries.lookup k with
    | none => do
      let sub ← insertDotted .dotted key v path []
      pure (entries ++ [(k, .table .dotted sub)])
    | some (.table .dotted sub) => do
      let sub ← insertDotted .dotted key v path sub
      pure (replace k (.table .dotted sub) entries)
    | some (.table .implied sub) => do
      let sub ← insertDotted .implied key v path sub
      pure (replace k (.table .implied sub) entries)
    | some (.tables (last :: others)) => do
      let last ← insertDotted .headed key v path last
      pure (replace k (.tables (last :: others)) entries)
    | some _ => none

/-- Assigns a value to a key, dotted or not, in a table. -/
def assign (path : List String) (key : String) (v : Node) (entries : Entries) : Option Entries :=
  match path with
  | [] => insertNew key v entries
  | _ => insertDotted .headed key v path entries

/-- Defines the table of a header. -/
def openTable (key : String) (entries : Entries) : Option Entries :=
  match entries.lookup key with
  | none => some (entries ++ [(key, .table .headed [])])
  | some (.table .implied sub) => some (replace key (.table .headed sub) entries)
  | some _ => none

/-- Adds a table to those of a header in double brackets. -/
def openElement (key : String) (entries : Entries) : Option Entries :=
  match entries.lookup key with
  | none => some (entries ++ [(key, .tables [[]])])
  | some (.tables elements) => some (replace key (.tables ([] :: elements)) entries)
  | some _ => none

/-- Changes the table at the end of a path of headers; tables that are missing on the way are implied. -/
def within (change : Entries → Option Entries) : List String → Entries → Option Entries
  | [], entries => change entries
  | k :: path, entries =>
    match entries.lookup k with
    | none => do
      let sub ← within change path []
      pure (entries ++ [(k, .table .implied sub)])
    | some (.table .closed _) => none
    | some (.table style sub) => do
      let sub ← within change path sub
      pure (replace k (.table style sub) entries)
    | some (.tables (last :: others)) => do
      let last ← within change path last
      pure (replace k (.tables (last :: others)) entries)
    | some _ => none

/-- What a document says, in order. -/
inductive Statement where
  | assignment (path : List String) (key : String) (v : Node)
  | header (path : List String) (key : String)
  | elementHeader (path : List String) (key : String)

/-- Carries out the statements; assignments go to the table of the last header, which `current` leads to. -/
def build : List String → Entries → List Statement → Option Entries
  | _, entries, [] => some entries
  | current, entries, .assignment path key v :: rest => do
    let entries ← within (assign path key v) current entries
    build current entries rest
  | _, entries, .header path key :: rest => do
    let entries ← within (openTable key) path entries
    build (path ++ [key]) entries rest
  | _, entries, .elementHeader path key :: rest => do
    let entries ← within (openElement key) path entries
    build (path ++ [key]) entries rest

/-- The table in braces with these assignments. -/
def inlineTable (assignments : List (List String × String × Node)) : Option Node :=
  (assignments.foldlM (fun entries (path, key, v) => assign path key v entries) []).map (.table .closed)

end TaskScheduling.Toml
