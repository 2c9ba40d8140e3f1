/-!
# Inspection text

The one-line form in which values are shown to a developer: a record is its name and its fields in braces, an optional
value is `Some(…)` or `None`.
-/

namespace TaskScheduling.Inspect

/-- A record as `Name { field: value, … }`. -/
def record (name : String) (fields : List (String × String)) : String :=
  name ++ " \x7b " ++ ", ".intercalate (fields.map fun (field, value) => field ++ ": " ++ value) ++ " \x7d"

/-- A value wrapped in a constructor of one argument. -/
def wrapped (name value : String) : String := name ++ "(" ++ value ++ ")"

def optional (value : Option String) : String :=
  match value with
  | some text => wrapped "Some" text
  | none => "None"

def flag (b : Bool) : String := if b then "true" else "false"

end TaskScheduling.Inspect
