import TaskScheduling.Fault

/-!
# What a program knows about its files of settings

A file of settings is a document: a table of keys with their values.  The program reads whatever table there is, and
writes fields that hold a text, a number or a truth value, if they hold anything.  How this is done is the business of
a `Format`; what a program may rely on is what the documentation of TOML says about it (`Format.Documented`).
-/

namespace TaskScheduling.Toml

/-! ### Values -/

/-- The value of a key.  Nobody asks for the values of floats and dates. -/
inductive Value where
  | string (s : String)
  | integer (n : Int)
  | float
  | boolean (b : Bool)
  | dateTime
  | array (items : List Value)
  | table (entries : List (String × Value))

abbrev Table := List (String × Value)

/-- What is written for a key. -/
inductive Atom where
  | text (s : String)
  | number (n : Nat)
  | flag (b : Bool)
  deriving DecidableEq, Repr

/-- Integers have 64 bits with a sign; this is the number behind the largest one. -/
def integerLimit : Nat := Nat.pow 2 63

namespace Atom

/-- The value that is read again. -/
def value : Atom → Value
  | text s => .string s
  | number n => .integer n
  | flag b => .boolean b

/-- Whether there is such a value. -/
def fits : Atom → Bool
  | number n => n < integerLimit
  | _ => true

end Atom

/-! ### Keys and lines -/

def isBareKeyChar (c : Char) : Bool := c.isAlphanum || c = '-' || c = '_'

/-- A key that needs no quotes. -/
structure IsBareKey (key : String) : Prop where
  ne_nil : key.toList ≠ []
  bare : ∀ c ∈ key.toList, isBareKeyChar c = true

/-- The fields that hold something. -/
def present (fields : List (String × Option Atom)) : List (String × Atom) :=
  fields.filterMap fun (key, atom?) => atom?.map (key, ·)

/-- A line that assigns a written value to a key. -/
def line (key value : String) : String := key ++ " = " ++ value ++ "\n"

/-- The lines that assign the values to the keys, where `spelling` tells how a value is written. -/
def document (spelling : Atom → String) (entries : List (String × Atom)) : String :=
  String.join (entries.map fun (key, atom) => line key (spelling atom))

/-! ### Formats -/

/-- Why a document is not written. -/
inductive WriteTrouble where
  /-- A field holds what no document can hold. -/
  | unwritable
  /-- Writing broke off. -/
  | fault (cause : Fault)
  deriving DecidableEq, Repr

class Format where
  /-- The table that a text says, if it is a document. -/
  read? : String → Option Table
  /-- The text of a document with these fields. -/
  write : List (String × Option Atom) → Except WriteTrouble String

/-- What the documentation says about documents that assign texts, numbers and truth values to bare keys. -/
structure Format.Documented (f : Format) (spelling : Atom → String) : Prop where
  /-- The grammar: lines that assign values to keys, each key once, say just that. -/
  grammar (entries : List (String × Atom)) :
    (∀ entry ∈ entries, IsBareKey entry.1 ∧ entry.2.fits = true) → (entries.map Prod.fst).Nodup →
    f.read? (document spelling entries) = some (entries.map fun entry => (entry.1, entry.2.value))
  /-- A field is written on a line of its own, and not at all if it holds nothing. -/
  absent (fields : List (String × Option Atom)) :
    (∀ field ∈ fields, IsBareKey field.1) → (∀ entry ∈ present fields, entry.2.fits = true) →
    f.write fields = .ok (document spelling (present fields))
  /-- An integer that is too large cannot be written. -/
  limit (fields : List (String × Option Atom)) :
    (∃ entry ∈ present fields, entry.2.fits = false) → f.write fields = .error .unwritable

end TaskScheduling.Toml
