import TaskScheduling.Toml.Reader
import TaskScheduling.Toml.Writer

/-!
# Documents

What a document says is the values of its nodes, however its tables came about (`read?`).  A document is written unless
there is a field that cannot be (`writing`): a number that is too large, and with the format `counted` also a text with
more quotes in a row than fit in eight bits.
-/

namespace TaskScheduling.Toml

mutual

def Node.value : Node → Value
  | .string s => .string s
  | .integer n => .integer n
  | .float => .float
  | .boolean b => .boolean b
  | .dateTime => .dateTime
  | .array items => .array (values items)
  | .table _ entries => .table (entryValues entries)
  | .tables elements => .array (elementValues elements).reverse

def values : List Node → List Value
  | [] => []
  | v :: rest => v.value :: values rest

def entryValues : List (String × Node) → Table
  | [] => []
  | (key, v) :: rest => (key, v.value) :: entryValues rest

/-- The tables by headers in double brackets, the last one first. -/
def elementValues : List (List (String × Node)) → List Value
  | [] => []
  | entries :: rest => .table (entryValues entries) :: elementValues rest

end

/-- The table that a text describes. -/
def read? (text : String) : Option Table := (parse? text).map entryValues

/-- The document with these fields, or else what the first of them that cannot be written is in trouble with. -/
def writing (trouble? : Atom → Option WriteTrouble) (fields : List (String × Option Atom)) :
    Except WriteTrouble String :=
  match (present fields).findSome? fun (_, atom) => trouble? atom with
  | some trouble => .error trouble
  | none => .ok (document Atom.spelling (present fields))

/-! ### Formats -/

/-- Why there is no such value. -/
def Atom.excess? (atom : Atom) : Option WriteTrouble := if atom.fits then none else some .unwritable

@[reducible]
def standard : Format := ⟨read?, writing Atom.excess?⟩

/-- Whether the quotes in a row can be counted in eight bits. -/
def isCountable (text : List Char) : Bool := longestRun '\'' text ≤ 255 && longestRun '"' text ≤ 255

/-- Breaks off where the quotes cannot be counted. -/
def Atom.overflow? : Atom → Option WriteTrouble
  | text s => if isCountable s.toList then none else some (.fault (.elsewhere "attempt to add with overflow"))
  | _ => none

/-- The standard format of a writer that counts quotes in eight bits, and notices when these do not suffice. -/
@[reducible]
def counted : Format := ⟨read?, writing fun atom => atom.excess?.or atom.overflow?⟩

end TaskScheduling.Toml
