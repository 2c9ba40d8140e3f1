/-!
# JSON values

A number keeps its digits as written.  A text with an escaped half of a surrogate pair stands for no text; it may occur
where nobody asks for its content.
-/

namespace TaskScheduling

inductive Json where
  | null
  | bool (b : Bool)
  | number (digits : List Char)
  | string (text : Option String)
  | array (items : List Json)
  | object (fields : List (Option String × Json))

namespace Json

def ofText (s : String) : Json := string (some s)

def ofNat (n : Nat) : Json := number (toString n).toList

def ofFields (fields : List (String × Json)) : Json := object (fields.map fun (name, v) => (some name, v))

end Json

end TaskScheduling
