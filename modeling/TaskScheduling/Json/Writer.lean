import TaskScheduling.Json.Basic

/-!
# Writing JSON

The compact form has no blanks at all.  In the indented form every item and field stands on a line of its own, two
columns further in than what it belongs to.
-/

namespace TaskScheduling.Json

private def hexDigits (n : Nat) : List Char := [Nat.digitChar (n / 16), Nat.digitChar (n % 16)]

def escape (c : Char) : List Char :=
  if c = '"' then ['\\', '"']
  else if c = '\\' then ['\\', '\\']
  else if c = '\n' then ['\\', 'n']
  else if c = '\r' then ['\\', 'r']
  else if c = '\t' then ['\\', 't']
  else if c = '\x08' then ['\\', 'b']
  else if c = '\x0c' then ['\\', 'f']
  else if c.toNat < 0x20 then ['\\', 'u', '0', '0'] ++ hexDigits c.toNat
  else [c]

def quoted (text : String) : String := String.ofList ('"' :: (text.toList.flatMap escape ++ ['"']))

mutual

def compact : Json → String
  | null => "null"
  | bool true => "true"
  | bool false => "false"
  | number digits => String.ofList digits
  | string text => quoted (text.getD "")
  | array items => "[" ++ compactItems items ++ "]"
  | object fields => "\x7b" ++ compactFields fields ++ "\x7d"

def compactItems : List Json → String
  | [] => ""
  | [v] => compact v
  | v :: rest => compact v ++ "," ++ compactItems rest

def compactFields : List (Option String × Json) → String
  | [] => ""
  | [(name, v)] => quoted (name.getD "") ++ ":" ++ compact v
  | (name, v) :: rest => quoted (name.getD "") ++ ":" ++ compact v ++ "," ++ compactFields rest

end

private def lineStart (depth : Nat) : String := "\n" ++ String.ofList (List.replicate (2 * depth) ' ')

mutual

def indented (depth : Nat) : Json → String
  | array (v :: rest) => "[" ++ indentedItems (depth + 1) (v :: rest) ++ lineStart depth ++ "]"
  | object (f :: rest) => "\x7b" ++ indentedFields (depth + 1) (f :: rest) ++ lineStart depth ++ "\x7d"
  | null => "null"
  | bool true => "true"
  | bool false => "false"
  | number digits => String.ofList digits
  | string text => quoted (text.getD "")
  | array [] => "[]"
  | object [] => "\x7b\x7d"

def indentedItems (depth : Nat) : List Json → String
  | [] => ""
  | [v] => lineStart depth ++ indented depth v
  | v :: rest => lineStart depth ++ indented depth v ++ "," ++ indentedItems depth rest

def indentedFields (depth : Nat) : List (Option String × Json) → String
  | [] => ""
  | [(name, v)] => lineStart depth ++ quoted (name.getD "") ++ ": " ++ indented depth v
  | (name, v) :: rest =>
    lineStart depth ++ quoted (name.getD "") ++ ": " ++ indented depth v ++ "," ++ indentedFields depth rest

end

end TaskScheduling.Json
