import TaskScheduling.Text.Printable

/-!
# Quoted text

Text between double quotes, on one line and without invisible characters: a quote and a backslash take a backslash,
the usual controls have a letter, and every other character that cannot be shown stands as its number in hexadecimal.
-/

namespace TaskScheduling.Quoted

/-- The number of a character in hexadecimal, as `\u{…}`. -/
private def numbered (c : Char) : List Char :=
  '\\' :: 'u' :: '\x7b' :: (Nat.toDigits 16 c.toNat ++ ['\x7d'])

def escape (c : Char) : List Char :=
  if c = '\x00' then ['\\', '0']
  else if c = '\t' then ['\\', 't']
  else if c = '\r' then ['\\', 'r']
  else if c = '\n' then ['\\', 'n']
  else if c = '"' then ['\\', '"']
  else if c = '\\' then ['\\', '\\']
  else if Printable.isPrintable c then [c]
  else numbered c

def quote (text : String) : String :=
  String.ofList ('"' :: (text.toList.flatMap escape ++ ['"']))

end TaskScheduling.Quoted
