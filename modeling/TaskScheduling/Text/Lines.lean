/-!
# Lines of text

A line ends with a line feed, perhaps after a carriage return; the last one may do without.
-/

namespace TaskScheduling.Lines

private def withoutReturn (line : List Char) : List Char :=
  if line.getLast? = some '\r' then line.dropLast else line

/-- The lines of a text of which the characters of the first line so far, the last one first, have been read. -/
private def split : List Char → List Char → List (List Char)
  | [], [] => []
  | line, [] => [line.reverse]
  | line, c :: rest =>
    if c = '\n' then withoutReturn line.reverse :: split [] rest else split (c :: line) rest

def ofText (text : String) : List String := (split [] text.toList).map String.ofList

end TaskScheduling.Lines
