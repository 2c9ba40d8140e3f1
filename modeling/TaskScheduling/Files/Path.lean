/-!
# Paths

A path is a text of names with slashes between them.  It starts at the root if it begins with a slash, and otherwise
wherever its reader is.
-/

namespace TaskScheduling

structure Path where
  text : String
  deriving DecidableEq, Repr

namespace Path

/-- What stands between the slashes. -/
def split : List Char → List (List Char)
  | [] => [[]]
  | c :: rest =>
    if c = '/' then [] :: split rest
    else
      match split rest with
      | [] => [[c]]
      | first :: more => (c :: first) :: more

def isAbsolute (p : Path) : Bool := p.text.toList.head? = some '/'

/-- The steps that a path leads, also those that stay where they are. -/
def steps (p : Path) : List String := (split p.text.toList).map String.ofList

/-- Whether a step leads nowhere: there is nothing between two slashes, or a dot. -/
def stays (step : String) : Bool := step = "" || step = "."

/-- The place `name` below a path. -/
def join (p : Path) (name : String) : Path :=
  match p.text.toList.getLast? with
  | none => ⟨name⟩
  | some c => if c = '/' then ⟨p.text ++ name⟩ else ⟨p.text ++ "/" ++ name⟩

/-- The directory that a path names a member of, in the words of the path, unless that is where its reader is. -/
def parent? (p : Path) : Option Path :=
  match p.steps with
  | [] => none
  | first :: more =>
    match more.reverse.dropWhile stays with
    | [] => none
    | _ :: before =>
      let way := "/".intercalate (first :: (before.dropWhile stays).reverse)
      some ⟨if way = "" then "/" else way⟩

end Path

end TaskScheduling
