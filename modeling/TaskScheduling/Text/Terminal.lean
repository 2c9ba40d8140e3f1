/-!
# Text without control sequences

Text can carry sequences that tell a terminal what to do.  They begin with an escape character and are left out where
text is to be read and nothing else, as are single control characters other than those that break or indent lines.

A break inside a sequence is kept, and so is what follows it up to the next control character; the sequence goes on
from there.  Main statement: text in which there is nothing to leave out stays as it is (`plain_of_isShown`).
-/

namespace TaskScheduling.Terminal

/-- Breaks and indents of lines. -/
def isBreak (c : Char) : Bool := c = '\t' || c = '\n' || c = '\x0c' || c = '\r'

/-- Whether a character stays, outside sequences. -/
def isShown (c : Char) : Bool := isBreak c || (' ' ≤ c && c ≠ '\x7f')

/-- Which part of a sequence is being read. -/
inductive Phase where
  /-- No sequence. -/
  | text
  | escape
  /-- Behind an escape and its modifiers. -/
  | modifier
  /-- Up to the letter that ends a control sequence. -/
  | control
  /-- A title for the window, up to a bell. -/
  | title
  /-- The three parts at the head of a message to the device. -/
  | deviceStart
  | deviceParameter
  | deviceModifier
  /-- A message up to its terminator. -/
  | message
  deriving DecidableEq, Repr

private def between (low high c : Char) : Bool := low ≤ c && c ≤ high

/-- Whether a character contains the byte that terminates a message. -/
def holdsTerminator (c : Char) : Bool := 0x80 ≤ c.toNat && (String.utf8EncodeChar c).contains 0x9c

/-- Where the character at the head of a message leads. -/
private def messageHead (parameter : Phase) (stay : Phase) (c : Char) : Phase :=
  if between '@' '~' c then .message
  else if between ' ' '/' c then .deviceModifier
  else if between '0' '?' c then parameter
  else stay

namespace Phase

/-- The phase behind a character that is left out. -/
def next (p : Phase) (c : Char) : Phase :=
  if c = '\x18' || c = '\x1a' then text
  else if c = '\x1b' then escape
  else
    match p with
    | text => text
    | escape =>
      if between ' ' '/' c then modifier
      else if c = '[' then control
      else if c = ']' then title
      else if c = 'P' then deviceStart
      else if c = 'X' || c = '^' || c = '_' then message
      else if between '0' '~' c then text
      else escape
    | modifier => if between '0' '~' c then text else modifier
    | control => if between '@' '~' c then text else control
    | title => if c = '\x07' then text else title
    | deviceStart => messageHead deviceParameter deviceStart c
    | deviceParameter => messageHead (if between '<' '?' c then message else deviceParameter) deviceParameter c
    | deviceModifier => messageHead message deviceModifier c
    | message => if holdsTerminator c then text else message

/-- Whether a character stays. -/
def shows (p : Phase) (c : Char) : Bool :=
  match p with
  | text => isShown c
  | escape | modifier | control => isBreak c
  | _ => false

end Phase

/-- What stays of characters, where `open?` tells whether the character before them has stayed. -/
def strip : Phase → Bool → List Char → List Char
  | _, _, [] => []
  | p, open?, c :: rest =>
    if p.shows c || (open? && isShown c) then c :: strip (if c.toNat < 0x80 then p else .text) true rest
    else strip (p.next c) false rest

def plain (text : String) : String := String.ofList (strip .text false text.toList)

theorem strip_of_isShown {cs : List Char} (h : ∀ c ∈ cs, isShown c = true) (open? : Bool) :
    strip .text open? cs = cs := by
  induction cs generalizing open? with
  | nil => rfl
  | cons c rest ih =>
    rw [List.forall_mem_cons] at h
    simp only [strip, Phase.shows, h.1, Bool.true_or, ite_true, ite_self]
    rw [ih h.2]

theorem plain_of_isShown {text : String} (h : ∀ c ∈ text.toList, isShown c = true) : plain text = text := by
  rw [plain, strip_of_isShown h, String.ofList_toList]

end TaskScheduling.Terminal
