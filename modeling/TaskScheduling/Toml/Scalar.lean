import TaskScheduling.Toml.Format
import TaskScheduling.Toml.Text
import TaskScheduling.Toml.Tree

/-!
# Numbers and dates in TOML

Integers have 64 bits with a sign, in decimal, or without a sign in hexadecimal, octal or binary.  An underscore may
stand between two digits.  A float that is too large for 64 bits is no float; dates and times have to exist.
-/

namespace TaskScheduling.Toml

/-! ### Digits -/

/-- Digits in a base, where a single underscore may stand between two of them; behind the first digit. -/
def moreDigits? (isDigit : Char → Bool) : Rest → Option (List Char × Rest)
  | '_' :: c :: rest =>
    if isDigit c then (moreDigits? isDigit rest).map fun (ds, rest) => (c :: ds, rest) else none
  | '_' :: [] => none
  | c :: rest =>
    if isDigit c then (moreDigits? isDigit rest).map fun (ds, rest) => (c :: ds, rest) else some ([], c :: rest)
  | [] => some ([], [])

def digits? (isDigit : Char → Bool) : Rest → Option (List Char × Rest)
  | c :: rest => if isDigit c then (moreDigits? isDigit rest).map fun (ds, rest) => (c :: ds, rest) else none
  | [] => none

def numberOf (base : Nat) (ds : List Char) : Nat := ds.foldl (fun n c => n * base + (hexValue? c).getD 0) 0

def sign : Rest → Bool × Rest
  | '+' :: rest => (false, rest)
  | '-' :: rest => (true, rest)
  | s => (false, s)

/-- Decimal digits without a zero in front. -/
def whole? : Rest → Option (List Char × Rest)
  | '0' :: rest => some (['0'], rest)
  | s => digits? Char.isDigit s

/-! ### Integers -/

private def isHex (c : Char) : Bool := (hexValue? c).isSome

private def isOctal (c : Char) : Bool := '0' ≤ c && c ≤ '7'

private def isBinary (c : Char) : Bool := c = '0' || c = '1'

private def based? (base : Nat) (isDigit : Char → Bool) (s : Rest) : Option (Node × Rest) := do
  let (ds, rest) ← digits? isDigit s
  let n := numberOf base ds
  if n < integerLimit then pure (.integer n, rest) else none

def integer? : Rest → Option (Node × Rest)
  | '0' :: 'x' :: rest => based? 16 isHex rest
  | '0' :: 'o' :: rest => based? 8 isOctal rest
  | '0' :: 'b' :: rest => based? 2 isBinary rest
  | s => do
    let (negative, s) := sign s
    let (ds, rest) ← whole? s
    let n := numberOf 10 ds
    if negative then if n ≤ integerLimit then pure (.integer (-n), rest) else none
    else if n < integerLimit then pure (.integer n, rest) else none

/-! ### Floats -/

/-- The smallest number that a float of 64 bits rounds to infinity. -/
def floatLimit : Nat := Nat.pow 2 1024 - Nat.pow 2 970

/-- Whether `digits` times ten to the power of `exponent` is too large for a float. -/
def isTooLarge (digits : List Char) (exponent : Int) : Bool :=
  let significant := digits.dropWhile (· = '0')
  let top : Int := significant.length + exponent
  if significant.isEmpty then false
  else if top > 310 then true
  else if top < 300 then false
  else
    let n := numberOf 10 significant
    if exponent ≥ 0 then n * Nat.pow 10 exponent.toNat ≥ floatLimit
    else n ≥ floatLimit * Nat.pow 10 (-exponent).toNat

private def fraction? : Rest → Option (List Char × Rest)
  | '.' :: rest => digits? Char.isDigit rest
  | _ => none

private def exponent? : Rest → Option (Int × Rest)
  | c :: rest =>
    if c = 'e' || c = 'E' then
      let (negative, rest) := sign rest
      (digits? Char.isDigit rest).map fun (ds, rest) =>
        (if negative then -(numberOf 10 ds : Int) else numberOf 10 ds, rest)
    else none
  | [] => none

private def startsExponent : Rest → Bool
  | c :: _ => c = 'e' || c = 'E'
  | [] => false

def infinity? : Rest → Option Rest
  | 'i' :: 'n' :: 'f' :: rest => some rest
  | _ => none

def notANumber? : Rest → Option Rest
  | 'n' :: 'a' :: 'n' :: rest => some rest
  | _ => none

def float? (s : Rest) : Option (Node × Rest) :=
  let (negative, s) := sign s
  match (infinity? s).or (notANumber? s) with
  | some rest => some (.float, rest)
  | none => do
    let (whole, s) ← whole? s
    let (fraction, s) ←
      match s with
      | '.' :: _ => fraction? s
      | _ => if startsExponent s then some ([], s) else none
    let (exponent, s) ← if startsExponent s then exponent? s else some (0, s)
    if !negative && isTooLarge (whole ++ fraction) (exponent - fraction.length) then none else pure (.float, s)

/-! ### Dates and times -/

/-- A number of exactly `n` digits. -/
def fixed? : Nat → Nat → Rest → Option (Nat × Rest)
  | 0, value, s => some (value, s)
  | n + 1, value, c :: rest => if c.isDigit then fixed? n (value * 10 + (c.toNat - 48)) rest else none
  | _ + 1, _, [] => none

def ranged? (low high : Nat) (s : Rest) : Option (Nat × Rest) :=
  (fixed? 2 0 s).filter fun (n, _) => low ≤ n && n ≤ high

private def expect? (c : Char) : Rest → Option Rest
  | d :: rest => if d = c then some rest else none
  | [] => none

def isLeap (year : Nat) : Bool := (year % 4 == 0 && year % 100 != 0) || year % 400 == 0

def daysIn (year month : Nat) : Nat :=
  if month = 2 then if isLeap year then 29 else 28
  else if month = 4 ∨ month = 6 ∨ month = 9 ∨ month = 11 then 30
  else 31

def date? (s : Rest) : Option Rest := do
  let (year, s) ← fixed? 4 0 s
  let s ← expect? '-' s
  let (month, s) ← ranged? 1 12 s
  let s ← expect? '-' s
  let (_, s) ← ranged? 1 (daysIn year month) s
  pure s

private def secondFraction : Rest → Option Rest
  | '.' :: rest =>
    match rest.span Char.isDigit with
    | ([], _) => none
    | (_, rest) => some rest
  | s => some s

def time? (s : Rest) : Option Rest := do
  let (_, s) ← ranged? 0 23 s
  let s ← expect? ':' s
  let (_, s) ← ranged? 0 59 s
  let s ← expect? ':' s
  let (_, s) ← ranged? 0 60 s
  pure ((secondFraction s).getD s)

private def offset? : Rest → Option Rest
  | 'Z' :: rest => some rest
  | 'z' :: rest => some rest
  | c :: rest =>
    if c = '+' || c = '-' then do
      let (_, s) ← ranged? 0 23 rest
      let s ← expect? ':' s
      let (_, s) ← ranged? 0 59 s
      pure s
    else some (c :: rest)
  | [] => some []

/-- A date, a time, or both together, perhaps with the distance from universal time. -/
def dateTime? (s : Rest) : Option (Node × Rest) :=
  match date? s with
  | some rest =>
    match rest with
    | c :: behind =>
      if c = 'T' || c = 't' || c = ' ' then
        match time? behind with
        | some rest => (offset? rest).map fun rest => (.dateTime, rest)
        | none => some (.dateTime, rest)
      else some (.dateTime, rest)
    | [] => some (.dateTime, [])
  | none => (time? s).map fun rest => (.dateTime, rest)

/-! ### Any of them -/

/-- A number or a date, whichever the text is. -/
def numeric? (s : Rest) : Option (Node × Rest) := (dateTime? s).or ((float? s).or (integer? s))

end TaskScheduling.Toml
