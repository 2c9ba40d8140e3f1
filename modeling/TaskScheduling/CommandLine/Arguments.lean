import TaskScheduling.CommandLine.UsageError
import TaskScheduling.Files.Path
import TaskScheduling.Time

/-!
# Reading a command line

Arguments are read from left to right.  An option waits for its value, and a value that has arrived is checked only when
the next option is read or the arguments come to an end; so of several errors the first is reported, except that an
argument out of place is reported before a wrong value that stands in front of it.  Behind two dashes nothing is an
option any more.
-/

namespace TaskScheduling.CommandLine

/-- What the program is asked to do. -/
inductive Order where
  | run (tasks recurring durationMs : Nat) (seed : Option Nat)
  | tick (ticks intervalMs : Nat)
  | config (save : Option Path)
  | version
  deriving DecidableEq, Repr

structure Invocation where
  order : Order
  verbosity : Nat
  config : Option Path
  deriving DecidableEq, Repr

/-- What a command line comes to if it is not an invocation. -/
inductive Diversion where
  /-- Help on a command, or on the program. -/
  | help (verb : Option Verb)
  | version
  /-- No arguments that say anything, which are answered by help as well. -/
  | nothingAsked
  | misuse (e : UsageError)
  deriving DecidableEq, Repr

/-! ### Numbers -/

/-- Reads digits behind those that `n` stands for. -/
def readDigits (n : Nat) : List Char → Except NumberFault Nat
  | [] => .ok n
  | c :: rest =>
    if c.isDigit then
      let n := 10 * n + (c.toNat - 48)
      if n ≤ Time.limit then readDigits n rest else .error .tooLarge
    else .error .invalidDigit

/-- Reads a number, which may have a plus sign in front. -/
def readNumber (text : String) : Except NumberFault Nat :=
  match text.toList with
  | [] => .error .empty
  | '+' :: c :: rest => readDigits 0 (c :: rest)
  | digits => readDigits 0 digits

/-! ### Options -/

/-- What has been read on one side of the command. -/
structure Reading where
  verbosity : Nat
  /-- The values of options. -/
  values : List (CommandOption × String)
  /-- The last option that takes a value, and the value once it has arrived. -/
  pending : Option (CommandOption × Option String)
  deriving DecidableEq, Repr

namespace Reading

def start : Reading := ⟨0, [], none⟩

/-- Whether the next argument may be the value of an option. -/
def awaitsValue (r : Reading) : Bool :=
  match r.pending with
  | some (_, none) => true
  | _ => false

private def misuse {α : Type} (e : UsageError) : Except Diversion α := .error (.misuse e)

private def check (o : CommandOption) (value : String) : Except Diversion Unit :=
  match o.effect with
  | .takesValue _ .number =>
    match readNumber value with
    | .ok _ => pure ()
    | .error fault => misuse (.invalidNumber o value fault)
  | .takesValue _ .file => if value.isEmpty then misuse (.missingValue o) else pure ()
  | _ => pure ()

/-- Keeps the value of an option, which is given at most once. -/
private def store (r : Reading) (o : CommandOption) (value : String) : Except Diversion Reading := do
  if (r.values.lookup o).isSome then misuse (.repeated o)
  check o value
  pure { r with values := (o, value) :: r.values }

/-- Deals with the option that is pending. -/
def settle (r : Reading) : Except Diversion Reading :=
  match r.pending with
  | none => pure r
  | some (o, none) => misuse (.missingValue o)
  | some (o, some value) => { r with pending := none }.store o value

/-- An option of the given command without a value. -/
private def apply (r : Reading) (verb : Option Verb) (o : CommandOption) : Except Diversion Reading := do
  let r ← r.settle
  match o.effect with
  | .count => pure { r with verbosity := r.verbosity + 1 }
  | .help => throw (.help verb)
  | .version => throw .version
  | .takesValue _ _ => pure { r with pending := some (o, none) }

private def attach (r : Reading) (o : CommandOption) (value : String) : Except Diversion Reading := do
  match o.effect with
  | .takesValue _ _ => (← r.settle).store o value
  | _ => misuse (.unexpectedValue o value)

def optionsOf (verb : Option Verb) : List CommandOption := verb.elim programOptions Verb.options

/-- The text on both sides of the first equals sign, if there is one. -/
private def splitEquals : List Char → List Char × Option (List Char)
  | [] => ([], none)
  | c :: rest =>
    if c = '=' then ([], some rest)
    else
      let (name, value) := splitEquals rest
      (c :: name, value)

/-- An argument behind two dashes. -/
def readLong (r : Reading) (verb : Option Verb) (argument : List Char) : Except Diversion Reading :=
  let (name, value) := splitEquals argument
  let name := String.ofList name
  match (optionsOf verb).find? (·.long = name), value with
  | none, _ => misuse (.unexpectedArgument ("--" ++ name))
  | some o, none => r.apply verb o
  | some o, some value => r.attach o (String.ofList value)

/-- Letters behind one dash; what follows an option that takes a value is its value. -/
def readShort (r : Reading) (verb : Option Verb) : List Char → Except Diversion Reading
  | [] => pure r
  | c :: rest =>
    match (optionsOf verb).find? (·.short = some c) with
    | none => misuse (.unexpectedArgument (String.ofList ['-', c]))
    | some o =>
      match o.effect, rest with
      | .takesValue _ _, [] => r.apply verb o
      | .takesValue _ _, '=' :: value => r.attach o (String.ofList value)
      | .takesValue _ _, value => r.attach o (String.ofList value)
      | _, _ => do readShort (← r.apply verb o) verb rest

/-- An argument that may be an option, or the value of one; `none` if it is neither. -/
def readArgument (r : Reading) (verb : Option Verb) (argument : String) : Option (Except Diversion Reading) :=
  match argument.toList with
  | '-' :: '-' :: rest => some (r.readLong verb rest)
  | '-' :: c :: rest => some (r.readShort verb (c :: rest))
  | _ =>
    match r.pending with
    | some (o, none) => some (pure { r with pending := some (o, some argument) })
    | _ => none

/-! ### Arguments -/

/-- Reads the arguments behind a command. -/
def readOptions (verb : Verb) : Reading → List String → Except Diversion Reading
  | r, [] => r.settle
  | r, argument :: rest =>
    if argument = "--" then
      match rest with
      | [] => r.settle
      | extra :: _ => misuse (.unexpectedArgument extra)
    else
      match r.readArgument verb argument with
      | none => misuse (.unexpectedArgument argument)
      | some result => result.bind fun r => readOptions verb r rest

/-- The help that a list of commands asks for; commands have no commands of their own. -/
def helpOn : List String → Diversion
  | [] => .help none
  | word :: rest =>
    match Verb.ofName? word, rest with
    | none, _ => .misuse (.unknownCommand word)
    | some verb, [] => .help (some verb)
    | some _, extra :: _ => .misuse (.unknownCommand extra)

/-- The end of the arguments without a command. -/
private def finish {α : Type} (r : Reading) : Except Diversion α := do
  let r ← r.settle
  if r.verbosity = 0 ∧ r.values = [] then throw .nothingAsked else misuse .missingCommand

/-- Reads the arguments up to the command, and then those behind it. -/
def readProgram : Reading → List String → Except Diversion (Reading × Verb × Reading)
  | r, [] => r.finish
  | r, argument :: rest =>
    match if r.awaitsValue then none else Verb.ofName? argument with
    | some .help => throw (helpOn rest)
    | some verb => do
      let inner ← readOptions verb start rest
      pure (← r.settle, verb, inner)
    | none =>
      if argument = "--" then
        match rest with
        | [] => r.finish
        | extra :: _ =>
          misuse (if (Verb.ofName? extra).isSome then .unexpectedArgument extra else .unknownCommand extra)
      else
        match r.readArgument none argument with
        | none => misuse (.unknownCommand argument)
        | some result => result.bind fun r => readProgram r rest

private def number? (r : Reading) (o : CommandOption) : Option Nat :=
  (r.values.lookup o).bind fun value => (readNumber value).toOption

private def path? (r : Reading) (o : CommandOption) : Option Path := (r.values.lookup o).map Path.mk

/-- What a command with its options asks for. -/
def order (r : Reading) : Verb → Order
  | .run =>
    .run ((r.number? tasksOption).getD 200) ((r.number? recurringOption).getD 4)
      ((r.number? durationOption).getD 2000) (r.number? seedOption)
  | .tick => .tick ((r.number? ticksOption).getD 50) ((r.number? intervalOption).getD 10)
  | .config => .config (r.path? saveOption)
  | .version | .help => .version

end Reading

/-- Reads the arguments of the program.  What is said behind the command takes precedence. -/
def Invocation.ofArguments (arguments : List String) : Except Diversion Invocation := do
  let (outer, verb, inner) ← Reading.start.readProgram arguments
  pure
    { order := inner.order verb
      verbosity := if inner.verbosity = 0 then outer.verbosity else inner.verbosity
      config := (inner.path? configOption).or (outer.path? configOption) }

end TaskScheduling.CommandLine
