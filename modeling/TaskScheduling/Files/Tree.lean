import TaskScheduling.Files.Store

/-!
# Trees of files

A tree of directories and files below a root, and the place in it from which relative paths start.  A later entry for a
location counts in place of an earlier one.  Names and whole paths have a largest length.

Main statement: making directories changes the content of no file (`read_createDirectories`).
-/

namespace TaskScheduling

/-- The names on the way from the root, each behind a slash. -/
abbrev Location := String

namespace Location

def root : Location := ""

def member (l : Location) (name : String) : Location := l ++ "/" ++ name

/-- The location that this one is a member of; the root stays where it is. -/
def parent (l : Location) : Location := String.ofList ((l.toList.reverse.dropWhile (· ≠ '/')).drop 1).reverse

end Location

inductive FileEntry where
  | file (content : ByteArray)
  | directory

structure FileTree where
  /-- All entries but the root, the latest first. -/
  entries : List (Location × FileEntry)
  workingDirectory : Location

namespace FileTree

/-- Nothing but a root. -/
def empty : FileTree := ⟨[], .root⟩

def find? (t : FileTree) (l : Location) : Option FileEntry :=
  if l = Location.root then some .directory else t.entries.lookup l

def put (t : FileTree) (l : Location) (e : FileEntry) : FileTree := { t with entries := (l, e) :: t.entries }

/-- The largest number of bytes in a name. -/
def nameLimit : Nat := 255

/-- The largest number of bytes in a path. -/
def pathLimit : Nat := 4095

/-- The next place on the way of a path, if this one is a directory. -/
def next (t : FileTree) (l : Location) (step : String) : Except FileFault Location :=
  match t.find? l with
  | none => .error .notFound
  | some (.file _) => .error .notADirectory
  | some .directory =>
    if Path.stays step then .ok l
    else if step = ".." then .ok (Location.parent l)
    else if nameLimit < step.utf8ByteSize then .error .nameTooLong
    else .ok (Location.member l step)

/-- Where steps lead from a place. -/
def walk (t : FileTree) : Location → List String → Except FileFault Location
  | l, [] => .ok l
  | l, step :: rest => (t.next l step).bind fun l => walk t l rest

/-- Where a path starts. -/
def origin (t : FileTree) (p : Path) : Location := if p.isAbsolute then .root else t.workingDirectory

/-- What is wrong with a path by itself. -/
def pathFault? (p : Path) : Option FileFault :=
  if p.text.toList.contains '\x00' then some .unnameable
  else if p.text.isEmpty then some .notFound
  else if pathLimit < p.text.utf8ByteSize then some .nameTooLong
  else none

def locate (t : FileTree) (p : Path) : Except FileFault Location :=
  match pathFault? p with
  | some fault => .error fault
  | none => t.walk (t.origin p) p.steps

/-- The bytes of a file. -/
def read (t : FileTree) (p : Path) : Except FileFault ByteArray := do
  match t.find? (← t.locate p) with
  | none => .error .notFound
  | some .directory => .error .isADirectory
  | some (.file content) => .ok content

def readText (t : FileTree) (p : Path) : Except FileFault String := do
  match String.fromUTF8? (← t.read p) with
  | some text => .ok text
  | none => .error .notText

def isPresent (t : FileTree) (p : Path) : Bool :=
  match t.locate p with
  | .ok l => (t.find? l).isSome
  | .error _ => false

/-- Makes the directories that are missing on the way from a place.  Before anything was missing, a file there is in the
way; behind that it is in the place of the next directory. -/
def grow (t : FileTree) (missed : Bool) : Location → List String → FileTree × Except FileFault Unit
  | l, [] =>
    match t.find? l with
    | none => (t.put l .directory, .ok ())
    | some (.file _) => (t, .error .occupied)
    | some .directory => (t, .ok ())
  | l, step :: rest =>
    let missing := (t.find? l).isNone
    let t := if missing then t.put l .directory else t
    match t.next l step with
    | .error .notADirectory => (t, .error (if missed then .occupied else .notADirectory))
    | .error fault => (t, .error fault)
    | .ok l => grow t (missed || missing) l rest

def createDirectories (t : FileTree) (p : Path) : FileTree × Except FileFault Unit :=
  match pathFault? p with
  | some fault => (t, .error fault)
  | none => t.grow false (t.origin p) p.steps

/-- Where a file of this path is, or would be. -/
def target (t : FileTree) (p : Path) : Except FileFault Location :=
  match pathFault? p with
  | some fault => .error fault
  | none =>
    match (p.steps.reverse.dropWhile (· = "")) with
    | [] => .error .isADirectory
    | name :: before => do
      let l ← t.walk (t.origin p) before.reverse
      if p.steps.getLast? = some "" || Path.stays name || name = ".." then
        (t.next l ".").bind fun _ => .error .isADirectory
      else t.next l name

def write (t : FileTree) (p : Path) (content : ByteArray) : FileTree × Except FileFault Unit :=
  match t.target p with
  | .error fault => (t, .error fault)
  | .ok l =>
    match t.find? l with
    | some .directory => (t, .error .isADirectory)
    | _ => (t.put l (.file content), .ok ())

instance : FileStore (StateM FileTree) where
  readText p := fun t => (t.readText p, t)
  isPresent p := fun t => (t.isPresent p, t)
  createDirectories p := fun t => let (t, result) := t.createDirectories p; (result, t)
  writeText p text := fun t => let (t, result) := t.write p text.toUTF8; (result, t)

/-- The tree with one more file, or directory if there is no content, and the directories that it is in. -/
def plant (t : FileTree) (p : Path) : Option ByteArray → FileTree
  | none => (t.createDirectories p).1
  | some content => ((p.parent?.elim t fun dir => (t.createDirectories dir).1).write p content).1

/-! ### Making directories changes no file -/

theorem find?_put {t : FileTree} {l : Location} (hl : l ≠ .root) (e : FileEntry) (l' : Location) :
    (t.put l e).find? l' = if l' = l then some e else t.find? l' := by
  by_cases h : l' = Location.root
  · subst h; simp [find?, hl.symm]
  · by_cases h' : l' = l
    · subst h'; simp [find?, put, h]
    · have hb : (l' == l) = false := by simp [h']
      simp [find?, put, h, h', List.lookup_cons, hb]

/-- All that there is in `t` is there in `t'` as well, and is the same. -/
structure Extends (t' t : FileTree) : Prop where
  entry : ∀ {l e}, t.find? l = some e → t'.find? l = some e
  workingDirectory : t'.workingDirectory = t.workingDirectory

theorem Extends.refl (t : FileTree) : Extends t t := ⟨id, rfl⟩

theorem Extends.trans {t₁ t₂ t₃ : FileTree} (h : Extends t₃ t₂) (h' : Extends t₂ t₁) : Extends t₃ t₁ :=
  ⟨fun e => h.entry (h'.entry e), h.workingDirectory.trans h'.workingDirectory⟩

theorem extends_put {t : FileTree} {l : Location} (h : t.find? l = none) (e : FileEntry) : Extends (t.put l e) t := by
  have hl : l ≠ Location.root := by rintro rfl; simp [find?] at h
  refine ⟨fun {l' e'} h' => ?_, rfl⟩
  rw [find?_put hl]
  have : l' ≠ l := by rintro rfl; simp [h] at h'
  simp [this, h']

theorem extends_grow (t : FileTree) (missed : Bool) (l : Location) (steps : List String) :
    Extends (t.grow missed l steps).1 t := by
  induction steps generalizing t missed l with
  | nil =>
    simp only [grow]
    split
    · next h => exact extends_put h _
    · exact .refl t
    · exact .refl t
  | cons step rest ih =>
    have h : Extends (if (t.find? l).isNone then t.put l .directory else t) t := by
      split
      · next h => exact extends_put (Option.isNone_iff_eq_none.1 h) _
      · exact .refl t
    simp only [grow]
    split
    · exact h
    · exact h
    · exact (ih _ _ _).trans h

theorem next_eq_ok {t t' : FileTree} (h : ∀ {l}, t.find? l = some .directory → t'.find? l = some .directory)
    {l l' : Location} {step : String} (hn : t.next l step = .ok l') : t'.next l step = .ok l' := by
  unfold next at hn ⊢
  split at hn
  · cases hn
  · cases hn
  · next hd => rw [h hd]; exact hn

/-- A way through directories leads to the same place as long as they stay directories. -/
theorem walk_eq_ok {t t' : FileTree} (h : ∀ {l}, t.find? l = some .directory → t'.find? l = some .directory)
    {l l' : Location} {steps : List String} (hw : t.walk l steps = .ok l') : t'.walk l steps = .ok l' := by
  induction steps generalizing l with
  | nil => exact hw
  | cons step rest ih =>
    simp only [walk] at hw ⊢
    cases hn : t.next l step with
    | error fault => rw [hn] at hw; cases hw
    | ok l₁ => rw [hn] at hw; rw [next_eq_ok h hn]; exact ih hw

/-- A file that can be read keeps its content when more is added beside it. -/
theorem read_of_extends {t t' : FileTree} (h : Extends t' t) {p : Path} {content : ByteArray}
    (hr : t.read p = .ok content) : t'.read p = .ok content := by
  unfold read locate at hr ⊢
  cases hf : pathFault? p with
  | some fault => rw [hf] at hr; cases hr
  | none =>
    rw [hf] at hr
    have ho : t'.origin p = t.origin p := by simp [origin, h.workingDirectory]
    simp only [ho] at hr ⊢
    cases hw : t.walk (t.origin p) p.steps with
    | error fault => rw [hw] at hr; cases hr
    | ok l =>
      rw [hw] at hr
      rw [walk_eq_ok h.entry hw]
      change (match t.find? l with | none => _ | some .directory => _ | some (.file content) => _) = _ at hr
      change (match t'.find? l with | none => _ | some .directory => _ | some (.file content) => _) = _
      cases he : t.find? l with
      | none => rw [he] at hr; cases hr
      | some e => rw [he] at hr; rw [h.entry he]; exact hr

/-- Making directories keeps the content of every file. -/
theorem read_createDirectories {t : FileTree} {p q : Path} {content : ByteArray} (hr : t.read p = .ok content) :
    (t.createDirectories q).1.read p = .ok content := by
  unfold createDirectories
  split
  · exact hr
  · exact read_of_extends (extends_grow _ _ _ _) hr

end FileTree

end TaskScheduling
