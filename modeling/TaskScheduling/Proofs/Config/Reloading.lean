import TaskScheduling.Config.Storage
import TaskScheduling.Proofs.Files.Writing
import TaskScheduling.Proofs.Toml.Documents

/-!
# Saved settings load again

The table that a file of settings says, also without entries that hold defaults, is the settings (`ofTable?_filter`).
So, whatever the format of the files is that is as documented, settings that a scheduler can run with load from the file
to which they were saved, and others are refused with what is wrong with them.  Settings with a number too large for a
file are not saved, and then no file changes (`load_of_save`).
-/

namespace TaskScheduling

/-! ### Entries of a table -/

namespace Toml

/-- The table that lines with these entries say. -/
def Table.ofEntries (entries : List (String × Atom)) : Table := entries.map fun entry => (entry.1, entry.2.value)

theorem map_fst_present_sublist (fields : List (String × Option Atom)) :
    ((present fields).map Prod.fst).Sublist (fields.map Prod.fst) := by
  induction fields with
  | nil => exact .slnil
  | cons field fields ih =>
    obtain ⟨key, _ | atom⟩ := field
    · exact ih.cons key
    · exact ih.cons_cons key

private theorem lookup_ofEntries_filter (entries : List (String × Atom)) (kept : String → Bool) (key : String) :
    (Table.ofEntries (entries.filter fun entry => kept entry.1)).lookup key =
      if kept key then (entries.lookup key).map Atom.value else none := by
  induction entries with
  | nil => simp [Table.ofEntries]
  | cons entry entries ih =>
    obtain ⟨k, atom⟩ := entry
    simp only [Table.ofEntries] at ih ⊢
    by_cases hk : key = k
    · subst hk
      cases hkept : kept key with
      | true => simp [hkept]
      | false => simpa [hkept] using ih
    · have hne : (key == k) = false := by simpa using hk
      rw [List.lookup_cons, hne, ← ih]
      cases hkept : kept k <;> simp [hkept, hne, List.lookup_cons]

/-- A setting that is kept is read, and one that is left out has its default. -/
private theorem setting?_filter {α : Type} {entries : List (String × Atom)} {key : String} {atom : Atom} {x d : α}
    {read : Value → Option α} (kept : String → Bool) (ha : entries.lookup key = some atom)
    (hr : read atom.value = some x) (hd : kept key = false → x = d) :
    setting? (Table.ofEntries (entries.filter fun entry => kept entry.1)) key d read = some x := by
  rw [setting?, lookup_ofEntries_filter, ha]
  cases hk : kept key with
  | true => exact hr
  | false => rw [hd hk]; rfl

end Toml

namespace Settings

variable {c : Settings}

/-- That every number fits in a file. -/
structure Fits (c : Settings) : Prop where
  poolSize : c.poolSize < Toml.integerLimit
  maxWaitForLow : c.maxWaitForLow < Toml.integerLimit
  keepAlive : c.keepAlive < Toml.integerLimit
  stackSize : ∀ n ∈ c.stackSize, n < Toml.integerLimit

/-! ### What is written -/

/-- What a file of these settings says. -/
def entries (c : Settings) : List (String × Toml.Atom) := Toml.present c.fields

private theorem map_fst_fields (c : Settings) : c.fields.map Prod.fst = names := rfl

private theorem entries_eq (c : Settings) : c.entries =
    [("pool_size", .number c.poolSize), ("default_priority", .text c.defaultPriority.name),
      ("max_wait_for_low_priority_ms", .number c.maxWaitForLow), ("keep_alive_ms", .number c.keepAlive),
      ("thread_name_prefix", .text c.threadNameStem), ("daemon_threads", .flag c.daemonThreads)] ++
    c.stackSize.toList.map fun n => ("stack_size", .number n) := by
  cases hs : c.stackSize <;> simp [entries, fields, Toml.present, hs]

private theorem isBareKey_of_mem_fields {key : String} (h : key ∈ c.fields.map Prod.fst) : Toml.IsBareKey key := by
  rw [map_fst_fields] at h
  have hall : ∀ key ∈ names, key.toList ≠ [] ∧ key.toList.all Toml.isBareKeyChar = true := by decide +kernel
  exact ⟨(hall key h).1, List.all_eq_true.1 (hall key h).2⟩

private theorem isBareKey_of_mem_entries {entry : String × Toml.Atom} (h : entry ∈ c.entries) :
    Toml.IsBareKey entry.1 :=
  isBareKey_of_mem_fields ((Toml.map_fst_present_sublist c.fields).subset (List.mem_map_of_mem h))

private theorem nodup_keys (c : Settings) : (c.entries.map Prod.fst).Nodup := by
  have hnames : (c.fields.map Prod.fst).Nodup := by
    rw [map_fst_fields]
    decide
  exact hnames.sublist (Toml.map_fst_present_sublist c.fields)

theorem fits_iff : c.Fits ↔ ∀ entry ∈ c.entries, entry.2.fits = true := by
  rw [entries_eq]
  simp only [List.forall_mem_append, List.forall_mem_cons, List.forall_mem_map, Option.mem_toList, Toml.Atom.fits,
    decide_eq_true_eq]
  constructor
  · rintro ⟨hp, hw, hk, hs⟩
    exact ⟨⟨hp, trivial, hw, hk, trivial, trivial, by simp⟩, hs⟩
  · rintro ⟨⟨hp, -, hw, hk, -⟩, hs⟩
    exact ⟨hp, hw, hk, hs⟩

/-! ### What is read -/

/-- That every setting whose key is not kept has its default. -/
structure Covered [Parallelism] (kept : String → Bool) (c : Settings) : Prop where
  poolSize : kept "pool_size" = false → c.poolSize = default.poolSize
  defaultPriority : kept "default_priority" = false → c.defaultPriority = default.defaultPriority
  maxWaitForLow : kept "max_wait_for_low_priority_ms" = false → c.maxWaitForLow = default.maxWaitForLow
  keepAlive : kept "keep_alive_ms" = false → c.keepAlive = default.keepAlive
  threadNameStem : kept "thread_name_prefix" = false → c.threadNameStem = default.threadNameStem
  daemonThreads : kept "daemon_threads" = false → c.daemonThreads = default.daemonThreads
  stackSize : kept "stack_size" = false → c.stackSize = default.stackSize

/-- The entries of settings, also without those that are not kept, say the settings. -/
theorem ofTable?_filter [Parallelism] {kept : String → Bool} (hc : c.Covered kept) :
    ofTable? (Toml.Table.ofEntries (c.entries.filter fun entry => kept entry.1)) = some c := by
  have hpriority : (Toml.Value.string c.defaultPriority.name).choice?.bind Priority.ofName? = some c.defaultPriority :=
    Priority.ofName?_name _
  have hsize : Toml.setting? (Toml.Table.ofEntries (c.entries.filter fun entry => kept entry.1)) "stack_size"
      default.stackSize (fun v => v.nat?.map some) = some c.stackSize := by
    cases hs : c.stackSize with
    | none =>
      have hno : c.entries.lookup "stack_size" = none := by simp [entries_eq, hs, List.lookup_cons]
      rw [Toml.setting?, Toml.lookup_ofEntries_filter, hno, Option.map_none, ite_self]
      rfl
    | some n =>
      have hv : c.entries.lookup "stack_size" = some (.number n) := by simp [entries_eq, hs, List.lookup_cons]
      exact Toml.setting?_filter kept hv (by simp [Toml.Atom.value, Toml.Value.nat?]) (hs ▸ hc.stackSize)
  have hnat (n : Nat) : (Toml.Atom.number n).value.nat? = some n := by simp [Toml.Atom.value, Toml.Value.nat?]
  rw [ofTable?, Toml.setting?_filter kept (x := c.poolSize) rfl (hnat _) hc.poolSize,
    Toml.setting?_filter kept (x := c.defaultPriority) rfl hpriority hc.defaultPriority,
    Toml.setting?_filter kept (x := c.maxWaitForLow) rfl (hnat _) hc.maxWaitForLow,
    Toml.setting?_filter kept (x := c.keepAlive) rfl (hnat _) hc.keepAlive,
    Toml.setting?_filter kept (x := c.threadNameStem) rfl rfl hc.threadNameStem,
    Toml.setting?_filter kept (x := c.daemonThreads) rfl rfl hc.daemonThreads, hsize]
  rfl

/-- What loading these settings gives: themselves, or what is wrong with them. -/
def checked (c : Settings) : Except ConfigError Settings :=
  match c.defect? with
  | none => .ok c
  | some defect => .error (.invalid defect)

private theorem run_access_bind {α β : Type} (access : StateM FileTree (Except FileFault α))
    (f : α → ExceptT ConfigError (StateM FileTree) β) (t : FileTree) :
    ((ExceptT.mk (Except.mapError ConfigError.file <$> access) : ExceptT ConfigError (StateM FileTree) α) >>= f).run t =
      match access t with
      | (.ok a, t₁) => (f a).run t₁
      | (.error fault, t₁) => (.error (.file fault), t₁) := by
  change ExceptT.bindCont f (Except.mapError ConfigError.file (access t).1) (access t).2 = _
  rcases access t with ⟨_ | _, t₁⟩ <;> rfl

section

variable [f : Toml.Format] {spelling : Toml.Atom → String}

theorem fileText_of_fits (hf : f.Documented spelling) (h : c.Fits) :
    c.fileText = .ok (Toml.document spelling c.entries) := by
  have hbare : ∀ field ∈ c.fields, Toml.IsBareKey field.1 := fun _ hfield =>
    isBareKey_of_mem_fields (List.mem_map_of_mem hfield)
  rw [fileText, toToml, hf.absent c.fields hbare (fits_iff.1 h)]
  rfl

theorem fileText_of_not_fits (hf : f.Documented spelling) (h : ¬ c.Fits) : c.fileText = .error .unwritable := by
  rw [fits_iff] at h
  simp only [not_forall, Bool.not_eq_true] at h
  obtain ⟨entry, hentry, hlarge⟩ := h
  rw [fileText, toToml, hf.limit c.fields ⟨entry, hentry, hlarge⟩]
  rfl

/-- What a file of settings says, also without the lines that are not kept, is the settings. -/
theorem ofFileText_document [Parallelism] (hf : f.Documented spelling) (h : c.Fits) {kept : String → Bool}
    (hc : c.Covered kept) :
    ofFileText (Toml.document spelling (c.entries.filter fun entry => kept entry.1)) = c.checked := by
  have hread : f.read? (Toml.document spelling (c.entries.filter fun entry => kept entry.1)) =
      some (Toml.Table.ofEntries (c.entries.filter fun entry => kept entry.1)) := by
    refine hf.grammar _ (fun entry hentry => ?_) ((nodup_keys c).sublist (List.filter_sublist.map _))
    have hmem := (List.mem_filter.1 hentry).1
    exact ⟨isBareKey_of_mem_entries hmem, fits_iff.1 h entry hmem⟩
  have hsettings : ofToml? (Toml.document spelling (c.entries.filter fun entry => kept entry.1)) = some c := by
    rw [ofToml?, hread, Option.bind_some, ofTable?_filter hc]
  simp only [ofFileText, hsettings, validate, checked]
  cases c.defect? <;> rfl

/-! ### Saving and loading in a tree of files -/

def saveIn (t : FileTree) (c : Settings) (path : Path) : Except ConfigError Unit × FileTree :=
  (c.save path : ExceptT ConfigError (StateM FileTree) Unit).run t

def loadFrom [Parallelism] (t : FileTree) (path : Path) : Except ConfigError Settings × FileTree :=
  (load path : ExceptT ConfigError (StateM FileTree) Settings).run t

private theorem loadFrom_of_readText [Parallelism] {t : FileTree} {path : Path} {text : String}
    (h : t.readText path = .ok text) : loadFrom t path = (ofFileText text, t) := by
  have hread : (FileStore.readText path : StateM FileTree (Except FileFault String)) t = (t.readText path, t) := rfl
  refine (run_access_bind _ _ t).trans ?_
  rw [hread, h]
  rfl

/-- What comes of saving once the directory is there. -/
private def saved (t : FileTree) (c : Settings) (path : Path) : Except ConfigError Unit × FileTree :=
  match c.fileText with
  | .error e => (.error e, t)
  | .ok text => ((t.write path text.toUTF8).2.mapError .file, (t.write path text.toUTF8).1)

private theorem saveIn_of_parent {t : FileTree} {path dir : Path} (hp : path.parent? = some dir) :
    saveIn t c path =
      if t.isPresent dir then saved t c path
      else
        match t.createDirectories dir with
        | (t₁, .ok ()) => saved t₁ c path
        | (t₁, .error fault) => (.error (.file fault), t₁) := by
  simp only [saveIn, save, hp, saved]
  change ExceptT.run (if t.isPresent dir = true then (_ : ExceptT ConfigError (StateM FileTree) Unit) else _) t = _
  cases t.isPresent dir with
  | true => cases c.fileText <;> rfl
  | false =>
    have hmake : (FileStore.createDirectories dir : StateM FileTree (Except FileFault Unit)) t =
        ((t.createDirectories dir).2, (t.createDirectories dir).1) := rfl
    refine (run_access_bind _ _ t).trans ?_
    rw [hmake]
    rcases t.createDirectories dir with ⟨t₁, _ | _⟩
    · rfl
    · cases c.fileText <;> rfl

/-- Saving writes the file into a tree with the same files, or fails without having written any. -/
private theorem saveIn_cases (t : FileTree) (c : Settings) (path : Path) :
    ∃ t₁ : FileTree, (∀ q content, t.read q = .ok content → t₁.read q = .ok content) ∧
      (saveIn t c path = saved t₁ c path ∨ ∃ fault, saveIn t c path = (.error (.file fault), t₁)) := by
  cases hp : path.parent? with
  | none =>
    refine ⟨t, fun _ _ => id, .inl ?_⟩
    simp only [saveIn, save, hp, saved]
    cases c.fileText <;> rfl
  | some dir =>
    rw [saveIn_of_parent hp]
    cases t.isPresent dir with
    | true => exact ⟨t, fun _ _ => id, .inl rfl⟩
    | false =>
      have hread q content (h : t.read q = .ok content) : (t.createDirectories dir).1.read q = .ok content :=
        FileTree.read_createDirectories h
      rcases hc : t.createDirectories dir with ⟨t₁, fault | _⟩
      · exact ⟨t₁, by simpa only [hc] using hread, .inr ⟨fault, rfl⟩⟩
      · exact ⟨t₁, by simpa only [hc] using hread, .inl rfl⟩

private theorem saveIn_of_error {e : ConfigError} (h : c.fileText = .error e) (t : FileTree) (path : Path) :
    (∃ e', (saveIn t c path).1 = .error e') ∧
    ∀ q content, t.read q = .ok content → (saveIn t c path).2.read q = .ok content := by
  obtain ⟨t₁, hread, hs | ⟨fault, hs⟩⟩ := saveIn_cases t c path
  · rw [hs]
    simp only [saved, h]
    exact ⟨⟨e, rfl⟩, hread⟩
  · rw [hs]
    exact ⟨⟨.file fault, rfl⟩, hread⟩

private theorem saveIn_of_fileText {text : String} (h : c.fileText = .ok text) (t : FileTree) (path : Path) :
    (∀ e, (saveIn t c path).1 = .error e → ∃ fault, e = .file fault) ∧
    ∀ t', saveIn t c path = (.ok (), t') → t'.readText path = .ok text := by
  obtain ⟨t₁, -, hs | ⟨fault, hs⟩⟩ := saveIn_cases t c path
  · rw [hs]
    simp only [saved, h]
    rcases hw : t₁.write path text.toUTF8 with ⟨t₂, fault | _⟩
    · refine ⟨fun e he => ⟨fault, ?_⟩, ?_⟩
      · cases he; rfl
      · rintro t' ⟨⟩
    · refine ⟨?_, ?_⟩
      · rintro e ⟨⟩
      · rintro t' ⟨⟩
        exact FileTree.readText_write hw
  · rw [hs]
    refine ⟨?_, ?_⟩
    · rintro e ⟨⟩
      exact ⟨fault, rfl⟩
    · rintro t' ⟨⟩

/-- Settings whose numbers fit in a file are written as lines that load as the same settings, or tell what is wrong
with these, also without any of the lines that hold defaults; only the files can refuse them.  Other settings are not
saved, and no file changes. -/
theorem load_of_save [Parallelism] (hf : f.Documented spelling) (c : Settings) (path : Path) (t : FileTree) :
    (c.Fits →
      c.fileText = .ok (Toml.document spelling c.entries) ∧
      ofFileText (Toml.document spelling c.entries) = c.checked ∧
      (∀ kept, c.Covered kept →
        ofFileText (Toml.document spelling (c.entries.filter fun entry => kept entry.1)) = c.checked) ∧
      (∀ e, (saveIn t c path).1 = .error e → ∃ fault, e = .file fault) ∧
      ∀ t', saveIn t c path = (.ok (), t') → loadFrom t' path = (c.checked, t')) ∧
    (¬ c.Fits →
      c.fileText = .error .unwritable ∧ (∃ e, (saveIn t c path).1 = .error e) ∧
      ∀ q content, t.read q = .ok content → (saveIn t c path).2.read q = .ok content) := by
  constructor
  · intro h
    have htext := fileText_of_fits hf h
    have hall : ofFileText (Toml.document spelling c.entries) = c.checked := by
      have hc : c.Covered fun _ => true := ⟨nofun, nofun, nofun, nofun, nofun, nofun, nofun⟩
      have hkept := ofFileText_document hf h hc
      rwa [List.filter_true] at hkept
    obtain ⟨herror, hread⟩ := saveIn_of_fileText htext t path
    refine ⟨htext, hall, fun kept hc => ofFileText_document hf h hc, herror, fun t' ht' => ?_⟩
    rw [loadFrom_of_readText (hread t' ht'), hall]
  · intro h
    have htext := fileText_of_not_fits hf h
    exact ⟨htext, saveIn_of_error htext t path⟩

end

section

local instance : Toml.Format := Toml.standard

local instance : Parallelism := ⟨some ⟨8, by decide⟩⟩

private def quoted : Settings := { default with threadNameStem := "a\"b'\\\n\x07", stackSize := some 65536 }

private def oversized : Settings := { default with keepAlive := Toml.integerLimit }

private def nameless : Settings := { default with threadNameStem := "" }

/-- Quotes, a backslash, a line break and a control character come back, also from a file that says nothing else of the
settings than what is not their default; a number that is too large leaves the file as it was; threads without a name
are refused. -/
theorem load_of_save_quoted : Toml.standard.Documented Toml.Atom.spelling ∧
    (∃ t content, saveIn .empty quoted ⟨"/etc/tasks.toml"⟩ = (.ok (), t) ∧
      loadFrom t ⟨"/etc/tasks.toml"⟩ = (.ok quoted, t) ∧ t.read ⟨"/etc/tasks.toml"⟩ = .ok content ∧
      (∃ e, (saveIn t oversized ⟨"/etc/tasks.toml"⟩).1 = .error e) ∧
      (saveIn t oversized ⟨"/etc/tasks.toml"⟩).2.read ⟨"/etc/tasks.toml"⟩ = .ok content) ∧
    ofFileText (Toml.document Toml.Atom.spelling
      (quoted.entries.filter fun entry => entry.1 = "thread_name_prefix" || entry.1 = "stack_size")) = .ok quoted ∧
    ofFileText (Toml.document Toml.Atom.spelling nameless.entries) = .error (.invalid .namelessThreads) := by
  have hf := Toml.documented_standard
  have hsaved : (saveIn .empty quoted ⟨"/etc/tasks.toml"⟩).1 = .ok () := by decide +kernel
  have hquoted := (load_of_save hf quoted ⟨"/etc/tasks.toml"⟩ .empty).1 ⟨by decide, by decide, by decide, by decide⟩
  have hnameless := (load_of_save hf nameless ⟨"/etc/tasks.toml"⟩ .empty).1
    ⟨by decide, by decide, by decide, by decide⟩
  have hlarge := (load_of_save hf oversized ⟨"/etc/tasks.toml"⟩ (saveIn .empty quoted ⟨"/etc/tasks.toml"⟩).2).2
    fun h => Nat.lt_irrefl _ h.keepAlive
  obtain ⟨content, hcontent⟩ : ∃ content, (saveIn .empty quoted ⟨"/etc/tasks.toml"⟩).2.read ⟨"/etc/tasks.toml"⟩ =
      .ok content := ⟨_, rfl⟩
  refine ⟨hf, ⟨_, content, Prod.ext hsaved rfl, hquoted.2.2.2.2 _ (Prod.ext hsaved rfl), hcontent, hlarge.2.1,
    hlarge.2.2 _ content hcontent⟩, hquoted.2.2.1 (fun key => key = "thread_name_prefix" || key = "stack_size") ?_,
    hnameless.2.1⟩
  exact ⟨fun _ => rfl, fun _ => rfl, fun _ => rfl, fun _ => rfl, nofun, fun _ => rfl, nofun⟩

end

end Settings

end TaskScheduling
