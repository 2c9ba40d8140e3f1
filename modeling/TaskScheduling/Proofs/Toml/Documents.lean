import TaskScheduling.Proofs.Toml.Numerals
import TaskScheduling.Proofs.Toml.Quoting
import TaskScheduling.Toml.Document

/-!
# Written documents read back

A document of lines, each of which assigns a value to a bare key, is the table of these values, in the same order, if no
key occurs twice (`parse?_document`).  A written value stands for a node if reading it at the end of a line gives the
node and leaves the line break (`Denotes`); texts, numbers and truth values do.

So the standard format is as documented (`documented_standard`), and so is the counted one as long as it can count
(`write_counted`).
-/

namespace TaskScheduling.Toml

/-- The node that is read for a written value. -/
def Atom.node : Atom → Node
  | text s => .string s
  | number n => .integer n
  | flag b => .boolean b

/-! ### Values -/

/-- That written value `w` at the end of a line is read as `v`. -/
structure Denotes (w : List Char) (v : Node) : Prop where
  front : ∀ s, skipBlanks (w ++ '\n' :: s) = w ++ '\n' :: s
  value : ∀ fuel s, value? (fuel + 1) 0 (w ++ '\n' :: s) = some (v, '\n' :: s)

theorem denotes_flag (b : Bool) : Denotes (Inspect.flag b).toList (.boolean b) := by
  cases b
  · refine ⟨fun _ => rfl, fun _ _ => ?_⟩
    change value? _ 0 ('f' :: 'a' :: 'l' :: 's' :: 'e' :: _) = _
    rw [value?]
    rfl
  · refine ⟨fun _ => rfl, fun _ _ => ?_⟩
    change value? _ 0 ('t' :: 'r' :: 'u' :: 'e' :: _) = _
    rw [value?]
    rfl

theorem denotes_integer {n : Nat} (h : n < integerLimit) : Denotes (toString n).toList (.integer n) := by
  obtain ⟨c, ds, he, hc⟩ := exists_toString_eq_cons n
  have hne : ∀ d, d.isDigit = false → c ≠ d := by
    rintro d hd rfl
    rw [hc] at hd
    cases hd
  refine ⟨fun s => ?_, fun fuel s => ?_⟩
  · rw [he]
    simp [skipBlanks, isBlank, hne ' ' rfl, hne '\t' rfl]
  · have hn := numeric?_toString h s
    rw [he, List.cons_append] at hn ⊢
    rw [value?]
    simp [hne '"' rfl, hne '\'' rfl, hne '[' rfl, hne '\x7b' rfl, hne 't' rfl, hne 'f' rfl, hne 'i' rfl, hne 'n' rfl,
      hn]

theorem denotes_text (text : List Char) : Denotes (writeText text) (.string (String.ofList text)) := by
  have hw : ∃ q s, writeText text = q :: s ∧ (q = '"' ∨ q = '\'') := by
    unfold writeText
    dsimp only
    split
    · exact ⟨'"', _, rfl, .inl rfl⟩
    · exact ⟨'\'', _, rfl, .inr rfl⟩
    · exact ⟨'"', _, rfl, .inl rfl⟩
    · exact ⟨'\'', _, rfl, .inr rfl⟩
  obtain ⟨q, s', he, hq⟩ := hw
  refine ⟨fun s => ?_, fun fuel s => ?_⟩
  · rw [he]
    rcases hq with rfl | rfl <;> rfl
  · have ht := text?_writeText text s
    rw [he, List.cons_append] at ht ⊢
    rw [value?]
    simp [hq, ht]

theorem denotes_spelling {atom : Atom} (h : atom.fits = true) : Denotes atom.spelling.toList atom.node := by
  cases atom with
  | text s =>
    have hs := denotes_text s.toList
    rw [String.ofList_toList] at hs
    rwa [Atom.spelling, String.toList_ofList]
  | number n => exact denotes_integer (by simpa [Atom.fits] using h)
  | flag b => exact denotes_flag b

/-! ### Lines -/

namespace IsBareKey

variable {key : String}

private theorem exists_eq_cons (h : IsBareKey key) : ∃ c cs, key.toList = c :: cs ∧
    c ≠ '"' ∧ c ≠ '\'' ∧ c ≠ '[' ∧ c ≠ '#' ∧ c ≠ '\n' ∧ c ≠ '\r' ∧ c ≠ '\ufeff' ∧ isBlank c = false := by
  obtain ⟨hne, hb⟩ := h
  cases he : key.toList with
  | nil => exact absurd he hne
  | cons c cs =>
    have hc := hb c (by simp [he])
    refine ⟨c, cs, rfl, ?_, ?_, ?_, ?_, ?_, ?_, ?_, ?_⟩
    case refine_8 =>
      simp only [isBlank, Bool.or_eq_false_iff, decide_eq_false_iff_not]
      constructor <;> (rintro rfl; cases hc)
    all_goals rintro rfl; cases hc

private theorem keyPart?_append (h : IsBareKey key) (s : Rest) :
    keyPart? (key.toList ++ ' ' :: s) = some (key, ' ' :: s) := by
  obtain ⟨c, cs, he, hq, hq', -⟩ := h.exists_eq_cons
  have hspan : (key.toList ++ ' ' :: s).span isBareKeyChar = (key.toList, ' ' :: s) := by
    rw [List.span_eq_takeWhile_dropWhile, List.takeWhile_append_of_pos h.bare, List.dropWhile_append_of_pos h.bare]
    simp [isBareKeyChar]
  rw [he, List.cons_append] at hspan ⊢
  rw [keyPart?]
  · rw [hspan]
    simp only
    rw [← he, String.ofList_toList]
  · rintro _ ⟨⟩; exact hq rfl
  · rintro _ ⟨⟩; exact hq' rfl

private theorem key?_append (h : IsBareKey key) (s : Rest) :
    key? (key.toList ++ ' ' :: '=' :: s) = some ([], key, '=' :: s) := by
  obtain ⟨c, cs, he, -, -, -, -, -, -, -, hb⟩ := h.exists_eq_cons
  have hskip : skipBlanks (key.toList ++ ' ' :: '=' :: s) = key.toList ++ ' ' :: '=' :: s := by
    rw [he]; simp [skipBlanks, hb]
  rw [key?, depthLimit, keyParts?, hskip, keyPart?_append h]
  rfl

end IsBareKey

private theorem toList_line (key value : String) :
    (line key value).toList = key.toList ++ [' ', '=', ' '] ++ value.toList ++ ['\n'] := by
  simp [line]

private theorem statement?_line {key value : String} {v : Node} (hk : IsBareKey key) (hv : Denotes value.toList v)
    (s : Rest) : statement? ((line key value).toList ++ s) = some (.assignment [] key v, s) := by
  have hline : (line key value).toList ++ s = key.toList ++ ' ' :: '=' :: ' ' :: (value.toList ++ '\n' :: s) := by
    simp [toList_line]
  have hskip : skipBlanks (' ' :: (value.toList ++ '\n' :: s)) = value.toList ++ '\n' :: s := hv.front s
  have hkey := hk.key?_append (' ' :: (value.toList ++ '\n' :: s))
  obtain ⟨c, cs, he, -, -, hh, -⟩ := hk.exists_eq_cons
  rw [hline]
  rw [he, List.cons_append] at hkey ⊢
  rw [statement?, hkey]
  · simp only [hskip, hv.value, Option.bind_eq_bind, Option.bind_some]
    rfl
  · exact fun _ heq => hh (List.cons.inj heq).1
  · exact fun _ heq => hh (List.cons.inj heq).1

/-! ### Documents -/

variable {entries : List (String × Atom)}

/-- The characters of a document. -/
private def content (entries : List (String × Atom)) : Rest := (document Atom.spelling entries).toList

private theorem content_cons (entry : String × Atom) (entries : List (String × Atom)) :
    content (entry :: entries) = (line entry.1 entry.2.spelling).toList ++ content entries := by
  simp only [content, document, List.map_cons, String.join_cons, String.toList_append]

private theorem exists_content_eq_cons {entry : String × Atom} (hk : IsBareKey entry.1)
    (entries : List (String × Atom)) :
    ∃ c cs, content (entry :: entries) = c :: cs ∧
      c ≠ '#' ∧ c ≠ '\n' ∧ c ≠ '\r' ∧ c ≠ '\ufeff' ∧ isBlank c = false := by
  obtain ⟨c, cs, hc, -, -, -, hrest⟩ := hk.exists_eq_cons
  exact ⟨c, _, by simp only [content_cons, toList_line, hc, List.cons_append]; rfl, hrest⟩

private theorem length_le_content (entries : List (String × Atom)) : entries.length ≤ (content entries).length := by
  induction entries with
  | nil => exact Nat.zero_le _
  | cons entry entries ih =>
    simp only [content_cons, toList_line, List.length_append, List.length_cons]
    omega

private theorem statements?_content (h : ∀ entry ∈ entries, IsBareKey entry.1 ∧ entry.2.fits = true) {fuel : Nat}
    (hf : entries.length < fuel) :
    statements? fuel (content entries) = some (entries.map fun entry => .assignment [] entry.1 entry.2.node) := by
  induction entries generalizing fuel with
  | nil =>
    obtain ⟨fuel, rfl⟩ := Nat.exists_eq_succ_of_ne_zero (by omega : fuel ≠ 0)
    rfl
  | cons entry entries ih =>
    obtain ⟨fuel, rfl⟩ := Nat.exists_eq_succ_of_ne_zero (by omega : fuel ≠ 0)
    obtain ⟨⟨hk, hfits⟩, hrest⟩ := List.forall_mem_cons.1 h
    have hs : statement? (content (entry :: entries)) = some (.assignment [] entry.1 entry.2.node, content entries) := by
      rw [content_cons]
      exact statement?_line hk (denotes_spelling hfits) (content entries)
    obtain ⟨c, cs, hc, hh, hn, hr, -, hb⟩ := exists_content_eq_cons hk entries
    have hskip : skipBlanks (c :: cs) = c :: cs := by simp [skipBlanks, hb]
    have hnewline : newline? (c :: cs) = none := by
      rw [newline?]
      · exact fun _ heq => hn (List.cons.inj heq).1
      · exact fun _ heq => hr (List.cons.inj heq).1
    rw [hc] at hs ⊢
    rw [statements?, hskip]
    simp only [hnewline, hs, Option.bind_eq_bind, Option.bind_some, ih hrest (by simpa using hf)]
    rfl

private theorem build_assignments (given : Entries) {entries : Entries} (h : ((given ++ entries).map Prod.fst).Nodup) :
    build [] given (entries.map fun (key, v) => .assignment [] key v) = some (given ++ entries) := by
  induction entries generalizing given with
  | nil => simp [build]
  | cons entry entries ih =>
    obtain ⟨key, v⟩ := entry
    have hnew : insertNew key v given = some (given ++ [(key, v)]) := by
      have hk : given.lookup key = none := by
        rw [List.map_append, List.nodup_append] at h
        rw [List.lookup_eq_none_iff]
        intro p hp
        have := h.2.2 p.1 (List.mem_map_of_mem hp) key (by simp)
        simpa using Ne.symm this
      simp [insertNew, hk]
    have ih := ih (given ++ [(key, v)]) (by simpa using h)
    rw [List.map_cons, build, within, assign, hnew, Option.bind_eq_bind, Option.bind_some, ih]
    simp

private theorem parse?_of_mark {text : String} (h : ∀ rest, text.toList ≠ '\ufeff' :: rest) :
    parse? text = (statements? (text.toList.length + 1) text.toList).bind (build [] []) := by
  rw [parse?]
  split
  · next heq => exact absurd heq (h _)
  · rfl

/-- A written document reads as the entries that its lines give. -/
theorem parse?_document (h : ∀ entry ∈ entries, IsBareKey entry.1 ∧ entry.2.fits = true)
    (hn : (entries.map Prod.fst).Nodup) :
    parse? (document Atom.spelling entries) = some (entries.map fun entry => (entry.1, entry.2.node)) := by
  have hmark : ∀ rest, content entries ≠ '\ufeff' :: rest := by
    cases entries with
    | nil => rintro _ ⟨⟩
    | cons entry entries =>
      obtain ⟨c, cs, hc, -, -, -, hmark, -⟩ := exists_content_eq_cons (h entry List.mem_cons_self).1 entries
      rw [hc]
      exact fun _ heq => hmark (List.cons.inj heq).1
  have hlt : entries.length < (content entries).length + 1 := Nat.lt_succ_of_le (length_le_content entries)
  have hkeys : ((entries.map fun entry => (entry.1, entry.2.node)).map Prod.fst).Nodup := by
    rw [List.map_map]
    exact hn
  have hbuild := build_assignments [] hkeys
  rw [List.map_map] at hbuild
  rw [parse?_of_mark hmark]
  change (statements? ((content entries).length + 1) (content entries)).bind (build [] []) = _
  rw [statements?_content h hlt, Option.bind_some]
  exact hbuild

/-! ### The standard format -/

private theorem entryValues_node (entries : List (String × Atom)) :
    entryValues (entries.map fun entry => (entry.1, entry.2.node)) =
      entries.map fun entry => (entry.1, entry.2.value) := by
  induction entries with
  | nil => rfl
  | cons entry entries ih =>
    have hvalue : entry.2.node.value = entry.2.value := by cases entry.2 <;> rfl
    simp only [List.map_cons, entryValues, hvalue, ih]

theorem documented_standard : standard.Documented Atom.spelling where
  grammar entries h hn := by
    change (parse? _).map entryValues = _
    rw [parse?_document h hn, Option.map_some, entryValues_node]
  absent fields _ h := by
    have hnone : (present fields).findSome? (fun entry => entry.2.excess?) = none := by
      rw [List.findSome?_eq_none_iff]
      intro entry hentry
      rw [Atom.excess?, if_pos (h entry hentry)]
    change writing Atom.excess? fields = _
    rw [writing, hnone]
  limit fields h := by
    change writing Atom.excess? fields = _
    cases hfound : (present fields).findSome? fun entry => entry.2.excess? with
    | none =>
      obtain ⟨entry, hentry, hfits⟩ := h
      have hfine := List.findSome?_eq_none_iff.1 hfound entry hentry
      rw [Atom.excess?, hfits] at hfine
      cases hfine
    | some trouble =>
      obtain ⟨entry, -, htrouble⟩ := List.exists_of_findSome?_eq_some hfound
      rw [writing, hfound]
      rw [Atom.excess?] at htrouble
      split at htrouble
      · cases htrouble
      · rw [← Option.some.inj htrouble]

private theorem findSome?_congr {α β : Type} {l : List α} {g g' : α → Option β} (h : ∀ a ∈ l, g a = g' a) :
    l.findSome? g = l.findSome? g' := by
  induction l with
  | nil => rfl
  | cons a l ih =>
    obtain ⟨ha, hl⟩ := List.forall_mem_cons.1 h
    rw [List.findSome?_cons, List.findSome?_cons, ha, ih hl]

/-- Where the quotes can be counted, counting them makes no difference. -/
theorem write_counted {fields : List (String × Option Atom)}
    (h : ∀ entry ∈ present fields, entry.2.overflow? = none) : counted.write fields = standard.write fields := by
  have hsame : (present fields).findSome? (fun entry => entry.2.excess?.or entry.2.overflow?) =
      (present fields).findSome? fun entry => entry.2.excess? := by
    apply findSome?_congr
    intro entry hentry
    rw [h entry hentry, Option.or_none]
  change writing _ fields = writing _ fields
  rw [writing, hsame, writing]

end TaskScheduling.Toml
