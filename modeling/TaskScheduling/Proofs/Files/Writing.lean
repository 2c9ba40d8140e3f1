import TaskScheduling.Files.Tree

/-!
# Written files can be read

Once a file has been written, reading its path gives what was written (`read_write`, `readText_write`), whether the file
was there before or not.
-/

namespace TaskScheduling.FileTree

variable {t t' : FileTree} {p : Path} {l : Location}

private theorem walk_append (steps steps' : List String) :
    t.walk l (steps ++ steps') = (t.walk l steps).bind fun l => t.walk l steps' := by
  induction steps generalizing l with
  | nil => rfl
  | cons step steps ih =>
    simp only [List.cons_append, walk]
    cases t.next l step with
    | error fault => rfl
    | ok l' => exact ih

private theorem eq_append_of_dropWhile {steps before : List String} {name : String}
    (h : steps.reverse.dropWhile (· = "") = name :: before) (hl : steps.getLast? ≠ some "") :
    steps = before.reverse ++ [name] := by
  rw [← List.head?_reverse] at hl
  have hr : steps.reverse = name :: before := by
    cases hs : steps.reverse with
    | nil => rw [hs] at h; cases h
    | cons step more =>
      have hne : step ≠ "" := by rintro rfl; rw [hs] at hl; exact hl rfl
      rw [hs, List.dropWhile_cons_of_neg (by simpa using hne)] at h
      exact h
  rw [← List.reverse_reverse steps, hr, List.reverse_cons]

/-- The place of a file is where its path leads by a last step to a name. -/
private theorem walk_of_target (h : t.target p = .ok l) : pathFault? p = none ∧
    ∃ before name l', p.steps = before ++ [name] ∧ t.walk (t.origin p) before = .ok l' ∧ t.next l' name = .ok l := by
  unfold target at h
  cases hf : pathFault? p with
  | some fault => rw [hf] at h; cases h
  | none =>
    refine ⟨rfl, ?_⟩
    rw [hf] at h
    simp only at h
    split at h
    · cases h
    · next name before hsteps =>
      cases hw : t.walk (t.origin p) before.reverse with
      | error fault => rw [hw] at h; cases h
      | ok l' =>
        rw [hw] at h
        change (if _ then (t.next l' ".").bind _ else t.next l' name) = _ at h
        split at h
        · cases hn : t.next l' "." <;> rw [hn] at h <;> cases h
        · next hc =>
          exact ⟨before.reverse, name, l', eq_append_of_dropWhile hsteps fun h' => hc (by simp [h']), hw, h⟩

private theorem locate_put {e : FileEntry} (h : t.target p = .ok l) (hd : t.find? l ≠ some .directory) :
    (t.put l e).locate p = .ok l := by
  have hkeep : ∀ {l'}, t.find? l' = some .directory → (t.put l e).find? l' = some .directory := by
    intro l' hl'
    have hroot : l ≠ .root := by rintro rfl; exact hd rfl
    have hne : l' ≠ l := by rintro rfl; exact hd hl'
    rw [find?_put hroot, if_neg hne, hl']
  obtain ⟨hf, before, name, l', hsteps, hw, hn⟩ := walk_of_target h
  rw [locate, hf]
  change (t.put l e).walk (t.origin p) p.steps = .ok l
  rw [hsteps, walk_append, walk_eq_ok hkeep hw]
  change (t.put l e).walk l' [name] = .ok l
  rw [walk, next_eq_ok hkeep hn]
  rfl

/-- What has been written to a file is what reading it gives. -/
theorem read_write {content : ByteArray} (h : t.write p content = (t', .ok ())) : t'.read p = .ok content := by
  unfold write at h
  cases htarget : t.target p with
  | error fault => rw [htarget] at h; cases h
  | ok l =>
    rw [htarget] at h
    simp only at h
    split at h
    · cases h
    · next hd =>
      obtain ⟨rfl, -⟩ := Prod.mk.inj h
      have hroot : l ≠ .root := by rintro rfl; exact hd rfl
      simp only [read, locate_put htarget hd, bind, Except.bind, find?_put hroot, if_true]

private theorem fromUTF8?_toUTF8 (text : String) : String.fromUTF8? text.toUTF8 = some text := by
  unfold String.fromUTF8?
  rw [String.toUTF8_eq_toByteArray, dif_pos text.isValidUTF8]
  rfl

theorem readText_write {text : String} (h : t.write p text.toUTF8 = (t', .ok ())) : t'.readText p = .ok text := by
  simp only [readText, read_write h, bind, Except.bind, fromUTF8?_toUTF8]

end TaskScheduling.FileTree
