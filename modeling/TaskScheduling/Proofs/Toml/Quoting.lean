import Mathlib.Data.List.Infix
import TaskScheduling.Toml.Text
import TaskScheduling.Toml.Writer

/-!
# Written text reads back

Whatever form `TextForm.choose` picks for a text, reading what is written gives the text (`text?_writeText`): quotes,
backslashes, line breaks and control characters included.  Between three quotes the point is which quotes belong to the
text and which close it: of the written text never more than two stand in a row, and those right before the closing ones
are told apart by `closing`.
-/

namespace TaskScheduling.Toml

/-! ### Escapes -/

private theorem hexNumber?_append {n value m : Nat} {s rest : Rest} (h : hexNumber? n value s = some (m, rest))
    (t : Rest) : hexNumber? n value (s ++ t) = some (m, rest ++ t) := by
  induction n generalizing value s with
  | zero => cases h; rfl
  | succ n ih =>
    cases s with
    | nil => cases h
    | cons c s =>
      simp only [hexNumber?, List.cons_append, Option.bind_eq_some_iff] at h ⊢
      obtain ⟨d, hd, h⟩ := h
      exact ⟨d, hd, ih h⟩

private theorem numbered?_append {n : Nat} {c : Char} {s rest : Rest} (h : numbered? n s = some (c, rest)) (t : Rest) :
    numbered? n (s ++ t) = some (c, rest ++ t) := by
  simp only [numbered?, Option.bind_eq_some_iff] at h ⊢
  obtain ⟨⟨m, rest'⟩, hm, h⟩ := h
  refine ⟨(m, rest' ++ t), hexNumber?_append hm t, ?_⟩
  split at h
  · next hv => cases h; exact if_pos hv
  · cases h

private theorem numbered?_escape_ofNat : ∀ n < 128,
    isControl (Char.ofNat n) = true ∧ Char.ofNat n ∉ ['\x08', '\x0c', '\r'] →
    numbered? 4 ((escape (Char.ofNat n)).drop 2) = some (Char.ofNat n, []) := by
  decide +kernel

theorem isTextChar_of_not_isControl {c : Char} (h : isControl c = false) (hn : c ≠ '\n') : isTextChar c = true := by
  by_cases ht : c = '\t'
  · subst ht; rfl
  · simp only [isControl, isTextChar, ht, hn, ne_eq, not_false_eq_true, decide_true, Bool.and_true,
      Bool.or_eq_false_iff, Bool.and_eq_true, Bool.or_eq_true, decide_eq_false_iff_not, decide_eq_true_eq] at h ⊢
    omega

/-- What is written for a character is the character, or a backslash with an escape for it behind. -/
private theorem escape_cases (c : Char) :
    (escape c = [c] ∧ c ≠ '\\' ∧ isControl c = false) ∨
    ∃ e, escape c = '\\' :: e ∧ (∀ s, continued? (e ++ s) = none) ∧ ∀ s, escaped? (e ++ s) = some (c, s) := by
  by_cases hs : c ∈ ['\x08', '\t', '\x0c', '\r', '\\']
  · right
    simp only [List.mem_cons, List.not_mem_nil, or_false] at hs
    rcases hs with rfl | rfl | rfl | rfl | rfl
    · exact ⟨['b'], rfl, fun _ => rfl, fun _ => rfl⟩
    · exact ⟨['t'], rfl, fun _ => rfl, fun _ => rfl⟩
    · exact ⟨['f'], rfl, fun _ => rfl, fun _ => rfl⟩
    · exact ⟨['r'], rfl, fun _ => rfl, fun _ => rfl⟩
    · exact ⟨['\\'], rfl, fun _ => rfl, fun _ => rfl⟩
  · simp only [List.mem_cons, List.not_mem_nil, or_false, not_or] at hs
    obtain ⟨hb, ht, hf, hr, hbs⟩ := hs
    cases hc : isControl c with
    | false => left; simp [escape, hb, ht, hf, hr, hbs, hc]
    | true =>
      right
      have hlt : c.toNat < 128 := by
        simp only [isControl, Bool.or_eq_true, Bool.and_eq_true, decide_eq_true_eq] at hc
        omega
      have he : escape c = '\\' :: 'u' :: (escape c).drop 2 := by simp [escape, hb, ht, hf, hr, hbs, hc]
      have h := numbered?_escape_ofNat c.toNat hlt ⟨by simpa using hc, by simp [hb, hf, hr]⟩
      rw [Char.ofNat_toNat] at h
      exact ⟨_, he, fun _ => rfl, numbered?_append h⟩

/-! ### Between double quotes -/

private theorem length_le_escapeAll (multiline : Bool) (allowed run : Nat) (text : List Char) :
    text.length ≤ (escapeAll multiline allowed run text).length := by
  induction text generalizing run with
  | nil => simp
  | cons c text ih =>
    unfold escapeAll
    split
    · split
      · have := ih (run + 1); simp; omega
      · have := ih 0; simp; omega
    · split
      · have := ih 0; cases multiline <;> simp <;> omega
      · have := ih 0
        rcases escape_cases c with ⟨he, -⟩ | ⟨e, he, -⟩ <;> simp [he] <;> omega

/-- Written text begins with a quote only if that is one of the text which needs no escape. -/
private theorem escapeAll_cons (multiline : Bool) (allowed run : Nat) {c : Char} (text : List Char)
    (h : ¬ (c = '"' ∧ run < allowed)) :
    ∃ d s, escapeAll multiline allowed run (c :: text) = d :: s ∧ d ≠ '"' ∧ (c ≠ '\n' → d ≠ '\n' ∧ d ≠ '\r') := by
  by_cases hq : c = '"'
  · have hr : ¬ run < allowed := fun hr => h ⟨hq, hr⟩
    simp only [escapeAll, hq, hr, if_true, if_false]
    exact ⟨'\\', _, rfl, by decide, by decide⟩
  · by_cases hn : c = '\n'
    · subst hn
      cases multiline
      · exact ⟨'\\', _, rfl, by decide, by decide⟩
      · exact ⟨'\n', _, rfl, by decide, fun h => absurd rfl h⟩
    · simp only [escapeAll, hq, hn, if_false]
      rcases escape_cases c with ⟨he, -, hc⟩ | ⟨e, he, -⟩
      · rw [he]
        exact ⟨c, _, rfl, hq, fun _ => ⟨hn, by rintro rfl; cases hc⟩⟩
      · rw [he]
        exact ⟨'\\', _, rfl, by decide, fun _ => by decide⟩

private theorem basic?_escape {c : Char} (hq : c ≠ '"') (hn : c ≠ '\n') (fuel : Nat) (s : Rest) :
    basic? (fuel + 1) (escape c ++ s) = (basic? fuel s).map fun (text, rest) => (c :: text, rest) := by
  rcases escape_cases c with ⟨he, hb, hc⟩ | ⟨e, he, -, hr⟩
  · have ht := isTextChar_of_not_isControl hc hn
    rw [he, List.singleton_append, basic?]
    · rw [if_pos ht]
      cases basic? fuel s <;> rfl
    · exact hq
    · exact hb
  · rw [he]
    simp only [List.cons_append, basic?]
    rw [hr, Option.bind_eq_bind, Option.bind_some]
    cases basic? fuel s <;> rfl

/-- Text in one line between double quotes reads back. -/
theorem basic?_escapeAll {text : List Char} {fuel : Nat} (hf : text.length < fuel) (rest : Rest) :
    basic? fuel (escapeAll false 0 0 text ++ '"' :: rest) = some (text, rest) := by
  induction text generalizing fuel with
  | nil =>
    obtain ⟨fuel, rfl⟩ := Nat.exists_eq_succ_of_ne_zero (by omega : fuel ≠ 0)
    rfl
  | cons c text ih =>
    obtain ⟨fuel, rfl⟩ := Nat.exists_eq_succ_of_ne_zero (by omega : fuel ≠ 0)
    have ih := @ih fuel (by simpa using hf)
    by_cases hq : c = '"'
    · subst hq
      simp [escapeAll, basic?, escaped?, ih]
    · by_cases hn : c = '\n'
      · subst hn
        simp [escapeAll, basic?, escaped?, ih]
      · simp only [escapeAll, hq, hn, if_false, List.append_assoc]
        rw [Nat.succ_eq_add_one, basic?_escape hq hn, ih]
        rfl

/-! ### Between single quotes -/

/-- Text without single quotes and line breaks reads back from between them. -/
theorem literal?_append {text : List Char} (hc : ∀ c ∈ text, isControl c = false) (hq : '\'' ∉ text)
    (hn : '\n' ∉ text) (rest : Rest) : literal? (text ++ '\'' :: rest) = some (text, rest) := by
  induction text with
  | nil => rfl
  | cons c text ih =>
    simp only [List.mem_cons, not_or] at hq hn
    have ht := isTextChar_of_not_isControl (hc c (by simp)) (Ne.symm hn.1)
    simp [literal?, Ne.symm hq.1, ht, ih (fun d hd => hc d (by simp [hd])) hq.2 hn.2]

/-! ### Three quotes -/

private theorem closing_eq_none {q : Char} {s : Rest} (h : ¬ [q, q, q] <+: s) : closing q s = none := by
  unfold closing
  split
  · next a b c rest =>
    split
    · next he => obtain ⟨rfl, rfl, rfl⟩ := he; exact absurd ⟨rest, rfl⟩ h
    · rfl
  · rfl

private theorem closing_replicate {q : Char} (hq : q ≠ '\n') {n : Nat} (hn : n ≤ 2) (rest : Rest) :
    closing q (List.replicate n q ++ q :: q :: q :: '\n' :: rest) = some (List.replicate n q, '\n' :: rest) := by
  have hq' : '\n' ≠ q := Ne.symm hq
  obtain rfl | rfl | rfl : n = 0 ∨ n = 1 ∨ n = 2 := by omega
  all_goals cases rest <;> simp [closing, hq', List.replicate]

private theorem newline?_eq_none {c : Char} (hn : c ≠ '\n') (hr : c ≠ '\r') (s : Rest) :
    newline? (c :: s) = none := by
  unfold newline?
  split
  · next h => cases h; exact absurd rfl hn
  · next h => cases h; exact absurd rfl hr
  · rfl

/-- After `run` quotes, written text is nothing but quotes of the text, or a third quote does not stand at its front,
whatever follows. -/
private theorem escapeAll_front {run : Nat} (hr : run ≤ 2) (text : List Char) (s : Rest) :
    (∃ n, n + run ≤ 2 ∧ text = List.replicate n '"' ∧ escapeAll true 2 run text = List.replicate n '"') ∨
    ¬ List.replicate (3 - run) '"' <+: escapeAll true 2 run text ++ s := by
  induction text generalizing run with
  | nil => exact .inl ⟨0, by omega, rfl, rfl⟩
  | cons c text ih =>
    by_cases hq : c = '"' ∧ run < 2
    · obtain ⟨rfl, hlt⟩ := hq
      have hw : escapeAll true 2 run ('"' :: text) = '"' :: escapeAll true 2 (run + 1) text := by
        simp [escapeAll, hlt]
      rw [hw]
      rcases @ih (run + 1) (by omega) with ⟨n, hn, ht, he⟩ | h
      · exact .inl ⟨n + 1, by omega, by rw [ht, List.replicate_succ], by rw [he, List.replicate_succ]⟩
      · right
        rw [show 3 - run = (3 - (run + 1)) + 1 by omega, List.replicate_succ, List.cons_append, List.cons_prefix_cons]
        exact fun h' => h h'.2
    · right
      obtain ⟨d, w, hw, hd, -⟩ := escapeAll_cons true 2 run text hq
      rw [hw, List.cons_append, show 3 - run = (2 - run) + 1 by omega, List.replicate_succ, List.cons_prefix_cons]
      exact fun h' => hd h'.1.symm

private theorem multilineBasic?_cons {c : Char} {s : Rest} (hc : closing '"' (c :: s) = none) (ht : isTextChar c = true)
    (hb : c ≠ '\\') (fuel : Nat) :
    multilineBasic? (fuel + 1) (c :: s) = (multilineBasic? fuel s).map fun (text, rest) => (c :: text, rest) := by
  have hn : c ≠ '\n' := by rintro rfl; cases ht
  have hr : c ≠ '\r' := by rintro rfl; cases ht
  rw [multilineBasic?, hc]
  · simp [newline?_eq_none hn hr, ht]
  · exact hb

private theorem multilineBasic?_newline (fuel : Nat) (s : Rest) :
    multilineBasic? (fuel + 1) ('\n' :: s) = (multilineBasic? fuel s).map fun (text, rest) => ('\n' :: text, rest) := by
  rw [multilineBasic?, closing_eq_none (by simp)]
  · rfl
  · decide

private theorem multilineBasic?_backslash {c : Char} {s s' : Rest} (hc : continued? s = none)
    (he : escaped? s = some (c, s')) (fuel : Nat) :
    multilineBasic? (fuel + 1) ('\\' :: s) = (multilineBasic? fuel s').map fun (text, rest) => (c :: text, rest) := by
  rw [multilineBasic?, closing_eq_none (by simp)]
  simp only [hc, he, Option.bind_eq_bind, Option.bind_some]
  cases multilineBasic? fuel s' <;> rfl

private theorem multilineBasic?_closing {s : Rest} {result : List Char × Rest} (h : closing '"' s = some result)
    (fuel : Nat) : multilineBasic? (fuel + 1) s = some result := by
  rw [multilineBasic?.eq_def]
  simp only [h]

/-- Text between three double quotes reads back, also behind `run` quotes that nothing escapes. -/
theorem multilineBasic?_escapeAll {text : List Char} {run fuel : Nat} (hr : run ≤ 2) (hf : text.length < fuel)
    (rest : Rest) :
    multilineBasic? fuel (escapeAll true 2 run text ++ '"' :: '"' :: '"' :: '\n' :: rest) =
      some (text, '\n' :: rest) := by
  induction text generalizing run fuel with
  | nil =>
    obtain ⟨fuel, rfl⟩ := Nat.exists_eq_succ_of_ne_zero (by omega : fuel ≠ 0)
    exact multilineBasic?_closing (closing_replicate (n := 0) (by decide) (by omega) rest) fuel
  | cons c text ih =>
    obtain ⟨fuel, rfl⟩ := Nat.exists_eq_succ_of_ne_zero (by omega : fuel ≠ 0)
    have hf' : text.length < fuel := by simpa using hf
    rcases escapeAll_front hr (c :: text) ('"' :: '"' :: '"' :: '\n' :: rest) with ⟨n, hn, ht, hw⟩ | h
    · rw [hw, ht]
      exact multilineBasic?_closing (closing_replicate (by decide) (by omega) rest) fuel
    · have hp : List.replicate (3 - run) '"' <+: ['"', '"', '"'] :=
        ⟨List.replicate run '"', by rw [← List.replicate_add, Nat.sub_add_cancel (by omega)]; rfl⟩
      have hcl := closing_eq_none (q := '"') fun h' => h (hp.trans h')
      by_cases hq : c = '"'
      · subst hq
        by_cases hlt : run < 2
        · simp only [escapeAll, hlt, if_true, List.cons_append] at hcl ⊢
          rw [multilineBasic?_cons hcl (by decide) (by decide), ih (by omega) hf']
          rfl
        · simp only [escapeAll, hlt, if_true, if_false, List.cons_append]
          rw [multilineBasic?_backslash rfl rfl, ih (by omega) hf']
          rfl
      · by_cases hn : c = '\n'
        · subst hn
          rw [show escapeAll true 2 run ('\n' :: text) = '\n' :: escapeAll true 2 0 text from rfl, List.cons_append,
            multilineBasic?_newline, ih (by omega) hf']
          rfl
        · simp only [escapeAll, hq, hn, if_false, List.append_assoc] at hcl ⊢
          rcases escape_cases c with ⟨he, hb, hc⟩ | ⟨e, he, hcont, hs⟩
          · rw [he, List.singleton_append] at hcl ⊢
            rw [multilineBasic?_cons hcl (isTextChar_of_not_isControl hc hn) hb, ih (by omega) hf']
            rfl
          · rw [he, List.cons_append, multilineBasic?_backslash (hcont _) (hs _), ih (by omega) hf']
            rfl

private theorem best_le_foldl (q : Char) (text : List Char) (p : Nat × Nat) :
    p.2 ≤ (text.foldl (fun (run, best) c => if c = q then (run + 1, max best (run + 1)) else (0, best)) p).2 := by
  induction text generalizing p with
  | nil => exact Nat.le_refl _
  | cons c text ih =>
    obtain ⟨run, best⟩ := p
    refine Nat.le_trans ?_ (ih _)
    change best ≤ (if c = q then (run + 1, max best (run + 1)) else (0, best)).2
    split
    · exact Nat.le_max_left ..
    · exact Nat.le_refl _

private theorem not_isInfix_of_longestRun {q : Char} {text : List Char} (h : longestRun q text ≤ 2) :
    ¬ [q, q, q] <:+: text := by
  rintro ⟨before, behind, rfl⟩
  simp only [longestRun, List.foldl_append, List.foldl_cons, List.foldl_nil, if_true] at h
  have hle := Nat.le_trans (best_le_foldl q behind _) h
  simp only at hle
  omega

private theorem replicate_or_not_isPrefix {q : Char} {text : List Char} (h : ¬ [q, q, q] <:+: text) (s : Rest) :
    (∃ n, n ≤ 2 ∧ text = List.replicate n q) ∨ ¬ [q, q, q] <+: text ++ s := by
  rcases text with _ | ⟨a, _ | ⟨b, _ | ⟨c, text⟩⟩⟩
  · exact .inl ⟨0, by omega, rfl⟩
  · by_cases ha : q = a
    · exact .inl ⟨1, by omega, by rw [ha]; rfl⟩
    · right; simp [List.cons_prefix_cons, ha]
  · by_cases hab : q = a ∧ q = b
    · exact .inl ⟨2, by omega, by rw [← hab.1, ← hab.2]; rfl⟩
    · right
      simp only [List.cons_append, List.cons_prefix_cons]
      exact fun h' => hab ⟨h'.1, h'.2.1⟩
  · right
    rintro hp
    simp only [List.cons_append, List.cons_prefix_cons] at hp
    obtain ⟨rfl, rfl, rfl, -⟩ := hp
    exact h ⟨[], text, rfl⟩

private theorem multilineLiteral?_closing {s : Rest} {result : List Char × Rest} (h : closing '\'' s = some result)
    (fuel : Nat) : multilineLiteral? (fuel + 1) s = some result := by
  rw [multilineLiteral?.eq_def]
  simp only [h]

private theorem multilineLiteral?_cons {c : Char} {s : Rest} (hcl : closing '\'' (c :: s) = none)
    (hc : isControl c = false) (fuel : Nat) :
    multilineLiteral? (fuel + 1) (c :: s) = (multilineLiteral? fuel s).map fun (text, rest) => (c :: text, rest) := by
  rw [multilineLiteral?, hcl]
  by_cases hn : c = '\n'
  · subst hn; rfl
  · have hr : c ≠ '\r' := by rintro rfl; cases hc
    simp [newline?_eq_none hn hr, isTextChar_of_not_isControl hc hn]

/-- Text without three single quotes in a row reads back from between three of them. -/
theorem multilineLiteral?_append {text : List Char} {fuel : Nat} (hc : ∀ c ∈ text, isControl c = false)
    (hq : ¬ ['\'', '\'', '\''] <:+: text) (hf : text.length < fuel) (rest : Rest) :
    multilineLiteral? fuel (text ++ '\'' :: '\'' :: '\'' :: '\n' :: rest) = some (text, '\n' :: rest) := by
  induction text generalizing fuel with
  | nil =>
    obtain ⟨fuel, rfl⟩ := Nat.exists_eq_succ_of_ne_zero (by omega : fuel ≠ 0)
    exact multilineLiteral?_closing (closing_replicate (n := 0) (by decide) (by omega) rest) fuel
  | cons c text ih =>
    obtain ⟨fuel, rfl⟩ := Nat.exists_eq_succ_of_ne_zero (by omega : fuel ≠ 0)
    rcases replicate_or_not_isPrefix hq ('\'' :: '\'' :: '\'' :: '\n' :: rest) with ⟨n, hn, ht⟩ | h
    · rw [ht]
      exact multilineLiteral?_closing (closing_replicate (by decide) hn rest) fuel
    · have hq' : ¬ ['\'', '\'', '\''] <:+: text := fun h' => hq (List.infix_cons h')
      rw [List.cons_append] at h ⊢
      rw [multilineLiteral?_cons (closing_eq_none h) (hc c (by simp)), ih (fun d hd => hc d (by simp [hd])) hq'
        (by simpa using hf)]
      rfl

/-! ### All forms -/

private theorem text?_eq_lineText? {q : Char} {s : Rest} (h : ¬ [q, q] <+: s) :
    text? (q :: s) = lineText? (q :: s) := by
  unfold text?
  split
  · next he => cases he; exact absurd ⟨_, rfl⟩ h
  · next he => cases he; exact absurd ⟨_, rfl⟩ h
  · rfl

private theorem of_choose_eq_literal {text : List Char} (h : TextForm.choose text = .literal) :
    (∀ c ∈ text, isControl c = false) ∧ '\'' ∉ text ∧ '\n' ∉ text := by
  unfold TextForm.choose at h
  dsimp only at h
  split at h
  · cases h
  split at h
  · next hl => simpa [and_assoc] using hl
  all_goals (repeat' split at h) <;> cases h

private theorem of_choose_eq_multilineLiteral {text : List Char} (h : TextForm.choose text = .multilineLiteral) :
    (∀ c ∈ text, isControl c = false) ∧ longestRun '\'' text ≤ 2 := by
  unfold TextForm.choose at h
  dsimp only at h
  iterate 3
    split at h
    · cases h
  split at h
  · next hl => simpa using hl
  · split at h <;> cases h

private theorem newline?_escapeAll {text : List Char} (hn : '\n' ∉ text) (s : Rest) :
    newline? (escapeAll true 2 0 text ++ '"' :: s) = none := by
  cases text with
  | nil => rfl
  | cons c text =>
    have hc : c ≠ '\n' := by rintro rfl; simp at hn
    by_cases hq : c = '"'
    · subst hq; rfl
    · obtain ⟨d, w, hw, -, hd⟩ := escapeAll_cons true 2 0 text fun h => hq h.1
      rw [hw]
      exact newline?_eq_none (hd hc).1 (hd hc).2 _

private theorem newline?_append {text : List Char} (hc : ∀ c ∈ text, isControl c = false) (hn : '\n' ∉ text)
    (s : Rest) : newline? (text ++ '\'' :: s) = none := by
  cases text with
  | nil => rfl
  | cons c text =>
    have hctl := hc c (by simp)
    exact newline?_eq_none (by rintro rfl; simp at hn) (by rintro rfl; cases hctl) _

/-- The line break right behind the opening quotes is dropped, and one is put there whenever the text has any. -/
private theorem getD_newline?_opening {text : List Char} {s : Rest} (h : '\n' ∉ text → newline? s = none) :
    (newline? ((if text.contains '\n' then ['\n'] else []) ++ s)).getD
      ((if text.contains '\n' then ['\n'] else []) ++ s) = s := by
  by_cases hn : '\n' ∈ text
  · simp [hn, newline?]
  · simp [hn, h hn]

/-- Whatever the text, and whatever lines come behind it, what is written for it reads back. -/
theorem text?_writeText (text : List Char) (rest : Rest) :
    text? (writeText text ++ '\n' :: rest) = some (text, '\n' :: rest) := by
  unfold writeText
  cases hform : TextForm.choose text with
  | basic =>
    have hw : '"' :: escapeAll false 0 0 text ++ ['"'] ++ '\n' :: rest =
        '"' :: (escapeAll false 0 0 text ++ '"' :: '\n' :: rest) := by simp
    simp only [hw]
    have hlt : text.length < (escapeAll false 0 0 text ++ '"' :: '\n' :: rest).length + 1 := by
      have := length_le_escapeAll false 0 0 text
      rw [List.length_append]
      omega
    rw [text?_eq_lineText? ?_]
    · exact basic?_escapeAll hlt _
    · cases text with
      | nil => simp [escapeAll]
      | cons c text =>
        obtain ⟨d, w, he, hd, -⟩ := escapeAll_cons false 0 0 (c := c) text (by omega)
        rw [he, List.cons_append, List.cons_prefix_cons]
        exact fun h => hd h.1.symm
  | literal =>
    obtain ⟨hc, hq, hn⟩ := of_choose_eq_literal hform
    have hw : '\'' :: text ++ ['\''] ++ '\n' :: rest = '\'' :: (text ++ '\'' :: '\n' :: rest) := by simp
    simp only [hw]
    rw [text?_eq_lineText? ?_]
    · exact literal?_append hc hq hn _
    · cases text with
      | nil => simp
      | cons c text =>
        rw [List.cons_append, List.cons_prefix_cons]
        rintro ⟨rfl, -⟩
        simp at hq
  | multilineBasic =>
    have hrest := getD_newline?_opening (s := escapeAll true 2 0 text ++ '"' :: '"' :: '"' :: '\n' :: rest)
      fun hn => newline?_escapeAll hn _
    simp only [List.cons_append, List.nil_append, List.append_assoc] at hrest ⊢
    simp only [text?, hrest]
    have hlt : text.length < (escapeAll true 2 0 text ++ '"' :: '"' :: '"' :: '\n' :: rest).length + 1 := by
      have := length_le_escapeAll true 2 0 text
      rw [List.length_append]
      omega
    exact multilineBasic?_escapeAll (by omega) hlt rest
  | multilineLiteral =>
    obtain ⟨hc, hrun⟩ := of_choose_eq_multilineLiteral hform
    have hrest := getD_newline?_opening (s := text ++ '\'' :: '\'' :: '\'' :: '\n' :: rest)
      fun hn => newline?_append hc hn _
    simp only [List.cons_append, List.nil_append, List.append_assoc] at hrest ⊢
    simp only [text?, hrest]
    have hlt : text.length < (text ++ '\'' :: '\'' :: '\'' :: '\n' :: rest).length + 1 := by
      rw [List.length_append]
      omega
    exact multilineLiteral?_append hc (not_isInfix_of_longestRun hrun) hlt rest

end TaskScheduling.Toml
