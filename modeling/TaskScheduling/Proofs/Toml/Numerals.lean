import Mathlib.Data.List.Basic
import TaskScheduling.Toml.Scalar

/-!
# Written numbers read back

The decimal digits of a number that fits in a file are read as that integer (`numeric?_toString`), although dates,
times and floats are tried first and begin with digits as well: each of them needs a character between two digits that
a number alone does not have.
-/

namespace TaskScheduling.Toml

/-! ### The digits of a number -/

private theorem head?_toDigits {n : Nat} (h : 0 < n) : (Nat.toDigits 10 n).head? ≠ some '0' := by
  induction n using Nat.strongRecOn with
  | ind n ih =>
    rw [Nat.toDigits_eq_if (by decide)]
    split
    · next hlt =>
      have hdigit : ∀ n < 10, 0 < n → n.digitChar ≠ '0' := by decide
      simpa using hdigit n hlt h
    · rw [List.head?_append_of_ne_nil _ Nat.toDigits_ne_nil]
      exact ih (n / 10) (by omega) (by omega)

private theorem hexValue?_of_isDigit {c : Char} (h : c.isDigit = true) : hexValue? c = some (c.toNat - '0'.toNat) := by
  simp only [Char.isDigit, Bool.and_eq_true, decide_eq_true_eq] at h
  exact if_pos h

private theorem numberOf_eq_ofDigitChars {ds : List Char} (hd : ∀ c ∈ ds, c.isDigit = true) :
    numberOf 10 ds = Nat.ofDigitChars 10 ds 0 := by
  rw [numberOf, Nat.ofDigitChars_eq_foldl]
  apply List.foldl_ext
  intro n c hc
  rw [hexValue?_of_isDigit (hd c hc), Option.getD_some, Nat.mul_comm]

/-! ### Digits at the end of a line -/

variable {ds : List Char} {rest : Rest}

private theorem moreDigits?_append (hd : ∀ c ∈ ds, c.isDigit = true) :
    moreDigits? Char.isDigit (ds ++ '\n' :: rest) = some (ds, '\n' :: rest) := by
  induction ds with
  | nil => rfl
  | cons c ds ih =>
    have hc := hd c (by simp)
    have hu : c ≠ '_' := by rintro rfl; cases hc
    rw [List.cons_append, moreDigits?, if_pos hc, ih fun d hd' => hd d (by simp [hd'])]
    · rfl
    · exact fun _ _ h => absurd h hu
    · exact fun h => absurd h hu

/-- A number as it is written: digits, of which the first is no zero unless it is the only one. -/
structure IsNumeral (ds : List Char) : Prop where
  digits : ∀ c ∈ ds, c.isDigit = true
  ne_nil : ds ≠ []
  front : ds = ['0'] ∨ ds.head? ≠ some '0'

private theorem isNumeral_toDigits (n : Nat) : IsNumeral (Nat.toDigits 10 n) where
  digits := fun _ => Nat.isDigit_of_mem_toDigits (by decide) (by decide)
  ne_nil := Nat.toDigits_ne_nil
  front := by
    rcases Nat.eq_zero_or_pos n with rfl | h
    · exact .inl rfl
    · exact .inr (head?_toDigits h)

private theorem whole?_append (h : IsNumeral ds) : whole? (ds ++ '\n' :: rest) = some (ds, '\n' :: rest) := by
  obtain ⟨hd, hne, rfl | hf⟩ := h
  · rfl
  · cases ds with
    | nil => exact absurd rfl hne
    | cons c ds =>
      have hc := hd c (by simp)
      have h0 : c ≠ '0' := by rintro rfl; exact hf rfl
      rw [List.cons_append, whole?, digits?, if_pos hc, moreDigits?_append fun d hd' => hd d (by simp [hd'])]
      · rfl
      · exact fun _ h => h0 (by cases h; rfl)

private theorem IsNumeral.front_isDigit (h : IsNumeral ds) (s : Rest) :
    ∃ c s', ds ++ s = c :: s' ∧ c.isDigit = true := by
  cases ds with
  | nil => exact absurd rfl h.ne_nil
  | cons c ds => exact ⟨c, ds ++ s, rfl, h.digits c (by simp)⟩

private theorem sign_append (h : IsNumeral ds) (s : Rest) : sign (ds ++ s) = (false, ds ++ s) := by
  obtain ⟨c, s', he, hc⟩ := h.front_isDigit s
  rw [he, sign]
  · rintro _ ⟨⟩; cases hc
  · rintro _ ⟨⟩; cases hc

/-! ### Integers, and neither dates nor floats -/

/-- A number of so many digits, if there are enough of them, leaves digits behind. -/
private theorem fixed?_append (hd : ∀ c ∈ ds, c.isDigit = true) (n value : Nat) (rest : Rest) :
    fixed? n value (ds ++ '\n' :: rest) = none ∨
    ∃ m more, (∀ c ∈ more, c.isDigit = true) ∧
      fixed? n value (ds ++ '\n' :: rest) = some (m, more ++ '\n' :: rest) := by
  induction n generalizing value ds with
  | zero => exact .inr ⟨value, ds, hd, rfl⟩
  | succ n ih =>
    cases ds with
    | nil => exact .inl rfl
    | cons c ds =>
      have hc := hd c (by simp)
      simp only [List.cons_append, fixed?, hc, if_true]
      exact ih (fun d hd' => hd d (by simp [hd'])) _

private theorem ranged?_append (hd : ∀ c ∈ ds, c.isDigit = true) (low high : Nat) (rest : Rest) :
    ranged? low high (ds ++ '\n' :: rest) = none ∨
    ∃ m more, (∀ c ∈ more, c.isDigit = true) ∧
      ranged? low high (ds ++ '\n' :: rest) = some (m, more ++ '\n' :: rest) := by
  unfold ranged?
  rcases fixed?_append hd 2 0 rest with h | ⟨m, more, hmore, h⟩
  · rw [h]; exact .inl rfl
  · rw [h]
    by_cases hm : (low ≤ m && m ≤ high : Bool) = true
    · exact .inr ⟨m, more, hmore, if_pos hm⟩
    · exact .inl (if_neg hm)

private theorem front_ne {q : Char} (hq : q.isDigit = false) (hn : '\n' ≠ q) (hd : ∀ c ∈ ds, c.isDigit = true)
    (rest : Rest) :
    ∃ c s, ds ++ '\n' :: rest = c :: s ∧ c ≠ q := by
  cases ds with
  | nil => exact ⟨'\n', rest, rfl, hn⟩
  | cons c ds => exact ⟨c, _, rfl, by rintro rfl; simp [hq] at hd⟩

private theorem date?_append (hd : ∀ c ∈ ds, c.isDigit = true) : date? (ds ++ '\n' :: rest) = none := by
  unfold date?
  rcases fixed?_append hd 4 0 rest with h | ⟨m, more, hmore, h⟩
  · rw [h]; rfl
  · obtain ⟨c, s, he, hc⟩ := front_ne (q := '-') (by decide) (by decide) hmore rest
    rw [h, he]
    change Option.bind (if c = '-' then some s else none) _ = none
    rw [if_neg hc]
    rfl

private theorem time?_append (hd : ∀ c ∈ ds, c.isDigit = true) : time? (ds ++ '\n' :: rest) = none := by
  unfold time?
  rcases ranged?_append hd 0 23 rest with h | ⟨m, more, hmore, h⟩
  · rw [h]; rfl
  · obtain ⟨c, s, he, hc⟩ := front_ne (q := ':') (by decide) (by decide) hmore rest
    rw [h, he]
    change Option.bind (if c = ':' then some s else none) _ = none
    rw [if_neg hc]
    rfl

private theorem float?_append (h : IsNumeral ds) : float? (ds ++ '\n' :: rest) = none := by
  have hword : infinity? (ds ++ '\n' :: rest) = none ∧ notANumber? (ds ++ '\n' :: rest) = none := by
    obtain ⟨c, s, he, hc⟩ := h.front_isDigit ('\n' :: rest)
    rw [he, infinity?, notANumber?]
    · exact ⟨rfl, rfl⟩
    · rintro _ ⟨⟩; cases hc
    · rintro _ ⟨⟩; cases hc
  unfold float?
  simp only [sign_append h, hword, Option.none_or, whole?_append h]
  rfl

/-- A number that begins with a zero has nothing behind it, least of all a letter that tells a base. -/
private theorem append_ne_based (h : IsNumeral ds) {q : Char} (hq : '\n' ≠ q) (s : Rest) :
    ds ++ '\n' :: rest ≠ '0' :: q :: s := by
  rcases h.front with rfl | hf
  · rintro ⟨⟩; exact hq rfl
  · cases ds with
    | nil => exact absurd rfl h.ne_nil
    | cons c ds =>
      intro he
      exact hf (by rw [List.head?_cons, (List.cons.inj he).1])

private theorem integer?_append (h : IsNumeral ds) (hl : numberOf 10 ds < integerLimit) :
    integer? (ds ++ '\n' :: rest) = some (.integer (numberOf 10 ds), '\n' :: rest) := by
  rw [integer?]
  · simp only [sign_append h, whole?_append h, Option.bind_eq_bind, Option.bind_some, hl, if_true]
    rfl
  all_goals exact fun s => append_ne_based h (by decide) s

theorem exists_toString_eq_cons (n : Nat) : ∃ c ds, (toString n).toList = c :: ds ∧ c.isDigit = true := by
  obtain ⟨c, ds, he, hc⟩ := (isNumeral_toDigits n).front_isDigit []
  refine ⟨c, ds, ?_, hc⟩
  rw [Nat.toString_eq_ofList_toDigits, String.toList_ofList, ← he, List.append_nil]

/-- The digits of a number at the end of a line read as that number. -/
theorem numeric?_toString {n : Nat} (h : n < integerLimit) (rest : Rest) :
    numeric? ((toString n).toList ++ '\n' :: rest) = some (.integer n, '\n' :: rest) := by
  have hn := isNumeral_toDigits n
  have hvalue : numberOf 10 (Nat.toDigits 10 n) = n := by
    rw [numberOf_eq_ofDigitChars hn.digits, Nat.ofDigitChars_ten_toDigits]
  rw [Nat.toString_eq_ofList_toDigits, String.toList_ofList, numeric?, dateTime?, date?_append hn.digits]
  simp only [time?_append hn.digits, float?_append hn, Option.map_none, Option.none_or]
  rw [integer?_append hn (by rw [hvalue]; exact h), hvalue]

end TaskScheduling.Toml
