import TaskScheduling.Clock

/-!
# What a clock on a manual source reads

A manual source is told how far to move and where to jump to, and its clock is held, released and read in between, in
any order.  A step past the largest time wraps around before it fails: that sets the source back, and nothing else does.

* `Clock.reading_le_obey_iff`: the commands that set the source back are those that overrun.
* `Clock.reading_le_accurate_obeyAll`: a clock that was not held when it was read never shows less afterwards.
* `Clock.keepsTime_obeyAll`: both at any moment of any run.
-/

namespace TaskScheduling

namespace Clock

/-- What a clock or its source may be told or asked. -/
inductive Command where
  | advance (d : Duration)
  | jump (t : Nat)
  | hold
  | release
  | now
  | accurate

def obey (c : Clock) : Command → Clock
  | .advance d => (c.advance d).1
  | .jump t => c.jump t
  | .hold => c.hold
  | .release => c.release
  | .now => c.now.2
  | .accurate => c.accurate.2

def obeyAll (c : Clock) : List Command → Clock
  | [] => c
  | k :: ks => (c.obey k).obeyAll ks

/-- Only a time that can be told is jumped to. -/
def Command.IsTold : Command → Prop
  | .jump t => t ≤ Time.limit
  | _ => True

/-- Whether the source is to move past the largest time. -/
def Command.Overruns (c : Clock) : Command → Prop
  | .advance d => Time.limit < c.source.reading + d.millis
  | _ => False

/-- Whether one of the commands overruns when its turn comes. -/
def OverrunsIn (c : Clock) : List Command → Prop
  | [] => False
  | k :: ks => k.Overruns c ∨ (c.obey k).OverrunsIn ks

/-! ### The source -/

theorem reading_advance_of_le {c : Clock} {d : Duration} (h : c.source.reading + d.millis ≤ Time.limit) :
    (c.advance d).1.source.reading = c.source.reading + d.millis ∧
      (c.advance d).2 = .ok (c.source.reading + d.millis) := by
  simp only [advance, TimeSource.advance, h, ↓reduceIte, TimeSource.reading_withReading, and_self]

/-- A step past the largest time fails, after it has wrapped around. -/
theorem reading_advance_of_lt {c : Clock} {d : Duration} (h : Time.limit < c.source.reading + d.millis)
    (hfits : c.source.reading ≤ Time.limit) :
    (c.advance d).1.source.reading + (Time.limit + 1) = c.source.reading + d.millis ∧
      (c.advance d).2 = .error .timeOverflow := by
  have hmillis := d.millis_le_limit
  have hwrapped :
      (c.source.reading + d.millis) % (Time.limit + 1) = c.source.reading + d.millis - (Time.limit + 1) := by
    rw [Nat.mod_eq_sub_mod (by omega)]
    exact Nat.mod_eq_of_lt (by omega)
  simp only [advance, TimeSource.advance, Nat.not_le.2 h, ↓reduceIte, TimeSource.reading_withReading, hwrapped,
    and_true]
  omega

theorem reading_obey_le_limit {c : Clock} (hfits : c.source.reading ≤ Time.limit) {k : Command} (hk : k.IsTold) :
    (c.obey k).source.reading ≤ Time.limit := by
  cases k with
  | advance d =>
    show (c.advance d).1.source.reading ≤ _
    by_cases h : c.source.reading + d.millis ≤ Time.limit
    · rw [(reading_advance_of_le h).1]
      exact h
    · have hwrapped := (reading_advance_of_lt (Nat.not_le.1 h) hfits).1
      have hmillis := d.millis_le_limit
      omega
  | jump t =>
    show (c.source.jump t).reading ≤ _
    rw [TimeSource.jump, TimeSource.reading_withReading]
    exact Nat.max_le.2 ⟨hfits, hk⟩
  | hold => exact hfits
  | release => rwa [obey, source_release]
  | now => rwa [obey, source_now]
  | accurate => rwa [obey, source_accurate]

theorem reading_obeyAll_le_limit {c : Clock} (hfits : c.source.reading ≤ Time.limit) {ks : List Command}
    (hks : ∀ k ∈ ks, k.IsTold) : (c.obeyAll ks).source.reading ≤ Time.limit := by
  induction ks generalizing c with
  | nil => exact hfits
  | cons k ks ih =>
    have hk := reading_obey_le_limit hfits (hks k (by simp))
    exact ih hk fun l hl => hks l (by simp [hl])

/-- The source is set back by what overruns, and by nothing else. -/
theorem reading_le_obey_iff {c : Clock} (hfits : c.source.reading ≤ Time.limit) (k : Command) :
    c.source.reading ≤ (c.obey k).source.reading ↔ ¬k.Overruns c := by
  cases k with
  | advance d =>
    show _ ≤ (c.advance d).1.source.reading ↔ ¬Time.limit < _
    by_cases h : c.source.reading + d.millis ≤ Time.limit
    · rw [(reading_advance_of_le h).1]
      omega
    · have hwrapped := (reading_advance_of_lt (Nat.not_le.1 h) hfits).1
      have hmillis := d.millis_le_limit
      omega
  | jump t =>
    show _ ≤ (c.source.jump t).reading ↔ ¬False
    rw [TimeSource.jump, TimeSource.reading_withReading]
    simp only [Nat.le_max_left, not_false_eq_true]
  | hold => simp only [obey, hold, Command.Overruns, Nat.le_refl, not_false_eq_true]
  | release => simp only [obey, source_release, Command.Overruns, Nat.le_refl, not_false_eq_true]
  | now => simp only [obey, source_now, Command.Overruns, Nat.le_refl, not_false_eq_true]
  | accurate => simp only [obey, source_accurate, Command.Overruns, Nat.le_refl, not_false_eq_true]

theorem reading_le_obeyAll {c : Clock} (hfits : c.source.reading ≤ Time.limit) {ks : List Command}
    (hks : ∀ k ∈ ks, k.IsTold) (hkeeps : ¬c.OverrunsIn ks) :
    c.source.reading ≤ (c.obeyAll ks).source.reading := by
  induction ks generalizing c with
  | nil => exact Nat.le_refl _
  | cons k ks ih =>
    rw [OverrunsIn, not_or] at hkeeps
    obtain ⟨hk, hrest⟩ := hkeeps
    have hfirst := (reading_le_obey_iff hfits k).2 hk
    have hfits' := reading_obey_le_limit hfits (hks k (by simp))
    have hlater := ih hfits' (fun l hl => hks l (by simp [hl])) hrest
    exact Nat.le_trans hfirst hlater

/-! ### The clock -/

/-- What a clock remembers never decreases, whatever becomes of its source. -/
theorem cached_le_cached_obeyAll (c : Clock) (ks : List Command) : c.cached ≤ (c.obeyAll ks).cached := by
  induction ks generalizing c with
  | nil => exact Nat.le_refl _
  | cons k ks ih =>
    have hfirst : c.cached ≤ (c.obey k).cached := by
      cases k with
      | advance d => exact Nat.le_refl _
      | jump t => exact Nat.le_refl _
      | hold => exact cached_le_cached_hold c
      | release => exact cached_le_cached_release c
      | now => exact cached_le_cached_now c
      | accurate => exact cached_le_cached_accurate c
    exact Nat.le_trans hfirst (ih _)

theorem accurate_fst (c : Clock) : c.accurate.1 = max c.cached c.source.reading := rfl

/-- Only what is read under a hold may be more than what is read later, and only after an overrun. -/
theorem reading_le_accurate_obeyAll {c : Clock} (hfits : c.source.reading ≤ Time.limit) {ks : List Command}
    (hks : ∀ k ∈ ks, k.IsTold) (h : c.isHeld = false ∨ ¬c.accurate.2.OverrunsIn ks) :
    c.accurate.1 ≤ (c.accurate.2.obeyAll ks).accurate.1 := by
  have hcached := cached_le_cached_obeyAll c.accurate.2 ks
  rw [accurate_fst (c.accurate.2.obeyAll ks)]
  rcases h with hfree | hkeeps
  · -- the clock remembers what it has read
    have hread : c.accurate.2.cached = c.accurate.1 := by
      simp only [accurate, hfree, Bool.false_eq_true, ↓reduceIte]
    omega
  · have hsource := reading_le_obeyAll (by rwa [source_accurate]) hks hkeeps
    rw [source_accurate] at hsource
    have hearlier := cached_le_cached_accurate c
    rw [accurate_fst c]
    omega

/-! ### Runs -/

/-- What is known at any moment of a run about the rest of it. -/
structure KeepsTime (c : Clock) : Prop where
  reading_le (ks : List Command) : (∀ k ∈ ks, k.IsTold) → ¬c.OverrunsIn ks →
    c.source.reading ≤ (c.obeyAll ks).source.reading
  accurate_le (ks : List Command) : (∀ k ∈ ks, k.IsTold) → c.isHeld = false ∨ ¬c.accurate.2.OverrunsIn ks →
    c.accurate.1 ≤ (c.accurate.2.obeyAll ks).accurate.1
  /-- An advance that succeeds moves the source as far as it was told to. -/
  of_advance_ok (d : Duration) (t : Nat) : (c.advance d).2 = .ok t →
    t = c.source.reading + d.millis ∧ t ≤ Time.limit ∧ (c.advance d).1.source.reading = t
  /-- An advance that fails sets the source back. -/
  of_advance_error (d : Duration) (fault : Fault) : (c.advance d).2 = .error fault →
    fault = .timeOverflow ∧ Command.Overruns c (.advance d) ∧ (c.advance d).1.source.reading < c.source.reading ∧
      (c.advance d).1.source.reading + (Time.limit + 1) = c.source.reading + d.millis

/-- From any start, after any commands: the source is set back only by a step past the largest time, by what is missing
from that step to a whole turn; and what the clock reads decreases only then, and only from what was read under a
hold. -/
theorem keepsTime_obeyAll {t : Nat} (ht : t ≤ Time.limit) {before : List Command} (hbefore : ∀ k ∈ before, k.IsTold) :
    ((start (.manual t)).obeyAll before).KeepsTime := by
  have hfits := reading_obeyAll_le_limit (c := start (.manual t)) ht hbefore
  generalize (start (.manual t)).obeyAll before = c at hfits
  constructor
  case reading_le =>
    intro ks hks hkeeps
    exact reading_le_obeyAll hfits hks hkeeps
  case accurate_le =>
    intro ks hks h
    exact reading_le_accurate_obeyAll hfits hks h
  case of_advance_ok =>
    intro d t hok
    by_cases h : c.source.reading + d.millis ≤ Time.limit
    · obtain ⟨hreading, hresult⟩ := reading_advance_of_le h
      rw [hresult] at hok
      cases hok
      exact ⟨rfl, h, hreading⟩
    · rw [(reading_advance_of_lt (Nat.not_le.1 h) hfits).2] at hok
      cases hok
  case of_advance_error =>
    intro d fault herror
    by_cases h : c.source.reading + d.millis ≤ Time.limit
    · rw [(reading_advance_of_le h).2] at herror
      cases herror
    · obtain ⟨hreading, hresult⟩ := reading_advance_of_lt (Nat.not_le.1 h) hfits
      rw [hresult] at herror
      cases herror
      have hmillis := d.millis_le_limit
      exact ⟨rfl, Nat.not_le.1 h, by omega, hreading⟩

/-- A clock is held at 5, its source jumps to the largest time, and then it is told to go a millisecond further. -/
theorem keepsTime_wrapping :
    let held := (start (.manual 5)).obeyAll [.hold, .jump Time.limit]
    held.KeepsTime ∧ held.isHeld = true ∧ held.accurate.1 = Time.limit ∧
      (held.advance (.ofMillis 1)).2 = .error .timeOverflow ∧ (held.advance (.ofMillis 1)).1.source.reading = 0 ∧
      (held.accurate.2.obeyAll [.advance (.ofMillis 1)]).accurate.1 = 5 := by
  intro held
  have hkeeps : held.KeepsTime := keepsTime_obeyAll (by decide) (by simp [Command.IsTold])
  have hreading : held.source.reading = Time.limit := by decide +kernel
  have hfailed := (reading_advance_of_lt (c := held) (d := .ofMillis 1) (by decide +kernel) (by decide +kernel)).2
  have hturn := (hkeeps.of_advance_error (.ofMillis 1) .timeOverflow hfailed).2.2.2
  have hstep : (Duration.ofMillis 1).millis = 1 := by decide
  refine ⟨hkeeps, by decide +kernel, by decide +kernel, hfailed, by omega, by decide +kernel⟩

end Clock

end TaskScheduling
