import Mathlib
import TaskScheduling.Proofs.Tick.Courses

/-!
# High work does not notice other work

Take two courses with the same script and the same conduct of high actions, which differ in the other tasks that are
submitted, cancelled and run meanwhile.  High tasks fare the same in both of them: other tasks may take numbers, read
the clock and end ticks with their panics, but nothing high is due any more when one of them runs.

* `Course.Mirrors`: two courses have got equally far with their high work.
* `Course.Shows`: the steps that concern high work.  Any other step is made by one course alone (`Mirrors.of_step`),
  and these are made by both of them alike (`Mirrors.step`).
* `Course.isolated`: what the high tasks of two courses have come to.
-/

namespace TaskScheduling

namespace Clock

/-- Two clocks with the same source and equally many holds; what they remember counts while they are held. -/
structure Alike (c d : Clock) : Prop where
  source_eq : c.source = d.source
  holds_eq : c.holds = d.holds
  cached_eq : c.isHeld = true → c.cached = d.cached

namespace Alike

variable {c c' d : Clock}

protected theorem refl (c : Clock) : c.Alike c := ⟨rfl, rfl, fun _ => rfl⟩

theorem isHeld_eq (h : c.Alike d) : c.isHeld = d.isHeld := by rw [isHeld, isHeld, h.holds_eq]

protected theorem symm (h : c.Alike d) : d.Alike c :=
  ⟨h.source_eq.symm, h.holds_eq.symm, fun hheld => (h.cached_eq (h.isHeld_eq.trans hheld)).symm⟩

/-- Nobody can tell that a clock has been read. -/
theorem of_moves (h : c.Alike d) {reads : Bool} (hmoves : c.Moves reads c') (hsource : c'.source = c.source) :
    c'.Alike d where
  source_eq := hsource.trans h.source_eq
  holds_eq := hmoves.holds_eq.trans h.holds_eq
  cached_eq hheld := by
    have hbefore : c.isHeld = true := by rwa [isHeld, hmoves.holds_eq] at hheld
    exact (hmoves.cached_eq_of_held hbefore).trans (h.cached_eq hbefore)

theorem of_now (h : c.Alike d) : c.now.2.Alike d := h.of_moves .read (source_now c)

theorem of_submit (h : c.Alike d) : c.hold.release.Alike d := h.of_moves .submit (source_release _)

theorem now_eq (h : c.Alike d) (hc : c.Trails) (hd : d.Trails) : c.now.1 = d.now.1 := by
  cases hheld : c.isHeld with
  | true => rw [now_of_held hheld, now_of_held (h.isHeld_eq.symm.trans hheld), h.cached_eq hheld]
  | false =>
    simp only [now, accurate, hheld, h.isHeld_eq.symm.trans hheld, Bool.false_eq_true, ↓reduceIte]
    rw [Nat.max_eq_right hc, Nat.max_eq_right hd, h.source_eq]

theorem cached_hold (h : c.Alike d) (hc : c.Trails) (hd : d.Trails) : c.hold.cached = d.hold.cached := by
  cases hheld : c.isHeld with
  | true => rw [cached_hold_of_held hheld, cached_hold_of_held (h.isHeld_eq.symm.trans hheld), h.cached_eq hheld]
  | false =>
    rw [cached_hold_of_not_held hheld, cached_hold_of_not_held (h.isHeld_eq.symm.trans hheld), Nat.max_eq_right hc,
      Nat.max_eq_right hd, h.source_eq]

theorem hold (h : c.Alike d) (hc : c.Trails) (hd : d.Trails) : c.hold.Alike d.hold :=
  ⟨h.source_eq, congrArg (· + 1) h.holds_eq, fun _ => h.cached_hold hc hd⟩

theorem release (h : c.Alike d) : c.release.Alike d.release where
  source_eq := by rw [source_release, source_release, h.source_eq]
  holds_eq := by rw [holds_release, holds_release, h.holds_eq]
  cached_eq hheld := by
    have hleft : c.holds - 1 ≠ 0 := by simpa [isHeld] using hheld
    have hbefore : c.isHeld = true := by simp only [isHeld, bne_iff_ne, ne_eq]; omega
    rw [cached_release_of_held hleft, cached_release_of_held (h.holds_eq ▸ hleft), h.cached_eq hbefore]

theorem advance (h : c.Alike d) (t : Duration) : (c.advance t).1.Alike (d.advance t).1 :=
  ⟨congrArg (fun s : TimeSource => (s.advance t).1) h.source_eq, h.holds_eq, h.cached_eq⟩

theorem jump (h : c.Alike d) (t : Nat) : (c.jump t).Alike (d.jump t) :=
  ⟨congrArg (TimeSource.jump · t) h.source_eq, h.holds_eq, h.cached_eq⟩

end Alike

end Clock

/-! ### Ranks -/

/-- The tasks of one and the same rank in two lists. -/
def Paired (xs ys : List TaskId) (i j : TaskId) : Prop := ∃ k : Nat, xs[k]? = some i ∧ ys[k]? = some j

namespace Paired

variable {xs ys : List TaskId} {i j : TaskId}

protected theorem symm (h : Paired xs ys i j) : Paired ys xs j i :=
  let ⟨k, hi, hj⟩ := h
  ⟨k, hj, hi⟩

theorem mem_left (h : Paired xs ys i j) : i ∈ xs :=
  let ⟨_, hi, _⟩ := h
  List.mem_of_getElem? hi

theorem idxOf_of_getElem? {k : Nat} (hx : xs.Nodup) (hi : xs[k]? = some i) : xs.idxOf i = k := by
  obtain ⟨hk, rfl⟩ := List.getElem?_eq_some_iff.1 hi
  exact hx.idxOf_getElem k hk

theorem idxOf_eq (h : Paired xs ys i j) (hx : xs.Nodup) (hy : ys.Nodup) : xs.idxOf i = ys.idxOf j := by
  obtain ⟨k, hi, hj⟩ := h
  rw [idxOf_of_getElem? hx hi, idxOf_of_getElem? hy hj]

theorem biUnique (hx : xs.Nodup) (hy : ys.Nodup) : Relator.BiUnique (Paired xs ys) := by
  constructor
  · rintro i i' j ⟨k, hi, hj⟩ ⟨l, hi', hj'⟩
    obtain rfl : k = l := (idxOf_of_getElem? hy hj).symm.trans (idxOf_of_getElem? hy hj')
    exact Option.some.inj (hi.symm.trans hi')
  · rintro i j j' ⟨k, hi, hj⟩ ⟨l, hi', hj'⟩
    obtain rfl : k = l := (idxOf_of_getElem? hx hi).symm.trans (idxOf_of_getElem? hx hi')
    exact Option.some.inj (hj.symm.trans hj')

theorem mono {xs' ys' : List TaskId} (h : Paired xs ys i j) (hx : xs <+: xs') (hy : ys <+: ys') :
    Paired xs' ys' i j := by
  obtain ⟨k, hi, hj⟩ := h
  obtain ⟨hk, rfl⟩ := List.getElem?_eq_some_iff.1 hi
  obtain ⟨hk', rfl⟩ := List.getElem?_eq_some_iff.1 hj
  exact ⟨k, List.prefix_iff_getElem?.1 hx k hk, List.prefix_iff_getElem?.1 hy k hk'⟩

theorem append_eq (hlength : xs.length = ys.length) (a b : TaskId) :
    Paired (xs ++ [a]) (ys ++ [b]) = fun i j => Paired xs ys i j ∨ i = a ∧ j = b := by
  ext i j
  constructor
  · rintro ⟨k, hi, hj⟩
    by_cases hk : k < xs.length
    · rw [List.getElem?_append_left hk] at hi
      rw [List.getElem?_append_left (hlength ▸ hk)] at hj
      exact .inl ⟨k, hi, hj⟩
    · right
      have hi' := (List.getElem?_eq_some_iff.1 hi).1
      rw [List.length_append, List.length_singleton] at hi'
      obtain rfl : k = xs.length := by omega
      rw [List.getElem?_concat_length] at hi
      rw [hlength, List.getElem?_concat_length] at hj
      exact ⟨(Option.some.inj hi).symm, (Option.some.inj hj).symm⟩
  · rintro (h | ⟨rfl, rfl⟩)
    · exact h.mono (List.prefix_append _ _) (List.prefix_append _ _)
    · exact ⟨xs.length, List.getElem?_concat_length, by rw [hlength, List.getElem?_concat_length]⟩

end Paired

namespace Course

variable {x x' y y' : Course} {conduct : Conduct} {now : Nat}

/-! ### The same high work -/

/-- The high task that a tick with this reading would run next. -/
def highDue (x : Course) (now : Nat) : Option TaskId := x.backlog.high.peekDue x.backlog.tasks now

/-- Two courses have the same high work, have done the same of it, and are still to do the same. -/
structure Matches (x y : Course) : Prop where
  script_eq : x.script = y.script
  deeds_eq : x.deeds = y.deeds
  ticks_eq : x.ticks = y.ticks
  length_eq : x.handles.length = y.handles.length
  defaultPriority_eq : x.session.scheduler.defaultPriority = y.session.scheduler.defaultPriority
  clock : x.clock.Alike y.clock
  backlog : x.backlog.Mirrors (Paired x.handles y.handles) y.backlog

namespace Matches

protected theorem symm (h : x.Matches y) : y.Matches x where
  script_eq := h.script_eq.symm
  deeds_eq := h.deeds_eq.symm
  ticks_eq := h.ticks_eq.symm
  length_eq := h.length_eq.symm
  defaultPriority_eq := h.defaultPriority_eq.symm
  clock := h.clock.symm
  backlog := by
    have hflip : Paired y.handles x.handles = fun j i => Paired x.handles y.handles i j :=
      funext₂ fun _ _ => propext ⟨.symm, .symm⟩
    exact hflip ▸ h.backlog.symm

/-- Both sessions go on, or one of them. -/
theorem goOn (h : x.Matches y) {v w : Session} (hdefault : v.scheduler.defaultPriority = w.scheduler.defaultPriority)
    (hclock : v.scheduler.clock.Alike w.scheduler.clock)
    (hbacklog : v.scheduler.backlog.Mirrors (Paired x.handles y.handles) w.scheduler.backlog) :
    { x with session := v }.Matches { y with session := w } :=
  ⟨h.script_eq, h.deeds_eq, h.ticks_eq, h.length_eq, hdefault, hclock, hbacklog⟩

theorem rel_highDue (h : x.Matches y) (now : Nat) :
    Option.Rel (Paired x.handles y.handles) (x.highDue now) (y.highDue now) := h.backlog.peekDue now

theorem highDue_eq_none_iff (h : x.Matches y) (now : Nat) : x.highDue now = none ↔ y.highDue now = none := by
  have hrel := h.rel_highDue now
  generalize x.highDue now = i, y.highDue now = j at hrel
  cases hrel <;> simp

theorem exists_highDue (h : x.Matches y) {i : TaskId} (hdue : x.highDue now = some i) :
    ∃ j, y.highDue now = some j ∧ Paired x.handles y.handles i j := by
  have hrel := h.rel_highDue now
  rw [hdue] at hrel
  generalize y.highDue now = j at hrel
  cases hrel with
  | some hij => exact ⟨_, rfl, hij⟩

theorem fresh (hx : x.Sound) (hy : y.Sound) {i j : TaskId} (hij : Paired x.handles y.handles i j) :
    i ≠ ⟨x.backlog.nextId⟩ ∧ j ≠ ⟨y.backlog.nextId⟩ := ⟨hx.ne_next hij.mem_left, hy.ne_next hij.symm.mem_left⟩

/-- A high call, made on both sides. -/
theorem perform (h : x.Matches y) (hx : x.Sound) (hy : y.Sound) (c : HighCall) :
    (x.perform c).Matches (y.perform c) := by
  cases c with
  | submit r =>
    cases hvalid : r.kind.isValid with
    | false =>
      rw [perform_submit_of_invalid hvalid, perform_submit_of_invalid hvalid, Session.call_submit_of_invalid hvalid,
        Session.call_submit_of_invalid hvalid]
      exact h.goOn h.defaultPriority_eq (h.clock.hold hx.trails hy.trails).release h.backlog
    | true =>
      have hbacklog := h.backlog.enlist hx.tidy.toKept hy.tidy.toKept (fun _ _ => fresh hx hy) x.clock.hold.cached r
        x.session.scheduler.defaultPriority
      rw [perform_submit_of_valid hvalid, perform_submit_of_valid hvalid, Session.call_submit_of_valid hvalid,
        Session.call_submit_of_valid hvalid]
      refine ⟨h.script_eq, h.deeds_eq, h.ticks_eq, ?_, h.defaultPriority_eq,
        (h.clock.hold hx.trails hy.trails).release, ?_⟩
      · simp only [List.length_append, List.length_singleton, h.length_eq]
      · show Backlog.Mirrors (Paired (x.handles ++ _) (y.handles ++ _)) _
          (y.backlog.enlist y.clock.hold.cached r y.session.scheduler.defaultPriority)
        rw [Paired.append_eq h.length_eq, ← h.clock.cached_hold hx.trails hy.trails, ← h.defaultPriority_eq]
        exact hbacklog
  | cancel rank =>
    cases hi : x.handles[rank]? with
    | none =>
      have hj : y.handles[rank]? = none := by
        rwa [List.getElem?_eq_none_iff, h.length_eq, ← List.getElem?_eq_none_iff] at hi
      simp only [Course.perform, hi, hj]
      exact h
    | some i =>
      obtain ⟨j, hj⟩ : ∃ j, y.handles[rank]? = some j :=
        ⟨_, List.getElem?_eq_getElem (h.length_eq ▸ (List.getElem?_eq_some_iff.1 hi).1)⟩
      simp only [Course.perform, hi, hj]
      exact h.goOn h.defaultPriority_eq h.clock (h.backlog.cancel ⟨rank, hi, hj⟩ hx.tidy hy.tidy)
  | clear => exact h.goOn h.defaultPriority_eq h.clock (h.backlog.clear hx.tidy hy.tidy)
  | hold => exact h.goOn h.defaultPriority_eq (h.clock.hold hx.trails hy.trails) h.backlog
  | release => exact h.goOn h.defaultPriority_eq h.clock.release h.backlog
  | advance d => exact h.goOn h.defaultPriority_eq (h.clock.advance d) h.backlog
  | jump t => exact h.goOn h.defaultPriority_eq (h.clock.jump t) h.backlog

end Matches

/-! ### Equally far -/

/-- No high task is running, and none is due in the tick. -/
def Quiet (x : Course) : Prop :=
  match x.session.tick with
  | .ended _ => True
  | .picking now _ => x.highDue now = none
  | .running now _ id => id ∉ x.handles ∧ x.highDue now = none
  | _ => False

/-- Two ticks have got equally far with the high work. -/
inductive Abreast (x y : Course) : Prop where
  | quiet : x.Quiet → y.Quiet → Abreast x y
  | entering : x.session.tick = .entering → y.session.tick = .entering → Abreast x y
  | reading : x.session.tick = .reading → y.session.tick = .reading → Abreast x y
  | picking {now ran ran' : Nat} : x.session.tick = .picking now ran → y.session.tick = .picking now ran' → Abreast x y
  | running {now ran ran' : Nat} {i j : TaskId} : x.session.tick = .running now ran i →
      y.session.tick = .running now ran' j → Paired x.handles y.handles i j → Abreast x y

structure Mirrors (x y : Course) : Prop extends x.Matches y where
  abreast : x.Abreast y

theorem quiet_of_ended {result : Except Trouble Nat} (htick : x.session.tick = .ended result) : x.Quiet := by
  rw [Quiet, htick]
  trivial

theorem quiet_of_picking {ran : Nat} (htick : x.session.tick = .picking now ran) : x.Quiet ↔ x.highDue now = none := by
  rw [Quiet, htick]

theorem quiet_of_running {ran : Nat} {id : TaskId} (htick : x.session.tick = .running now ran id) :
    x.Quiet ↔ id ∉ x.handles ∧ x.highDue now = none := by rw [Quiet, htick]

theorem Quiet.congr (h : x.Quiet) (htick : x'.session.tick = x.session.tick) (hhandles : x'.handles = x.handles)
    (hdue : ∀ now, x.highDue now = none → x'.highDue now = none) : x'.Quiet := by
  unfold Quiet at h ⊢
  rw [htick, hhandles]
  split at h
  · trivial
  · exact hdue _ h
  · exact ⟨h.1, hdue _ h.2⟩
  · exact h

theorem Abreast.congr (h : x.Abreast y) (htick : x'.session.tick = x.session.tick) (hhandles : x'.handles = x.handles)
    (hdue : ∀ now, x.highDue now = none → x'.highDue now = none) : x'.Abreast y := by
  cases h with
  | quiet hx hy => exact .quiet (hx.congr htick hhandles hdue) hy
  | entering hx hy => exact .entering (htick.trans hx) hy
  | reading hx hy => exact .reading (htick.trans hx) hy
  | picking hx hy => exact .picking (htick.trans hx) hy
  | running hx hy hij => exact .running (htick.trans hx) hy (hhandles ▸ hij)

namespace Mirrors

protected theorem symm (h : x.Mirrors y) : y.Mirrors x where
  toMatches := h.toMatches.symm
  abreast := by
    cases h.abreast with
    | quiet hx hy => exact .quiet hy hx
    | entering hx hy => exact .entering hy hx
    | reading hx hy => exact .reading hy hx
    | picking hx hy => exact .picking hy hx
    | running hx hy hij => exact .running hy hx hij.symm

/-- If nothing high goes on in one of two courses, nothing high goes on in the other. -/
theorem quiet (h : x.Mirrors y) (hx : x.Quiet) : y.Quiet := by
  cases h.abreast with
  | quiet _ hy => exact hy
  | entering htick _ => rw [Quiet, htick] at hx; exact hx.elim
  | reading htick _ => rw [Quiet, htick] at hx; exact hx.elim
  | picking htick hy =>
    rw [quiet_of_picking htick, h.highDue_eq_none_iff] at hx
    exact (quiet_of_picking hy).2 hx
  | running htick _ hij => exact absurd hij.mem_left ((quiet_of_running htick).1 hx).1

/-! ### Steps that do not concern high work -/

/-- The actions of other tasks run when nothing high is due. -/
theorem highDue_of_running (h : x.Mirrors y) {now ran : Nat} {id : TaskId}
    (htick : x.session.tick = .running now ran id) (hid : id ∉ x.handles) : x.highDue now = none := by
  cases h.abreast with
  | quiet hx _ => exact ((quiet_of_running htick).1 hx).2
  | entering hx _ => rw [htick] at hx; cases hx
  | reading hx _ => rw [htick] at hx; cases hx
  | picking hx _ => rw [htick] at hx; cases hx
  | running hx _ hij => rw [htick] at hx; cases hx; exact absurd hij.mem_left hid

theorem of_extra (h : x.Mirrors y) (hx : x.Sound) {c : Call} (hextra : x.IsExtra c) :
    { x with session := x.session.call c }.Mirrors y := by
  have hmatches : { x with session := x.session.call c }.Matches y := by
    cases hextra with
    | submit r hlow =>
      cases hvalid : r.kind.isValid with
      | false =>
        rw [Session.call_submit_of_invalid hvalid]
        exact h.goOn h.defaultPriority_eq h.clock.of_submit h.backlog
      | true =>
        rw [Session.call_submit_of_valid hvalid]
        exact h.goOn h.defaultPriority_eq h.clock.of_submit
          (h.backlog.of_enlist (fun _ _ hij => hx.ne_next hij.mem_left) _ hlow)
    | cancel id hlow =>
      refine h.goOn h.defaultPriority_eq h.clock (h.backlog.of_minds (.cancel hx.tidy id) ?_ hlow)
      rintro i j hij rfl
      exact hlow (hx.priority_eq hij.mem_left)
  refine ⟨hmatches, h.abreast.congr (Session.tick_call _ c) rfl fun now hnone => ?_⟩
  rwa [hmatches.highDue_eq_none_iff, ← h.highDue_eq_none_iff]

theorem of_finish (h : x.Mirrors y) (hx : x.Sound) {now ran : Nat} {id : TaskId}
    (htick : x.session.tick = .running now ran id) (hid : id ∉ x.handles) (thread : Option String)
    (outcome : Option Panic) : { x with session := x.session.finish thread outcome }.Mirrors y := by
  have hnone := h.highDue_of_running htick hid
  have hfits := hx.session.fits
  rw [htick] at hfits
  have hslot := hfits.2.1.slot_eq_none hx.tidy
  obtain ⟨hbacklog, hafter⟩ := hx.session.finish_eq htick thread outcome
  have hmatches : { x with session := x.session.finish thread outcome }.Matches y := by
    refine h.goOn ?_ ?_ ?_
    · rw [Session.defaultPriority_finish, h.defaultPriority_eq]
    · rw [Session.clock_finish htick]
      exact h.clock.of_now
    · rw [hbacklog]
      refine h.backlog.of_minds (.complete hslot _) ?_ (hx.priority_ne hfits.2.2 hid)
      rintro i j hij rfl
      exact hid hij.mem_left
  refine ⟨hmatches, .quiet ?_ (h.quiet ((quiet_of_running htick).2 ⟨hid, hnone⟩))⟩
  cases outcome with
  | none => rwa [quiet_of_picking hafter, hmatches.highDue_eq_none_iff, ← h.highDue_eq_none_iff]
  | some panic => exact quiet_of_ended hafter

theorem of_proceed (h : x.Mirrors y) (hx : x.Sound) {ran : Nat} (htick : x.session.tick = .picking now ran)
    (hnone : x.highDue now = none) : (x.proceed conduct).Mirrors y := by
  have hy := h.quiet ((quiet_of_picking htick).2 hnone)
  have hkept := hx.tidy.toKept
  rcases hx.proceed_cases (by rw [htick]; rfl) with
    ⟨hentering, -⟩ | ⟨hreading, -⟩ | ⟨_, _, -, -, hw⟩ | ⟨_, _, id, hpicking, hnext, hw⟩
  · rw [htick] at hentering; cases hentering
  · rw [htick] at hreading; cases hreading
  · rw [proceed_of_not_mem (by simp [hw]), hw]
    exact ⟨h.goOn h.defaultPriority_eq h.clock h.backlog, .quiet (quiet_of_ended rfl) hy⟩
  · rw [htick] at hpicking
    cases hpicking
    obtain ⟨p, hp⟩ := Backlog.peekDue_of_nextDue hnext
    have hlow : (x.backlog.task id).priority ≠ .high := by
      rw [(Backlog.eligible_of_peekDue hkept hp).2]
      rintro rfl
      cases hnone.symm.trans hp
    have hid : id ∉ x.handles := fun hid => hlow (hx.priority_eq hid)
    have hmatches : { x with session := x.session.proceed }.Matches y := by
      rw [hw]
      refine h.goOn h.defaultPriority_eq h.clock
        (h.backlog.of_minds (.launch (hx.tidy.state_of_nextDue hnext)) ?_ hlow)
      rintro i j hij rfl
      exact hid hij.mem_left
    rw [proceed_of_not_mem (by rw [hw]; rintro _ _ _ ⟨⟩; exact hid)]
    refine ⟨hmatches, .quiet ?_ hy⟩
    have hafter : x.session.proceed.tick = .running now ran id := by rw [hw]
    refine (quiet_of_running hafter).2 ⟨hid, ?_⟩
    rwa [hmatches.highDue_eq_none_iff, ← h.highDue_eq_none_iff]

end Mirrors

/-! ### Steps that do -/

/-- A step that concerns high work. -/
inductive Shows (conduct : Conduct) (x : Course) : Course → Prop where
  | act {x' : Course} : x.Acts conduct x' → Shows conduct x x'
  | proceed : x.session.tick.isOpen = false → ¬x.Quiet → Shows conduct x (x.proceed conduct)

/-- A step that does not show is not noticed. -/
theorem Mirrors.of_step (h : x.Mirrors y) (hx : x.Sound) (hstep : x.Step conduct x') :
    x.Shows conduct x' ∨ x'.Mirrors y := by
  cases hstep with
  | act hact => exact .inl (.act hact)
  | proceed hopen =>
    by_cases hquiet : x.Quiet
    · right
      rcases hx.proceed_cases hopen with ⟨htick, -⟩ | ⟨htick, -⟩ | ⟨now, ran, htick, -⟩ | ⟨now, ran, id, htick, -⟩
      · rw [Quiet, htick] at hquiet; exact hquiet.elim
      · rw [Quiet, htick] at hquiet; exact hquiet.elim
      · exact h.of_proceed hx htick ((quiet_of_picking htick).1 hquiet)
      · exact h.of_proceed hx htick ((quiet_of_picking htick).1 hquiet)
    · exact .inl (.proceed hopen hquiet)
  | extra c hextra => exact .inr (h.of_extra hx hextra)
  | finish now ran id thread outcome htick hid => exact .inr (h.of_finish hx htick hid thread outcome)

/-- A call is made by the session, and may add to the high tasks. -/
theorem perform_eq (x : Course) (c : HighCall) :
    ∃ v new, v.tick = x.session.tick ∧ x.perform c = { x with session := v, handles := x.handles ++ new } := by
  have hsame {v : Session} (htick : v.tick = x.session.tick) : ∃ w new, w.tick = x.session.tick ∧
      { x with session := v } = { x with session := w, handles := x.handles ++ new } :=
    ⟨v, [], htick, by rw [List.append_nil]⟩
  cases c with
  | submit r =>
    cases hvalid : r.kind.isValid with
    | false => rw [perform_submit_of_invalid hvalid]; exact hsame (Session.tick_call ..)
    | true => exact ⟨_, _, Session.tick_call .., perform_submit_of_valid hvalid⟩
  | cancel rank =>
    unfold perform
    dsimp only
    split <;> exact hsame rfl
  | _ => exact hsame rfl

theorem tick_perform (x : Course) (c : HighCall) : (x.perform c).session.tick = x.session.tick := by
  obtain ⟨v, new, htick, heq⟩ := x.perform_eq c
  rw [heq]
  exact htick

theorem handles_prefix_perform (x : Course) (c : HighCall) : x.handles <+: (x.perform c).handles := by
  obtain ⟨v, new, -, heq⟩ := x.perform_eq c
  rw [heq]
  exact List.prefix_append _ _

theorem script_perform (x : Course) (c : HighCall) : (x.perform c).script = x.script := by
  obtain ⟨v, new, -, heq⟩ := x.perform_eq c
  rw [heq]

theorem Acts.isOpen (h : x.Acts conduct x') : x.session.tick.isOpen = true := by
  cases h with
  | call c script _ hidle _ => obtain ⟨result, htick⟩ := hidle; rw [htick]; rfl
  | tick script _ hidle => obtain ⟨result, htick⟩ := hidle; rw [htick]; rfl
  | deed c deeds now ran id _ htick _ _ => rw [htick]; rfl
  | finish now ran id thread _ htick _ => rw [htick]; rfl

namespace Shows

/-- When nothing high goes on, the owner goes on with the script. -/
theorem of_quiet (h : x.Shows conduct x') (hx : x.Quiet) :
    x.IsIdle ∧ ((∃ c script, x.script = .call c :: script ∧ x' = { x.perform c with script := script }) ∨
      ∃ script, x.script = .tick :: script ∧
        x' = { x with session := x.session.enter, script := script, ticks := [] :: x.ticks }) := by
  cases h with
  | act hact =>
    cases hact with
    | call c script hscript hidle _ => exact ⟨hidle, .inl ⟨c, script, hscript, rfl⟩⟩
    | tick script hscript hidle => exact ⟨hidle, .inr ⟨script, hscript, rfl⟩⟩
    | deed c deeds now ran id _ htick hid _ => exact absurd hid ((quiet_of_running htick).1 hx).1
    | finish now ran id thread _ htick hid => exact absurd hid ((quiet_of_running htick).1 hx).1
  | proceed _ hquiet => exact absurd hx hquiet

/-- A tick that is on its way goes on. -/
theorem of_not_isOpen (h : x.Shows conduct x') (hopen : x.session.tick.isOpen = false) :
    x' = x.proceed conduct ∧ ¬x.Quiet := by
  cases h with
  | act hact => rw [hact.isOpen] at hopen; cases hopen
  | proceed _ hquiet => exact ⟨rfl, hquiet⟩

/-- While an action runs, it does its next deed, or ends after the last one. -/
theorem of_running (h : x.Shows conduct x') {now ran : Nat} {id : TaskId}
    (htick : x.session.tick = .running now ran id) :
    (∃ c deeds, x.deeds = c :: deeds ∧ x' = { x.perform c with deeds := deeds }) ∨
      ∃ thread, x.deeds = [] ∧ x' = { x with session := x.session.finish thread (conduct.outcome x.ticks) } := by
  cases h with
  | act hact =>
    cases hact with
    | call c script _ hidle _ => obtain ⟨result, hended⟩ := hidle; rw [htick] at hended; cases hended
    | tick script _ hidle => obtain ⟨result, hended⟩ := hidle; rw [htick] at hended; cases hended
    | deed c deeds _ _ _ hdeeds _ _ _ => exact .inl ⟨c, deeds, hdeeds, rfl⟩
    | finish _ _ _ thread hdeeds _ _ => exact .inr ⟨thread, hdeeds, rfl⟩
  | proceed hopen _ => rw [htick] at hopen; cases hopen

end Shows

/-- High work that is due is always the next. -/
theorem nextDue_of_highDue {i : TaskId} (hdue : x.highDue now = some i) : x.backlog.nextDue now none = some i := by
  unfold highDue at hdue
  unfold Backlog.nextDue
  rw [hdue]
  cases x.backlog.low.peekDue x.backlog.tasks now <;> rfl

namespace Mirrors

/-- The next entry of the script, in both courses. -/
theorem obey (h : x.Mirrors y) (hx : x.Sound) (hy : y.Sound) (hquiet : x.Quiet) (hxs : x.Shows conduct x')
    (hys : y.Shows conduct y') : x'.Mirrors y' := by
  obtain ⟨⟨_, htick⟩, hxs⟩ := hxs.of_quiet hquiet
  obtain ⟨⟨_, htick'⟩, hys⟩ := hys.of_quiet (h.quiet hquiet)
  have hscript := h.script_eq
  rcases hxs with ⟨c, script, hnext, rfl⟩ | ⟨script, hnext, rfl⟩ <;>
    rcases hys with ⟨c', script', hnext', rfl⟩ | ⟨script', hnext', rfl⟩ <;>
    rw [hnext, hnext'] at hscript <;> cases hscript
  · refine ⟨{ h.toMatches.perform hx hy c with script_eq := rfl }, .quiet ?_ ?_⟩
    · exact quiet_of_ended ((tick_perform x c).trans htick)
    · exact quiet_of_ended ((tick_perform y c).trans htick')
  · exact ⟨⟨rfl, h.deeds_eq, congrArg ([] :: ·) h.ticks_eq, h.length_eq, h.defaultPriority_eq, h.clock, h.backlog⟩,
      .entering rfl rfl⟩

/-- The next step of a tick that runs what is high and due. -/
theorem proceed (h : x.Mirrors y) (hx : x.Sound) (hy : y.Sound) (hopen : x.session.tick.isOpen = false)
    (hquiet : ¬x.Quiet) : (x.proceed conduct).Mirrors (y.proceed conduct) := by
  cases h.abreast with
  | quiet hx _ => exact absurd hx hquiet
  | entering htick htick' =>
    have hw := hx.session.proceed_of_entering htick
    have hw' := hy.session.proceed_of_entering htick'
    rw [proceed_of_not_mem (by simp [hw]), proceed_of_not_mem (by simp [hw']), hw, hw']
    exact ⟨h.goOn h.defaultPriority_eq h.clock h.backlog, .reading rfl rfl⟩
  | reading htick htick' =>
    have hw := Session.Sound.proceed_of_reading htick
    have hw' := Session.Sound.proceed_of_reading htick'
    rw [proceed_of_not_mem (by simp [hw]), proceed_of_not_mem (by simp [hw']), hw, hw']
    have hnow : x.clock.now.1 = y.clock.now.1 := h.clock.now_eq hx.trails hy.trails
    exact ⟨h.goOn h.defaultPriority_eq h.clock.of_now.symm.of_now.symm h.backlog,
      .picking rfl (congrArg (Tick.picking · 0) hnow.symm)⟩
  | picking htick htick' =>
    obtain ⟨i, hi⟩ := Option.ne_none_iff_exists'.1 (mt (quiet_of_picking htick).2 hquiet)
    obtain ⟨j, hj, hij⟩ := h.exists_highDue hi
    have hw := hx.session.proceed_of_some htick (nextDue_of_highDue hi)
    have hw' := hy.session.proceed_of_some htick' (nextDue_of_highDue hj)
    have hlaunch : Backlog.Mirrors (Paired x.handles y.handles) (x.session.scheduler.backlog.launch i)
        (y.session.scheduler.backlog.launch j) := h.backlog.launch hij
    rw [proceed_of_mem (congrArg Session.tick hw) hij.mem_left,
      proceed_of_mem (congrArg Session.tick hw') hij.symm.mem_left, hij.idxOf_eq hx.nodup hy.nodup,
      h.backlog.runAt_eq hij, h.ticks_eq, hw, hw']
    generalize x.session.scheduler.backlog.launch i = b, y.session.scheduler.backlog.launch j = c at hlaunch ⊢
    exact ⟨⟨h.script_eq, rfl, rfl, h.length_eq, h.defaultPriority_eq, h.clock, hlaunch⟩, .running rfl rfl hij⟩
  | running htick _ _ => rw [htick] at hopen; cases hopen

/-- The action of a high task ends. -/
theorem finish (h : x.Mirrors y) (hx : x.Sound) (hy : y.Sound) {ran ran' : Nat} {i j : TaskId}
    (htick : x.session.tick = .running now ran i) (htick' : y.session.tick = .running now ran' j)
    (hij : Paired x.handles y.handles i j) (thread thread' : Option String) (outcome : Option Panic) :
    { x with session := x.session.finish thread outcome }.Mirrors
      { y with session := y.session.finish thread' outcome } := by
  obtain ⟨hbacklog, hafter⟩ := hx.session.finish_eq htick thread outcome
  obtain ⟨hbacklog', hafter'⟩ := hy.session.finish_eq htick' thread' outcome
  have hnow : x.clock.now.1 = y.clock.now.1 := h.clock.now_eq hx.trails hy.trails
  have hstate : (x.backlog.task i).state ≠ .pending := by
    rcases hx.session.isTaken ⟨now, ran, htick⟩ with hs | ⟨hs, -⟩ <;> simp [Course.backlog, hs]
  refine ⟨h.goOn ?_ ?_ ?_, ?_⟩
  · rw [Session.defaultPriority_finish, Session.defaultPriority_finish, h.defaultPriority_eq]
  · rw [Session.clock_finish htick, Session.clock_finish htick']
    exact h.clock.of_now.symm.of_now.symm
  · rw [hbacklog, hbacklog']
    exact hnow ▸ h.backlog.complete hij hx.tidy hy.tidy hstate x.clock.now.1
  · cases outcome with
    | none => exact .picking hafter hafter'
    | some panic => exact .quiet (quiet_of_ended hafter) (quiet_of_ended hafter')

/-- What concerns high work is done in both courses alike. -/
theorem step (h : x.Mirrors y) (hx : x.Sound) (hy : y.Sound) (hxs : x.Shows conduct x') (hys : y.Shows conduct y') :
    x'.Mirrors y' := by
  have hstep (hopen : x.session.tick.isOpen = false) (hopen' : y.session.tick.isOpen = false) : x'.Mirrors y' := by
    obtain ⟨rfl, hquiet⟩ := hxs.of_not_isOpen hopen
    obtain ⟨rfl, -⟩ := hys.of_not_isOpen hopen'
    exact h.proceed hx hy hopen hquiet
  cases h.abreast with
  | quiet hquiet _ => exact h.obey hx hy hquiet hxs hys
  | entering htick htick' => exact hstep (by rw [htick]; rfl) (by rw [htick']; rfl)
  | reading htick htick' => exact hstep (by rw [htick]; rfl) (by rw [htick']; rfl)
  | picking htick htick' => exact hstep (by rw [htick]; rfl) (by rw [htick']; rfl)
  | running htick htick' hij =>
    have hdeeds := h.deeds_eq
    rcases hxs.of_running htick with ⟨c, deeds, hdeed, rfl⟩ | ⟨thread, hdone, rfl⟩ <;>
      rcases hys.of_running htick' with ⟨c', deeds', hdeed', rfl⟩ | ⟨thread', hdone', rfl⟩
    · rw [hdeed, hdeed'] at hdeeds
      cases hdeeds
      exact ⟨{ h.toMatches.perform hx hy c with deeds_eq := rfl }, .running ((tick_perform x c).trans htick)
        ((tick_perform y c).trans htick') (hij.mono (handles_prefix_perform x c) (handles_prefix_perform y c))⟩
    · rw [hdeed, hdone'] at hdeeds; cases hdeeds
    · rw [hdone, hdeed'] at hdeeds; cases hdeeds
    · have houtcome : conduct.outcome y.ticks = conduct.outcome x.ticks := congrArg conduct.outcome h.ticks_eq.symm
      rw [houtcome]
      exact h.finish hx hy htick htick' hij thread thread' _

protected theorem start (reading : Nat) (defaultPriority : Priority) (script : List Instruction) :
    (start reading defaultPriority script).Mirrors (start reading defaultPriority script) where
  script_eq := rfl
  deeds_eq := rfl
  ticks_eq := rfl
  length_eq := rfl
  defaultPriority_eq := rfl
  clock := .refl _
  backlog :=
    ⟨Paired.biUnique .nil .nil, fun hij => absurd hij.mem_left List.not_mem_nil,
      fun kind => by cases kind <;> exact .nil⟩
  abreast := .quiet (quiet_of_ended rfl) (quiet_of_ended rfl)

/-- The high tasks are the same, in the order of their submissions. -/
theorem highTasks_eq (h : x.Mirrors y) : x.highTasks = y.highTasks := by
  refine List.ext_getElem ?_ fun k hk hk' => ?_
  · simp only [highTasks, List.length_map, h.length_eq]
  · simp only [highTasks, List.length_map] at hk hk'
    simp only [highTasks, List.getElem_map]
    exact h.backlog.task_eq ⟨k, List.getElem?_eq_getElem hk, List.getElem?_eq_getElem hk'⟩

theorem highQueue_eq (h : x.Mirrors y) (hx : x.Sound) (hy : y.Sound) (kind : QueueKind) :
    x.highQueue kind = y.highQueue kind := by
  have hqueue := h.backlog.queue kind
  unfold highQueue
  generalize x.backlog.queue ⟨.high, kind⟩ = q, y.backlog.queue ⟨.high, kind⟩ = q' at hqueue ⊢
  induction hqueue with
  | nil => rfl
  | cons hij _ ih => rw [List.map_cons, List.map_cons, hij.idxOf_eq hx.nodup hy.nodup, ih]

end Mirrors

/-! ### Whole runs -/

theorem Step.script_suffix (h : x.Step conduct y) : y.script <:+ x.script := by
  cases h with
  | act hact =>
    cases hact with
    | call c script hscript _ _ => rw [hscript]; exact List.suffix_cons _ _
    | tick script hscript _ => rw [hscript]; exact List.suffix_cons _ _
    | deed c deeds _ _ _ _ _ _ _ => exact ⟨[], script_perform x c⟩
    | finish _ _ _ thread _ _ _ => exact List.suffix_rfl
  | proceed _ =>
    unfold Course.proceed
    split
    · split <;> exact List.suffix_rfl
    · exact List.suffix_rfl
  | extra _ _ => exact List.suffix_rfl
  | finish _ _ _ _ _ _ _ => exact List.suffix_rfl

theorem script_suffix (h : Relation.ReflTransGen (Step conduct) x y) : y.script <:+ x.script := by
  induction h with
  | refl => exact List.suffix_rfl
  | tail _ hstep ih => exact hstep.script_suffix.trans ih

/-- After the next entry the script is not what it was. -/
theorem Shows.script_ne (h : x.Shows conduct x') (hquiet : x.Quiet) (hrun : Relation.ReflTransGen (Step conduct) x' y) :
    y.script ≠ x.script := by
  have hle := (script_suffix hrun).length_le
  intro heq
  obtain ⟨-, ⟨c, script, hscript, rfl⟩ | ⟨script, hscript, rfl⟩⟩ := h.of_quiet hquiet <;>
  · rw [heq, hscript, List.length_cons] at hle
    exact Nat.lt_irrefl _ hle

theorem IsIdle.quiet (h : x.IsIdle) : x.Quiet :=
  let ⟨_, htick⟩ := h
  quiet_of_ended htick

/-- From courses that have got equally far lead runs to courses that have. -/
theorem Mirrors.run {u v : Course} (h : x.Mirrors y) (hx : x.Sound) (hy : y.Sound)
    (hxu : Relation.ReflTransGen (Step conduct) x u) (hyv : Relation.ReflTransGen (Step conduct) y v) (hu : u.IsIdle)
    (hv : v.IsIdle) (hscript : u.script = v.script) : u.Mirrors v := by
  induction hxu using Relation.ReflTransGen.head_induction_on generalizing y with
  | refl =>
    -- nothing is left to be done on the first side, and hence on the second one
    induction hyv using Relation.ReflTransGen.head_induction_on with
    | refl => exact h
    | head hstep hrest ih =>
      rcases h.symm.of_step hy hstep with hshows | hmute
      · exact absurd (hscript.symm.trans h.script_eq) (hshows.script_ne (h.quiet hu.quiet) hrest)
      · exact ih hmute.symm (hy.step hstep)
  | head hstep hrest ih =>
    rcases h.of_step hx hstep with hshows | hmute
    · -- the second side comes to the same step after others that do not show
      induction hyv using Relation.ReflTransGen.head_induction_on with
      | refl => exact absurd (hscript.trans h.script_eq.symm) (hshows.script_ne (h.symm.quiet hv.quiet) hrest)
      | head hstep' hrest' ih' =>
        rcases h.symm.of_step hy hstep' with hshows' | hmute'
        · exact ih (h.step hx hy hshows hshows') (hx.step hstep) (hy.step hstep') hrest'
        · exact ih' hmute'.symm (hy.step hstep')
    · exact ih hmute (hx.step hstep) hy hyv

/-- Two courses that start alike and follow one script: as often as both of them have come to the end of the same
instruction, their ticks have run the same high tasks in the same order, each planned for the same time, and have left
the same high tasks and queues, however different the other work was, and however its actions ended. -/
theorem isolated {reading : Nat} {defaultPriority : Priority} {script : List Instruction}
    (hx : Relation.ReflTransGen (Step conduct) (start reading defaultPriority script) x)
    (hy : Relation.ReflTransGen (Step conduct) (start reading defaultPriority script) y) (hidle : x.IsIdle)
    (hidle' : y.IsIdle) (hscript : x.script = y.script) :
    x.ticks = y.ticks ∧ x.highTasks = y.highTasks ∧ ∀ kind, x.highQueue kind = y.highQueue kind := by
  have hstart := Sound.start reading defaultPriority script
  have h := (Mirrors.start reading defaultPriority script).run hstart hstart hx hy hidle hidle' hscript
  exact ⟨h.ticks_eq, h.highTasks_eq, h.highQueue_eq (hstart.run hx) (hstart.run hy)⟩

/-! Two ticks in each of two courses, of which one has a low task besides, whose action panics in the first tick. -/

/-- High actions do nothing, and end well. -/
private def calm : Conduct := ⟨fun _ => [], fun _ => none⟩

private def entered (c : HighCall) (script : List Instruction) (x : Course) : Course :=
  let x := { x.perform c with script := .tick :: script }
  { x with session := x.session.enter, script := script, ticks := [] :: x.ticks }

/-- The tick enters its scheduler, reads the clock and starts a task. -/
private def started (c : HighCall) (script : List Instruction) (x : Course) : Course :=
  (((entered c script x).proceed calm).proceed calm).proceed calm

private def finished (c : HighCall) (script : List Instruction) (x : Course) : Course :=
  { started c script x with session := (started c script x).session.finish none none }

/-- A call, and a tick that runs a high task. -/
private def round (c : HighCall) (script : List Instruction) (x : Course) : Course := (finished c script x).proceed calm

private theorem run_round (c : HighCall) (script : List Instruction) {now ran : Nat} {id : TaskId}
    (hscript : x.script = .call c :: .tick :: script) (hidle : x.IsIdle) (hallows : x.Allows c)
    (hreading : ((entered c script x).proceed calm).session.tick.isOpen = false)
    (hpicking : (((entered c script x).proceed calm).proceed calm).session.tick.isOpen = false)
    (htick : (started c script x).session.tick = .running now ran id) (hid : id ∈ (started c script x).handles)
    (hdeeds : (started c script x).deeds = []) (hlast : (finished c script x).session.tick.isOpen = false) :
    Relation.ReflTransGen (Step calm) x (round c script x) := by
  obtain ⟨result, hended⟩ := hidle
  have hcall : x.Step calm { x.perform c with script := .tick :: script } :=
    .act (.call c _ hscript ⟨result, hended⟩ hallows)
  have henter : Step calm { x.perform c with script := .tick :: script } (entered c script x) :=
    .act (.tick script rfl ⟨result, (tick_perform x c).trans hended⟩)
  have hstart : Relation.ReflTransGen (Step calm) (entered c script x) (started c script x) :=
    .tail (.tail (.single (.proceed rfl)) (.proceed hreading)) (.proceed hpicking)
  have hfinish : (started c script x).Step calm (finished c script x) := .act (.finish now ran id none hdeeds htick hid)
  exact ((hstart.head henter).head hcall).tail hfinish |>.tail (.proceed hlast)

private def greeting : HighCall := .submit ⟨.zero, .recurring (.ofMillis 10) .fixedRate, none, none⟩

private def later : HighCall := .advance (.ofMillis 15)

private def opening : Course := start 0 .high [.call greeting, .tick, .call later, .tick]

/-- A high task that is run at 0 and at 10. -/
private def alone : Course := round later [] (round greeting [.call later, .tick] opening)

private def crowded : Course :=
  { opening with session := opening.session.call (.submit ⟨.zero, .oneTime, some .low, none⟩) }

/-- The first tick, after the low task has panicked. -/
private def brokenOff : Course :=
  let x := round greeting [.call later, .tick] crowded
  { x with session := x.session.finish none (some .other) }

private def beside : Course := round later [] brokenOff

private theorem run_alone : Relation.ReflTransGen (Step calm) opening alone := by
  have hstarted : (started greeting [.call later, .tick] opening).session.tick = .running 0 0 ⟨0⟩ := by cbv
  have hfirst : Relation.ReflTransGen (Step calm) opening (round greeting [.call later, .tick] opening) :=
    run_round greeting [.call later, .tick] rfl ⟨_, rfl⟩ rfl (by cbv) (by cbv) hstarted (by cbv; exact .head _) (by cbv)
      (by cbv)
  have hidle : (round greeting [.call later, .tick] opening).session.tick = .ended (.ok 1) := by cbv
  have hstarted' :
      (started later [] (round greeting [.call later, .tick] opening)).session.tick = .running 15 0 ⟨0⟩ := by cbv
  exact hfirst.trans (run_round later [] (by cbv) ⟨_, hidle⟩ (by cbv) (by cbv) (by cbv) hstarted'
    (by cbv; exact .head _) (by cbv) (by cbv))

private theorem run_beside : Relation.ReflTransGen (Step calm) opening beside := by
  have hcrowded : opening.Step calm crowded := .extra _ (.submit _ (by decide))
  have hstarted : (started greeting [.call later, .tick] crowded).session.tick = .running 0 0 ⟨1⟩ := by cbv
  have hfirst : Relation.ReflTransGen (Step calm) crowded (round greeting [.call later, .tick] crowded) :=
    run_round greeting [.call later, .tick] (by cbv) ⟨_, rfl⟩ rfl (by cbv) (by cbv) hstarted (by cbv; exact .head _)
      (by cbv) (by cbv)
  have hlow : (round greeting [.call later, .tick] crowded).session.tick = .running 0 1 ⟨0⟩ := by cbv
  have hhandles : (round greeting [.call later, .tick] crowded).handles = [⟨1⟩] := by cbv
  have hpanic : (round greeting [.call later, .tick] crowded).Step calm brokenOff :=
    .finish 0 1 ⟨0⟩ none (some .other) hlow (by rw [hhandles]; decide)
  have hidle : ∃ result, brokenOff.session.tick = .ended result := ⟨_, by cbv⟩
  have hstarted' : (started later [] brokenOff).session.tick = .running 15 0 ⟨1⟩ := by cbv
  have hsecond : Relation.ReflTransGen (Step calm) brokenOff beside :=
    run_round later [] (by cbv) hidle (by cbv) (by cbv) (by cbv) hstarted' (by cbv; exact .head _) (by cbv) (by cbv)
  exact (hfirst.head hcrowded).tail hpanic |>.trans hsecond

/-- A low task takes the first number and breaks the first tick off; the high task fares as it does alone. -/
theorem isolated_beside_panic :
    Relation.ReflTransGen (Step calm) opening alone ∧ Relation.ReflTransGen (Step calm) opening beside ∧
    alone.handles = [⟨0⟩] ∧ beside.handles = [⟨1⟩] ∧
    (∃ trouble, brokenOff.session.tick = .ended (.error trouble)) ∧ alone.ticks = [[(0, 10)], [(0, 0)]] ∧
    alone.ticks = beside.ticks ∧ alone.highTasks = beside.highTasks ∧
    ∀ kind, alone.highQueue kind = beside.highQueue kind := by
  have hisolated := isolated run_alone run_beside ⟨_, by cbv⟩ ⟨_, by cbv⟩ (by cbv)
  exact ⟨run_alone, run_beside, by cbv, by cbv, ⟨_, by cbv⟩, by cbv, hisolated⟩

end Course

end TaskScheduling
