import TaskScheduling.Proofs.Tick.Session

/-!
# Holds on the clock

A caller may hold the clock of a scheduler and let go of it at any later moment, whatever other holds there are by then.
A window reaches from the first hold that is taken to the moment when none is left.

`ClockedSession` is a session whose holds have numbers, with a record of what the clock has answered.  Callers act,
ticks go on and the source of time moves in any order, and none of them waits for another.

* `Clock.Moves`: what anything but a hold may do to a clock.
* `ClockedSession.Reachable.steady`: throughout a window the clock stands still, and it never shows less than before.
-/

namespace TaskScheduling

/-! ### Readings of the time -/

/-- Whether the next step of a tick reads the time. -/
def Tick.readsClock : Tick → Bool
  | .reading => true
  | .waiting (.queues _) => true
  | _ => false

/-- Whether a call reads the time and uses what it has read. -/
def Call.readsClock : Call → Bool
  | .hasDue => true
  | .now => true
  | _ => false

/-- Whether a call takes a hold or drops one. -/
def Call.isHold : Call → Bool
  | .hold => true
  | .release => true
  | _ => false

namespace Clock

/-- What may become of a clock in a step that takes no hold and drops none; the flag tells whether `now` is asked. -/
inductive Moves (c : Clock) : Bool → Clock → Prop where
  | stay : Moves c false c
  | read : Moves c true c.now.2
  | accurate : Moves c false c.accurate.2
  /-- A submission holds the clock for itself. -/
  | submit : Moves c false c.hold.release
  | turn (source : TimeSource) : Moves c false { c with source := source }

theorem cached_accurate_of_held {c : Clock} (h : c.isHeld = true) : c.accurate.2.cached = c.cached := by
  simp only [accurate, h, ↓reduceIte]

theorem cached_hold_of_held {c : Clock} (h : c.isHeld = true) : c.hold.cached = c.cached := by
  simp only [hold, h, ↓reduceIte]

theorem cached_hold_of_not_held {c : Clock} (h : c.isHeld = false) : c.hold.cached = max c.cached c.source.reading := by
  simp only [hold, h, Bool.false_eq_true, ↓reduceIte]

/-- As long as another hold is left, the end of a hold changes nothing that the clock shows. -/
theorem cached_release_of_held {c : Clock} (h : c.holds - 1 ≠ 0) : c.release.cached = c.cached := by
  have hheld : isHeld { c with holds := c.holds - 1 } = true := by simpa [isHeld] using h
  simp only [release, hheld, ↓reduceIte]

/-- A clock that nobody holds shows at least what its source shows. -/
theorem source_le_now {c : Clock} (h : c.isHeld = false) : c.source.reading ≤ c.now.1 := by
  simp only [now, accurate, h, Bool.false_eq_true, ↓reduceIte]
  exact Nat.le_max_right _ _

namespace Moves

variable {c d : Clock} {reads : Bool}

theorem holds_eq (h : c.Moves reads d) : d.holds = c.holds := by
  cases h with
  | stay => rfl
  | read => exact holds_now c
  | accurate => exact holds_accurate c
  | submit => rw [holds_release, holds_hold, Nat.add_sub_cancel]
  | turn source => rfl

theorem cached_le (h : c.Moves reads d) : c.cached ≤ d.cached := by
  cases h with
  | stay => exact Nat.le_refl _
  | read => exact cached_le_cached_now c
  | accurate => exact cached_le_cached_accurate c
  | submit => exact (cached_le_cached_hold c).trans (cached_le_cached_release _)
  | turn source => exact Nat.le_refl _

/-- A held clock goes on showing what it shows. -/
theorem cached_eq_of_held (h : c.Moves reads d) (hheld : c.isHeld = true) : d.cached = c.cached := by
  cases h with
  | stay => rfl
  | read => rw [now_of_held hheld]
  | accurate => exact cached_accurate_of_held hheld
  | submit =>
    have hleft : c.hold.holds - 1 ≠ 0 := by simpa [isHeld] using hheld
    rw [cached_release_of_held hleft, cached_hold_of_held hheld]
  | turn source => rfl

/-- What has been read is what the clock shows from then on. -/
theorem cached_eq_now (h : c.Moves true d) : d.cached = c.now.1 := by
  cases h with
  | read => exact (now_eq_cached_now c).symm

end Moves

end Clock

namespace Session

variable (w : Session)

theorem clock_call {c : Call} (h : c.isHold = false) :
    w.scheduler.clock.Moves c.readsClock (w.call c).scheduler.clock := by
  cases c with
  | submit r =>
    cases hvalid : r.kind.isValid with
    | false =>
      rw [call_submit_of_invalid hvalid]
      exact .submit
    | true =>
      rw [call_submit_of_valid hvalid]
      exact .submit
  | cancel id => exact .stay
  | clear => exact .stay
  | hold => cases h
  | release => cases h
  | interrupt => exact .stay
  | hasDue => exact .read
  | now => exact .read
  | advance d => exact .turn _
  | jump t => exact .turn _

/-- A waiting tick reads the time when it looks at the queues, and at no other step. -/
private theorem clock_step_waiting (s : TickScheduler) (waiting : Waiting) :
    s.clock.Moves (Tick.waiting waiting).readsClock (waiting.step s).1.clock := by
  cases waiting with
  | entering => exact .stay
  | flags seen =>
    simp only [Waiting.step]
    split
    · exact .stay
    · split <;> exact .stay
  | queues seen =>
    simp only [Waiting.step]
    split
    · exact .read
    · split <;> exact .read
  | sleeping seen since until? => exact .stay
  | ended result => exact .stay

private theorem clock_claiming (s : TickScheduler) (now ran : Nat) (id : TaskId) :
    ((Tick.claiming now ran id).step s).1.clock = s.clock := by
  simp only [Tick.step]
  split <;> rfl

private theorem clock_step (s : TickScheduler) (t : Tick) : s.clock.Moves t.readsClock (t.step s).1.clock := by
  cases t with
  | entering =>
    simp only [Tick.step]
    split <;> exact .stay
  | reading => exact .read
  | picking now ran =>
    simp only [Tick.step]
    split
    · exact .stay
    · split <;> exact .stay
  | claiming now ran id =>
    rw [clock_claiming]
    exact .stay
  | running now ran id => exact .stay
  | waiting waiting =>
    cases waiting with
    | ended result => cases result <;> exact .stay
    | _ => exact clock_step_waiting s _
  | ended result => exact .stay

theorem clock_proceed : w.scheduler.clock.Moves w.tick.readsClock w.proceed.scheduler.clock := by
  have hmove : w.scheduler.clock.Moves w.tick.readsClock (w.tick.move w.scheduler).1.clock := by
    have hstep := clock_step w.scheduler w.tick
    unfold Tick.move
    split
    · rename_i heq
      rw [clock_claiming]
      rwa [heq] at hstep
    · exact hstep
  unfold proceed
  split <;> rename_i heq <;> rw [heq] at hmove <;> exact hmove

/-- The time of the completion is read when an action ends. -/
theorem clock_of_finish {now ran : Nat} {id : TaskId} (htick : w.tick = .running now ran id) (thread : Option String)
    (outcome : Option Panic) : w.scheduler.clock.Moves true (w.finish thread outcome).scheduler.clock := by
  simp only [finish, htick, Tick.finish]
  split <;> exact .read

theorem clock_nested : w.nested.scheduler.clock = w.scheduler.clock := by
  simp only [nested, Tick.step]
  split <;> rfl

theorem clock_wake : w.wake.scheduler.clock = w.scheduler.clock := by
  unfold wake
  split
  · rename_i waiting _
    cases waiting <;> rfl
  · rfl

end Session

/-! ### Sessions whose holds have numbers -/

structure ClockedSession where
  session : Session
  /-- The holds that have been taken and not dropped. -/
  alive : List Nat
  /-- How many holds have been taken; they are numbered in that order. -/
  taken : Nat
  /-- What `now` has answered, to callers and to ticks, the last answer first. -/
  nows : List Nat
  /-- What the clock or one of its holds has shown without a refresh, the last answer first. -/
  lastKnowns : List Nat

namespace ClockedSession

def start (blocking : Bool) (clock : Clock) (defaultPriority : Priority) : ClockedSession :=
  ⟨.start blocking clock defaultPriority, [], 0, [], []⟩

def clock (w : ClockedSession) : Clock := w.session.scheduler.clock

def hold (w : ClockedSession) : ClockedSession :=
  { w with session := w.session.call .hold, alive := w.taken :: w.alive, taken := w.taken + 1 }

def release (w : ClockedSession) (k : Nat) : ClockedSession :=
  { w with session := w.session.call .release, alive := w.alive.erase k }

/-- The clock, or one of its holds, is asked what it shows without a refresh. -/
def look (w : ClockedSession) : ClockedSession := { w with lastKnowns := w.clock.cached :: w.lastKnowns }

/-- The source is read, whether the clock is held or not. -/
def accurate (w : ClockedSession) : ClockedSession :=
  { w with session := { w.session with scheduler := { w.session.scheduler with clock := w.clock.accurate.2 } } }

/-- The session goes on, and what `now` answers on the way is recorded. -/
def goOn (w : ClockedSession) (reads : Bool) (session : Session) : ClockedSession :=
  { w with session := session, nows := if reads then w.clock.now.1 :: w.nows else w.nows }

inductive Step (w : ClockedSession) : ClockedSession → Prop where
  | hold : Step w w.hold
  /-- Any hold may be dropped, not only the last one that was taken. -/
  | release (k : Nat) : k ∈ w.alive → Step w (w.release k)
  | look : Step w w.look
  | accurate : Step w w.accurate
  | call (c : Call) : c.isHold = false → Step w (w.goOn c.readsClock (w.session.call c))
  /-- The source comes to show any time, an earlier one also. -/
  | pass (t : Nat) : Step w (w.goOn false (w.session.pass t))
  | enter (result : Except Trouble Nat) : w.session.tick = .ended result → Step w (w.goOn false w.session.enter)
  | nested (now ran : Nat) (id : TaskId) :
      w.session.tick = .running now ran id → Step w (w.goOn false w.session.nested)
  | proceed : Step w (w.goOn w.session.tick.readsClock w.session.proceed)
  | finish (now ran : Nat) (id : TaskId) (thread : Option String) (outcome : Option Panic) :
      w.session.tick = .running now ran id → Step w (w.goOn true (w.session.finish thread outcome))
  | wake : Step w (w.goOn false w.session.wake)

inductive Reachable : ClockedSession → Prop where
  | start (blocking : Bool) (clock : Clock) (defaultPriority : Priority) :
      clock.isHeld = false → Reachable (start blocking clock defaultPriority)
  | step {w w' : ClockedSession} : Reachable w → Step w w' → Reachable w'

/-- A run throughout which there is a hold. -/
inductive Lasts (w : ClockedSession) : ClockedSession → Prop where
  | refl : w.alive ≠ [] → Lasts w w
  | step {v v' : ClockedSession} : Lasts w v → Step v v' → v'.alive ≠ [] → Lasts w v'

theorem Lasts.alive_ne_nil {w v : ClockedSession} (h : w.Lasts v) : v.alive ≠ [] := by
  cases h with
  | refl halive => exact halive
  | step _ _ halive => exact halive

theorem Lasts.reachable {w v : ClockedSession} (h : w.Lasts v) (hw : w.Reachable) : v.Reachable := by
  induction h with
  | refl _ => exact hw
  | step _ hstep _ ih => exact ih.step hstep

/-- Answers, the last one first, that have never decreased and are not ahead of `t`. -/
def Rising (answers : List Nat) (t : Nat) : Prop := answers.Pairwise (· ≥ ·) ∧ ∀ x ∈ answers, x ≤ t

theorem Rising.mono {answers : List Nat} {t u : Nat} (h : Rising answers t) (htu : t ≤ u) : Rising answers u :=
  ⟨h.1, fun x hx => (h.2 x hx).trans htu⟩

theorem Rising.cons {answers : List Nat} {t : Nat} (h : Rising answers t) : Rising (t :: answers) t := by
  refine ⟨List.pairwise_cons.2 ⟨h.2, h.1⟩, fun x hx => ?_⟩
  rcases List.mem_cons.1 hx with rfl | hx
  · exact Nat.le_refl _
  · exact h.2 x hx

structure Sound (w : ClockedSession) : Prop where
  holds_eq : w.clock.holds = w.alive.length
  nows : Rising w.nows w.clock.cached
  lastKnowns : Rising w.lastKnowns w.clock.cached

namespace Sound

variable {w : ClockedSession}

theorem isHeld (h : w.Sound) (halive : w.alive ≠ []) : w.clock.isHeld = true := by
  simp [Clock.isHeld, h.holds_eq, halive]

theorem isHeld_eq_false (h : w.Sound) (halive : w.alive = []) : w.clock.isHeld = false := by
  simp [Clock.isHeld, h.holds_eq, halive]

protected theorem start (blocking : Bool) {clock : Clock} (defaultPriority : Priority) (h : clock.isHeld = false) :
    (ClockedSession.start blocking clock defaultPriority).Sound where
  holds_eq := by
    simp only [Clock.isHeld, bne_eq_false_iff_eq] at h
    exact h
  nows := ⟨.nil, by simp [ClockedSession.start]⟩
  lastKnowns := ⟨.nil, by simp [ClockedSession.start]⟩

theorem hold (h : w.Sound) : w.hold.Sound where
  holds_eq := congrArg (· + 1) h.holds_eq
  nows := h.nows.mono (Clock.cached_le_cached_hold _)
  lastKnowns := h.lastKnowns.mono (Clock.cached_le_cached_hold _)

theorem release (h : w.Sound) {k : Nat} (hk : k ∈ w.alive) : (w.release k).Sound where
  holds_eq := by
    show w.clock.release.holds = (w.alive.erase k).length
    rw [Clock.holds_release, h.holds_eq, List.length_erase_of_mem hk]
  nows := h.nows.mono (Clock.cached_le_cached_release _)
  lastKnowns := h.lastKnowns.mono (Clock.cached_le_cached_release _)

theorem look (h : w.Sound) : w.look.Sound := { h with lastKnowns := h.lastKnowns.cons }

/-- Whatever neither takes nor drops a hold. -/
theorem goOn (h : w.Sound) {reads : Bool} {session : Session}
    (hmoves : w.clock.Moves reads session.scheduler.clock) : (w.goOn reads session).Sound where
  holds_eq := hmoves.holds_eq.trans h.holds_eq
  nows := by
    cases reads with
    | false => exact h.nows.mono hmoves.cached_le
    | true =>
      have hnows : Rising w.nows w.clock.now.1 := h.nows.mono (Clock.cached_le_now _)
      show Rising (w.clock.now.1 :: w.nows) session.scheduler.clock.cached
      rw [hmoves.cached_eq_now]
      exact hnows.cons
  lastKnowns := h.lastKnowns.mono hmoves.cached_le

end Sound

/-- What a step can be: the first hold or a further one, the end of a hold, a look at the clock, or something else. -/
theorem Step.cases {w w' : ClockedSession} (h : w.Step w') :
    w' = w.hold ∨ (∃ k ∈ w.alive, w' = w.release k) ∨ w' = w.look ∨
      ∃ reads session, w.clock.Moves reads session.scheduler.clock ∧ w' = w.goOn reads session := by
  have hother {reads : Bool} {session : Session} (hmoves : w.clock.Moves reads session.scheduler.clock) :
      ∃ r s, w.clock.Moves r s.scheduler.clock ∧ w.goOn reads session = w.goOn r s := ⟨_, _, hmoves, rfl⟩
  cases h with
  | hold => exact .inl rfl
  | release k hk => exact .inr (.inl ⟨k, hk, rfl⟩)
  | look => exact .inr (.inr (.inl rfl))
  | accurate => exact .inr (.inr (.inr ⟨false, w.accurate.session, .accurate, rfl⟩))
  | call c hc => exact .inr (.inr (.inr (hother (w.session.clock_call hc))))
  | pass t => exact .inr (.inr (.inr (hother (.turn _))))
  | enter result _ => exact .inr (.inr (.inr (hother .stay)))
  | nested now ran id _ => exact .inr (.inr (.inr (hother (w.session.clock_nested.symm ▸ .stay))))
  | proceed => exact .inr (.inr (.inr (hother w.session.clock_proceed)))
  | finish now ran id thread outcome htick =>
    exact .inr (.inr (.inr (hother (w.session.clock_of_finish htick thread outcome))))
  | wake => exact .inr (.inr (.inr (hother (w.session.clock_wake.symm ▸ .stay))))

theorem Sound.step {w w' : ClockedSession} (h : w.Sound) (hstep : w.Step w') : w'.Sound := by
  rcases hstep.cases with rfl | ⟨k, hk, rfl⟩ | rfl | ⟨reads, session, hmoves, rfl⟩
  · exact h.hold
  · exact h.release hk
  · exact h.look
  · exact h.goOn hmoves

theorem Reachable.sound {w : ClockedSession} (h : w.Reachable) : w.Sound := by
  induction h with
  | start blocking clock defaultPriority hheld => exact .start blocking defaultPriority hheld
  | step _ hstep ih => exact ih.step hstep

/-- Between two moments of a window the clock does not move. -/
theorem Step.cached_eq {w w' : ClockedSession} (hstep : w.Step w') (h : w.Sound) (halive : w.alive ≠ [])
    (hleft : w'.alive ≠ []) : w'.clock.cached = w.clock.cached := by
  have hheld := h.isHeld halive
  rcases hstep.cases with rfl | ⟨k, hk, rfl⟩ | rfl | ⟨reads, session, hmoves, rfl⟩
  · exact Clock.cached_hold_of_held hheld
  · have hholds : w.clock.release.holds = (w.release k).alive.length := (h.release hk).holds_eq
    rw [Clock.holds_release] at hholds
    refine Clock.cached_release_of_held fun hzero => hleft (List.length_eq_zero_iff.1 ?_)
    exact hholds.symm.trans hzero
  · rfl
  · exact hmoves.cached_eq_of_held hheld

theorem Lasts.cached_eq {w v : ClockedSession} (h : w.Lasts v) (hw : w.Reachable) :
    v.clock.cached = w.clock.cached := by
  induction h with
  | refl _ => rfl
  | step hlasts hstep hleft ih =>
    exact (hstep.cached_eq (hlasts.reachable hw).sound hlasts.alive_ne_nil hleft).trans ih

/-! ### What holders may rely on -/

/-- The time at which the clock stops if it is held now: what it has shown before, unless its source is ahead. -/
def opening (w : ClockedSession) : Nat := max w.clock.cached w.clock.source.reading

/-- Any task that is submitted now is to run `delay` after `t`. -/
def SubmitsAt (w : ClockedSession) (t : Nat) : Prop :=
  ∀ r : Request, r.kind.isValid = true →
    ∃ s id, w.session.scheduler.submit r.delay r.kind r.options = (s, .ok id) ∧
      (s.backlog.task id).runAt = Time.plus t r.delay.millis

/-- The clock stands at `t`, whichever way it is asked. -/
structure StandsAt (w : ClockedSession) (t : Nat) : Prop where
  /-- Nor does `now` refresh anything. -/
  now_eq : w.clock.now = (t, w.clock)
  cached_eq : w.clock.cached = t
  hold_eq : w.hold.clock.cached = t
  submitsAt : w.SubmitsAt t

structure Steady (w : ClockedSession) : Prop where
  /-- In the window that a first hold opens now, the clock stands still until the last hold is dropped. -/
  standsAt : w.alive = [] → ∀ v, w.hold.Lasts v → v.StandsAt w.opening
  /-- Without a window, a submission is one of its own. -/
  submitsAt : w.alive = [] → w.SubmitsAt w.opening
  source_le_now : w.alive = [] → w.clock.source.reading ≤ w.clock.now.1
  nows_rising : w.nows.Pairwise (· ≥ ·)
  lastKnowns_rising : w.lastKnowns.Pairwise (· ≥ ·)

/-- A task counts from the time that its submission finds under its own hold. -/
private theorem submitsAt_hold (w : ClockedSession) : w.SubmitsAt w.hold.clock.cached := by
  intro r hvalid
  refine ⟨_, _, TickScheduler.submit_of_valid hvalid, ?_⟩
  show ((Backlog.enlist _ _ _ _).task _).runAt = _
  rw [Backlog.Accounted.task_enlist, if_pos rfl]
  rfl

private theorem Sound.cached_hold {w : ClockedSession} (h : w.Sound) (halive : w.alive = []) :
    w.hold.clock.cached = w.opening :=
  Clock.cached_hold_of_not_held (h.isHeld_eq_false halive)

private theorem Lasts.standsAt {w v : ClockedSession} (h : w.Lasts v) (hw : w.Reachable) :
    v.StandsAt w.clock.cached := by
  have hcached := h.cached_eq hw
  have hheld := (h.reachable hw).sound.isHeld h.alive_ne_nil
  have hhold : v.hold.clock.cached = v.clock.cached := Clock.cached_hold_of_held hheld
  rw [← hcached]
  exact ⟨Clock.now_of_held hheld, rfl, hhold, hhold ▸ v.submitsAt_hold⟩

theorem Reachable.steady {w : ClockedSession} (h : w.Reachable) : w.Steady where
  standsAt halive _ hlasts := h.sound.cached_hold halive ▸ hlasts.standsAt (h.step .hold)
  submitsAt halive := h.sound.cached_hold halive ▸ w.submitsAt_hold
  source_le_now halive := Clock.source_le_now (h.sound.isHeld_eq_false halive)
  nows_rising := h.sound.nows.1
  lastKnowns_rising := h.sound.lastKnowns.1

/-- A tick runs its first action at 7, and meanwhile the source has come to show 12. -/
private def acting : ClockedSession :=
  let submitted := (start false (.start (.manual 7)) .low).goOn false
    ((Session.start false (.start (.manual 7)) .low).call (.submit ⟨.zero, .oneTime, none, none⟩))
  let entered := submitted.goOn false submitted.session.enter
  let reading := entered.goOn false entered.session.proceed
  let picking := reading.goOn true reading.session.proceed
  let running := picking.goOn false picking.session.proceed
  running.goOn false (running.session.call (.jump 12))

private theorem reachable_acting : acting.Reachable := by
  have hstart := Reachable.start false (.start (.manual 7)) .low rfl
  have hsubmitted := hstart.step (.call (.submit ⟨.zero, .oneTime, none, none⟩) rfl)
  have hreading := (hsubmitted.step (.enter (.ok 0) rfl)).step .proceed
  have hrunning := (hreading.step .proceed).step .proceed
  exact hrunning.step (.call (.jump 12) rfl)

/-- The action holds the clock twice and drops the first hold first, and the source wraps around. -/
private def overlapping : ClockedSession :=
  let held := acting.hold.hold.release 0
  let late := held.goOn false (held.session.call (.jump Time.limit))
  let wrapped := late.goOn false (late.session.call (.advance (.ofMillis 3)))
  wrapped.goOn true (wrapped.session.call .now)

private theorem lasts_overlapping : acting.hold.Lasts overlapping := by
  have hheld := (Lasts.refl (w := acting.hold) (by simp [hold])).step .hold (by simp [hold])
  have hreleased := hheld.step (.release 0 (.tail 1 (.head []))) (by decide +kernel)
  have hlate := hreleased.step (.call (.jump Time.limit) rfl) (by decide +kernel)
  have hwrapped := hlate.step (.call (.advance (.ofMillis 3)) rfl) (by decide +kernel)
  exact hwrapped.step (.call .now rfl) (by decide +kernel)

theorem steady_acting : acting.Reachable ∧ acting.hold.Lasts overlapping ∧ overlapping.alive = [1] ∧
    overlapping.clock.source.reading = 2 ∧ overlapping.nows = [12, 7] ∧ overlapping.StandsAt 12 := by
  have hopening : acting.opening = 12 := rfl
  have hstands := reachable_acting.steady.standsAt rfl _ lasts_overlapping
  exact ⟨reachable_acting, lasts_overlapping, rfl, rfl, rfl, hopening ▸ hstands⟩

end ClockedSession

end TaskScheduling
