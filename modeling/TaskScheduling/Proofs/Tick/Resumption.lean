import TaskScheduling.Proofs.Tick.Serving

/-!
# Ticks that are broken off and called again

A panic ends a tick.  Whoever calls tick again at the same reading of the clock, and again until it ends well, gets the
runs that one tick would have made if no action had panicked, in the same order and with the same effect:
`Session.Reachable.resumes`.  The actions leave the scheduler and the clock alone.
-/

namespace TaskScheduling

/-- A session in which tick is called until it ends well, and the runs that the ticks have started, each with the time
for which it was planned. -/
structure Retry where
  session : Session
  runs : List (TaskId × Nat)

/-- How actions end, on which thread and with which panic, by the runs so far; the last one is the one that ends. -/
def Endings : Type := List (TaskId × Nat) → Option String × Option Panic

namespace Retry

variable {u : Retry} {w : Session} {ends : Endings} {now ran k : Nat} {id : TaskId}

/-- Tick has been called for the first time. -/
def start (w : Session) : Retry := ⟨w.enter, []⟩

/-- One step, after which tick is called again if it has failed. -/
def next (ends : Endings) (u : Retry) : Retry :=
  match u.session.tick with
  | .running _ _ _ => ⟨u.session.finish (ends u.runs).1 (ends u.runs).2, u.runs⟩
  | .ended (.error _) => ⟨u.session.enter, u.runs⟩
  | .ended (.ok _) => u
  | _ =>
    match u.session.proceed.tick with
    | .running _ _ id => ⟨u.session.proceed, u.runs ++ [(id, (u.session.scheduler.backlog.task id).runAt)]⟩
    | _ => ⟨u.session.proceed, u.runs⟩

/-- After `k` steps with nothing in between. -/
def after (w : Session) (ends : Endings) (k : Nat) : Retry := (next ends)^[k] (start w)

/-- What has been run so far and what is left, apart from the ticks that did it. -/
def service (u : Retry) : Service := ⟨u.runs, u.session.scheduler.backlog⟩

/-! ### Single steps -/

section Steps

variable (ends)

theorem next_of_entering (h : u.session.Sound) (htick : u.session.tick = .entering) :
    u.next ends = ⟨{ u.session with
      scheduler := { u.session.scheduler with ticking := true }
      tick := .reading }, u.runs⟩ := by
  simp only [next, htick, h.proceed_of_entering htick]

theorem next_of_reading (htick : u.session.tick = .reading) :
    u.next ends = ⟨{ u.session with
      scheduler := { u.session.scheduler with clock := u.session.scheduler.clock.now.2 }
      tick := .picking u.session.scheduler.clock.now.1 0 }, u.runs⟩ := by
  simp only [next, htick, Session.Sound.proceed_of_reading htick]

theorem next_of_some (h : u.session.Sound) (htick : u.session.tick = .picking now ran)
    (hnext : u.session.scheduler.backlog.nextDue now none = some id) :
    u.next ends = ⟨{ u.session with
      scheduler := { u.session.scheduler with backlog := u.session.scheduler.backlog.launch id }
      tick := .running now ran id
      invoked := id :: u.session.invoked }, u.runs ++ [(id, (u.session.scheduler.backlog.task id).runAt)]⟩ := by
  simp only [next, htick, h.proceed_of_some htick hnext]

theorem next_of_none (h : u.session.Sound) (hblocking : u.session.scheduler.blocking = false)
    (htick : u.session.tick = .picking now ran) (hnext : u.session.scheduler.backlog.nextDue now none = none) :
    u.next ends = ⟨{ u.session with
      scheduler := { u.session.scheduler with ticking := false }
      tick := .ended (.ok ran) }, u.runs⟩ := by
  simp only [next, htick, h.proceed_of_none_of_not_blocking hblocking htick hnext]

theorem next_of_running (htick : u.session.tick = .running now ran id) :
    u.next ends = ⟨u.session.finish (ends u.runs).1 (ends u.runs).2, u.runs⟩ := by
  simp only [next, htick]

theorem next_of_error {trouble : Trouble} (htick : u.session.tick = .ended (.error trouble)) :
    u.next ends = ⟨u.session.enter, u.runs⟩ := by
  simp only [next, htick]

theorem next_of_ok {n : Nat} (htick : u.session.tick = .ended (.ok n)) : u.next ends = u := by
  simp only [next, htick]

end Steps

/-! ### How far it has got -/

/-- The first `k` of the runs that are due at `w`, with what they leave. -/
def served (w : Session) (now k : Nat) : Service := (Service.next now)^[k] ⟨[], w.scheduler.backlog⟩

theorem served_succ (w : Session) (now k : Nat) : served w now (k + 1) = (served w now k).next now :=
  Function.iterate_succ_apply' ..

inductive Phase (w : Session) (ends : Endings) (now : Nat) (u : Retry) : Prop where
  | entering (k : Nat) : u.session.tick = .entering → u.service = served w now k → Phase w ends now u
  | reading (k : Nat) : u.session.tick = .reading → u.service = served w now k → Phase w ends now u
  | picking (k ran : Nat) : u.session.tick = .picking now ran → u.service = served w now k → Phase w ends now u
  | running (k ran : Nat) (id : TaskId) : u.session.tick = .running now ran id →
      (served w now k).backlog.nextDue now none = some id →
      u.service = ⟨(served w now k).runs ++ [(id, ((served w now k).backlog.task id).runAt)],
        (served w now k).backlog.launch id⟩ →
      u.session.invoked.head? = some id → Phase w ends now u
  /-- Tick has failed because of the last run. -/
  | failed (k t : Nat) (id : TaskId) (panic : Panic) : (ends u.runs).2 = some panic →
      u.session.tick = .ended (.error (.error (.taskFailed (.ofPanic (ends u.runs).1 id panic)))) →
      u.service = served w now k → u.runs.getLast? = some (id, t) → u.session.invoked.head? = some id →
      Phase w ends now u
  | ended (k n : Nat) : u.session.tick = .ended (.ok n) → u.service = served w now k →
      (served w now k).IsOver now → Phase w ends now u

/-- What holds while tick is called over and over at the reading `now`. -/
structure Going (w : Session) (ends : Endings) (now : Nat) (u : Retry) : Prop where
  reachable : u.session.Reachable
  blocking_eq : u.session.scheduler.blocking = false
  now_eq : u.session.scheduler.clock.now.1 = now
  phase : Phase w ends now u
  /-- Without a panic there is one tick only. -/
  length_eq : (∀ runs, (ends runs).2 = none) → u.session.invoked.length = u.runs.length

theorem Going.start (h : w.Reachable) {result : Except Trouble Nat} (htick : w.tick = .ended result)
    (hblocking : w.scheduler.blocking = false) : Going w ends w.scheduler.clock.now.1 (start w) where
  reachable := h.step (.enter result htick)
  blocking_eq := hblocking
  now_eq := rfl
  phase := .entering 0 rfl rfl
  length_eq _ := rfl

theorem service_finish (h : Going w ends now u) (htick : u.session.tick = .running now ran id)
    (hnext : (served w now k).backlog.nextDue now none = some id)
    (hservice : u.service = ⟨(served w now k).runs ++ [(id, ((served w now k).backlog.task id).runAt)],
      (served w now k).backlog.launch id⟩) : (u.next ends).service = served w now (k + 1) := by
  have hbacklog := (h.reachable.sound.finish_eq htick (ends u.runs).1 (ends u.runs).2).1
  rw [h.now_eq] at hbacklog
  have hruns : u.runs = _ := congrArg Service.runs hservice
  have hback : u.session.scheduler.backlog = _ := congrArg Service.backlog hservice
  rw [next_of_running ends htick, served_succ, Service.next_of_some hnext, service, hbacklog, hback, hruns]

theorem Going.next (h : Going w ends now u) : Going w ends now (u.next ends) := by
  have hsound := h.reachable.sound
  cases h.phase with
  | entering k htick hk =>
    have hreachable := h.reachable.step (.proceed (by rw [htick]; rfl))
    rw [hsound.proceed_of_entering htick] at hreachable
    rw [next_of_entering ends hsound htick]
    exact ⟨hreachable, h.blocking_eq, h.now_eq, .reading k rfl hk, h.length_eq⟩
  | reading k htick hk =>
    have hreachable := h.reachable.step (.proceed (by rw [htick]; rfl))
    rw [Session.Sound.proceed_of_reading htick] at hreachable
    rw [next_of_reading ends htick]
    refine ⟨hreachable, h.blocking_eq, (Clock.now_now _).trans h.now_eq, .picking k 0 ?_ hk, h.length_eq⟩
    rw [h.now_eq]
  | picking k ran htick hk =>
    have hreachable := h.reachable.step (.proceed (by rw [htick]; rfl))
    have hback : u.session.scheduler.backlog = (served w now k).backlog := congrArg Service.backlog hk
    cases hnext : u.session.scheduler.backlog.nextDue now none with
    | some id =>
      rw [hsound.proceed_of_some htick hnext] at hreachable
      rw [next_of_some ends hsound htick hnext]
      refine ⟨hreachable, h.blocking_eq, h.now_eq, .running k ran id rfl (hback ▸ hnext) ?_ rfl, fun hcalm => ?_⟩
      · rw [← hk]
        rfl
      · rw [List.length_cons, List.length_append, h.length_eq hcalm]
        rfl
    | none =>
      rw [hsound.proceed_of_none_of_not_blocking h.blocking_eq htick hnext] at hreachable
      rw [next_of_none ends hsound h.blocking_eq htick hnext]
      exact ⟨hreachable, h.blocking_eq, h.now_eq, .ended k ran rfl hk (by rwa [Service.IsOver, ← hback]), h.length_eq⟩
  | running k ran id htick hnext hk hhead =>
    have hservice := service_finish h htick hnext hk
    have htick' := (hsound.finish_eq htick (ends u.runs).1 (ends u.runs).2).2
    have hlast : u.runs.getLast? = some (id, ((served w now k).backlog.task id).runAt) := by
      have hruns : u.runs = _ := congrArg Service.runs hk
      rw [hruns, List.getLast?_concat]
    rw [next_of_running ends htick] at hservice ⊢
    refine ⟨h.reachable.step (.finish _ _), ?_, ?_, ?_, ?_⟩
    · rw [Session.blocking_finish]
      exact h.blocking_eq
    · rw [Session.clock_finish htick, Clock.now_now]
      exact h.now_eq
    · cases hpanic : (ends u.runs).2 with
      | none =>
        rw [hpanic] at htick' hservice
        exact .picking (k + 1) (ran + 1) htick' hservice
      | some panic =>
        have hhead' := Session.invoked_finish u.session (ends u.runs).1 (some panic) ▸ hhead
        rw [hpanic] at htick' hservice
        exact .failed (k + 1) _ id panic hpanic htick' hservice hlast hhead'
    · rw [Session.invoked_finish]
      exact h.length_eq
  | failed k t id panic hpanic htick hk hlast hhead =>
    rw [next_of_error ends htick]
    exact ⟨h.reachable.step (.enter _ htick), h.blocking_eq, h.now_eq, .entering k rfl hk,
      fun hcalm => by rw [hcalm] at hpanic; cases hpanic⟩
  | ended k n htick hk hover =>
    rw [next_of_ok ends htick]
    exact h

theorem Going.iterate (h : Going w ends now u) (m : Nat) : Going w ends now ((Retry.next ends)^[m] u) := by
  induction m with
  | zero => exact h
  | succ m ih =>
    rw [Function.iterate_succ_apply']
    exact ih.next

/-! ### The end -/

/-- Whether tick ends well at last. -/
def EndsWell (ends : Endings) (u : Retry) : Prop := ∃ m n, ((next ends)^[m] u).session.tick = .ended (.ok n)

/-- It is enough that the rest comes to its end. -/
theorem EndsWell.of_next (h : (u.next ends).EndsWell ends) : u.EndsWell ends := by
  obtain ⟨m, n, hm⟩ := h
  exact ⟨m + 1, n, by rwa [Function.iterate_succ_apply]⟩

/-- A tick that has been called comes to pick. -/
theorem Going.next_next_of_entering (h : Going w ends now u) (htick : u.session.tick = .entering) :
    ((u.next ends).next ends).session.tick = .picking now 0 ∧ ((u.next ends).next ends).service = u.service := by
  have hentered := next_of_entering ends h.reachable.sound htick
  have hreading : (u.next ends).session.tick = .reading := by rw [hentered]
  rw [next_of_reading ends hreading, h.next.now_eq, hentered]
  exact ⟨rfl, rfl⟩

/-- A task that is due is run, and then the tick picks again or fails. -/
theorem Going.next_next_of_some (h : Going w ends now u) (htick : u.session.tick = .picking now ran)
    (hk : u.service = served w now k) (hnext : (served w now k).backlog.nextDue now none = some id) :
    ((u.next ends).next ends).service = served w now (k + 1) ∧
      (((u.next ends).next ends).session.tick = .picking now (ran + 1) ∨
        ∃ trouble, ((u.next ends).next ends).session.tick = .ended (.error trouble)) := by
  have hback : u.session.scheduler.backlog = (served w now k).backlog := congrArg Service.backlog hk
  have hstarted := next_of_some ends h.reachable.sound htick (hback ▸ hnext)
  have hrunning : (u.next ends).session.tick = .running now ran id := by rw [hstarted]
  have hservice : (u.next ends).service = ⟨(served w now k).runs ++ [(id, ((served w now k).backlog.task id).runAt)],
      (served w now k).backlog.launch id⟩ := by
    rw [hstarted, ← hk]
    rfl
  refine ⟨service_finish h.next hrunning hnext hservice, ?_⟩
  have htick' := (h.next.reachable.sound.finish_eq hrunning (ends (u.next ends).runs).1 (ends (u.next ends).runs).2).2
  rw [next_of_running ends hrunning, htick']
  cases (ends (u.next ends).runs).2 with
  | none => exact .inl rfl
  | some panic => exact .inr ⟨_, rfl⟩

/-- A tick that picks, `d` runs before nothing is due any more. -/
theorem Going.ends_of_picking (h : Going w ends now u) {d : Nat} (hover : (served w now (k + d)).IsOver now)
    (htick : u.session.tick = .picking now ran) (hk : u.service = served w now k) : u.EndsWell ends := by
  have hback : u.session.scheduler.backlog = (served w now k).backlog := congrArg Service.backlog hk
  induction d generalizing u k ran with
  | zero =>
    have hended := next_of_none ends h.reachable.sound h.blocking_eq htick (hback ▸ hover)
    exact ⟨1, ran, by rw [Function.iterate_one, hended]⟩
  | succ d ih =>
    rw [← Nat.add_assoc, Nat.add_right_comm] at hover
    cases hnext : (served w now k).backlog.nextDue now none with
    | none =>
      have hended := next_of_none ends h.reachable.sound h.blocking_eq htick (hback ▸ hnext)
      exact ⟨1, ran, by rw [Function.iterate_one, hended]⟩
    | some id =>
      obtain ⟨hservice, hpicking | ⟨trouble, hfailed⟩⟩ := h.next_next_of_some htick hk hnext
      · exact (ih h.next.next hover hpicking hservice (congrArg Service.backlog hservice)).of_next.of_next
      · -- tick is called again, and picks up where it was broken off
        have hagain := next_of_error ends hfailed
        have hentering : (((u.next ends).next ends).next ends).session.tick = .entering := by rw [hagain]; rfl
        have hsame : (((u.next ends).next ends).next ends).service = served w now (k + 1) := by
          rw [hagain, ← hservice]
          rfl
        obtain ⟨hpicking, hservice'⟩ := h.next.next.next.next_next_of_entering hentering
        rw [hsame] at hservice'
        exact (ih h.next.next.next.next.next hover hpicking hservice'
          (congrArg Service.backlog hservice')).of_next.of_next.of_next.of_next.of_next

/-- Where tick has ended well, nothing is due. -/
theorem Going.exists_served_of_ok (h : Going w ends now u) {n : Nat} (htick : u.session.tick = .ended (.ok n)) :
    ∃ k, u.service = served w now k ∧ (served w now k).IsOver now := by
  cases h.phase with
  | ended k n _ hk hover => exact ⟨k, hk, hover⟩
  | entering k h' | reading k h' | picking k ran h' | running k ran id h' => rw [htick] at h'; cases h'
  | failed k t id panic _ h' => rw [htick] at h'; cases h'

/-- No action panics. -/
def calm : Endings := fun _ => (none, none)

/-- Tick has failed at `u`, on the way to what `v` has run. -/
structure BreaksOff (w : Session) (ends : Endings) (v u : Retry) (trouble : Trouble) : Prop where
  /-- The trouble names the last task that this tick has run. -/
  exists_last : ∃ id t panic, u.runs.getLast? = some (id, t) ∧ u.session.invoked.head? = some id ∧
    (ends u.runs).2 = some panic ∧ trouble = .error (.taskFailed (.ofPanic (ends u.runs).1 id panic))
  isPrefix : u.runs <+: v.runs
  spares : u.service.Spares w.scheduler.backlog

theorem Going.breaksOff (h : Going w ends now u) (hw : (⟨[], w.scheduler.backlog⟩ : Service).Sound) {m : Nat}
    {v : Retry} (hv : v.service = served w now m) (hover : (served w now m).IsOver now) {trouble : Trouble}
    (htick : u.session.tick = .ended (.error trouble)) : BreaksOff w ends v u trouble := by
  cases h.phase with
  | failed k t id panic hpanic hfailed hk hlast hhead =>
    rw [htick] at hfailed
    refine ⟨⟨id, t, panic, hlast, hhead, hpanic, by cases hfailed; rfl⟩, ?_, ?_⟩
    · have hprefix := Service.runs_isPrefix_iterate now m (served w now k)
      have hruns : v.runs = _ := congrArg Service.runs hv
      have hruns' : u.runs = _ := congrArg Service.runs hk
      rwa [served, Service.eq_iterate_of_isOver hover, ← served, ← served, ← hruns, ← hruns'] at hprefix
    · rw [hk]
      exact (Service.Spares.refl _).iterate hw now k
  | entering k h' | reading k h' | picking k ran h' | running k ran id h' | ended k n h' => rw [htick] at h'; cases h'

end Retry

namespace Session

open Retry

variable {w : Session}

/-- When tick is called on a scheduler that does not block, again and again at one reading of the clock until it ends
well, then it does end well, whichever actions panic, and by then the same runs have been made in the same order, with
the same effect, as by a single tick without panics.  Each failure on the way names the task that has been run last, and
has left alone those that have not been run. -/
theorem Reachable.resumes (h : w.Reachable) {result : Except Trouble Nat} (htick : w.tick = .ended result)
    (hblocking : w.scheduler.blocking = false) (hnow : w.scheduler.clock.now.1 < Time.limit) :
    ∃ m, (after w calm m).session.tick = .ended (.ok (after w calm m).runs.length) ∧ ∀ ends : Endings,
      (∃ k n, (after w ends k).session.tick = .ended (.ok n)) ∧ ∀ k,
        (∀ n, (after w ends k).session.tick = .ended (.ok n) → (after w ends k).service = (after w calm m).service) ∧
        ∀ trouble, (after w ends k).session.tick = .ended (.error trouble) →
          BreaksOff w ends (after w calm m) (after w ends k) trouble := by
  have hw : (⟨[], w.scheduler.backlog⟩ : Service).Sound := ⟨h.sound.accounted.tidy, h.isValid_kind⟩
  obtain ⟨d, hd⟩ := Service.exists_isOver hw hnow
  have hgoing (ends : Endings) : Going w ends w.scheduler.clock.now.1 (Retry.start w) := .start h htick hblocking
  have hends (ends : Endings) : (Retry.start w).EndsWell ends := by
    obtain ⟨hpicking, hservice⟩ := (hgoing ends).next_next_of_entering rfl
    have hover : (served w w.scheduler.clock.now.1 (0 + d)).IsOver w.scheduler.clock.now.1 := by rwa [Nat.zero_add]
    exact ((hgoing ends).next.next.ends_of_picking hover hpicking hservice).of_next.of_next
  obtain ⟨m, n, hm⟩ := hends calm
  have hcalm := (hgoing calm).iterate m
  obtain ⟨k, hk, hover⟩ := hcalm.exists_served_of_ok hm
  have hn : n = (after w calm m).runs.length := by
    have hfits := hcalm.reachable.sound.fits
    rw [hm] at hfits
    exact hfits.symm.trans (hcalm.length_eq fun _ => rfl)
  refine ⟨m, hn ▸ hm, fun ends => ⟨hends ends, fun i => ⟨fun n' hi => ?_, fun trouble hi => ?_⟩⟩⟩
  · obtain ⟨j, hj, hover'⟩ := ((hgoing ends).iterate i).exists_served_of_ok hi
    -- from where the ticks with panics have come to, the other one would get to its end, which is here
    have hsame : (Service.next w.scheduler.clock.now.1)^[k] (served w w.scheduler.clock.now.1 j) = _ :=
      Service.eq_iterate_of_isOver hover j
    rw [Function.iterate_fixed hover'.next_eq] at hsame
    exact hj.trans (hsame.trans hk.symm)
  · exact ((hgoing ends).iterate i).breaksOff hw hk hover hi

/-- At 25, a task at a fixed rate is three runs behind, next to one with a fixed delay and one that runs once. -/
private def overdue : Session :=
  ((((Session.start false (.start (.manual 0)) .high).call
    (.submit ⟨.zero, .recurring (.ofMillis 10) .fixedRate, none, none⟩)).call
    (.submit ⟨.zero, .recurring (.ofMillis 10) .fixedDelay, none, none⟩)).call
    (.submit ⟨.ofMillis 5, .oneTime, none, none⟩)).call
    (.advance (.ofMillis 25))

private theorem reachable_overdue : overdue.Reachable := by
  have hstart := Reachable.start false (.start (.manual 0)) .high
  have hrate := hstart.step (.call (.submit ⟨.zero, .recurring (.ofMillis 10) .fixedRate, none, none⟩) rfl)
  have hdelay := hrate.step (.call (.submit ⟨.zero, .recurring (.ofMillis 10) .fixedDelay, none, none⟩) rfl)
  have honce := hdelay.step (.call (.submit ⟨.ofMillis 5, .oneTime, none, none⟩) rfl)
  exact honce.step (.call (.advance (.ofMillis 25)) rfl)

/-- Every other run panics. -/
private def restless : Endings := fun runs => (none, if runs.length % 2 = 0 then some .other else none)

/-- Three ticks, of which two fail, do what one tick with five runs does. -/
theorem resumes_overdue :
    overdue.Reachable ∧ (after overdue calm 13).session.tick = .ended (.ok 5) ∧
    (∃ trouble, (after overdue restless 6).session.tick = .ended (.error trouble)) ∧
    (∃ trouble, (after overdue restless 13).session.tick = .ended (.error trouble)) ∧
    (after overdue restless 19).session.tick = .ended (.ok 1) ∧
    (after overdue restless 19).service = (after overdue calm 13).service := by
  obtain ⟨m, -, hall⟩ := reachable_overdue.resumes (by cbv) (by cbv) (by cbv)
  have hcalm : (after overdue calm 13).session.tick = .ended (.ok 5) := by cbv
  have hrestless : (after overdue restless 19).session.tick = .ended (.ok 1) := by cbv
  exact ⟨reachable_overdue, hcalm, ⟨_, by cbv⟩, ⟨_, by cbv⟩, hrestless,
    (((hall restless).2 19).1 1 hrestless).trans (((hall calm).2 13).1 5 hcalm).symm⟩

end Session

end TaskScheduling
