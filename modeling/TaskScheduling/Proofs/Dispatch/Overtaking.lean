import Mathlib
import TaskScheduling.Proofs.Dispatch.Parking

/-!
# Low work that goes ahead of high work

A due low task is picked ahead of a due high one if that became due more than the threshold later.  The same threshold
decides when low work may add a worker, and it is over by then, so that the pool treats the low task as it would have
treated the high one: the dispatcher never sits out the wait of a low task while it could have served a high one.

* `Backlog.threshold_lt_of_nextDue`: what goes ahead of the candidate of the high set has waited longer than allowed.
* `Pool.acquire_low_eq_high`: once that wait is over, low work gets what high work gets.
* `Dispatcher.acquire_of_overtaking`: both together, and what follows for the dispatcher.
-/

namespace TaskScheduling

variable {b : Backlog} {l h : TaskId} {now wait : Nat}

theorem Backlog.threshold_lt_of_nextDue (hnext : b.nextDue now (some wait) = some l)
    (hpeek : b.high.peekDue b.tasks now = some h) (hne : l ≠ h) :
    Time.plus (b.task l).runAt wait < (b.task h).runAt := by
  unfold nextDue at hnext
  rw [hpeek] at hnext
  cases hl : b.low.peekDue b.tasks now with
  | none =>
    rw [hl] at hnext
    exact absurd (Option.some.inj hnext).symm hne
  | some candidate =>
    simp only [hl] at hnext
    split at hnext
    · next hlt =>
      obtain rfl := Option.some.inj hnext
      exact hlt
    · exact absurd (Option.some.inj hnext).symm hne

namespace Pool

variable {p : Pool} {lowSince highSince : Nat}

theorem growth_low_eq_high (hwaited : Time.plus lowSince wait ≤ now) :
    p.growth .low lowSince now wait = p.growth .high highSince now wait := by
  have hover : ¬now < Time.plus lowSince wait := Nat.not_lt.2 hwaited
  simp only [growth, if_neg hover]

/-- Low work that has waited long enough is given what high work would be given, and leaves the same pool. -/
theorem acquire_low_eq_high (hwaited : Time.plus lowSince wait ≤ now) :
    p.acquire .low lowSince now wait = p.acquire .high highSince now wait := by
  have hgrowth : p.growth .low lowSince now wait = p.growth .high highSince now wait := growth_low_eq_high hwaited
  unfold acquire
  rw [hgrowth]

theorem acquire_high_ne_waitUntil (deadline : Nat) :
    (p.acquire .high highSince now wait).2 ≠ .waitUntil deadline := by
  intro hanswer
  obtain ⟨-, -, -, hlow, -⟩ := acquire_eq_waitUntil_iff.1 hanswer
  cases hlow

end Pool

namespace Dispatcher

variable {s : PooledScheduler} {id : TaskId}

private theorem advance_one_ne_parked {x : PooledScheduler × Dispatcher} (hnow : ∀ until? reason, x.2 ≠ parked until? reason)
    (hnext : ∀ until? reason, (x.2.step x.1).2 ≠ parked until? reason) (s' : PooledScheduler) (until? : Option Nat)
    (reason : ParkReason) : advance 1 x ≠ (s', parked until? reason) := by
  have hstep : advance 1 x = x.2.step x.1 := by
    obtain ⟨r, d⟩ := x
    rw [advance]
    · rfl
    · exact fun _ _ => hnow _ _
  rw [hstep]
  exact fun hparked => hnext until? reason (congrArg Prod.snd hparked)

/-- A dispatcher that is offered a worker or a place for what it has picked does not park. -/
theorem advance_ne_parked (hnext : s.backlog.nextDue s.clock.accurate.1 (some s.lowWait) = some id)
    (hoffers : s.pool.Offers (s.backlog.task id).priority (s.backlog.task id).runAt s.clock.accurate.1 s.lowWait)
    (s' : PooledScheduler) (until? : Option Nat) (reason : ParkReason) :
    advance 3 (s, picking) ≠ (s', parked until? reason) := by
  have hpicking : picking.step s = (looked s, acquiring id s.clock.accurate.1 s.lowWait) := by
    simp only [step, hnext]
    rfl
  have htwo : advance 3 (s, picking) = advance 1 ((acquiring id s.clock.accurate.1 s.lowWait).step (looked s)) := by
    rw [advance, hpicking]
    · rfl
    · simp
  rw [htwo]
  rcases hoffers with ⟨worker, hidle⟩ | hgrow
  · have hacquiring : ((acquiring id s.clock.accurate.1 s.lowWait).step (looked s)).2 = unlinking id worker := by
      simp only [step, looked, hidle]
    apply advance_one_ne_parked <;> rw [hacquiring] <;> intro _ _
    · simp
    · simp only [step]
      split <;> simp
  · have hacquiring : ((acquiring id s.clock.accurate.1 s.lowWait).step (looked s)).2 = registering id := by
      simp only [step, looked, hgrow]
    apply advance_one_ne_parked <;> rw [hacquiring] <;> intro _ _
    · simp
    · simp [step]

/-- When a low task is picked although high work is due, the pool answers as it would have answered for that high work
and is left the same; it never makes the low task wait for a time, and a dispatcher that would have been offered a
worker or a place for the high work does not park. -/
theorem acquire_of_overtaking (hnext : b.nextDue now (some wait) = some l) (hlow : (b.task l).priority = .low)
    (hpeek : b.high.peekDue b.tasks now = some h) (hhigh : (b.task h).priority = .high)
    (hdue : (b.task h).runAt ≤ now) (p : Pool) :
    p.acquire (b.task l).priority (b.task l).runAt now wait =
      p.acquire (b.task h).priority (b.task h).runAt now wait ∧
    (∀ deadline, (p.acquire (b.task l).priority (b.task l).runAt now wait).2 ≠ .waitUntil deadline) ∧
    ∀ s : PooledScheduler, s.backlog = b → s.pool = p → s.lowWait = wait → s.clock.accurate.1 = now →
      p.Offers (b.task h).priority (b.task h).runAt now wait →
      ∀ s' until? reason, advance 3 (s, picking) ≠ (s', parked until? reason) := by
  have hne : l ≠ h := by
    rintro rfl
    rw [hlow] at hhigh
    cases hhigh
  have hwaited : Time.plus (b.task l).runAt wait ≤ now :=
    ((Backlog.threshold_lt_of_nextDue hnext hpeek hne).trans_le hdue).le
  have hsame : p.acquire (b.task l).priority (b.task l).runAt now wait =
      p.acquire (b.task h).priority (b.task h).runAt now wait := by
    rw [hlow, hhigh]
    exact Pool.acquire_low_eq_high hwaited
  refine ⟨hsame, fun deadline => ?_, ?_⟩
  · rw [hsame, hhigh]
    exact Pool.acquire_high_ne_waitUntil deadline
  · rintro s rfl rfl rfl rfl hoffers
    refine advance_ne_parked hnext ?_
    unfold Pool.Offers at hoffers ⊢
    rwa [hsame]

/-- A low task that has been due since 0, and a high one that becomes due at 10. -/
private def aged : Backlog :=
  (Backlog.empty.enlist 0 ⟨.zero, .oneTime, some .low, none⟩ .high).enlist 2 ⟨.ofMillis 8, .oneTime, none, none⟩ .high

/-- A pool of two with one busy worker. -/
private def halfBusy : Pool := ((Pool.start 2 .zero).acquire .high 0 0 0).1.register.1

/-- With a threshold of 9 the low task goes ahead at 10, and is promised the place that the high one would get. -/
theorem acquire_of_overtaking_aged :
    aged.nextDue 10 (some 9) = some ⟨0⟩ ∧ aged.high.peekDue aged.tasks 10 = some ⟨1⟩ ∧
    (aged.task ⟨0⟩).priority = .low ∧ (aged.task ⟨1⟩).priority = .high ∧ (aged.task ⟨1⟩).runAt = 10 ∧
    (halfBusy.acquire .low (aged.task ⟨0⟩).runAt 10 9).2 = .grow ∧
    (halfBusy.acquire .low (aged.task ⟨0⟩).runAt 8 9).2 = .waitUntil 9 ∧
    halfBusy.acquire (aged.task ⟨0⟩).priority (aged.task ⟨0⟩).runAt 10 9 =
      halfBusy.acquire (aged.task ⟨1⟩).priority (aged.task ⟨1⟩).runAt 10 9 := by
  have hnext : aged.nextDue 10 (some 9) = some ⟨0⟩ := by cbv
  have hpeek : aged.high.peekDue aged.tasks 10 = some ⟨1⟩ := by cbv
  have hlow : (aged.task ⟨0⟩).priority = .low := by cbv
  have hhigh : (aged.task ⟨1⟩).priority = .high := by cbv
  have hrun : (aged.task ⟨1⟩).runAt = 10 := by cbv
  exact ⟨hnext, hpeek, hlow, hhigh, hrun, by cbv, by cbv,
    (acquire_of_overtaking hnext hlow hpeek hhigh hrun.le halfBusy).1⟩

end Dispatcher

end TaskScheduling
