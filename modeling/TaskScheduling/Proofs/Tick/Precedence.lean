import Mathlib
import TaskScheduling.Proofs.Tick.Session

/-!
# The order in which a tick runs tasks

A tick uses one reading of the time, and at each moment runs the first of the tasks that are eligible at it, in the
order of `Backlog.dispatchKey`; when it ends well, no such task is left.  That the head of a ready queue is the first
of its queue by run time depends on the clock: everything ready had its time when it was queued, and what the clock
remembers never decreases.
-/

namespace TaskScheduling.Session

variable {w w' : Session}

/-- The end of an action leads to the choice of the next task, or breaks the tick off. -/
private theorem tick_finish (w : Session) (thread : Option String) (outcome : Option Panic) :
    (w.finish thread outcome).tick = w.tick ∨ (∃ now ran, (w.finish thread outcome).tick = .picking now ran) ∨
      ∃ trouble, (w.finish thread outcome).tick = .ended (.error trouble) := by
  cases htick : w.tick with
  | running now ran id =>
    simp only [finish, htick, Tick.finish]
    cases (w.scheduler.backlog.complete id w.scheduler.clock.now.1).2 with
    | error fault => exact .inr (.inr ⟨_, rfl⟩)
    | ok requeued =>
      cases outcome with
      | some panic => exact .inr (.inr ⟨_, rfl⟩)
      | none => exact .inr (.inl ⟨_, _, rfl⟩)
  | _ =>
    left
    simp only [finish, htick]

private theorem tick_wake (w : Session) : w.wake.tick = w.tick ∨ ∃ waiting, w.wake.tick = .waiting waiting := by
  cases htick : w.tick with
  | waiting waiting =>
    right
    simp only [wake, htick]
    exact ⟨_, rfl⟩
  | _ =>
    left
    simp only [wake, htick]

/-- Only a step of the tick itself starts a task, or ends the tick with a number. -/
theorem Sound.proceed_of_tick_ne (h : w.Sound) (hstep : w.Step w') (hne : w'.tick ≠ w.tick)
    (hafter : (∃ now ran id, w'.tick = .running now ran id) ∨ ∃ n, w'.tick = .ended (.ok n)) :
    w.tick.isOpen = false ∧ w' = w.proceed := by
  cases hstep with
  | call c _ => exact absurd (tick_call w c) hne
  | pass t => exact absurd rfl hne
  | enter result _ => rcases hafter with ⟨_, _, _, heq⟩ | ⟨_, heq⟩ <;> cases heq
  | nested now ran id htick => rw [h.nested htick] at hne; exact absurd rfl hne
  | proceed hopen => exact ⟨hopen, rfl⟩
  | finish thread outcome =>
    rcases tick_finish w thread outcome with heq | ⟨_, _, heq⟩ | ⟨_, heq⟩
    · exact absurd heq hne
    · rw [heq] at hafter
      rcases hafter with ⟨_, _, _, hafter⟩ | ⟨_, hafter⟩ <;> cases hafter
    · rw [heq] at hafter
      rcases hafter with ⟨_, _, _, hafter⟩ | ⟨_, hafter⟩ <;> cases hafter
  | wake =>
    rcases tick_wake w with heq | ⟨_, heq⟩
    · exact absurd heq hne
    · rw [heq] at hafter
      rcases hafter with ⟨_, _, _, hafter⟩ | ⟨_, hafter⟩ <;> cases hafter

/-- A task is started by a step of the tick that finds it due. -/
theorem Sound.nextDue_of_running (h : w.Sound) (hstep : w.Step w') {now ran : Nat} {id : TaskId}
    (hafter : w'.tick = .running now ran id) (hbefore : w.tick ≠ .running now ran id) :
    w.tick = .picking now ran ∧ w.scheduler.backlog.nextDue now none = some id := by
  obtain ⟨hopen, rfl⟩ := h.proceed_of_tick_ne hstep (hafter ▸ hbefore.symm) (.inl ⟨_, _, _, hafter⟩)
  rcases h.proceed_cases hopen with ⟨now', ran', id', htick, hnext, hw⟩ | ⟨now', ran', -, -, hw⟩ | ⟨s, t, hidle, hw⟩ <;>
    rw [hw] at hafter
  · cases hafter
    exact ⟨htick, hnext⟩
  · cases hafter
  · exact absurd hafter (hidle.ne_running _ _ _)

/-- A tick ends with a number when it finds nothing due. -/
private theorem Sound.nextDue_of_ended (h : w.Sound) (hstep : w.Step w') {n : Nat} (hafter : w'.tick = .ended (.ok n))
    (hbefore : w.tick ≠ .ended (.ok n)) :
    ∃ now, w.tick = .picking now n ∧ w'.scheduler.backlog = w.scheduler.backlog ∧
      w.scheduler.backlog.nextDue now none = none := by
  obtain ⟨hopen, rfl⟩ := h.proceed_of_tick_ne hstep (hafter ▸ hbefore.symm) (.inr ⟨_, hafter⟩)
  rcases h.proceed_cases hopen with ⟨_, _, _, -, -, hw⟩ | ⟨now, ran, htick, hnext, hw⟩ | ⟨s, t, hidle, hw⟩
  · rw [hw] at hafter
    cases hafter
  · rw [hw] at hafter ⊢
    cases hafter
    exact ⟨now, htick, rfl, hnext⟩
  · rw [hw] at hafter
    exact absurd hafter (hidle.ne_ok _)

/-- A tick with the snapshot `now` starts no task but the first eligible one, and returns the number of the tasks that
it has run when none is eligible any more. -/
theorem Reachable.precedence (h : w.Reachable) :
    (∀ w' now ran id, w.Step w' → w'.tick = .running now ran id → w.tick ≠ .running now ran id →
      w.tick = .picking now ran ∧ w.scheduler.backlog.Eligible now id ∧
        ∀ j, w.scheduler.backlog.Eligible now j → j ≠ id →
          w.scheduler.backlog.dispatchKey w.insertions id < w.scheduler.backlog.dispatchKey w.insertions j) ∧
    (∀ w' n, w.Step w' → w'.tick = .ended (.ok n) → w.tick ≠ .ended (.ok n) →
      ∃ now, w.tick = .picking now n ∧ (∀ id, ¬w'.scheduler.backlog.Eligible now id) ∧ n = w'.invoked.length) ∧
    ∀ p, ((w.scheduler.backlog.queue ⟨p, .ready⟩).Pairwise fun x y =>
        (w.scheduler.backlog.task x).runAt ≤ (w.scheduler.backlog.task y).runAt) ∧
      ∀ id ∈ w.scheduler.backlog.queue ⟨p, .ready⟩,
        (w.scheduler.backlog.task id).runAt ≤ w.scheduler.clock.cached := by
  have hsound := h.sound
  have hkept := hsound.accounted.tidy.toKept
  refine ⟨?_, ?_, ?_⟩
  · intro w' now ran id hstep hafter hbefore
    obtain ⟨htick, hnext⟩ := hsound.nextDue_of_running hstep hafter hbefore
    exact ⟨htick, Backlog.eligible_of_nextDue hkept hnext, fun j hj hne =>
      Backlog.dispatchKey_lt_of_nextDue hkept hsound.accounted.inTurn hnext hj hne⟩
  · intro w' n hstep hafter hbefore
    obtain ⟨now, htick, hbacklog, hnext⟩ := hsound.nextDue_of_ended hstep hafter hbefore
    have hfits := (hsound.step hstep).fits
    rw [hafter] at hfits
    refine ⟨now, htick, ?_, hfits.symm⟩
    rw [hbacklog]
    exact (Backlog.nextDue_eq_none_iff hkept none).1 hnext
  · intro p
    refine ⟨(hsound.accounted.inTurn.ready p).imp fun hxy => hxy.1, fun id hid => ?_⟩
    have hle := hsound.accounted.runAt_le p id hid
    omega

/-- A tick at which a low task, a delayed one and a recurring one are due, in the order of their submission. -/
private def threeDue : Session :=
  ((((start false (.start (.manual 0)) .high).call (.submit ⟨.zero, .oneTime, some .low, none⟩)).call
    (.submit ⟨.ofMillis 5, .oneTime, none, none⟩)).call
    (.submit ⟨.zero, .recurring (.ofMillis 10) .fixedRate, none, none⟩)).call
    (.advance (.ofMillis 5)) |>.enter.proceed.proceed

private theorem reachable_threeDue : threeDue.Reachable := by
  have hstart := Reachable.start false (.start (.manual 0)) .high
  have hlow := hstart.step (.call (.submit ⟨.zero, .oneTime, some .low, none⟩) rfl)
  have hdelayed := hlow.step (.call (.submit ⟨.ofMillis 5, .oneTime, none, none⟩) rfl)
  have hrecurring := hdelayed.step (.call (.submit ⟨.zero, .recurring (.ofMillis 10) .fixedRate, none, none⟩) rfl)
  have hlater := hrecurring.step (.call (.advance (.ofMillis 5)) rfl)
  exact ((hlater.step (.enter (.ok 0) rfl)).step (.proceed rfl)).step (.proceed rfl)

/-- The recurring task is started first, which was submitted last. -/
theorem precedence_threeDue : threeDue.Reachable ∧ threeDue.tick = .picking 5 0 ∧
    threeDue.scheduler.backlog.Eligible 5 ⟨2⟩ ∧
      ∀ j, threeDue.scheduler.backlog.Eligible 5 j → j ≠ ⟨2⟩ →
        threeDue.scheduler.backlog.dispatchKey threeDue.insertions ⟨2⟩ <
          threeDue.scheduler.backlog.dispatchKey threeDue.insertions j := by
  have htick : threeDue.tick = .picking 5 0 := by cbv
  have hstarted := reachable_threeDue.precedence.1 threeDue.proceed 5 0 ⟨2⟩ (.proceed rfl) (by cbv) (by simp [htick])
  exact ⟨reachable_threeDue, hstarted⟩

end TaskScheduling.Session
