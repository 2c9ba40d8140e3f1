import Mathlib
import TaskScheduling.Proofs.Tick.Precedence
import TaskScheduling.Proofs.Tick.Undisturbed

/-!
# What a pass starts

A pass begins when a tick takes its snapshot and lasts as long as the tick uses it (`Session.Pass`).  Whatever waits in
a future queue is compared with the snapshot, and what waits in a ready queue is not: a task without a delay that was
submitted before had its time then (`Reachable.runAt_le_cached`), but one that an action submits after the source of
time has moved on is started by the same pass, although it was not due at the snapshot.

* `Backlog.runAt_le_of_popDue`: what is taken out is due, or the head of a ready queue.
* `Reachable.runAt_le_snapshot`: what a pass starts was due at its snapshot, or has been submitted since without a delay.
-/

namespace TaskScheduling

namespace Backlog

/-- Whatever the queues hold, only the head of a ready queue is taken out before its time. -/
theorem runAt_le_of_popDue {b c : Backlog} {now : Nat} {id : TaskId} (hpop : b.popDue now = some (id, c)) :
    (b.task id).runAt ≤ now ∨ ∃ p, (b.queueSet p).ready.head? = some id := by
  rw [popDue_eq] at hpop
  obtain ⟨p, -, hset⟩ := List.exists_of_findSome?_eq_some hpop
  obtain ⟨⟨j, s, tasks⟩, hset, heq⟩ := Option.map_eq_some_iff.1 hset
  obtain rfl : j = id := congrArg Prod.fst heq
  have hpeek : (b.queueSet p).peekDue b.tasks now = some j := by
    unfold QueueSet.popDue at hset
    split at hset
    · cases hset
    · next x hx =>
      split at hset
      · obtain rfl : x = j := congrArg Prod.fst (Option.some.inj hset)
        exact hx
      · cases hset
  unfold QueueSet.peekDue at hpeek
  split at hpeek
  · next r f hr hf =>
    split at hpeek
    · cases hpeek
      exact .inl (QueueSet.dueHead_mem hf).2
    · cases hpeek
      exact .inr ⟨p, hr⟩
  · next r hr _ =>
    cases hpeek
    exact .inr ⟨p, hr⟩
  · exact .inl (QueueSet.dueHead_mem hpeek).2

/-- A task without a delay is due when it is submitted. -/
theorem runAt_enlist_le {b : Backlog} {now : Nat} {r : Request} {defaultPriority : Priority}
    (himmediate : ((b.enlist now r defaultPriority).task ⟨b.nextId⟩).immediate = true) :
    ((b.enlist now r defaultPriority).task ⟨b.nextId⟩).runAt ≤ now := by
  rw [Accounted.task_enlist, if_pos rfl] at himmediate ⊢
  have hrun : (r.task defaultPriority ⟨b.nextId⟩ now).runAt = min now Time.limit := Request.runAt_task himmediate
  exact hrun.trans_le (Nat.min_le_left _ _)

end Backlog

namespace Session

variable {w u v : Session} {now ran : Nat} {id : TaskId}

/-! ### Tasks without a delay -/

theorem Sound.identity_step (h : w.Sound) (hstep : w.Step u) (hid : id.index < w.scheduler.backlog.nextId) :
    (u.scheduler.backlog.task id).identity = (w.scheduler.backlog.task id).identity := by
  have hu := h.step hstep
  obtain ⟨r, hr, hident⟩ := h.accounted.exists_request hid
  have hdefault : u.scheduler.defaultPriority = w.scheduler.defaultPriority := by
    cases hstep with
    | call c _ => exact defaultPriority_call w c
    | pass t => rfl
    | enter _ _ => rfl
    | nested now ran id htick => rw [h.nested htick]
    | proceed hopen =>
      rcases h.proceed_cases hopen with ⟨_, _, _, -, -, hw⟩ | ⟨_, _, -, -, hw⟩ | ⟨_, _, hidle, hw⟩ <;> rw [hw]
      exact hidle.defaultPriority_eq
    | finish thread outcome => exact defaultPriority_finish w thread outcome
    | wake =>
      unfold Session.wake
      split
      · next waiting _ => cases waiting <;> rfl
      · rfl
  have hkept : u.requests[id.index]? = some r := by
    rcases hstep.requests_cases with hrequests | ⟨q, -, -, -, hrequests⟩ <;> rw [hrequests]
    · exact hr
    · rw [List.getElem?_append_left (List.getElem?_eq_some_iff.1 hr).1]
      exact hr
  rw [hu.accounted.identity_eq id r hkept, hident, hdefault]

/-- A task that runs once keeps its run time. -/
theorem Sound.runAt_step (h : w.Sound) (hstep : w.Step u) (hid : id.index < w.scheduler.backlog.nextId)
    (honce : (w.scheduler.backlog.task id).isRecurring = false) :
    (u.scheduler.backlog.task id).runAt = (w.scheduler.backlog.task id).runAt := by
  rcases hstep.deals h hid with ⟨hagenda, -⟩ | ⟨-, -, hagenda⟩ | ⟨-, -, hagenda⟩ <;>
    simp only [Task.agenda, Prod.mk.injEq] at hagenda
  · exact hagenda.2.1
  · exact hagenda.2.1
  · rw [hagenda.2.1, Task.nextRunAt]
    cases hkind : (w.scheduler.backlog.task id).kind with
    | oneTime => rfl
    | recurring period mode => simp [Task.isRecurring, TaskKind.isRecurring, hkind] at honce

theorem Sound.cached_step (h : w.Sound) (hstep : w.Step u) : w.scheduler.clock.cached ≤ u.scheduler.clock.cached := by
  cases hstep with
  | call c _ => exact cached_le_cached_call w c
  | pass t => exact Nat.le_refl _
  | enter _ _ => exact Nat.le_refl _
  | nested now ran id htick => rw [h.nested htick]
  | proceed hopen =>
    rcases h.proceed_cases hopen with ⟨_, _, _, -, -, hw⟩ | ⟨_, _, -, -, hw⟩ | ⟨_, _, hidle, hw⟩ <;> rw [hw]
    exact hidle.cached_le
  | finish thread outcome =>
    cases htick : w.tick with
    | running now ran id => rw [clock_finish htick]; exact Clock.cached_le_cached_now _
    | _ => simp only [Session.finish, htick, Nat.le_refl]
  | wake =>
    unfold Session.wake
    split
    · next waiting _ => cases waiting <;> exact Nat.le_refl _
    · exact Nat.le_refl _

/-- What has no delay has its time already. -/
theorem Reachable.runAt_le_cached (h : w.Reachable) (hid : id.index < w.scheduler.backlog.nextId)
    (himmediate : (w.scheduler.backlog.task id).immediate = true) :
    (w.scheduler.backlog.task id).runAt ≤ w.scheduler.clock.cached := by
  induction h with
  | start blocking clock defaultPriority => exact absurd hid (Nat.not_lt_zero _)
  | @step w u hw hstep ih =>
    have hsound := hw.sound
    by_cases hold : id.index < w.scheduler.backlog.nextId
    · have hbefore : (w.scheduler.backlog.task id).immediate = true := by
        rwa [← Task.immediate_eq_of_identity (hsound.identity_step hstep hold)]
      have honce := hsound.accounted.tidy.isRecurring_of_immediate id hbefore
      rw [hsound.runAt_step hstep hold honce]
      exact (ih hold hbefore).trans (hsound.cached_step hstep)
    · -- the step has submitted it
      have hcount := (hsound.step hstep).accounted.nextId_eq
      rcases hstep.requests_cases with hrequests | ⟨r, -, hvalid, rfl, hrequests⟩ <;> rw [hrequests] at hcount
      · rw [hcount, ← hsound.accounted.nextId_eq] at hid
        exact absurd hid hold
      · have hnew : id = ⟨w.scheduler.backlog.nextId⟩ := by
          rw [hcount, List.length_append, ← hsound.accounted.nextId_eq, List.length_singleton] at hid
          exact Table.index_injective.1 (show id.index = w.scheduler.backlog.nextId by omega)
        subst hnew
        have hcached := Clock.cached_le_cached_release w.scheduler.clock.hold
        rw [call_submit_of_valid hvalid] at himmediate ⊢
        exact (Backlog.runAt_enlist_le himmediate).trans hcached

/-! ### A pass -/

/-- From the step in which a tick takes its snapshot, the moments at which it uses this snapshot. -/
inductive Pass (w : Session) : Session → Prop where
  | start : Pass w w.proceed
  | step {u v : Session} : Pass w u → u.Step v → v.tick.snapshot?.isSome = true → Pass w v

/-- A tick that goes on with a snapshot goes on with the one that it has. -/
theorem Sound.snapshot_step (h : u.Sound) (hstep : u.Step v) (hnow : u.tick.snapshot? = some now)
    (hafter : v.tick.snapshot?.isSome = true) : v.tick.snapshot? = some now := by
  cases hstep with
  | call c _ => rw [tick_call, hnow]
  | pass t => exact hnow
  | enter _ _ => cases hafter
  | nested _ _ _ htick => rw [h.nested htick, hnow]
  | proceed hopen =>
    cases htick : u.tick with
    | picking now' ran =>
      rw [htick] at hnow
      obtain rfl : now' = now := Option.some.inj hnow
      cases hnext : u.scheduler.backlog.nextDue now' none with
      | some id => rw [h.proceed_of_some htick hnext]; rfl
      | none =>
        rw [h.proceed_of_none htick hnext] at hafter
        split at hafter <;> cases hafter
    | claiming _ _ _ =>
      have hfits := h.fits
      rw [htick] at hfits
      exact hfits.elim
    | running _ _ _ => rw [htick] at hopen; cases hopen
    | _ => rw [htick] at hnow; cases hnow
  | finish thread outcome =>
    cases htick : u.tick with
    | running now' ran id =>
      rw [htick] at hnow
      obtain rfl : now' = now := Option.some.inj hnow
      have htickAfter := (h.finish_eq htick thread outcome).2
      cases outcome with
      | none => rw [htickAfter]; rfl
      | some panic => rw [htickAfter] at hafter; cases hafter
    | _ =>
      have hsame : u.finish thread outcome = u := by simp only [Session.finish, htick]
      rw [hsame, hnow]
  | wake =>
    cases htick : u.tick with
    | waiting waiting => rw [htick] at hnow; cases hnow
    | _ =>
      have hsame : u.wake = u := by simp only [Session.wake, htick]
      rw [hsame, hnow]

/-- What holds throughout a pass: the snapshot, and the run times of the tasks without a delay that there were. -/
structure Passing (w u : Session) : Prop where
  reachable : u.Reachable
  snapshot_eq : u.tick.snapshot? = some w.scheduler.clock.now.1
  nextId_le : w.scheduler.backlog.nextId ≤ u.scheduler.backlog.nextId
  runAt_le (id : TaskId) : id.index < w.scheduler.backlog.nextId → (u.scheduler.backlog.task id).immediate = true →
    (u.scheduler.backlog.task id).runAt ≤ w.scheduler.clock.now.1

theorem Passing.step (h : w.Passing u) (hstep : u.Step v) (hafter : v.tick.snapshot?.isSome = true) : w.Passing v where
  reachable := h.reachable.step hstep
  snapshot_eq := h.reachable.sound.snapshot_step hstep h.snapshot_eq hafter
  nextId_le := h.nextId_le.trans (hstep.nextId_le h.reachable.sound)
  runAt_le id hid himmediate := by
    have hsound := h.reachable.sound
    have hlt := hid.trans_le h.nextId_le
    have hbefore : (u.scheduler.backlog.task id).immediate = true := by
      rwa [← Task.immediate_eq_of_identity (hsound.identity_step hstep hlt)]
    rw [hsound.runAt_step hstep hlt (hsound.accounted.tidy.isRecurring_of_immediate id hbefore)]
    exact h.runAt_le id hid hbefore

theorem Pass.passing (hpass : w.Pass u) (h : w.Reachable) (htick : w.tick = .reading) : w.Passing u := by
  induction hpass with
  | start =>
    have hproceed := Sound.proceed_of_reading htick
    refine ⟨h.step (.proceed (by rw [htick]; rfl)), by rw [hproceed]; rfl, by rw [hproceed], ?_⟩
    intro id hid himmediate
    rw [hproceed] at himmediate ⊢
    exact (h.runAt_le_cached hid himmediate).trans (Clock.cached_le_now _)
  | step _ hstep hafter ih => exact ih.step hstep hafter

/-- A tick that takes its snapshot at `w` starts, as long as it uses this snapshot, no task whose time has not come at
the moment of the start, and only tasks that were due at the snapshot or have been submitted since without a delay.
Whatever the queues hold, a task that is taken out is due or at the head of a ready queue. -/
theorem Reachable.runAt_le_snapshot (h : w.Reachable) (htick : w.tick = .reading) :
    (∀ u v now ran id, w.Pass u → u.Step v → v.tick = .running now ran id → u.tick ≠ .running now ran id →
      now = w.scheduler.clock.now.1 ∧ (v.scheduler.backlog.task id).runAt = (u.scheduler.backlog.task id).runAt ∧
      ((u.scheduler.backlog.task id).runAt ≤ now ∨
        now < (u.scheduler.backlog.task id).runAt ∧
        (u.scheduler.backlog.task id).runAt ≤ u.scheduler.clock.cached ∧
        (u.scheduler.backlog.task id).immediate = true ∧
        w.scheduler.backlog.nextId ≤ id.index ∧ id.index < u.scheduler.backlog.nextId)) ∧
    ∀ (b c : Backlog) now id, b.popDue now = some (id, c) →
      (b.task id).runAt ≤ now ∨ ∃ p, (b.queueSet p).ready.head? = some id := by
  refine ⟨fun u v now ran id hpass hstep hafter hbefore => ?_, fun b c now id => Backlog.runAt_le_of_popDue⟩
  have hpassing := hpass.passing h htick
  have hsound := hpassing.reachable.sound
  have hkept := hsound.accounted.tidy.toKept
  obtain ⟨hpicking, hnext⟩ := hsound.nextDue_of_running hstep hafter hbefore
  have hpending := hsound.state_of_nextDue hnext
  have hlt : id.index < u.scheduler.backlog.nextId := hkept.index_lt (by simp [hpending])
  have hnow : now = w.scheduler.clock.now.1 := by
    have hsnapshot := hpassing.snapshot_eq
    rw [hpicking] at hsnapshot
    exact Option.some.inj hsnapshot
  have hsame : (v.scheduler.backlog.task id).runAt = (u.scheduler.backlog.task id).runAt := by
    obtain ⟨hopen, rfl⟩ : u.tick.isOpen = false ∧ v = u.proceed :=
      hsound.proceed_of_tick_ne hstep (hafter ▸ hbefore.symm) (.inl ⟨_, _, _, hafter⟩)
    rw [hsound.proceed_of_some hpicking hnext]
    show ((u.scheduler.backlog.launch id).task id).runAt = _
    rw [Backlog.Accounted.task_launch hpending, if_pos rfl]
  refine ⟨hnow, hsame, ?_⟩
  by_cases hdue : (u.scheduler.backlog.task id).runAt ≤ now
  · exact .inl hdue
  · have hready := (hkept.eligible_iff.1 (Backlog.eligible_of_nextDue hkept hnext)).2.resolve_right hdue
    have himmediate : (u.scheduler.backlog.task id).immediate = true := by
      cases hi : (u.scheduler.backlog.task id).immediate with
      | true => rfl
      | false => simp [Task.queueKind, hi] at hready
    refine .inr ⟨Nat.not_le.1 hdue, hpassing.reachable.runAt_le_cached hlt himmediate, himmediate, ?_, hlt⟩
    by_contra hold
    exact hdue (hnow ▸ hpassing.runAt_le id (Nat.not_le.1 hold) himmediate)

/-- A tick that is about to take its snapshot, at the time 0, with one task ready. -/
private def oneReady : Session :=
  ((start false (.start (.manual 0)) .high).call (.submit ⟨.zero, .oneTime, none, none⟩)).enter.proceed

private theorem reachable_oneReady : oneReady.Reachable :=
  (((Reachable.start false (.start (.manual 0)) .high).step (.call (.submit ⟨.zero, .oneTime, none, none⟩) rfl)).step
    (.enter (.ok 0) rfl)).step (.proceed rfl)

/-- The same pass after the action of that task has moved the source of time on and submitted another task, without a
delay, and has ended. -/
private def oneMore : Session :=
  ((oneReady.proceed.proceed.call (.advance (.ofMillis 5))).call (.submit ⟨.zero, .oneTime, none, none⟩)).finish none none

private theorem pass_oneMore : oneReady.Pass oneMore := by
  have hstarted := (Pass.start (w := oneReady)).step (.proceed rfl) (by cbv)
  have hadvanced := hstarted.step (.call (.advance (.ofMillis 5)) rfl) rfl
  have hsubmitted := hadvanced.step (.call (.submit ⟨.zero, .oneTime, none, none⟩) rfl) rfl
  exact hsubmitted.step (.finish none none) rfl

/-- The pass with the snapshot 0 starts the other task, the time of which is 5. -/
theorem runAt_le_snapshot_oneMore :
    oneReady.Reachable ∧ oneReady.tick = .reading ∧ oneReady.scheduler.clock.now.1 = 0 ∧ oneReady.Pass oneMore ∧
    oneMore.Step oneMore.proceed ∧ oneMore.proceed.tick = .running 0 1 ⟨1⟩ ∧
    (oneMore.proceed.scheduler.backlog.task ⟨1⟩).runAt = 5 ∧
    oneReady.scheduler.backlog.nextId ≤ (⟨1⟩ : TaskId).index := by
  have htick : oneReady.tick = .reading := by cbv
  have hstep : oneMore.Step oneMore.proceed := .proceed rfl
  have hafter : oneMore.proceed.tick = .running 0 1 ⟨1⟩ := by cbv
  have hpicking : oneMore.tick = .picking 0 1 := by cbv
  have hrun : (oneMore.scheduler.backlog.task ⟨1⟩).runAt = 5 := by cbv
  obtain ⟨hnow, hsame, hdue⟩ := (reachable_oneReady.runAt_le_snapshot htick).1 oneMore oneMore.proceed 0 1 ⟨1⟩
    pass_oneMore hstep hafter (by simp [hpicking])
  rw [hrun] at hdue hsame
  obtain ⟨-, -, -, hrecent, -⟩ := hdue.resolve_left (by decide)
  exact ⟨reachable_oneReady, htick, hnow.symm, pass_oneMore, hstep, hafter, hsame, hrecent⟩

end Session

end TaskScheduling
