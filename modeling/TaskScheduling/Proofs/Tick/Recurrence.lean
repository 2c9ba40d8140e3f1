import Mathlib
import TaskScheduling.Proofs.Tick.Undisturbed

/-!
# Recurrence

A task at a fixed rate does not drift: its run time counts from the first one, however late its runs start and end.  A
tick that is left alone makes up for all the runs that are due at its snapshot, and then ends.
-/

namespace TaskScheduling.Session

variable {w u v : Session} {now ran n : Nat} {id : TaskId} {period : Duration}

/-- How far an undisturbed tick has got at `u` that runs `n` more tasks after `ran` ones, and what it does next. -/
inductive Advances (w u : Session) (now ran n : Nat) : Prop where
  | picking (k : Nat) (id : TaskId) : k < n → u.tick = .picking now (ran + k) →
      u.proceed.tick = .running now (ran + k) id → Advances w u now ran n
  | running (k : Nat) (id : TaskId) : k < n → u.tick = .running now (ran + k) id →
      (∀ thread, (u.finish thread none).tick = .picking now (ran + (k + 1))) → Advances w u now ran n
  | last : u.tick = .picking now (ran + n) → u.proceed.tick = w.outcome (ran + n) → Advances w u now ran n
  | stopped : u.tick = w.outcome (ran + n) → Advances w u now ran n

/-- What becomes of an undisturbed tick that is about to pick at `w` and has come to `u`. -/
structure RunsOut (w u : Session) (now ran : Nat) : Prop where
  advances : w.Advances u now ran (w.scheduler.backlog.runsDue now)
  /-- Nothing keeps the tick from its end. -/
  ends : ∃ v, Relation.ReflTransGen Undisturbed u v ∧ v.tick = w.outcome (ran + w.scheduler.backlog.runsDue now)
  count_le (id : TaskId) : u.invoked.count id ≤ w.invoked.count id + (w.scheduler.backlog.task id).runsDue now
  count_eq : u.tick = w.outcome (ran + w.scheduler.backlog.runsDue now) → ∀ id,
    u.invoked.count id = w.invoked.count id + (w.scheduler.backlog.task id).runsDue now
  /-- A task with a fixed delay that was due has been planned from the end of its run. -/
  runAt_eq : u.tick = w.outcome (ran + w.scheduler.backlog.runsDue now) → ∀ id period,
    (w.scheduler.backlog.task id).kind = .recurring period .fixedDelay →
    0 < (w.scheduler.backlog.task id).runsDue now →
    ∃ v thread, Relation.ReflTransGen Undisturbed w v ∧ v.IsRunning id ∧
      Relation.ReflTransGen Undisturbed (v.finish thread none) u ∧
      (u.scheduler.backlog.task id).runAt = Time.plus v.scheduler.clock.now.1 period.millis

/-! ### The end -/

private theorem not_isRunning_of_outcome {ran : Nat} (htick : u.tick = w.outcome ran) (id : TaskId) :
    ¬u.IsRunning id := by
  rintro ⟨now, ran', hrunning⟩
  rw [htick, outcome] at hrunning
  split at hrunning <;> cases hrunning

private theorem length_of_zero (h : w.GoesOn u now) (hzero : ∀ id, u.runsAhead now id = 0) :
    u.invoked.length = w.invoked.length + ∑ i ∈ Finset.range w.scheduler.backlog.nextId, w.runsAhead now ⟨i⟩ := by
  rw [← h.length_eq, Finset.sum_eq_zero fun i _ => hzero ⟨i⟩, Nat.add_zero]

private theorem advances_of_goesOn (h : w.GoesOn u now) (hnow : now < Time.limit)
    (hn : n = ∑ i ∈ Finset.range w.scheduler.backlog.nextId, w.runsAhead now ⟨i⟩) :
    w.Advances u now w.invoked.length n := by
  cases h.phase with
  | picking htick =>
    cases hnext : u.scheduler.backlog.nextDue now none with
    | some id =>
      obtain ⟨hafter, hrunning⟩ := h.start hnow htick hnext
      have hlt : u.invoked.length < w.invoked.length + n := by
        have hlength := hafter.length_eq
        have hinvoked : u.proceed.invoked = id :: u.invoked := by
          rw [h.reachable.sound.proceed_of_some htick hnext]
        rw [hinvoked, List.length_cons, ← hn] at hlength
        omega
      obtain ⟨k, hk⟩ := Nat.exists_eq_add_of_le h.length_le
      rw [hk] at htick hrunning
      exact .picking k id (by omega) htick hrunning
    | none =>
      obtain ⟨hafter, hstopped⟩ := h.stop htick hnext
      have htidy := h.reachable.sound.accounted.tidy
      have hlength := length_of_zero h fun id => by
        rw [runsAhead_of_picking htick]
        exact htidy.runsDue_eq_zero ((Backlog.nextDue_eq_none_iff htidy.toKept none).1 hnext id)
      rw [hlength, ← hn] at htick hstopped
      exact .last htick hstopped
  | running ran id htick hlength hle hs =>
    have htotal := h.length_eq
    rw [hlength, ← hn] at htotal
    obtain ⟨k, rfl⟩ := Nat.exists_eq_add_of_le hle
    exact .running k id (by omega) htick fun thread => (h.finish hnow thread htick hs).2
  | stopped htick hzero =>
    rw [length_of_zero h hzero, ← hn] at htick
    exact .stopped htick

/-- From one choice of a task to the next, and so on to the end. -/
private theorem exists_stopped_of_picking (h : w.GoesOn u now) (hnow : now < Time.limit)
    (hn : n = ∑ i ∈ Finset.range w.scheduler.backlog.nextId, w.runsAhead now ⟨i⟩)
    (htick : u.tick = .picking now u.invoked.length) :
    ∃ v, Relation.ReflTransGen Undisturbed u v ∧ v.tick = w.outcome (w.invoked.length + n) := by
  -- by induction on the number of runs that are still to be started
  obtain ⟨m, hm⟩ : ∃ m, m = w.invoked.length + n - u.invoked.length := ⟨_, rfl⟩
  have hpick : u.Undisturbed u.proceed := .pick _ _ htick
  induction m generalizing u with
  | zero =>
    cases advances_of_goesOn h hnow hn with
    | picking k id hk hpicking =>
      rw [hpicking] at htick
      simp only [Tick.picking.injEq, true_and] at htick
      omega
    | running k id hk hrunning => rw [hrunning] at htick; cases htick
    | last _ hstopped => exact ⟨_, .single hpick, hstopped⟩
    | stopped hstopped => exact ⟨u, .refl, hstopped⟩
  | succ m ih =>
    cases advances_of_goesOn h hnow hn with
    | picking k id hk hpicking hrunning =>
      have hstart := h.step hnow hpick
      have hfinish : u.proceed.Undisturbed (u.proceed.finish none none) := .finish none
      have hnext := hstart.step hnow hfinish
      cases hstart.phase with
      | running ran id' hrun hlength _ hs =>
        have hafter := (hstart.finish hnow none hrun hs).2
        have hinvoked : (u.proceed.finish none none).invoked.length = ran + 1 := by
          have hfits := hnext.reachable.sound.fits
          rwa [hafter] at hfits
        rw [hpicking] at htick
        rw [hrunning] at hrun
        simp only [Tick.picking.injEq, Tick.running.injEq, true_and] at htick hrun
        obtain ⟨v, hrest, hv⟩ := ih hnext (by rw [hafter, hinvoked]) (by omega) (.pick _ _ hafter)
        exact ⟨v, .head hpick (.head hfinish hrest), hv⟩
      | picking hp => rw [hrunning] at hp; cases hp
      | stopped hp => exact absurd ⟨_, _, hrunning⟩ (not_isRunning_of_outcome hp id)
    | running k id hk hrunning => rw [hrunning] at htick; cases htick
    | last _ hstopped => exact ⟨_, .single hpick, hstopped⟩
    | stopped hstopped => exact ⟨u, .refl, hstopped⟩

private theorem exists_stopped (h : w.GoesOn u now) (hnow : now < Time.limit)
    (hn : n = ∑ i ∈ Finset.range w.scheduler.backlog.nextId, w.runsAhead now ⟨i⟩) :
    ∃ v, Relation.ReflTransGen Undisturbed u v ∧ v.tick = w.outcome (w.invoked.length + n) := by
  cases h.phase with
  | picking htick => exact exists_stopped_of_picking h hnow hn htick
  | running ran id htick hlength _ hs =>
    obtain ⟨hafter, hpicking⟩ := h.finish hnow none htick hs
    have hran : (u.finish none none).invoked.length = ran + 1 := by
      have hfits := hafter.reachable.sound.fits
      rwa [hpicking] at hfits
    obtain ⟨v, hrest, hv⟩ := exists_stopped_of_picking hafter hnow hn (by rw [hpicking, hran])
    exact ⟨v, .head (.finish none) hrest, hv⟩
  | stopped htick hzero => exact ⟨u, .refl, by rw [htick, length_of_zero h hzero, ← hn]⟩

/-! ### Fixed delays -/

/-- What has become of the run of a task with a fixed delay: it has not begun, or it is in progress, or the task has
been planned from its end. -/
private inductive Delayed (w u : Session) (id : TaskId) (period : Duration) : Prop where
  | waiting : u.invoked.count id = w.invoked.count id → Delayed w u id period
  | running : u.IsRunning id → Delayed w u id period
  | settled (v : Session) (thread : Option String) : Relation.ReflTransGen Undisturbed w v → v.IsRunning id →
      Relation.ReflTransGen Undisturbed (v.finish thread none) u →
      (u.scheduler.backlog.task id).runAt = Time.plus v.scheduler.clock.now.1 period.millis → Delayed w u id period

private theorem count_of_undisturbed (h : u.Reachable) (hstep : u.Undisturbed v) (id : TaskId) :
    v.invoked.count id = u.invoked.count id ∨ v.IsRunning id := by
  cases hstep with
  | pass t => exact .inl rfl
  | pick now ran htick =>
    rcases h.sound.proceed_cases (by rw [htick]; rfl) with ⟨now, ran, j, -, -, hw⟩ | ⟨_, _, -, -, hw⟩ | ⟨_, _, -, hw⟩
    · by_cases hj : j = id
      · subst hj
        exact .inr ⟨now, ran, by rw [hw]⟩
      · left
        rw [hw]
        exact List.count_cons_of_ne hj
    · left
      rw [hw]
    · left
      rw [hw]
  | finish thread =>
    left
    unfold Session.finish
    split <;> rfl

/-- A run that ends is followed by a plan for the next one, which stands until the next run. -/
private theorem Delayed.step (h : w.Delayed u id period) (hu : u.Reachable)
    (hrun : Relation.ReflTransGen Undisturbed w u) (hid : id.index < u.scheduler.backlog.nextId)
    (hkind : (u.scheduler.backlog.task id).kind = .recurring period .fixedDelay) (hstep : u.Undisturbed v) :
    w.Delayed v id period := by
  cases hstep.toStep.deals hu.sound hid with
  | spares hagenda hrunning =>
    cases h with
    | waiting hcount =>
      rcases count_of_undisturbed hu hstep id with hsame | hstarted
      · exact .waiting (hsame.trans hcount)
      · exact .running hstarted
    | running hbefore => exact .running (hrunning.2 hbefore)
    | settled x thread hx hbefore hafter hrunAt =>
      simp only [Task.agenda, Prod.mk.injEq] at hagenda
      exact .settled x thread hx hbefore (hafter.tail hstep) (hagenda.2.1.trans hrunAt)
  | starts _ hafter _ => exact .running hafter
  | ends hbefore hnot hagenda =>
    cases hstep with
    | pass t => exact absurd hbefore hnot
    | pick now ran htick => exact absurd hbefore (not_isRunning_of_not_isOpen (by rw [htick]; rfl) id)
    | finish thread =>
      simp only [Task.agenda, Prod.mk.injEq] at hagenda
      refine .settled u thread hrun hbefore .refl (hagenda.2.1.trans ?_)
      simp only [Task.nextRunAt, hkind]

private theorem delayed_of_run (h : w.Reachable) (hid : id.index < w.scheduler.backlog.nextId)
    (hkind : (w.scheduler.backlog.task id).kind = .recurring period .fixedDelay)
    (hrun : Relation.ReflTransGen Undisturbed w u) : w.Delayed u id period := by
  suffices hall : u.Reachable ∧ id.index < u.scheduler.backlog.nextId ∧
      (u.scheduler.backlog.task id).kind = .recurring period .fixedDelay ∧ w.Delayed u id period from hall.2.2.2
  induction hrun with
  | refl => exact ⟨h, hid, hkind, .waiting rfl⟩
  | @tail u v hrun hstep ih =>
    obtain ⟨hu, hlt, hk, hdelayed⟩ := ih
    exact ⟨hu.step hstep.toStep, hlt.trans_le (hstep.toStep.nextId_le hu.sound),
      ((hstep.toStep.deals hu.sound hlt).kind_eq).trans hk, hdelayed.step hu hrun hlt hk hstep⟩

/-! ### The whole tick -/

private theorem runsOut (h : w.Reachable) (htick : w.tick = .picking now ran) (hnow : now < Time.limit)
    (hrun : Relation.ReflTransGen Undisturbed w u) : w.RunsOut u now ran := by
  have hgoes := GoesOn.run h htick hnow hrun
  have hran : w.invoked.length = ran := by
    have hfits := h.sound.fits
    rwa [htick] at hfits
  have hn : w.scheduler.backlog.runsDue now =
      ∑ i ∈ Finset.range w.scheduler.backlog.nextId, w.runsAhead now ⟨i⟩ := by
    simp only [Backlog.runsDue, runsAhead_of_picking htick]
  have hadvances := advances_of_goesOn hgoes hnow hn
  have hends := exists_stopped hgoes hnow hn
  rw [hran] at hadvances hends
  have hcount (id : TaskId) := runsAhead_of_picking htick id ▸ hgoes.count_eq id
  have hzero (hstopped : u.tick = w.outcome (ran + w.scheduler.backlog.runsDue now)) (id : TaskId) :
      u.runsAhead now id = 0 := by
    cases hgoes.phase with
    | picking hp => 
      rw [hp, outcome] at hstopped
      split at hstopped <;> cases hstopped
    | running _ _ hp => exact absurd ⟨_, _, hp⟩ (not_isRunning_of_outcome hstopped _)
    | stopped _ hall => exact hall id
  refine ⟨hadvances, hends, fun id => ?_, fun hstopped id => ?_, fun hstopped id period hkind hdue => ?_⟩
  · have := hcount id
    omega
  · have := hcount id
    rwa [hzero hstopped, Nat.add_zero] at this
  · have hid : id.index < w.scheduler.backlog.nextId := by
      by_contra hge
      rw [h.sound.accounted.tidy.task_eq_absent id (Nat.not_lt.1 hge)] at hkind
      cases hkind
    cases delayed_of_run h hid hkind hrun with
    | waiting hsame =>
      have hmore := hcount id
      rw [hzero hstopped id] at hmore
      omega
    | running hrunning => exact absurd hrunning (not_isRunning_of_outcome hstopped id)
    | settled v thread hv hrunning hafter hrunAt => exact ⟨v, thread, hv, hrunning, hafter, hrunAt⟩

/-- A task at a fixed rate is planned for its first run time and one period more for each of its runs, whenever none is
in progress.  A tick that is left alone, with a snapshot before the last representable time, runs each task as often as
it is due, which is known beforehand, and ends. -/
theorem Reachable.recurs (h : w.Reachable) :
    (∀ id period, (w.scheduler.backlog.task id).kind = .recurring period .fixedRate → ¬w.IsRunning id →
      (∃ first, w.FirstRunAt id first) ∧ ∀ first, w.FirstRunAt id first →
        (w.scheduler.backlog.task id).runAt =
          min (first + period.millis * (w.scheduler.backlog.task id).runs) Time.limit) ∧
    ∀ now ran, w.tick = .picking now ran → now < Time.limit →
      ∀ u, Relation.ReflTransGen Undisturbed w u → w.RunsOut u now ran := by
  refine ⟨fun id period hkind hidle => ⟨?_, fun first hfirst => ?_⟩, fun now ran htick hnow u hrun =>
    runsOut h htick hnow hrun⟩
  · refine h.exists_firstRunAt ?_
    by_contra hge
    rw [h.sound.accounted.tidy.task_eq_absent id (Nat.not_lt.1 hge)] at hkind
    cases hkind
  · obtain ⟨n, hrunAt, ⟨hruns, -⟩ | ⟨-, hrunning⟩⟩ := hfirst.onSchedule period hkind
    · rw [hrunAt, hruns]
    · exact absurd hrunning hidle

/-- A tick at 25 at which a task at a fixed rate is three runs behind, next to one with a fixed delay and one that runs
once. -/
private def catchingUp : Session :=
  ((((start false (.start (.manual 0)) .high).call
    (.submit ⟨.zero, .recurring (.ofMillis 10) .fixedRate, none, none⟩)).call
    (.submit ⟨.zero, .recurring (.ofMillis 10) .fixedDelay, none, none⟩)).call
    (.submit ⟨.ofMillis 5, .oneTime, none, none⟩)).call
    (.advance (.ofMillis 25)) |>.enter.proceed.proceed

private theorem reachable_catchingUp : catchingUp.Reachable := by
  have hstart := Reachable.start false (.start (.manual 0)) .high
  have hrate := hstart.step (.call (.submit ⟨.zero, .recurring (.ofMillis 10) .fixedRate, none, none⟩) rfl)
  have hdelay := hrate.step (.call (.submit ⟨.zero, .recurring (.ofMillis 10) .fixedDelay, none, none⟩) rfl)
  have honce := hdelay.step (.call (.submit ⟨.ofMillis 5, .oneTime, none, none⟩) rfl)
  have hlater := honce.step (.call (.advance (.ofMillis 25)) rfl)
  exact ((hlater.step (.enter (.ok 0) rfl)).step (.proceed rfl)).step (.proceed rfl)

theorem recurs_catchingUp : catchingUp.Reachable ∧ (∃ first, catchingUp.FirstRunAt ⟨0⟩ first) ∧
    [0, 1, 2].map (fun i => (catchingUp.scheduler.backlog.task ⟨i⟩).runsDue 25) = [3, 1, 1] ∧
    ∀ u, Relation.ReflTransGen Undisturbed catchingUp u → catchingUp.RunsOut u 25 0 := by
  have htick : catchingUp.tick = .picking 25 0 := by cbv
  obtain ⟨hschedule, hruns⟩ := reachable_catchingUp.recurs
  have hidle : ¬catchingUp.IsRunning ⟨0⟩ := not_isRunning_of_not_isOpen (by rw [htick]; rfl) _
  exact ⟨reachable_catchingUp, (hschedule ⟨0⟩ (.ofMillis 10) (by cbv) hidle).1, by cbv,
    hruns 25 0 htick (by decide)⟩

end TaskScheduling.Session
