import Mathlib
import TaskScheduling.Proofs.Tick.Runs

/-!
# Ticks that are left alone

While the actions that a tick runs leave its scheduler alone and do not panic, nothing but the tick itself and the
source of time goes on: `Session.Undisturbed`.  Then it is known from the start how often the tick runs each task,
`Task.runsDue`, and the tick comes to an end after so many runs.

The snapshot of the tick lies before the last representable time; at that time a task at a fixed rate would stay due for
ever.
-/

namespace TaskScheduling

/-- How often a tick with the snapshot `now` runs a task of this kind that is planned for `runAt`. -/
def TaskKind.runsDue (kind : TaskKind) (now runAt : Nat) : Nat :=
  if runAt ≤ now then
    match kind with
    | .recurring period .fixedRate => (now - runAt) / period.millis + 1
    | _ => 1
  else 0

namespace Task

/-- How often a tick with the snapshot `now` runs a task. -/
def runsDue (t : Task) (now : Nat) : Nat :=
  if t.state = .pending then if t.immediate then 1 else t.kind.runsDue now t.runAt else 0

/-- How often a tick with the snapshot `now` runs a task that it is running once more. -/
def runsAfter (t : Task) (now : Nat) : Nat := if t.isRecurring then t.kind.runsDue now (t.nextRunAt now) else 0

variable {t : Task} {now : Nat}

private theorem runsDue_plus {period : Duration} {mode : RecurrenceMode} {completedAt : Nat}
    (hperiod : period.millis ≠ 0) (hnow : now < Time.limit) (hlate : now ≤ completedAt) :
    (TaskKind.recurring period mode).runsDue now (Time.plus completedAt period.millis) = 0 := by
  have hlt : ¬Time.plus completedAt period.millis ≤ now := by
    unfold Time.plus
    omega
  simp only [TaskKind.runsDue, if_neg hlt]

/-- It does not matter when a run ends, as long as that is not before the snapshot. -/
theorem runsDue_nextRunAt {completedAt : Nat} (hvalid : t.kind.isValid = true) (hnow : now < Time.limit)
    (hlate : now ≤ completedAt) (hr : t.isRecurring = true) :
    t.kind.runsDue now (t.nextRunAt completedAt) = t.runsAfter now := by
  unfold runsAfter
  rw [if_pos hr]
  cases hk : t.kind with
  | oneTime => simp [isRecurring, TaskKind.isRecurring, hk] at hr
  | recurring period mode =>
    have hperiod : period.millis ≠ 0 := by simpa [TaskKind.isValid, hk] using hvalid
    cases mode with
    | fixedRate => simp only [nextRunAt, hk]
    | fixedDelay =>
      simp only [nextRunAt, hk, runsDue_plus hperiod hnow hlate, runsDue_plus hperiod hnow (Nat.le_refl now)]

/-- One of the runs that are due is the next one. -/
theorem runsAfter_succ (hvalid : t.kind.isValid = true) (hnow : now < Time.limit) (hstate : t.state = .pending)
    (honce : t.immediate = true → t.isRecurring = false) (hdue : t.queueKind = .ready ∨ t.runAt ≤ now) :
    t.runsAfter now + 1 = t.runsDue now := by
  unfold runsAfter runsDue
  rw [if_pos hstate]
  cases hi : t.immediate with
  | true => simp [honce hi]
  | false =>
    have hle : t.runAt ≤ now := hdue.resolve_left (by simp [queueKind, hi])
    cases hk : t.kind with
    | oneTime => simp [isRecurring, TaskKind.isRecurring, TaskKind.runsDue, hk, hle]
    | recurring period mode =>
      have hperiod : period.millis ≠ 0 := by simpa [TaskKind.isValid, hk] using hvalid
      have hr : t.isRecurring = true := by simp [isRecurring, TaskKind.isRecurring, hk]
      rw [if_pos hr, if_neg Bool.false_ne_true]
      cases mode with
      | fixedDelay =>
        simp only [nextRunAt, hk, runsDue_plus hperiod hnow (Nat.le_refl now)]
        simp only [TaskKind.runsDue, if_pos hle]
      | fixedRate =>
        have hpos : 0 < period.millis := Nat.pos_of_ne_zero hperiod
        simp only [nextRunAt, hk, TaskKind.runsDue, if_pos hle, Nat.add_right_cancel_iff]
        by_cases hnext : t.runAt + period.millis ≤ now
        · -- one period fewer lies between the next run time and the snapshot
          have hplus : Time.plus t.runAt period.millis = t.runAt + period.millis := by
            unfold Time.plus
            omega
          have hsub : now - t.runAt = now - (t.runAt + period.millis) + period.millis := by omega
          rw [hplus, if_pos hnext, hsub, Nat.add_div_right _ hpos]
        · have hlater : ¬Time.plus t.runAt period.millis ≤ now := by
            unfold Time.plus
            omega
          rw [if_neg hlater, Nat.div_eq_of_lt (by omega)]

end Task

namespace Backlog

/-- How many tasks a tick with the snapshot `now` runs. -/
def runsDue (b : Backlog) (now : Nat) : Nat := ∑ i ∈ Finset.range b.nextId, (b.task ⟨i⟩).runsDue now

theorem Tidy.runsDue_eq_zero {b : Backlog} (h : b.Tidy none) {now : Nat} {id : TaskId}
    (hid : ¬b.Eligible now id) : (b.task id).runsDue now = 0 := by
  unfold Task.runsDue
  split
  · next hs =>
    have hmem := h.mem_queue_iff.2 (h.slot_eq_some hs)
    rw [h.toKept.eligible_iff] at hid
    have hnot : ¬((b.task id).queueKind = .ready ∨ (b.task id).runAt ≤ now) := fun hdue => hid ⟨hmem, hdue⟩
    rw [not_or] at hnot
    have hi : (b.task id).immediate ≠ true := fun hi => hnot.1 (by rw [Task.queueKind, if_pos hi])
    simp only [if_neg hi, TaskKind.runsDue, if_neg hnot.2]
  · rfl

end Backlog

/-! ### Snapshots -/

/-- The snapshot of a tick that has read the clock. -/
def Tick.snapshot? : Tick → Option Nat
  | .picking now _ => some now
  | .claiming now _ _ => some now
  | .running now _ _ => some now
  | _ => none

/-- The snapshot of the tick in progress is not later than what the clock remembers. -/
def Tick.IsTimely (t : Tick) (s : TickScheduler) : Prop := ∀ now, t.snapshot? = some now → now ≤ s.clock.cached

namespace Tick.IsTimely

variable {t : Tick} {s : TickScheduler}

theorem of_none (h : t.snapshot? = none) : t.IsTimely s := fun now hnow => by rw [h] at hnow; cases hnow

theorem mono (h : t.IsTimely s) {s' : TickScheduler} (hcached : s.clock.cached ≤ s'.clock.cached) : t.IsTimely s' :=
  fun now hnow => (h now hnow).trans hcached

theorem step (h : t.IsTimely s) : (t.step s).2.IsTimely (t.step s).1 := by
  cases t with
  | entering =>
    simp only [Tick.step]
    split <;> exact of_none rfl
  | reading =>
    intro now hnow
    obtain rfl := Option.some.inj hnow
    exact Nat.le_of_eq (Clock.now_eq_cached_now s.clock)
  | picking now ran =>
    simp only [Tick.step]
    split
    · exact h
    · split <;> exact of_none rfl
  | claiming now ran id =>
    simp only [Tick.step]
    split <;> exact h
  | running now ran id => exact h
  | waiting waiting =>
    cases waiting with
    | ended result => cases result <;> exact of_none rfl
    | _ => exact of_none rfl
  | ended result => exact of_none rfl

theorem move (h : t.IsTimely s) : (t.move s).2.IsTimely (t.move s).1 := by
  unfold Tick.move
  split
  · next hstep =>
    have hclaiming := h.step
    rw [hstep] at hclaiming
    exact hclaiming.step
  · exact h.step

theorem finish (h : t.IsTimely s) (thread : Option String) (outcome : Option Panic) :
    (t.finish s thread outcome).2.IsTimely (t.finish s thread outcome).1 := by
  cases t with
  | running now ran id =>
    simp only [Tick.finish]
    split
    · exact of_none rfl
    · exact of_none rfl
    · exact h.mono (Clock.cached_le_cached_now s.clock)
  | _ => exact h

end Tick.IsTimely

namespace Session

variable {w u v : Session} {now ran : Nat} {id : TaskId}

theorem cached_le_cached_call (w : Session) (c : Call) :
    w.scheduler.clock.cached ≤ (w.call c).scheduler.clock.cached := by
  cases c with
  | submit r =>
    have hcached := (Clock.cached_le_cached_hold w.scheduler.clock).trans (Clock.cached_le_cached_release _)
    cases hvalid : r.kind.isValid with
    | false =>
      rw [call_submit_of_invalid hvalid]
      exact hcached
    | true =>
      rw [call_submit_of_valid hvalid]
      exact hcached
  | hold => exact Clock.cached_le_cached_hold _
  | release => exact Clock.cached_le_cached_release _
  | hasDue => exact Clock.cached_le_cached_now _
  | now => exact Clock.cached_le_cached_now _
  | _ => exact Nat.le_refl _

theorem Reachable.isTimely (h : w.Reachable) : w.tick.IsTimely w.scheduler := by
  induction h with
  | start blocking clock defaultPriority => exact .of_none rfl
  | @step w w' hw hstep ih =>
    cases hstep with
    | call c _ =>
      rw [tick_call]
      exact ih.mono (cached_le_cached_call w c)
    | pass t => exact ih
    | enter result _ => exact .of_none rfl
    | nested now ran id htick => rw [hw.sound.nested htick]; exact ih
    | proceed _ =>
      have hmove := ih.move
      unfold Session.proceed
      split <;> next heq => rw [heq] at hmove; exact hmove
    | finish thread outcome =>
      unfold Session.finish
      split
      · next htick =>
        rw [htick] at ih
        exact ih.finish thread outcome
      · exact ih
    | wake =>
      unfold Session.wake
      split
      · exact .of_none rfl
      · exact ih

/-! ### A tick by itself -/

/-- One step of a session in which a tick is left alone; actions may move the source of time, which also moves by
itself. -/
inductive Undisturbed (w : Session) : Session → Prop where
  | pass (t : Nat) : Undisturbed w (w.pass t)
  | pick (now ran : Nat) : w.tick = .picking now ran → Undisturbed w w.proceed
  | finish (thread : Option String) : Undisturbed w (w.finish thread none)

theorem Undisturbed.toStep (h : w.Undisturbed u) : w.Step u := by
  cases h with
  | pass t => exact .pass t
  | pick now ran htick => exact .proceed (by rw [htick]; rfl)
  | finish thread => exact .finish thread none

/-- How often an undisturbed tick will start a task from now on. -/
def runsAhead (w : Session) (now : Nat) (id : TaskId) : Nat :=
  match w.tick with
  | .running _ _ j =>
    if id = j then (w.scheduler.backlog.task id).runsAfter now else (w.scheduler.backlog.task id).runsDue now
  | _ => (w.scheduler.backlog.task id).runsDue now

/-- How a tick goes on that has run `ran` tasks and finds no other one due. -/
def outcome (w : Session) (ran : Nat) : Tick :=
  if ran > 0 || !w.scheduler.blocking then .ended (.ok ran) else .waiting .entering

/-- How far an undisturbed tick has got at `u` that was about to pick at `w`. -/
inductive Phase (w u : Session) (now : Nat) : Prop where
  | picking : u.tick = .picking now u.invoked.length → Phase w u now
  | running (ran : Nat) (id : TaskId) : u.tick = .running now ran id → u.invoked.length = ran + 1 →
      w.invoked.length ≤ ran → (u.scheduler.backlog.task id).state = .executing → Phase w u now
  | stopped : u.tick = w.outcome u.invoked.length → (∀ id, u.runsAhead now id = 0) → Phase w u now

/-- What holds of `u` while an undisturbed tick goes on from `w`. -/
structure GoesOn (w u : Session) (now : Nat) : Prop where
  reachable : u.Reachable
  now_le : now ≤ u.scheduler.clock.cached
  nextId_eq : u.scheduler.backlog.nextId = w.scheduler.backlog.nextId
  blocking_eq : u.scheduler.blocking = w.scheduler.blocking
  phase : w.Phase u now
  length_le : w.invoked.length ≤ u.invoked.length
  count_eq (id : TaskId) :
    u.invoked.count id + u.runsAhead now id = w.invoked.count id + w.runsAhead now id
  length_eq : u.invoked.length + ∑ i ∈ Finset.range u.scheduler.backlog.nextId, u.runsAhead now ⟨i⟩ =
    w.invoked.length + ∑ i ∈ Finset.range w.scheduler.backlog.nextId, w.runsAhead now ⟨i⟩

theorem runsAhead_of_picking {ran : Nat} (htick : u.tick = .picking now ran) (id : TaskId) :
    u.runsAhead now id = (u.scheduler.backlog.task id).runsDue now := by
  simp only [runsAhead, htick]

theorem runsAhead_of_outcome {ran : Nat} (htick : u.tick = w.outcome ran) (id : TaskId) :
    u.runsAhead now id = (u.scheduler.backlog.task id).runsDue now := by
  unfold outcome at htick
  split at htick <;> simp only [runsAhead, htick]

theorem runsAhead_of_running {ran : Nat} {j : TaskId} (htick : u.tick = .running now ran j) (id : TaskId) :
    u.runsAhead now id = if id = j then (u.scheduler.backlog.task id).runsAfter now
      else (u.scheduler.backlog.task id).runsDue now := by
  simp only [runsAhead, htick]

/-- A step that leaves the runs ahead alone and starts none. -/
private theorem GoesOn.of_same (h : w.GoesOn u now) (hstep : u.Step v)
    (hcached : u.scheduler.clock.cached ≤ v.scheduler.clock.cached)
    (hnext : v.scheduler.backlog.nextId = u.scheduler.backlog.nextId)
    (hblocking : v.scheduler.blocking = u.scheduler.blocking) (hinvoked : v.invoked = u.invoked)
    (hphase : w.Phase v now) (hahead : ∀ id, v.runsAhead now id = u.runsAhead now id) : w.GoesOn v now where
  reachable := h.reachable.step hstep
  now_le := h.now_le.trans hcached
  nextId_eq := hnext.trans h.nextId_eq
  blocking_eq := hblocking.trans h.blocking_eq
  phase := hphase
  length_le := hinvoked ▸ h.length_le
  count_eq id := by rw [hinvoked, hahead, h.count_eq]
  length_eq := by simp only [hinvoked, hahead, hnext, h.length_eq]

theorem GoesOn.pass (h : w.GoesOn u now) (t : Nat) : w.GoesOn (u.pass t) now :=
  h.of_same (.pass t) (Nat.le_refl _) rfl rfl rfl
    (match h.phase with
      | .picking htick => .picking htick
      | .running ran id htick hlength hle hs => .running ran id htick hlength hle hs
      | .stopped htick hzero => .stopped htick hzero)
    fun _ => rfl

/-- One run less lies ahead after one has been started. -/
theorem sum_of_start {n : Nat} {f g : TaskId → Nat} (hid : id.index < n) (hself : g id + 1 = f id)
    (hothers : ∀ j, j ≠ id → g j = f j) :
    (∑ i ∈ Finset.range n, g ⟨i⟩) + 1 = ∑ i ∈ Finset.range n, f ⟨i⟩ := by
  have hmem : id.index ∈ Finset.range n := Finset.mem_range.2 hid
  have hself : g ⟨id.index⟩ + 1 = f ⟨id.index⟩ := hself
  rw [← Finset.add_sum_erase _ (fun i => g ⟨i⟩) hmem, ← Finset.add_sum_erase _ (fun i => f ⟨i⟩) hmem]
  have hrest : ∑ i ∈ (Finset.range n).erase id.index, g ⟨i⟩ = ∑ i ∈ (Finset.range n).erase id.index, f ⟨i⟩ := by
    refine Finset.sum_congr rfl fun i hi => hothers ⟨i⟩ ?_
    rintro rfl
    exact (Finset.mem_erase.1 hi).1 rfl
  omega

theorem GoesOn.start (h : w.GoesOn u now) (hnow : now < Time.limit) {ran : Nat}
    (htick : u.tick = .picking now ran) (hnext : u.scheduler.backlog.nextDue now none = some id) :
    w.GoesOn u.proceed now ∧ u.proceed.tick = .running now ran id := by
  have hsound := h.reachable.sound
  have hpending := hsound.state_of_nextDue hnext
  have hkept := hsound.accounted.tidy.toKept
  have hdue := (hkept.eligible_iff.1 (Backlog.eligible_of_nextDue hkept hnext)).2
  have hran : u.invoked.length = ran := by
    have hfits := hsound.fits
    rwa [htick] at hfits
  have hstep : u.Step u.proceed := .proceed (by rw [htick]; rfl)
  have hproceed := hsound.proceed_of_some htick hnext
  have hafter : u.proceed.tick = .running now ran id := by rw [hproceed]
  have hinvoked : u.proceed.invoked = id :: u.invoked := by rw [hproceed]
  have htask : u.proceed.scheduler.backlog.task = (u.scheduler.backlog.launch id).task := by rw [hproceed]
  have hlaunch := Backlog.Accounted.task_launch hpending
  have hnextId : u.proceed.scheduler.backlog.nextId = u.scheduler.backlog.nextId := by
    rw [(hsound.step hstep).accounted.nextId_eq, hsound.accounted.nextId_eq, hproceed]
  -- the task that is started has one run less ahead, and the others as many as before
  have hself : u.proceed.runsAhead now id + 1 = u.runsAhead now id := by
    rw [runsAhead_of_picking htick, ← Task.runsAfter_succ (h.reachable.isValid_kind id) hnow hpending
      (hkept.isRecurring_of_immediate id) hdue, runsAhead_of_running hafter, if_pos rfl, htask, hlaunch, if_pos rfl]
    rfl
  have hothers (j : TaskId) (hj : j ≠ id) : u.proceed.runsAhead now j = u.runsAhead now j := by
    rw [runsAhead_of_picking htick, runsAhead_of_running hafter, if_neg hj, htask, hlaunch, if_neg hj]
  have hlength := sum_of_start (hkept.index_lt (by simp [hpending])) hself hothers
  refine ⟨⟨h.reachable.step hstep, ?_, hnextId.trans h.nextId_eq, ?_, ?_, ?_, ?_, ?_⟩, hafter⟩
  · rw [hproceed]
    exact h.now_le
  · rw [hproceed]
    exact h.blocking_eq
  · refine .running ran id hafter (by rw [hinvoked, List.length_cons, hran]) (hran ▸ h.length_le) ?_
    rw [htask, hlaunch, if_pos rfl]
  · rw [hinvoked, List.length_cons]
    exact h.length_le.trans (Nat.le_succ _)
  · intro j
    have hcount := h.count_eq j
    rw [hinvoked, List.count_cons]
    by_cases hj : j = id
    · subst hj
      simp only [beq_self_eq_true, ↓reduceIte]
      omega
    · rw [if_neg (by simpa using Ne.symm hj), hothers j hj]
      exact hcount
  · have htotal := h.length_eq
    rw [hinvoked, List.length_cons, hnextId]
    omega

theorem GoesOn.stop (h : w.GoesOn u now) {ran : Nat} (htick : u.tick = .picking now ran)
    (hnext : u.scheduler.backlog.nextDue now none = none) :
    w.GoesOn u.proceed now ∧ u.proceed.tick = w.outcome ran := by
  have hsound := h.reachable.sound
  have htidy := hsound.accounted.tidy
  have hran : u.invoked.length = ran := by
    have hfits := hsound.fits
    rwa [htick] at hfits
  have hstep : u.Step u.proceed := .proceed (by rw [htick]; rfl)
  have hproceed := hsound.proceed_of_none htick hnext
  have hafter : u.proceed.tick = w.outcome ran := by
    rw [hproceed, outcome, ← h.blocking_eq]
    split <;> rfl
  have hbacklog : u.proceed.scheduler.backlog = u.scheduler.backlog := by
    rw [hproceed]
    split <;> rfl
  have hinvoked : u.proceed.invoked = u.invoked := by
    rw [hproceed]
    split <;> rfl
  have hahead (id : TaskId) : u.proceed.runsAhead now id = (u.scheduler.backlog.task id).runsDue now := by
    rw [runsAhead_of_outcome hafter, hbacklog]
  have hzero (id : TaskId) : (u.scheduler.backlog.task id).runsDue now = 0 :=
    htidy.runsDue_eq_zero ((Backlog.nextDue_eq_none_iff htidy.toKept none).1 hnext id)
  refine ⟨h.of_same hstep ?_ (by rw [hbacklog]) ?_ hinvoked (.stopped ?_ ?_) ?_, hafter⟩
  · rw [hproceed]
    split <;> exact Nat.le_refl _
  · rw [hproceed]
    split <;> rfl
  · rw [hafter, hinvoked, hran]
  · exact fun id => (hahead id).trans (hzero id)
  · exact fun id => (hahead id).trans (runsAhead_of_picking htick id).symm

/-- Settling a task that nobody has cancelled leaves it with the runs that were ahead of it. -/
theorem runsDue_complete {b : Backlog} (htidy : b.Tidy none) (hvalid : (b.task id).kind.isValid = true)
    (hnow : now < Time.limit) (hs : (b.task id).state = .executing) {completedAt : Nat} (hlate : now ≤ completedAt) :
    ((b.complete id completedAt).1.task id).runsDue now = (b.task id).runsAfter now := by
  have hslot : (b.task id).slot = none := htidy.slot_eq_none (by simp [hs])
  rcases Backlog.complete_cases hslot completedAt with ⟨hr, hc⟩ | ⟨hr, -, hc⟩ | ⟨-, hne, -⟩
  · have hdone : ((b.complete id completedAt).1.task id).state ≠ .pending := by
      rw [hc, Backlog.task_transition_eq, if_pos ⟨rfl, hs⟩]
      simp
    rw [Task.runsDue, if_neg hdone, Task.runsAfter, hr, if_neg Bool.false_ne_true]
  · have hreplan := Backlog.task_replan b id completedAt
    have hpending : (b.complete id completedAt).1.task id =
        { b.task id with runAt := (b.task id).nextRunAt completedAt, state := .pending,
                         slot := some (b.task id).home } := by
      rw [hc, Backlog.requeue, Backlog.task_place, if_pos rfl, Backlog.task_transition_eq, hreplan,
        if_pos ⟨rfl, hs⟩]
      rfl
    have honce : (b.task id).immediate ≠ true := by
      intro hi
      rw [htidy.isRecurring_of_immediate id hi] at hr
      cases hr
    rw [hpending, ← Task.runsDue_nextRunAt hvalid hnow hlate hr]
    simp only [Task.runsDue, ↓reduceIte, if_neg honce]
  · exact absurd hs hne

theorem GoesOn.finish (h : w.GoesOn u now) (hnow : now < Time.limit) (thread : Option String) {ran : Nat}
    (htick : u.tick = .running now ran id) (hs : (u.scheduler.backlog.task id).state = .executing) :
    w.GoesOn (u.finish thread none) now ∧ (u.finish thread none).tick = .picking now (ran + 1) := by
  have hsound := h.reachable.sound
  have htidy := hsound.accounted.tidy
  have hran : u.invoked.length = ran + 1 := by
    have hfits := hsound.fits
    rw [htick] at hfits
    exact hfits.1
  obtain ⟨hbacklog, hafter⟩ := hsound.finish_eq htick thread none
  have hlate : now ≤ u.scheduler.clock.now.1 := h.now_le.trans (Clock.cached_le_now _)
  have hstep : u.Step (u.finish thread none) := .finish thread none
  have hinvoked := invoked_finish u thread none
  have hnextId : (u.finish thread none).scheduler.backlog.nextId = u.scheduler.backlog.nextId := by
    rw [(hsound.step hstep).accounted.nextId_eq, hsound.accounted.nextId_eq]
    unfold Session.finish
    split <;> rfl
  refine ⟨h.of_same hstep ?_ hnextId (blocking_finish u thread none) hinvoked (.picking ?_) fun j => ?_, hafter⟩
  · rw [clock_finish htick]
    exact Clock.cached_le_cached_now _
  · rw [hafter, hinvoked, hran]
  · rw [runsAhead_of_picking hafter, runsAhead_of_running htick, hbacklog]
    by_cases hj : j = id
    · subst hj
      rw [if_pos rfl, runsDue_complete htidy (h.reachable.isValid_kind j) hnow hs hlate]
    · have hslot : (u.scheduler.backlog.task id).slot = none := htidy.slot_eq_none (by simp [hs])
      rw [if_neg hj, Backlog.task_complete_of_ne hslot hj]

theorem GoesOn.step (h : w.GoesOn u now) (hnow : now < Time.limit) (hstep : u.Undisturbed v) :
    w.GoesOn v now := by
  cases hstep with
  | pass t => exact h.pass t
  | pick now' ran htick =>
    have heq : now' = now := by
      cases h.phase with
      | picking hpicking =>
        rw [htick] at hpicking
        cases hpicking
        rfl
      | running _ _ hrunning =>
        rw [htick] at hrunning
        cases hrunning
      | stopped hover =>
        rw [htick, outcome] at hover
        split at hover <;> cases hover
    subst heq
    cases hnext : u.scheduler.backlog.nextDue now' none with
    | some id => exact (h.start hnow htick hnext).1
    | none => exact (h.stop htick hnext).1
  | finish thread =>
    cases h.phase with
    | running ran id htick _ _ hs => exact (h.finish hnow thread htick hs).1
    | picking htick =>
      have hsame : u.finish thread none = u := by simp only [Session.finish, htick]
      rwa [hsame]
    | stopped htick =>
      have hsame : u.finish thread none = u := by
        unfold outcome at htick
        split at htick <;> simp only [Session.finish, htick]
      rwa [hsame]

theorem GoesOn.refl (h : w.Reachable) (htick : w.tick = .picking now ran) : w.GoesOn w now where
  reachable := h
  now_le := h.isTimely now (by rw [htick]; rfl)
  nextId_eq := rfl
  blocking_eq := rfl
  phase := .picking <| by
    have hfits := h.sound.fits
    rw [htick] at hfits
    rw [htick, hfits]
  length_le := Nat.le_refl _
  count_eq _ := rfl
  length_eq := rfl

theorem GoesOn.run (h : w.Reachable) (htick : w.tick = .picking now ran) (hnow : now < Time.limit)
    (hrun : Relation.ReflTransGen Undisturbed w u) : w.GoesOn u now := by
  induction hrun with
  | refl => exact .refl h htick
  | tail _ hstep ih => exact ih.step hnow hstep

end Session

end TaskScheduling
