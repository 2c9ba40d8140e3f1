import Mathlib
import TaskScheduling.Dispatch.Dispatcher
import TaskScheduling.Proofs.Backlog.Accounted
import TaskScheduling.Proofs.Backlog.Queries
import TaskScheduling.Tick.Pass

/-!
# Loops that do not spin

A tick that waits, and a dispatcher that finds nothing due, both go by the next run time.  A wait that ends because a
run time has come is followed by a pass that runs something, and a dispatcher never parks until a time that has passed
already: so neither goes round and round without doing anything.  Both rest on the agreement of the queries.

* `Tick.Unrivalled.takesUp`: how far a tick has got after a wait, one step after the other.
* `Backlog.Kept.coherent`: the queries agree, and neither loop spins.
-/

namespace TaskScheduling

/-! ### Ticks -/

namespace Waiting

/-- A wait that ends at its look at the queues has found a run time that has come. -/
theorem exists_nextRunAt_of_ended {s s' : TickScheduler} {seen : Nat}
    (h : (queues seen).step s = (s', .ended (.ok ()))) :
    s'.backlog = s.backlog ∧ s'.clock = s.clock.now.2 ∧ ∃ t, s.backlog.nextRunAt = some t ∧ t ≤ s.clock.now.1 := by
  simp only [step] at h
  split at h
  · cases h
  · next t ht =>
    split at h
    · next hle =>
      cases h
      exact ⟨rfl, rfl, t, ht, hle⟩
    · cases h

end Waiting

namespace Tick

/-- A tick takes so many steps.  Between them others do what they like, except that nobody touches the backlog, and that
the clock is not put back. -/
inductive Unrivalled (x : TickScheduler × Tick) : Nat → TickScheduler × Tick → Prop where
  | refl : Unrivalled x 0 x
  | step {n : Nat} {s u : TickScheduler} {t : Tick} :
      Unrivalled x n (s, t) → u.backlog = s.backlog → s.clock.now.1 ≤ u.clock.now.1 → Unrivalled x (n + 1) (t.step u)

/-- How far a tick has got, so many steps after a wait that ended at the time `since`: it is about to run the first
task. -/
def TakesUp (b : Backlog) (since : Nat) : Nat → TickScheduler × Tick → Prop
  | 0, (s, t) => s.backlog = b ∧ since ≤ s.clock.now.1 ∧ t = .waiting (.ended (.ok ()))
  | 1, (s, t) => s.backlog = b ∧ since ≤ s.clock.now.1 ∧ t = .reading
  | 2, (s, t) => s.backlog = b ∧ ∃ now, since ≤ now ∧ t = .picking now 0
  | 3, (s, t) => ∃ now id, since ≤ now ∧ b.nextDue now none = some id ∧ s.backlog = b.unlink id (b.task id).home ∧
      t = .claiming now 0 id
  | 4, (s, t) => ∃ now id, since ≤ now ∧ b.nextDue now none = some id ∧ s.backlog = b.launch id ∧ t = .running now 0 id
  | _, _ => True

variable {b : Backlog} {since n : Nat}

theorem TakesUp.step {s u : TickScheduler} {t : Tick} (h : TakesUp b since n (s, t)) (hkept : b.Kept)
    (hpending : ∀ id ∈ b.queued, (b.task id).state = .pending)
    (hdue : ∀ now, since ≤ now → b.nextDue now none ≠ none) (hbacklog : u.backlog = s.backlog)
    (hclock : s.clock.now.1 ≤ u.clock.now.1) : TakesUp b since (n + 1) (t.step u) := by
  match n, h with
  | 0, ⟨hb, hsince, ht⟩ =>
    subst ht
    exact ⟨hbacklog.trans hb, hsince.trans hclock, rfl⟩
  | 1, ⟨hb, hsince, ht⟩ =>
    subst ht
    exact ⟨hbacklog.trans hb, _, hsince.trans hclock, rfl⟩
  | 2, ⟨hb, now, hsince, ht⟩ =>
    subst ht
    obtain ⟨id, hnext⟩ := Option.ne_none_iff_exists'.1 (hdue now hsince)
    have hpop := Backlog.popDue_eq_nextDue hkept now
    rw [hnext, Option.map_some] at hpop
    simp only [Tick.step, hbacklog.trans hb, hpop]
    exact ⟨now, id, hsince, hnext, rfl, rfl⟩
  | 3, ⟨now, id, hsince, hnext, hb, ht⟩ =>
    subst ht
    have hstate := hpending id (Backlog.eligible_of_nextDue hkept hnext).mem_queued
    simp only [Tick.step, hbacklog.trans hb, Backlog.begin_unlink hstate]
    exact ⟨now, id, hsince, hnext, rfl, rfl⟩
  | _ + 4, _ => trivial

theorem Unrivalled.takesUp {x y : TickScheduler × Tick} (h : Unrivalled x n y) (hstart : TakesUp b since 0 x)
    (hkept : b.Kept) (hpending : ∀ id ∈ b.queued, (b.task id).state = .pending)
    (hdue : ∀ now, since ≤ now → b.nextDue now none ≠ none) : TakesUp b since n y := by
  induction h with
  | refl => exact hstart
  | step _ hbacklog hclock ih => exact ih.step hkept hpending hdue hbacklog hclock

end Tick

/-! ### Dispatchers -/

namespace Dispatcher

/-- The least sleep of a millisecond makes no difference to a time that lies ahead. -/
theorem parkEnd_of_lt {now : Nat} {until? : Option Nat} (h : ∀ t, until? = some t → now < t) :
    parkEnd now until? = until? := by
  cases until? with
  | none => rfl
  | some t =>
    have := h t rfl
    simp only [parkEnd, Option.map_some, Option.some.injEq]
    omega

theorem step_picking_of_none {s : PooledScheduler}
    (h : s.backlog.nextDue s.clock.accurate.1 (some s.lowWait) = none) :
    picking.step s =
      ({ s with clock := s.clock.accurate.2 },
        parked (parkEnd s.clock.accurate.1 s.backlog.nextRunAt) .nothingDue) := by
  simp only [step, h]

end Dispatcher

/-! ### Agreement -/

namespace Backlog

variable {b : Backlog} {now : Nat}

/-- What the queries of a backlog have to do with each other, and with those who go by them. -/
structure Coherent (b : Backlog) (now : Nat) : Prop where
  nextRunAt_eq : b.nextRunAt = b.runTimes.min?
  nextRunAfter_eq : b.nextRunAfter now = (b.runTimes.filter (now < ·)).min?
  nextDue_none (lowWait : Option Nat) : b.nextDue now lowWait = none ↔ b.popDue now = none
  popDue_none : b.popDue now = none ↔ ∀ t, b.nextRunAt = some t → now < t
  /-- The loop with which a queue set takes out what is due ends, after one pass. -/
  pops (p : Priority) (passes : Nat) (found : Option (TaskId × QueueSet p × Table)) :
    QueueSet.Pops now (b.queueSet p) b.tasks passes found ↔
      passes = 1 ∧ found = (b.queueSet p).popDue b.tasks now
  /-- It finds the task that the set shows. -/
  found_queueSet (p : Priority) :
    ((b.queueSet p).popDue b.tasks now).map Prod.fst = (b.queueSet p).peekDue b.tasks now
  yields_queueSet (p : Priority) (id : TaskId) (s : QueueSet p) (tasks : Table) :
    (b.queueSet p).popDue b.tasks now = some (id, s, tasks) → b.Yields id (b.withQueueSet s tasks)
  /-- Of all sets it is the first one that shows anything which has its task taken out. -/
  found : (b.popDue now).map Prod.fst = Priority.all.findSome? fun p => (b.queueSet p).peekDue b.tasks now
  yields (id : TaskId) (c : Backlog) : b.popDue now = some (id, c) → b.Yields id c
  /-- Where queued tasks are pending, a wait that ends at this time because a run time has come is followed by the run
  of a task. -/
  runs :
    (∀ id ∈ b.queued, (b.task id).state = .pending) →
    ∀ (s s' : TickScheduler) (seen : Nat), s.backlog = b → s.clock.now.1 = now →
      (Waiting.queues seen).step s = (s', .ended (.ok ())) →
      ∀ u t, Tick.Unrivalled (s', .waiting (.ended (.ok ()))) 4 (u, t) →
        ∃ later id, now ≤ later ∧ b.nextDue later none = some id ∧ u.backlog = b.launch id ∧ t = .running later 0 id
  /-- A dispatcher that finds nothing due at this time parks until a time that lies ahead; then something is due. -/
  parks (s : PooledScheduler) :
    s.backlog = b → s.clock.accurate.1 = now → b.nextDue now (some s.lowWait) = none →
    Dispatcher.picking.step s = ({ s with clock := s.clock.accurate.2 }, .parked b.nextRunAt .nothingDue) ∧
      ∀ t, b.nextRunAt = some t → now < t ∧ ∀ later lowWait, t ≤ later → b.nextDue later lowWait ≠ none

/-- Where the ready queues are in order of run time and ready tasks have had their time, the queries agree. -/
theorem Kept.coherent (h : b.Kept) (hready : ∀ p, QueueSet.InOrder b.tasks (b.queue ⟨p, .ready⟩))
    (hpast : ∀ p, ∀ id ∈ b.queue ⟨p, .ready⟩, (b.task id).runAt ≤ now) : b.Coherent now := by
  -- what holds at this time holds at every later one as well
  have hdue {t later : Nat} (ht : b.nextRunAt = some t) (hnow : now ≤ later) (hle : t ≤ later)
      (lowWait : Option Nat) : b.nextDue later lowWait ≠ none := by
    intro hnone
    have hpast' (p : Priority) (id : TaskId) (hid : id ∈ b.queue ⟨p, .ready⟩) : (b.task id).runAt ≤ later :=
      (hpast p id hid).trans hnow
    have hlate := (nextDue_eq_none_iff_nextRunAt h hready hpast' lowWait).1 hnone t ht
    exact absurd hlate (Nat.not_lt.2 hle)
  have hnone := nextDue_eq_none_iff_nextRunAt h hready hpast
  refine
    { nextRunAt_eq := nextRunAt_eq_min? h hready
      nextRunAfter_eq := nextRunAfter_eq_min? h hpast
      nextDue_none := nextDue_eq_none_iff_popDue h now
      popDue_none := (nextDue_eq_none_iff_popDue h now none).symm.trans (hnone none)
      pops := fun _ _ _ => h.pops_iff
      found_queueSet := fun p => map_fst_popDue_queueSet h p now
      yields_queueSet := fun _ _ _ _ => yields_of_popDue_queueSet h
      found := ?_
      yields := fun _ _ => yields_of_popDue h
      runs := ?_
      parks := ?_ }
  · rw [← nextDue_eq_findSome?, popDue_eq_nextDue h, Option.map_map]
    exact Option.map_id'
  · intro hpending s s' seen hs hclock hended u t hrun
    obtain ⟨hbacklog, hclock', time, htime, hle⟩ := Waiting.exists_nextRunAt_of_ended hended
    rw [hs] at hbacklog htime
    rw [hclock] at hle
    have hstart : Tick.TakesUp b now 0 (s', .waiting (.ended (.ok ()))) := by
      refine ⟨hbacklog, ?_, rfl⟩
      rw [hclock', Clock.now_now, hclock]
    exact hrun.takesUp hstart h hpending fun later hlater => hdue htime hlater (hle.trans hlater) none
  · rintro s rfl rfl hnext
    have hahead := (hnone _).1 hnext
    rw [Dispatcher.step_picking_of_none hnext, Dispatcher.parkEnd_of_lt hahead]
    exact ⟨rfl, fun t ht => ⟨hahead t ht, fun later lowWait hle =>
      hdue ht ((hahead t ht).le.trans hle) hle lowWait⟩⟩

/-- Two tasks that become due at 10 and at 20. -/
private def ahead : Backlog :=
  (empty.enlist 0 ⟨.ofMillis 10, .oneTime, none, none⟩ .high).enlist 0 ⟨.ofMillis 20, .oneTime, some .low, none⟩ .high

/-- At 12 there is one without a delay as well. -/
private def mixed : Backlog := ahead.enlist 12 ⟨.zero, .oneTime, some .low, none⟩ .high

private theorem accounted_ahead : ∃ requests, ahead.Accounted [⟨1⟩, ⟨0⟩] requests .high 0 :=
  ⟨_, ((Accounted.empty .high 0).enlist (Nat.le_refl 0) _).enlist (Nat.le_refl 0) _⟩

private theorem accounted_mixed : ∃ requests, mixed.Accounted [⟨2⟩, ⟨1⟩, ⟨0⟩] requests .high 12 :=
  accounted_ahead.elim fun _ h => ⟨_, h.enlist (Nat.zero_le 12) _⟩

/-- A blocking tick scheduler at 15, and one on a pool at 5. -/
private def waiter : TickScheduler := { TickScheduler.start true (.start (.manual 15)) .high with backlog := mixed }

private def idler : PooledScheduler :=
  { PooledScheduler.start (.start (.manual 5)) (Pool.start 1 .zero) (.plain "w") .bare .empty .high 10 with
    backlog := ahead }

theorem coherent_twice :
    (mixed.Kept ∧ mixed.runTimes = [10, 12, 20] ∧ mixed.nextRunAt = some 10 ∧ mixed.nextRunAfter 15 = some 20 ∧
      mixed.popDue 15 ≠ none ∧
      (Waiting.queues 0).step waiter = (waiter, .ended (.ok ())) ∧
      ∃ u later id, Tick.Unrivalled (waiter, .waiting (.ended (.ok ()))) 4 (u, .running later 0 id) ∧ 15 ≤ later ∧
        u.backlog = mixed.launch id) ∧
    ahead.Kept ∧ ahead.nextDue 5 (some 10) = none ∧
      Dispatcher.picking.step idler = ({ idler with clock := idler.clock.accurate.2 }, .parked (some 10) .nothingDue) ∧
      ∀ later lowWait, 10 ≤ later → ahead.nextDue later lowWait ≠ none := by
  obtain ⟨requests, hmixed⟩ := accounted_mixed
  obtain ⟨requests', hahead⟩ := accounted_ahead
  have hcoherent : mixed.Coherent 15 := hmixed.tidy.toKept.coherent (fun p => (hmixed.inTurn.ready p).imp And.left)
    fun p id hid => (hmixed.runAt_le p id hid).trans (by decide)
  have hcoherent' : ahead.Coherent 5 := hahead.tidy.toKept.coherent (fun p => (hahead.inTurn.ready p).imp And.left)
    fun p id hid => (hahead.runAt_le p id hid).trans (by decide)
  have htimes : mixed.runTimes = [10, 12, 20] := by cbv
  have hfirst : mixed.nextRunAt = some 10 := hcoherent.nextRunAt_eq.trans (by rw [htimes]; decide)
  have hafter : mixed.nextRunAfter 15 = some 20 := hcoherent.nextRunAfter_eq.trans (by rw [htimes]; decide)
  have hpop : mixed.popDue 15 ≠ none := fun hnone => absurd (hcoherent.popDue_none.1 hnone 10 hfirst) (by decide)
  have hended : (Waiting.queues 0).step waiter = (waiter, .ended (.ok ())) := by cbv
  have hpending (id : TaskId) (hid : id ∈ mixed.queued) : (mixed.task id).state = .pending := by
    obtain ⟨slot, hmem⟩ := mem_queued_iff.1 hid
    exact hmixed.tidy.state_of_slot (hmixed.tidy.toKept.mem_queue_iff.1 hmem)
  have hnext : ahead.nextDue 5 (some 10) = none := by cbv
  have htime : ahead.nextRunAt = some 10 := by cbv
  refine ⟨⟨hmixed.tidy.toKept, htimes, hfirst, hafter, hpop, hended, ?_⟩, hahead.tidy.toKept, hnext, ?_, ?_⟩
  · have hstart : Tick.Unrivalled (waiter, .waiting (.ended (.ok ()))) 0 (waiter, .waiting (.ended (.ok ()))) := .refl
    have hrun := (((hstart.step rfl (Nat.le_refl _)).step rfl (Nat.le_refl _)).step rfl (Nat.le_refl _)).step rfl
      (Nat.le_refl _)
    obtain ⟨later, id, hlater, -, hbacklog, htick⟩ := hcoherent.runs hpending waiter waiter 0 rfl rfl hended _ _ hrun
    exact ⟨_, later, id, htick ▸ hrun, hlater, hbacklog⟩
  · rw [← htime]
    exact (hcoherent'.parks idler rfl rfl hnext).1
  · exact fun later lowWait hle => ((hcoherent'.parks idler rfl rfl hnext).2 10 htime).2 later lowWait hle

end Backlog

end TaskScheduling
