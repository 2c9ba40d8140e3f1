import Mathlib.Logic.Function.Basic
import TaskScheduling.Proofs.Backlog.Shedding
import TaskScheduling.Tick.Pass

/-!
# A tick scheduler with everybody who uses it

A tick system is a tick scheduler together with its tick and any number of callers, each in the middle of what it does.
`TickSystem.Acts` lets one of the callers take one of its single steps, or changes the clock; `TickSystem.Goes` does the
same for the tick.  `TickSystem.Reachable` says that a system has come about by such steps, in any order.

A submission queues its task, counts the arrival and wakes the tick; an interrupt raises the flag and wakes the tick.
A waiting tick keeps its lock while it looks at the queues, but the lock is not for them: the tick looks at one queue
after the other, and others may act in between (`Ticker.looking`).

* `Caller.advance_submitting`, `Caller.advance_interrupting`: a call that nobody interferes with is the whole call.
* `Ticker.advance_queues`: looks that nobody interferes with add up to the step of a waiting tick.
* `TickSystem.Acts.affects`: what the step of a caller can amount to.
-/

namespace TaskScheduling

/-- A caller with the call that it is in. -/
inductive Caller where
  | resting
  /-- About to queue the task. -/
  | submitting (r : Request)
  /-- The task is queued, and the arrival about to be counted. -/
  | announcing (id : TaskId)
  /-- The arrival is counted, and the tick about to be woken. -/
  | notifying (id : TaskId)
  /-- About to raise the flag. -/
  | interrupting
  /-- The flag is raised, and the tick about to be woken. -/
  | alerting
  | cancelling (id : TaskId) (c : Cancellation)
  | clearing (c : Clearance)
  deriving DecidableEq

namespace Caller

/-- One step of a call.  Arrivals are not counted and the flag is not raised while the lock is held. -/
def step (s : TickScheduler) : Caller → TickScheduler × Caller
  | resting => (s, resting)
  | submitting r =>
    match s.accept r.delay r.kind r.options with
    | (s, .ok id) => (s, announcing id)
    | (s, .error _) => (s, resting)
  | announcing id => if s.locked then (s, announcing id) else (s.announce, notifying id)
  | notifying _ => (s.notify, resting)
  | interrupting => if s.locked then (s, interrupting) else ({ s with interrupted := true }, alerting)
  | alerting => (s.notify, resting)
  | cancelling _ (.ended _) => (s, resting)
  | cancelling id c => ({ s with backlog := (c.step s.backlog id).1 }, cancelling id (c.step s.backlog id).2)
  | clearing (.ended _) => (s, resting)
  | clearing c =>
    ({ s with backlog := (c.step .everything s.backlog).1 }, clearing (c.step .everything s.backlog).2)

/-- Several steps with nothing in between. -/
def advance : Nat → TickScheduler × Caller → TickScheduler × Caller
  | 0, s => s
  | n + 1, (s, c) => advance n (c.step s)

/-- Whether the next step raises the flag. -/
def raises (s : TickScheduler) : Caller → Bool
  | interrupting => !s.locked
  | _ => false

/-- Whether the caller still has to count an arrival or to wake the tick. -/
def owes : Caller → Bool
  | announcing _ => true
  | notifying _ => true
  | alerting => true
  | _ => false

theorem step_announcing {s : TickScheduler} (h : s.locked = false) (id : TaskId) :
    (announcing id).step s = (s.announce, notifying id) := if_neg (by simp [h])

theorem step_interrupting {s : TickScheduler} (h : s.locked = false) :
    interrupting.step s = ({ s with interrupted := true }, alerting) := if_neg (by simp [h])

/-- Whoever needs the lock waits for it. -/
theorem step_of_locked {s : TickScheduler} (h : s.locked = true) {c : Caller}
    (hc : c = interrupting ∨ ∃ id, c = announcing id) : c.step s = (s, c) := by
  rcases hc with rfl | ⟨id, rfl⟩ <;> exact if_pos h

/-- A submission that nobody interferes with. -/
theorem advance_submitting {s : TickScheduler} (h : s.locked = false) (r : Request) :
    advance 3 (s, submitting r) = ((s.submit r.delay r.kind r.options).1, resting) := by
  cases hvalid : r.kind.isValid with
  | false =>
    simp only [advance, step, TickScheduler.submit, TickScheduler.accept_of_invalid hvalid]
  | true =>
    have hannounce := step_announcing (s := { s with
      backlog := s.backlog.enlist s.clock.hold.cached r s.defaultPriority
      clock := s.clock.hold.release }) h ⟨s.backlog.nextId⟩
    simp only [TickScheduler.submit, TickScheduler.accept_of_valid hvalid]
    simp only [advance, step, TickScheduler.accept_of_valid hvalid] at hannounce ⊢
    rw [hannounce]

/-- An interrupt that nobody interferes with. -/
theorem advance_interrupting {s : TickScheduler} (h : s.locked = false) :
    advance 2 (s, interrupting) = (s.interrupt, resting) := by
  simp only [advance, step_interrupting h]
  rfl

end Caller

deriving instance DecidableEq for Waiting, Tick

/-- A tick that looks at one queue after the other when it waits for work. -/
inductive Ticker where
  | acting (t : Tick)
  /-- About to look at the queues that are left; `found` is the first run time in the others. -/
  | looking (seen now : Nat) (left : List QueueSlot) (found : Option Nat)
  deriving DecidableEq

namespace Ticker

def step (s : TickScheduler) : Ticker → TickScheduler × Ticker
  | acting (.waiting (.queues seen)) =>
    let (now, clock) := s.clock.now
    ({ s with clock := clock }, looking seen now Scope.everything.queues none)
  | acting t => ((t.step s).1, acting (t.step s).2)
  | looking seen now (slot :: left) found =>
    (s, looking seen now left (QueueSet.earlier found (s.backlog.headRunAt slot)))
  | looking seen now [] none =>
    ({ s with locked := false, notified := false }, acting (.waiting (.sleeping seen now none)))
  | looking seen now [] (some t) =>
    if t ≤ now then ({ s with locked := false }, acting (.waiting (.ended (.ok ()))))
    else ({ s with locked := false, notified := false }, acting (.waiting (.sleeping seen now (some t))))

/-- Several steps with nothing in between. -/
def advance : Nat → TickScheduler × Ticker → TickScheduler × Ticker
  | 0, s => s
  | n + 1, (s, t) => advance n (t.step s)

/-- Whether a wait has just ended because of an interrupt. -/
def hasGivenUp : Ticker → Bool
  | acting (.waiting (.ended (.error .interrupted))) => true
  | _ => false

theorem advance_add (m n : Nat) (s : TickScheduler × Ticker) : advance (m + n) s = advance n (advance m s) := by
  induction m generalizing s with
  | zero => simp [advance]
  | succ m ih => rw [Nat.succ_add]; exact ih _

private theorem advance_looking (s : TickScheduler) (seen now : Nat) (left : List QueueSlot) (found : Option Nat) :
    advance left.length (s, looking seen now left found) =
      (s, looking seen now []
        (left.foldl (fun found slot => QueueSet.earlier found (s.backlog.headRunAt slot)) found)) := by
  induction left generalizing found with
  | nil => rfl
  | cons slot left ih => exact ih _

/-- Looks at the queues that nobody interferes with. -/
theorem advance_queues (s : TickScheduler) (seen : Nat) :
    advance (1 + Scope.everything.queues.length + 1) (s, acting (.waiting (.queues seen))) =
      (((Waiting.queues seen).step s).1, acting (.waiting ((Waiting.queues seen).step s).2)) := by
  rw [advance_add, advance_add]
  show advance 1 (advance _ ({ s with clock := s.clock.now.2 }, looking seen s.clock.now.1 _ none)) = _
  rw [advance_looking]
  simp only [← Backlog.nextRunAt_eq_foldl, advance, Waiting.step]
  cases s.backlog.nextRunAt with
  | none => rfl
  | some t =>
    simp only [step]
    split <;> rfl

end Ticker

structure TickSystem where
  scheduler : TickScheduler
  callers : Nat → Caller
  tick : Ticker
  /-- How many calls have raised the flag. -/
  interrupts : Nat
  /-- How many waits have ended because of an interrupt. -/
  giveUps : Nat

namespace TickSystem

/-- A new scheduler, which nobody uses yet. -/
def start (blocking : Bool) (clock : Clock) (defaultPriority : Priority) : TickSystem where
  scheduler := .start blocking clock defaultPriority
  callers := fun _ => .resting
  tick := .acting (.ended (.ok 0))
  interrupts := 0
  giveUps := 0

def withCaller (s : TickSystem) (i : Nat) (c : Caller) : TickSystem :=
  { s with callers := Function.update s.callers i c }

def withClock (s : TickSystem) (clock : Clock) : TickSystem :=
  { s with scheduler := { s.scheduler with clock := clock } }

/-- A caller goes on with its call. -/
def stepCaller (s : TickSystem) (i : Nat) : TickSystem :=
  let next := (s.callers i).step s.scheduler
  { s with
    scheduler := next.1
    callers := Function.update s.callers i next.2
    interrupts := if (s.callers i).raises s.scheduler then s.interrupts + 1 else s.interrupts }

/-- The tick comes to another phase. -/
def become (s : TickSystem) (next : TickScheduler × Ticker) : TickSystem :=
  { s with
    scheduler := next.1
    tick := next.2
    giveUps := if next.2.hasGivenUp then s.giveUps + 1 else s.giveUps }

/-- The tick goes on. -/
def stepTick (s : TickSystem) : TickSystem := s.become (s.tick.step s.scheduler)

/-- A step of somebody else than the tick. -/
inductive Acts (s : TickSystem) : TickSystem → Prop where
  | submit (i : Nat) (r : Request) : s.callers i = .resting → Acts s (s.withCaller i (.submitting r))
  | cancel (i : Nat) (id : TaskId) : s.callers i = .resting → Acts s (s.withCaller i (.cancelling id .looking))
  | clear (i : Nat) : s.callers i = .resting → Acts s (s.withCaller i (.clearing (.begin .everything)))
  | interrupt (i : Nat) : s.callers i = .resting → Acts s (s.withCaller i .interrupting)
  | caller (i : Nat) : Acts s (s.stepCaller i)
  /-- The clock is refreshed, held or released, or its source moves; what it remembers does not decrease. -/
  | tell (clock : Clock) : s.scheduler.clock.cached ≤ clock.cached → Acts s (s.withClock clock)

/-- A step of the tick.  As it looks at one queue after the other also for what is due, others may have been ahead of
what it takes out, or may have queued something where it has found nothing. -/
inductive Goes (s : TickSystem) : TickSystem → Prop where
  | enter (result : Except Trouble Nat) :
      s.tick = .acting (.ended result) → Goes s (s.become (s.scheduler, .acting .entering))
  | step : Goes s s.stepTick
  | pick (now ran : Nat) (id : TaskId) :
      s.tick = .acting (.picking now ran) → (s.scheduler.backlog.remove id).2 = true →
      Goes s (s.become
        ({ s.scheduler with backlog := (s.scheduler.backlog.remove id).1 }, .acting (.claiming now ran id)))
  | leave (now ran : Nat) :
      s.tick = .acting (.picking now ran) →
      Goes s (s.become ({ s.scheduler with ticking := false }, .acting (.ended (.ok ran))))
  | wait (now ran : Nat) :
      s.tick = .acting (.picking now ran) → Goes s (s.become (s.scheduler, .acting (.waiting .entering)))
  /-- The end of an action. -/
  | finish (now ran : Nat) (id : TaskId) (thread : Option String) (outcome : Option Panic) :
      s.tick = .acting (.running now ran id) →
      Goes s (s.become (((Tick.running now ran id).finish s.scheduler thread outcome).1,
        .acting ((Tick.running now ran id).finish s.scheduler thread outcome).2))
  /-- The end of a sleep: by a wake-up, because the time is over, or without a reason. -/
  | wake (seen since : Nat) (until? : Option Nat) :
      s.tick = .acting (.waiting (.sleeping seen since until?)) →
      Goes s (s.become (((Waiting.sleeping seen since until?).wake s.scheduler).1,
        .acting (.waiting ((Waiting.sleeping seen since until?).wake s.scheduler).2)))

inductive Reachable : TickSystem → Prop where
  | start (blocking : Bool) (clock : Clock) (defaultPriority : Priority) :
      Reachable (start blocking clock defaultPriority)
  | act {s s' : TickSystem} : Reachable s → Acts s s' → Reachable s'
  | go {s s' : TickSystem} : Reachable s → Goes s s' → Reachable s'

/-- A run in which the tick takes so many steps. -/
inductive Run (s : TickSystem) : Nat → TickSystem → Prop where
  | refl : Run s 0 s
  | act {n : Nat} {v v' : TickSystem} : Run s n v → Acts v v' → Run s n v'
  | go {n : Nat} {v v' : TickSystem} : Run s n v → Goes v v' → Run s (n + 1) v'

variable {s s' : TickSystem}

theorem Reachable.iterate (h : s.Reachable) (n : Nat) : (stepTick^[n] s).Reachable := by
  induction n with
  | zero => exact h
  | succ n ih =>
    rw [Function.iterate_succ_apply']
    exact ih.go .step

theorem Run.reachable {n : Nat} {v : TickSystem} (h : s.Run n v) (hs : s.Reachable) : v.Reachable := by
  induction h with
  | refl => exact hs
  | act _ hacts ih => exact ih.act hacts
  | go _ hgoes ih => exact ih.go hgoes

/-- What the step of somebody else amounts to: nothing comes into a queue and nobody is told anything, a task is queued,
or a caller counts an arrival, wakes the tick or raises the flag. -/
inductive Affects (s : TickSystem) : TickSystem → Prop where
  | quiet (backlog : Backlog) (clock : Clock) (callers : Nat → Caller) :
      s.scheduler.backlog.Sheds backlog → s.scheduler.clock.cached ≤ clock.cached →
      (∀ i, (s.callers i).owes = true → callers i = s.callers i) →
      Affects s { s with scheduler := { s.scheduler with backlog := backlog, clock := clock }, callers := callers }
  | lodge (i : Nat) (r : Request) :
      s.callers i = .submitting r →
      Affects s { s with
        scheduler := { s.scheduler with
          backlog := s.scheduler.backlog.enlist s.scheduler.clock.hold.cached r s.scheduler.defaultPriority
          clock := s.scheduler.clock.hold.release }
        callers := Function.update s.callers i (.announcing ⟨s.scheduler.backlog.nextId⟩) }
  | announce (i : Nat) (id : TaskId) :
      s.callers i = .announcing id → s.scheduler.locked = false →
      Affects s { s with scheduler := s.scheduler.announce, callers := Function.update s.callers i (.notifying id) }
  | notify (i : Nat) :
      (∀ id, s.callers i ≠ .announcing id) →
      Affects s { s with scheduler := s.scheduler.notify, callers := Function.update s.callers i .resting }
  | raise (i : Nat) :
      s.callers i = .interrupting → s.scheduler.locked = false →
      Affects s { s with
        scheduler := { s.scheduler with interrupted := true }
        callers := Function.update s.callers i .alerting
        interrupts := s.interrupts + 1 }

theorem Acts.tick_eq (h : s.Acts s') : s'.tick = s.tick := by cases h <;> rfl

theorem Acts.giveUps_eq (h : s.Acts s') : s'.giveUps = s.giveUps := by cases h <;> rfl

/-- A caller that owes nothing may do whatever queues nothing. -/
private theorem affects_quiet (s : TickSystem) {i : Nat} (hi : (s.callers i).owes = false) (c : Caller)
    {backlog : Backlog} {clock : Clock} (hsheds : s.scheduler.backlog.Sheds backlog)
    (hclock : s.scheduler.clock.cached ≤ clock.cached) :
    s.Affects { s with
      scheduler := { s.scheduler with backlog := backlog, clock := clock }
      callers := Function.update s.callers i c } := by
  refine .quiet backlog clock _ hsheds hclock fun j hj => Function.update_of_ne ?_ _ _
  rintro rfl
  rw [hi] at hj
  cases hj

private theorem stepCaller_eq {i : Nat} {c c' : Caller} {t : TickScheduler} (hc : s.callers i = c)
    (hstep : c.step s.scheduler = (t, c')) :
    s.stepCaller i = { s with
      scheduler := t
      callers := Function.update s.callers i c'
      interrupts := if c.raises s.scheduler then s.interrupts + 1 else s.interrupts } := by
  simp only [stepCaller, hc, hstep]

/-- A caller that needs the lock waits for it. -/
private theorem affects_of_locked (hb : s.scheduler.backlog.Kept) {i : Nat} (hlocked : s.scheduler.locked = true)
    (hi : s.callers i = .interrupting ∨ ∃ id, s.callers i = .announcing id) : s.Affects (s.stepCaller i) := by
  have hraises : (s.callers i).raises s.scheduler = false := by
    rcases hi with hc | ⟨id, hc⟩ <;> rw [hc]
    · simp [Caller.raises, hlocked]
    · rfl
  rw [stepCaller_eq rfl (Caller.step_of_locked hlocked hi), hraises, Function.update_eq_self]
  exact .quiet s.scheduler.backlog s.scheduler.clock s.callers (.refl hb) (Nat.le_refl _) fun _ _ => rfl

private theorem affects_stepCaller (hb : s.scheduler.backlog.Kept) (i : Nat) : s.Affects (s.stepCaller i) := by
  cases hc : s.callers i with
  | resting =>
    rw [stepCaller_eq hc rfl]
    exact s.affects_quiet (by rw [hc]; rfl) .resting (.refl hb) (Nat.le_refl _)
  | submitting r =>
    cases hvalid : r.kind.isValid with
    | false =>
      have hstep : (Caller.submitting r).step s.scheduler =
          ({ s.scheduler with clock := s.scheduler.clock.hold.release }, .resting) := by
        simp only [Caller.step, TickScheduler.accept_of_invalid hvalid]
      rw [stepCaller_eq hc hstep]
      exact s.affects_quiet (by rw [hc]; rfl) .resting (.refl hb)
        ((Clock.cached_le_cached_hold _).trans (Clock.cached_le_cached_release _))
    | true =>
      have hstep : (Caller.submitting r).step s.scheduler = ({ s.scheduler with
          backlog := s.scheduler.backlog.enlist s.scheduler.clock.hold.cached r s.scheduler.defaultPriority
          clock := s.scheduler.clock.hold.release }, .announcing ⟨s.scheduler.backlog.nextId⟩) := by
        simp only [Caller.step, TickScheduler.accept_of_valid hvalid]
      rw [stepCaller_eq hc hstep]
      exact .lodge i r hc
  | announcing id =>
    cases hlocked : s.scheduler.locked with
    | true => exact affects_of_locked hb hlocked (.inr ⟨id, hc⟩)
    | false =>
      rw [stepCaller_eq hc (Caller.step_announcing hlocked id)]
      exact .announce i id hc hlocked
  | notifying id =>
    rw [stepCaller_eq hc rfl]
    exact .notify i (by simp [hc])
  | interrupting =>
    cases hlocked : s.scheduler.locked with
    | true => exact affects_of_locked hb hlocked (.inl hc)
    | false =>
      have hraises : Caller.interrupting.raises s.scheduler = true := by simp [Caller.raises, hlocked]
      rw [stepCaller_eq hc (Caller.step_interrupting hlocked), hraises]
      exact .raise i hc hlocked
  | alerting =>
    rw [stepCaller_eq hc rfl]
    exact .notify i (by simp [hc])
  | cancelling id c =>
    have howes : (s.callers i).owes = false := by rw [hc]; rfl
    cases c with
    | ended claimed =>
      rw [stepCaller_eq hc rfl]
      exact s.affects_quiet howes .resting (.refl hb) (Nat.le_refl _)
    | _ =>
      rw [stepCaller_eq hc rfl]
      exact s.affects_quiet howes _ (Cancellation.sheds_step hb id _) (Nat.le_refl _)
  | clearing c =>
    have howes : (s.callers i).owes = false := by rw [hc]; rfl
    cases c with
    | ended claimed =>
      rw [stepCaller_eq hc rfl]
      exact s.affects_quiet howes .resting (.refl hb) (Nat.le_refl _)
    | _ =>
      rw [stepCaller_eq hc rfl]
      exact s.affects_quiet howes _ (Clearance.sheds_step hb .everything _) (Nat.le_refl _)

theorem Acts.affects (h : s.Acts s') (hb : s.scheduler.backlog.Kept) : s.Affects s' := by
  have hbegin {i : Nat} (hc : s.callers i = .resting) (c : Caller) : s.Affects (s.withCaller i c) :=
    s.affects_quiet (by rw [hc]; rfl) c (.refl hb) (Nat.le_refl _)
  cases h with
  | submit i r hc => exact hbegin hc _
  | cancel i id hc => exact hbegin hc _
  | clear i hc => exact hbegin hc _
  | interrupt i hc => exact hbegin hc _
  | caller i => exact affects_stepCaller hb i
  | tell clock hclock => exact .quiet s.scheduler.backlog clock s.callers (.refl hb) hclock fun _ _ => rfl

end TickSystem

end TaskScheduling
