import TaskScheduling.Proofs.Backlog.Accounted
import TaskScheduling.Tick.Pass

/-!
# Sessions with a tick scheduler

A session is a scheduler together with the tick in progress and a record of what has happened.  Callers act when no tick
is in progress, while an action runs, from within it, and while a tick sleeps; the source of time moves whenever it
likes.  `Session.Step` is one step of a session and `Session.Reachable` says that a session has come about by such
steps, with any calls, any actions and any panics in any order.

* `Session.Sound`: the backlog is accounted for, and the tick fits in with it.
* `Session.Reachable.sound`: that is so throughout every session.
-/

namespace TaskScheduling

/-- What a caller may ask of a scheduler, ticks aside. -/
inductive Call where
  | submit (r : Request)
  | cancel (id : TaskId)
  | clear
  | hold
  | release
  | interrupt
  | hasDue
  | now
  | advance (d : Duration)
  | jump (t : Nat)

/-- Whether others may act: no tick is in progress, or it has called an action, or it sleeps. -/
def Tick.isOpen : Tick → Bool
  | .running _ _ _ => true
  | .waiting (.sleeping _ _ _) => true
  | .ended _ => true
  | _ => false

/-- Whether a tick has entered its scheduler and not left it again. -/
def Tick.isInside : Tick → Bool
  | .entering => false
  | .ended _ => false
  | _ => true

/-- One step of a tick.  Nobody else acts between the moment when a task leaves its queue and that when it is
claimed. -/
def Tick.move (s : TickScheduler) (t : Tick) : TickScheduler × Tick :=
  match t.step s with
  | (s, .claiming now ran id) => (Tick.claiming now ran id).step s
  | moved => moved

structure Session where
  scheduler : TickScheduler
  /-- The tick in progress, or the last one; before the first one, a tick that ran nothing. -/
  tick : Tick
  /-- The insertions into the queues, the last one first. -/
  insertions : List TaskId
  /-- The submissions that were accepted, in order. -/
  requests : List Request
  /-- The tasks that the tick has run, the last one first. -/
  invoked : List TaskId

namespace Session

def start (blocking : Bool) (clock : Clock) (defaultPriority : Priority) : Session :=
  ⟨.start blocking clock defaultPriority, .ended (.ok 0), [], [], []⟩

def call (w : Session) : Call → Session
  | .submit r =>
    match w.scheduler.submit r.delay r.kind r.options with
    | (s, .ok id) => { w with scheduler := s, insertions := id :: w.insertions, requests := w.requests ++ [r] }
    | (s, .error _) => { w with scheduler := s }
  | .cancel id => { w with scheduler := (w.scheduler.cancel id).1 }
  | .clear => { w with scheduler := w.scheduler.clear.1 }
  | .hold => { w with scheduler := w.scheduler.hold }
  | .release => { w with scheduler := w.scheduler.release }
  | .interrupt => { w with scheduler := w.scheduler.interrupt }
  | .hasDue => { w with scheduler := w.scheduler.hasDue.1 }
  | .now => { w with scheduler := w.scheduler.now.1 }
  | .advance d => { w with scheduler := { w.scheduler with clock := (w.scheduler.clock.advance d).1 } }
  | .jump t => { w with scheduler := { w.scheduler with clock := w.scheduler.clock.jump t } }

/-- The source of time comes to show `t`. -/
def pass (w : Session) (t : Nat) : Session :=
  { w with scheduler := { w.scheduler with
      clock := { w.scheduler.clock with source := w.scheduler.clock.source.withReading t } } }

def enter (w : Session) : Session := { w with tick := .entering, invoked := [] }

/-- A tick called by an action. -/
def nested (w : Session) : Session := { w with scheduler := (Tick.entering.step w.scheduler).1 }

def proceed (w : Session) : Session :=
  match w.tick.move w.scheduler with
  | (s, .running now ran id) =>
    { w with scheduler := s, tick := .running now ran id, invoked := id :: w.invoked }
  | (s, t) => { w with scheduler := s, tick := t }

/-- The end of the action that is running. -/
def finish (w : Session) (thread : Option String) (outcome : Option Panic) : Session :=
  match w.tick with
  | .running now ran id =>
    let (s, t) := (Tick.running now ran id).finish w.scheduler thread outcome
    let requeued := (w.scheduler.backlog.complete id w.scheduler.clock.now.1).2
    { w with
      scheduler := s
      tick := t
      insertions := if requeued = .ok true then id :: w.insertions else w.insertions }
  | _ => w

/-- The end of a sleep. -/
def wake (w : Session) : Session :=
  match w.tick with
  | .waiting waiting =>
    let (s, waiting) := waiting.wake w.scheduler
    { w with scheduler := s, tick := .waiting waiting }
  | _ => w

inductive Step (w : Session) : Session → Prop where
  | call (c : Call) : w.tick.isOpen = true → Step w (w.call c)
  | pass (t : Nat) : Step w (w.pass t)
  | enter (result : Except Trouble Nat) : w.tick = .ended result → Step w w.enter
  | nested (now ran : Nat) (id : TaskId) : w.tick = .running now ran id → Step w w.nested
  | proceed : w.tick.isOpen = false → Step w w.proceed
  | finish (thread : Option String) (outcome : Option Panic) : Step w (w.finish thread outcome)
  | wake : Step w w.wake

inductive Reachable : Session → Prop where
  | start (blocking : Bool) (clock : Clock) (defaultPriority : Priority) :
      Reachable (start blocking clock defaultPriority)
  | step {w w' : Session} : Reachable w → Step w w' → Reachable w'

theorem tick_call (w : Session) (c : Call) : (w.call c).tick = w.tick := by
  cases c with
  | submit r =>
    simp only [call]
    split <;> rfl
  | _ => rfl

theorem call_submit_of_invalid {w : Session} {r : Request} (hvalid : r.kind.isValid = false) :
    w.call (.submit r) = { w with scheduler := { w.scheduler with clock := w.scheduler.clock.hold.release } } := by
  simp only [call, TickScheduler.submit, TickScheduler.accept_of_invalid hvalid]

theorem call_submit_of_valid {w : Session} {r : Request} (hvalid : r.kind.isValid = true) :
    w.call (.submit r) = { w with
      scheduler := { w.scheduler with
        backlog := w.scheduler.backlog.enlist w.scheduler.clock.hold.cached r w.scheduler.defaultPriority
        clock := w.scheduler.clock.hold.release }.announce.notify
      insertions := ⟨w.scheduler.backlog.nextId⟩ :: w.insertions
      requests := w.requests ++ [r] } := by
  simp only [call, TickScheduler.submit_of_valid hvalid]

theorem blocking_call (w : Session) (c : Call) : (w.call c).scheduler.blocking = w.scheduler.blocking := by
  cases c with
  | submit r =>
    cases hvalid : r.kind.isValid with
    | false => rw [call_submit_of_invalid hvalid]
    | true => rw [call_submit_of_valid hvalid]; rfl
  | _ => rfl

theorem defaultPriority_call (w : Session) (c : Call) :
    (w.call c).scheduler.defaultPriority = w.scheduler.defaultPriority := by
  cases c with
  | submit r =>
    cases hvalid : r.kind.isValid with
    | false => rw [call_submit_of_invalid hvalid]
    | true => rw [call_submit_of_valid hvalid]; rfl
  | _ => rfl

theorem blocking_finish (w : Session) (thread : Option String) (outcome : Option Panic) :
    (w.finish thread outcome).scheduler.blocking = w.scheduler.blocking := by
  unfold finish
  split
  · simp only [Tick.finish]
    split <;> rfl
  · rfl

theorem defaultPriority_finish (w : Session) (thread : Option String) (outcome : Option Panic) :
    (w.finish thread outcome).scheduler.defaultPriority = w.scheduler.defaultPriority := by
  unfold finish
  split
  · simp only [Tick.finish]
    split <;> rfl
  · rfl

theorem requests_finish (w : Session) (thread : Option String) (outcome : Option Panic) :
    (w.finish thread outcome).requests = w.requests := by
  unfold finish
  split <;> rfl

theorem clock_finish {w : Session} {now ran : Nat} {id : TaskId} (htick : w.tick = .running now ran id)
    (thread : Option String) (outcome : Option Panic) :
    (w.finish thread outcome).scheduler.clock = w.scheduler.clock.now.2 := by
  simp only [finish, htick, Tick.finish]
  split <;> rfl

theorem invoked_finish (w : Session) (thread : Option String) (outcome : Option Panic) :
    (w.finish thread outcome).invoked = w.invoked := by
  unfold finish
  split <;> rfl

/-! ### What a session keeps -/

/-- What holds of a tick that has got so far: how many tasks it has run, and that it is in the middle of none but the
one that is running. -/
def Fits (b : Backlog) (invoked : List TaskId) : Tick → Prop
  | .entering => invoked = []
  | .reading => invoked = []
  | .waiting _ => invoked = []
  | .picking _ ran => invoked.length = ran
  | .claiming _ _ _ => False
  | .running _ ran id => invoked.length = ran + 1 ∧ b.IsTaken id ∧ id.index < b.nextId
  | .ended (.ok n) => invoked.length = n
  | .ended (.error trouble) => ∀ fault, trouble ≠ .fault fault

structure Sound (w : Session) : Prop where
  accounted : w.scheduler.backlog.Accounted w.insertions w.requests w.scheduler.defaultPriority
    w.scheduler.clock.cached
  fits : Fits w.scheduler.backlog w.invoked w.tick
  ticking_eq : w.scheduler.ticking = w.tick.isInside

theorem Fits.of_taken {b c : Backlog} {invoked : List TaskId} {t : Tick} (h : Fits b invoked t)
    (htaken : ∀ id, b.IsTaken id → id.index < b.nextId → c.IsTaken id) (hnext : b.nextId ≤ c.nextId) :
    Fits c invoked t := by
  cases t with
  | running now ran id =>
    obtain ⟨hran, hid, hlt⟩ := h
    exact ⟨hran, htaken id hid hlt, by omega⟩
  | ended result => cases result <;> exact h
  | _ => exact h

/-- To `s` and `t` leads a step of the tick that neither runs a task nor ends the tick with a number. -/
structure IsIdle (w : Session) (s : TickScheduler) (t : Tick) : Prop where
  backlog_eq : s.backlog = w.scheduler.backlog
  defaultPriority_eq : s.defaultPriority = w.scheduler.defaultPriority
  cached_le : w.scheduler.clock.cached ≤ s.clock.cached
  fits : Fits w.scheduler.backlog w.invoked t
  ticking_eq : s.ticking = t.isInside
  ne_running (now ran : Nat) (id : TaskId) : t ≠ .running now ran id
  ne_ok (n : Nat) : t ≠ .ended (.ok n)

namespace Sound

variable {w : Session}

protected theorem start (blocking : Bool) (clock : Clock) (defaultPriority : Priority) :
    (Session.start blocking clock defaultPriority).Sound where
  accounted := .empty defaultPriority clock.cached
  fits := rfl
  ticking_eq := rfl

/-- A step that leaves the backlog alone and does not put the clock back. -/
theorem of_clock (h : w.Sound) {s : TickScheduler} (hbacklog : s.backlog = w.scheduler.backlog)
    (hdefault : s.defaultPriority = w.scheduler.defaultPriority) (hticking : s.ticking = w.scheduler.ticking)
    (hcached : w.scheduler.clock.cached ≤ s.clock.cached) : { w with scheduler := s }.Sound where
  accounted := by
    have hmono := h.accounted.mono hcached
    rwa [← hbacklog, ← hdefault] at hmono
  fits := hbacklog ▸ h.fits
  ticking_eq := hticking.trans h.ticking_eq

/-- A step that does no more to the backlog than take tasks away. -/
theorem of_thins (h : w.Sound) {b : Backlog} (hthins : w.scheduler.backlog.Thins b) (htidy : b.Tidy none) :
    { w with scheduler := { w.scheduler with backlog := b } }.Sound where
  accounted := h.accounted.of_thins hthins htidy
  fits := h.fits.of_taken (fun _ hid _ => hthins.isTaken hid) (Nat.le_of_eq hthins.nextId_eq.symm)
  ticking_eq := h.ticking_eq

theorem state_of_nextDue (h : w.Sound) {now : Nat} {lowWait : Option Nat} {id : TaskId}
    (hnext : w.scheduler.backlog.nextDue now lowWait = some id) : (w.scheduler.backlog.task id).state = .pending :=
  h.accounted.tidy.state_of_nextDue hnext

theorem submit (h : w.Sound) (r : Request) : (w.call (.submit r)).Sound := by
  cases hvalid : r.kind.isValid with
  | false =>
    rw [call_submit_of_invalid hvalid]
    exact h.of_clock rfl rfl rfl
      ((Clock.cached_le_cached_hold _).trans (Clock.cached_le_cached_release _))
  | true =>
    have hcached := Clock.cached_le_cached_hold w.scheduler.clock
    have henlist := h.accounted.enlist hcached r
    rw [call_submit_of_valid hvalid]
    refine ⟨henlist.mono (Clock.cached_le_cached_release _), ?_, h.ticking_eq⟩
    refine h.fits.of_taken (fun id hid hlt => ?_) ?_
    · exact Backlog.Accounted.isTaken_enlist hid hlt _ r _
    · show w.scheduler.backlog.nextId ≤ (w.scheduler.backlog.enlist _ r _).nextId
      rw [Backlog.Accounted.nextId_enlist]
      exact Nat.le_succ _

theorem call (h : w.Sound) (c : Call) : (w.call c).Sound := by
  cases c with
  | submit r => exact h.submit r
  | cancel id => exact h.of_thins (Backlog.Thins.cancel _ id) (h.accounted.tidy.cancel id)
  | clear => exact h.of_thins (Backlog.Thins.clear _ .everything) (h.accounted.tidy.clear .everything)
  | hold => exact h.of_clock rfl rfl rfl (Clock.cached_le_cached_hold _)
  | release => exact h.of_clock rfl rfl rfl (Clock.cached_le_cached_release _)
  | interrupt => exact h.of_clock rfl rfl rfl (Nat.le_refl _)
  | hasDue => exact h.of_clock rfl rfl rfl (Clock.cached_le_cached_now _)
  | now => exact h.of_clock rfl rfl rfl (Clock.cached_le_cached_now _)
  | advance d => exact h.of_clock rfl rfl rfl (Nat.le_refl _)
  | jump t => exact h.of_clock rfl rfl rfl (Nat.le_refl _)

theorem pass (h : w.Sound) (t : Nat) : (w.pass t).Sound := h.of_clock rfl rfl rfl (Nat.le_refl _)

theorem enter (h : w.Sound) {result : Except Trouble Nat} (htick : w.tick = .ended result) : w.enter.Sound where
  accounted := h.accounted
  fits := rfl
  ticking_eq := by
    have hticking := h.ticking_eq
    rwa [htick] at hticking

/-- A tick called by an action breaks off, and changes nothing. -/
theorem step_entering (h : w.Sound) {now ran : Nat} {id : TaskId} (htick : w.tick = .running now ran id) :
    Tick.entering.step w.scheduler = (w.scheduler, .ended (.error (.fault .nestedTick))) := by
  have hticking : w.scheduler.ticking = true := by rw [h.ticking_eq, htick]; rfl
  simp only [Tick.step, hticking, ↓reduceIte]

theorem nested (h : w.Sound) {now ran : Nat} {id : TaskId} (htick : w.tick = .running now ran id) :
    w.nested = w := by
  rw [Session.nested, h.step_entering htick]

/-! ### Steps of the tick -/

/-- What is due is taken out and run. -/
theorem proceed_of_some (h : w.Sound) {now ran : Nat} {id : TaskId} (htick : w.tick = .picking now ran)
    (hnext : w.scheduler.backlog.nextDue now none = some id) :
    w.proceed = { w with
      scheduler := { w.scheduler with backlog := w.scheduler.backlog.launch id }
      tick := .running now ran id
      invoked := id :: w.invoked } := by
  have hpop := Backlog.popDue_eq_nextDue h.accounted.tidy.toKept now
  rw [hnext, Option.map_some] at hpop
  have hpending := h.state_of_nextDue hnext
  have hbegin := Backlog.begin_unlink hpending
  simp only [Session.proceed, htick, Tick.move, Tick.step, hpop, hbegin]
  rfl

private theorem proceed_of_step {s : TickScheduler} {t : Tick} (hstep : w.tick.step w.scheduler = (s, t))
    (hclaim : ∀ now ran id, t ≠ .claiming now ran id) (hrun : ∀ now ran id, t ≠ .running now ran id) :
    w.proceed = { w with scheduler := s, tick := t } := by
  have hmove : w.tick.move w.scheduler = (s, t) := by
    unfold Tick.move
    rw [hstep]
    cases t <;> first | rfl | exact absurd rfl (hclaim _ _ _)
  unfold Session.proceed
  rw [hmove]
  cases t <;> first | rfl | exact absurd rfl (hrun _ _ _)

/-- A tick enters its scheduler. -/
theorem proceed_of_entering (h : w.Sound) (htick : w.tick = .entering) :
    w.proceed = { w with scheduler := { w.scheduler with ticking := true }, tick := .reading } := by
  have hticking := h.ticking_eq
  rw [htick] at hticking
  have hstep : w.tick.step w.scheduler = ({ w.scheduler with ticking := true }, .reading) := by
    simp only [htick, Tick.step, hticking, Tick.isInside, Bool.false_eq_true, ↓reduceIte]
  exact proceed_of_step hstep (by simp) (by simp)

/-- A tick takes its snapshot. -/
theorem proceed_of_reading (htick : w.tick = .reading) :
    w.proceed = { w with
      scheduler := { w.scheduler with clock := w.scheduler.clock.now.2 }
      tick := .picking w.scheduler.clock.now.1 0 } := by
  have hstep : w.tick.step w.scheduler =
      ({ w.scheduler with clock := w.scheduler.clock.now.2 }, .picking w.scheduler.clock.now.1 0) := by
    simp only [htick, Tick.step]
  exact proceed_of_step hstep (by simp) (by simp)

/-- Where nothing is due, the tick ends; or it waits, if it has run nothing and may wait. -/
theorem proceed_of_none (h : w.Sound) {now ran : Nat} (htick : w.tick = .picking now ran)
    (hnext : w.scheduler.backlog.nextDue now none = none) :
    w.proceed = if ran > 0 || !w.scheduler.blocking then
      { w with scheduler := { w.scheduler with ticking := false }, tick := .ended (.ok ran) }
    else { w with tick := .waiting .entering } := by
  have hpop := Backlog.popDue_eq_nextDue h.accounted.tidy.toKept now
  rw [hnext, Option.map_none] at hpop
  by_cases hend : (ran > 0 || !w.scheduler.blocking) = true
  · have hstep : w.tick.step w.scheduler = ({ w.scheduler with ticking := false }, .ended (.ok ran)) := by
      simp only [htick, Tick.step, hpop, hend, ↓reduceIte]
      rfl
    rw [if_pos hend]
    exact proceed_of_step hstep (by simp) (by simp)
  · have hstep : w.tick.step w.scheduler = (w.scheduler, .waiting .entering) := by
      simp only [htick, Tick.step, hpop, hend]
      rfl
    rw [if_neg hend]
    exact proceed_of_step hstep (by simp) (by simp)

/-- A tick that does not wait ends in any case. -/
theorem proceed_of_none_of_not_blocking (h : w.Sound) (hblocking : w.scheduler.blocking = false) {now ran : Nat}
    (htick : w.tick = .picking now ran) (hnext : w.scheduler.backlog.nextDue now none = none) :
    w.proceed = { w with scheduler := { w.scheduler with ticking := false }, tick := .ended (.ok ran) } := by
  rw [h.proceed_of_none htick hnext, hblocking, Bool.not_false, Bool.or_true, if_pos rfl]

theorem of_idle (h : w.Sound) {s : TickScheduler} {t : Tick} (hidle : w.IsIdle s t) :
    { w with scheduler := s, tick := t }.Sound where
  accounted := by
    have hmono := h.accounted.mono hidle.cached_le
    rwa [← hidle.backlog_eq, ← hidle.defaultPriority_eq] at hmono
  fits := hidle.backlog_eq ▸ hidle.fits
  ticking_eq := hidle.ticking_eq

/-- What a step of a waiting tick does to its scheduler concerns neither the backlog nor other ticks. -/
private theorem step_waiting (s : TickScheduler) (waiting : Waiting) :
    (waiting.step s).1.backlog = s.backlog ∧ (waiting.step s).1.defaultPriority = s.defaultPriority ∧
      s.clock.cached ≤ (waiting.step s).1.clock.cached ∧ (waiting.step s).1.ticking = s.ticking := by
  cases waiting with
  | entering => exact ⟨rfl, rfl, Nat.le_refl _, rfl⟩
  | flags seen =>
    simp only [Waiting.step]
    split
    · exact ⟨rfl, rfl, Nat.le_refl _, rfl⟩
    · split <;> exact ⟨rfl, rfl, Nat.le_refl _, rfl⟩
  | queues seen =>
    have hcached := Clock.cached_le_cached_now s.clock
    simp only [Waiting.step]
    split
    · exact ⟨rfl, rfl, hcached, rfl⟩
    · split <;> exact ⟨rfl, rfl, hcached, rfl⟩
  | sleeping seen since until? => exact ⟨rfl, rfl, Nat.le_refl _, rfl⟩
  | ended result => exact ⟨rfl, rfl, Nat.le_refl _, rfl⟩

private theorem step_of_waiting (s : TickScheduler) {waiting : Waiting} (h : ∀ result, waiting ≠ .ended result) :
    (Tick.waiting waiting).step s = ((waiting.step s).1, .waiting (waiting.step s).2) := by
  cases waiting with
  | ended result => exact absurd rfl (h result)
  | _ => rfl

/-- What a step of the tick can be: it runs the next task, it ends the tick, or it does nothing to the tasks. -/
theorem proceed_cases (h : w.Sound) (hopen : w.tick.isOpen = false) :
    (∃ now ran id, w.tick = .picking now ran ∧ w.scheduler.backlog.nextDue now none = some id ∧
      w.proceed = { w with
        scheduler := { w.scheduler with backlog := w.scheduler.backlog.launch id }
        tick := .running now ran id
        invoked := id :: w.invoked }) ∨
    (∃ now ran, w.tick = .picking now ran ∧ w.scheduler.backlog.nextDue now none = none ∧
      w.proceed = { w with scheduler := { w.scheduler with ticking := false }, tick := .ended (.ok ran) }) ∨
    ∃ s t, w.IsIdle s t ∧ w.proceed = { w with scheduler := s, tick := t } := by
  have hticking := h.ticking_eq
  have hfits := h.fits
  -- all but one of the phases are left without a look at the tasks
  have hidle {s : TickScheduler} {t : Tick} (hstep : w.tick.step w.scheduler = (s, t)) (hs : w.IsIdle s t)
      (hclaim : ∀ now ran id, t ≠ .claiming now ran id) :
      ∃ s t, w.IsIdle s t ∧ w.proceed = { w with scheduler := s, tick := t } :=
    ⟨s, t, hs, proceed_of_step hstep hclaim hs.ne_running⟩
  cases htick : w.tick with
  | entering =>
    rw [htick] at hticking hfits
    have hstep : w.tick.step w.scheduler = ({ w.scheduler with ticking := true }, .reading) := by
      simp only [htick, Tick.step, hticking, Tick.isInside, Bool.false_eq_true, ↓reduceIte]
    exact .inr (.inr (hidle hstep ⟨rfl, rfl, Nat.le_refl _, hfits, rfl, by simp, by simp⟩ (by simp)))
  | reading =>
    rw [htick] at hticking hfits
    have hstep : w.tick.step w.scheduler =
        ({ w.scheduler with clock := w.scheduler.clock.now.2 }, .picking w.scheduler.clock.now.1 0) := by
      simp only [htick, Tick.step]
    have hcached := Clock.cached_le_cached_now w.scheduler.clock
    have hran : w.invoked.length = 0 := List.length_eq_zero_iff.2 hfits
    exact .inr (.inr (hidle hstep ⟨rfl, rfl, hcached, hran, hticking, by simp, by simp⟩ (by simp)))
  | picking now ran =>
    rw [htick] at hticking hfits
    cases hnext : w.scheduler.backlog.nextDue now none with
    | some id => exact .inl ⟨now, ran, id, rfl, hnext, h.proceed_of_some htick hnext⟩
    | none =>
      have hproceed := h.proceed_of_none htick hnext
      by_cases hend : (ran > 0 || !w.scheduler.blocking) = true
      · rw [if_pos hend] at hproceed
        exact .inr (.inl ⟨now, ran, rfl, hnext, hproceed⟩)
      · have hran : ran = 0 := by simp at hend; omega
        have hinvoked : w.invoked = [] := List.length_eq_zero_iff.1 (hfits.trans hran)
        rw [if_neg hend] at hproceed
        have hwaiting : w.IsIdle w.scheduler (.waiting .entering) :=
          ⟨rfl, rfl, Nat.le_refl _, hinvoked, hticking, by simp, by simp⟩
        exact .inr (.inr ⟨_, _, hwaiting, hproceed⟩)
  | claiming now ran id => rw [htick] at hfits; exact hfits.elim
  | running now ran id => rw [htick] at hopen; cases hopen
  | waiting waiting =>
    rw [htick] at hticking hfits
    refine .inr (.inr ?_)
    by_cases hended : ∃ result, waiting = .ended result
    · obtain ⟨result, rfl⟩ := hended
      cases result with
      | ok _ =>
        have hstep : w.tick.step w.scheduler = (w.scheduler, .reading) := by simp only [htick, Tick.step]
        exact hidle hstep ⟨rfl, rfl, Nat.le_refl _, hfits, hticking, by simp, by simp⟩ (by simp)
      | error cause =>
        have hstep : w.tick.step w.scheduler =
            ({ w.scheduler with ticking := false }, .ended (.error (.error cause))) := by
          simp only [htick, Tick.step]
          rfl
        exact hidle hstep ⟨rfl, rfl, Nat.le_refl _, by simp [Fits], rfl, by simp, by simp⟩ (by simp)
    · have hstep := step_of_waiting w.scheduler fun result heq => hended ⟨result, heq⟩
      obtain ⟨hbacklog, hdefault, hcached, hsame⟩ := step_waiting w.scheduler waiting
      rw [← htick] at hstep
      exact hidle hstep ⟨hbacklog, hdefault, hcached, hfits, hsame.trans hticking, by simp, by simp⟩ (by simp)
  | ended result => rw [htick] at hopen; cases hopen

theorem proceed (h : w.Sound) (hopen : w.tick.isOpen = false) : w.proceed.Sound := by
  have hticking := h.ticking_eq
  have hfits := h.fits
  rcases h.proceed_cases hopen with ⟨now, ran, id, htick, hnext, hw⟩ | ⟨now, ran, htick, -, hw⟩ | ⟨s, t, hidle, hw⟩ <;>
    rw [hw]
  · rw [htick] at hticking hfits
    have hpending := h.state_of_nextDue hnext
    have hlaunch := h.accounted.launch hpending
    refine ⟨hlaunch, ⟨?_, Backlog.Accounted.isTaken_launch hpending, ?_⟩, hticking⟩
    · rw [List.length_cons, hfits]
    · rw [hlaunch.nextId_eq, ← h.accounted.nextId_eq]
      exact h.accounted.tidy.index_lt (by simp [hpending])
  · rw [htick] at hfits
    exact ⟨h.accounted, hfits, rfl⟩
  · exact h.of_idle hidle

/-- The action of a task ends; the task is settled, and then the tick goes on or breaks off. -/
theorem finish (h : w.Sound) (thread : Option String) (outcome : Option Panic) : (w.finish thread outcome).Sound := by
  cases htick : w.tick with
  | running now ran id =>
    have hfits := h.fits
    have hticking := h.ticking_eq
    rw [htick] at hfits hticking
    obtain ⟨hran, htaken, hlt⟩ := hfits
    have hmono := h.accounted.mono (Clock.cached_le_cached_now w.scheduler.clock)
    obtain ⟨hcomplete, hfault⟩ := hmono.complete htaken hlt w.scheduler.clock.now.1
    simp only [Session.finish, htick, Tick.finish]
    cases hresult : (w.scheduler.backlog.complete id w.scheduler.clock.now.1).2 with
    | error fault => exact absurd hresult (hfault fault)
    | ok requeued =>
      rw [hresult] at hcomplete
      cases outcome with
      | some panic => exact ⟨hcomplete, fun _ heq => Trouble.noConfusion heq, rfl⟩
      | none => exact ⟨hcomplete, hran, hticking⟩
  | _ =>
    simp only [Session.finish, htick]
    exact h

theorem wake (h : w.Sound) : w.wake.Sound := by
  cases htick : w.tick with
  | waiting waiting =>
    have hfits := h.fits
    have hticking := h.ticking_eq
    rw [htick] at hfits hticking
    simp only [Session.wake, htick]
    cases waiting with
    | sleeping seen since until? => exact ⟨h.accounted, hfits, hticking⟩
    | _ => exact ⟨h.accounted, hfits, hticking⟩
  | _ =>
    simp only [Session.wake, htick]
    exact h

/-- Every step keeps a session sound. -/
theorem step (h : w.Sound) {w' : Session} (hstep : w.Step w') : w'.Sound := by
  cases hstep with
  | call c _ => exact h.call c
  | pass t => exact h.pass t
  | enter result htick => exact h.enter htick
  | nested now ran id htick => rw [h.nested htick]; exact h
  | proceed hopen => exact h.proceed hopen
  | finish thread outcome => exact h.finish thread outcome
  | wake => exact h.wake

end Sound

theorem Reachable.sound {w : Session} (h : w.Reachable) : w.Sound := by
  induction h with
  | start blocking clock defaultPriority => exact .start blocking clock defaultPriority
  | step _ hstep ih => exact ih.step hstep

end Session

end TaskScheduling
