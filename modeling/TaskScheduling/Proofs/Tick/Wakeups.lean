import TaskScheduling.Proofs.Tick.Waits

/-!
# No wake-up is lost

A tick that sleeps for want of work has looked at all queues before, one after the other.  A task that it has not seen
there was queued by a submission which cannot count its arrival before the tick lets go of its lock, and which wakes the
tick afterwards (`TickSystem.Vigilant`).  A flag that is up while the tick sleeps was raised by an interrupt which wakes
the tick next; so the flag may be up for a while in its sleep (`TickSystem.flag_up_asleep`).

Main statement: `TickSystem.Reachable.attentive`.
-/

namespace TaskScheduling

/-- Whether somebody who sleeps until then, or for good, is up by `t`. -/
def IsUpBy (until? : Option Nat) (t : Nat) : Prop := ∃ u, until? = some u ∧ u ≤ t

/-- For a tick that sleeps, or is about to: the queues that it has not looked at yet, and the first run time in the
others. -/
def Ticker.outlook : Ticker → Option (List QueueSlot × Option Nat)
  | looking _ _ left found => some (left, found)
  | acting (.waiting (.sleeping _ _ until?)) => some ([], until?)
  | _ => none

theorem Ticker.outlook_eq_none {t : Ticker} (h : t.isOutside = true) : t.outlook = none := by
  cases t with
  | looking _ _ _ _ => cases h
  | acting t =>
    cases t with
    | waiting w => cases w <;> first | rfl | cases h
    | _ => rfl

namespace TickSystem

variable {s s' : TickSystem}

/-- Whether a wake-up has reached the tick in its sleep. -/
def isRoused (s : TickSystem) : Bool := !s.scheduler.locked && s.scheduler.notified

/-- The submission that has queued the task has yet to tell the tick about it.  It counts the arrival when the lock is
free. -/
def IsDue (s : TickSystem) (id : TaskId) : Prop :=
  ∃ i, s.callers i = .announcing id ∨ s.callers i = .notifying id ∧ s.scheduler.locked = false

structure Vigilant (s : TickSystem) : Prop where
  seen (left : List QueueSlot) (until? : Option Nat) :
    s.tick.outlook = some (left, until?) → s.isRoused = false →
    ∀ slot ∉ left, ∀ id ∈ s.scheduler.backlog.queue slot,
      IsUpBy until? (s.scheduler.backlog.task id).runAt ∨ s.IsDue id
  alerted : s.tick.outlook.isSome = true → s.scheduler.locked = false → s.scheduler.notified = false →
    s.scheduler.interrupted = true → ∃ i, s.callers i = .alerting

/-- What is in a queue after a submission is new, or was there before. -/
private theorem mem_queue_enlist {b : Backlog} {insertions : List TaskId} {t now : Nat} (h : b.Orderly insertions t)
    (hnow : t ≤ now) {r : Request} {p : Priority} {slot : QueueSlot} {id : TaskId}
    (hid : id ∈ (b.enlist now r p).queue slot) :
    id = ⟨b.nextId⟩ ∨ id ∈ b.queue slot ∧ (b.enlist now r p).task id = b.task id := by
  by_cases hnew : id = ⟨b.nextId⟩
  · exact .inl hnew
  · have htask : (b.enlist now r p).task id = b.task id := by rw [Backlog.Accounted.task_enlist, if_neg hnew]
    rw [(h.enlist hnow r p).mem_queue_iff, htask, ← h.mem_queue_iff] at hid
    exact .inr ⟨hid, htask⟩

namespace Vigilant

theorem of_outlook_eq_none (h : s.tick.outlook = none) : s.Vigilant where
  seen left until? houtlook := by
    rw [h] at houtlook
    cases houtlook
  alerted houtlook := by
    rw [h] at houtlook
    cases houtlook

/-- Nothing that a caller does escapes a tick that holds its lock or sleeps. -/
theorem act (h : s.Vigilant) (hs : s.Sound) (hacts : s.Acts s') : s'.Vigilant := by
  obtain ⟨insertions, horderly⟩ := hs.fits.orderly
  -- the others stay where they are
  have hstays {i j : Nat} {c d : Caller} (hj : s.callers j = d) (hne : s.callers i ≠ d) :
      Function.update s.callers i c j = d := by
    rw [Function.update_of_ne, hj]
    rintro rfl
    exact hne hj
  cases hacts.affects horderly.toKept with
  | quiet backlog clock callers hsheds _ howes =>
    have hsame {i : Nat} {c : Caller} (hi : s.callers i = c) (hc : c.owes = true) : callers i = c := by
      rw [howes i (by rw [hi]; exact hc), hi]
    refine ⟨fun left until? houtlook hroused slot hslot id hid => ?_, fun houtlook hfree hwoken hflag => ?_⟩
    · show IsUpBy until? (backlog.task id).runAt ∨ _
      rw [hsheds.runAt_eq slot id hid]
      have hbefore := (hsheds.queue_sublist slot).subset hid
      refine (h.seen left until? houtlook hroused slot hslot id hbefore).imp_right ?_
      exact fun ⟨i, hi⟩ => ⟨i, hi.imp (hsame · rfl) fun ⟨hi, hfree⟩ => ⟨hsame hi rfl, hfree⟩⟩
    · obtain ⟨i, hi⟩ := h.alerted houtlook hfree hwoken hflag
      exact ⟨i, hsame hi rfl⟩
  | lodge i r hi =>
    refine ⟨fun left until? houtlook hroused slot hslot id hid => ?_, fun houtlook hfree hwoken hflag => ?_⟩
    · rcases mem_queue_enlist horderly (Clock.cached_le_cached_hold _) hid with rfl | ⟨hbefore, htask⟩
      · exact .inr ⟨i, .inl (Function.update_self ..)⟩
      · show IsUpBy until? ((s.scheduler.backlog.enlist _ r _).task id).runAt ∨ _
        rw [htask]
        refine (h.seen left until? houtlook hroused slot hslot id hbefore).imp_right ?_
        exact fun ⟨j, hj⟩ => ⟨j, hj.imp (hstays · (by simp [hi])) fun ⟨hj, hfree⟩ => ⟨hstays hj (by simp [hi]), hfree⟩⟩
    · obtain ⟨j, hj⟩ := h.alerted houtlook hfree hwoken hflag
      exact ⟨j, hstays hj (by simp [hi])⟩
  | announce i id hi hfree =>
    refine ⟨fun left until? houtlook hroused slot hslot id' hid => ?_, fun houtlook _ hwoken hflag => ?_⟩
    · refine (h.seen left until? houtlook hroused slot hslot id' hid).imp_right ?_
      rintro ⟨j, hj | ⟨hj, -⟩⟩
      · -- either the arrival of this task is counted now, or it is that of another
        by_cases hsame : id = id'
        · exact ⟨i, .inr ⟨by rw [← hsame]; exact Function.update_self .., hfree⟩⟩
        · exact ⟨j, .inl (hstays hj (by simp [hi, hsame]))⟩
      · exact ⟨j, .inr ⟨hstays hj (by simp [hi]), hfree⟩⟩
    · obtain ⟨j, hj⟩ := h.alerted houtlook hfree hwoken hflag
      exact ⟨j, hstays hj (by simp [hi])⟩
  | notify i hi =>
    -- a wake-up that does not reach a sleeper comes while the tick holds its lock
    have hlocked (hroused : isRoused { s with
        scheduler := s.scheduler.notify, callers := Function.update s.callers i .resting } = false) :
        s.scheduler.locked = true := by simpa [isRoused, TickScheduler.notify] using hroused
    refine ⟨fun left until? houtlook hroused slot hslot id hid => ?_, fun houtlook hfree hwoken hflag => ?_⟩
    · have hbefore : s.isRoused = false := by simp [isRoused, hlocked hroused]
      refine (h.seen left until? houtlook hbefore slot hslot id hid).imp_right ?_
      rintro ⟨j, hj | ⟨-, hfree⟩⟩
      · exact ⟨j, .inl (hstays hj (hi id))⟩
      · rw [hlocked hroused] at hfree
        cases hfree
    · cases hwoken
  | raise i hi hfree =>
    refine ⟨fun left until? houtlook hroused slot hslot id hid => ?_, fun _ _ _ _ => ⟨i, Function.update_self ..⟩⟩
    refine (h.seen left until? houtlook hroused slot hslot id hid).imp_right ?_
    exact fun ⟨j, hj⟩ => ⟨j, hj.imp (hstays · (by simp [hi])) fun ⟨hj, hfree⟩ => ⟨hstays hj (by simp [hi]), hfree⟩⟩

/-- A tick that goes to sleep has looked at all queues, and while it has its lock nobody counts an arrival. -/
theorem go (h : s.Vigilant) (hs : s.Sound) (hgoes : s.Goes s') : s'.Vigilant := by
  obtain ⟨scheduler, t, rfl, hmoves⟩ := hgoes.moves hs
  obtain ⟨insertions, horderly⟩ := hs.fits.orderly
  have hlocked := hs.locked_eq
  cases hmoves with
  | work _ _ _ ht _ _ _ _ => exact of_outlook_eq_none (Ticker.outlook_eq_none ht)
  | turn seen now clock htick _ =>
    rw [htick] at hlocked
    refine ⟨fun left until? houtlook _ slot hslot => ?_, fun _ hfree => ?_⟩
    · -- it has not looked at any queue yet
      obtain ⟨rfl, rfl⟩ := Prod.mk.inj (Option.some.inj houtlook)
      obtain ⟨p, kind⟩ := slot
      exact absurd (by cases p <;> cases kind <;> decide) hslot
    · cases hlocked.symm.trans hfree
  | look seen now slot left found htick =>
    have houtlook : s.tick.outlook = some (slot :: left, found) := by rw [htick]; rfl
    rw [htick] at hlocked
    refine ⟨fun left' until? houtlook' hroused other hother id hid => ?_, fun _ hfree => ?_⟩
    · obtain ⟨rfl, rfl⟩ := Prod.mk.inj (Option.some.inj houtlook')
      by_cases hsame : other = slot
      · subst hsame
        exact .inl (QueueSet.exists_earlier (.inr (horderly.exists_headRunAt hid)))
      · have hleft : other ∉ slot :: left := by simpa [hsame] using hother
        refine (h.seen _ found houtlook hroused other hleft id hid).imp_left ?_
        exact fun hearlier => QueueSet.exists_earlier (.inl hearlier)
    · cases hlocked.symm.trans hfree
  | doze seen now found htick =>
    have houtlook : s.tick.outlook = some ([], found) := by rw [htick]; rfl
    have hflag : s.scheduler.interrupted = false := hs.flag_down (by rw [htick]; rfl)
    rw [htick] at hlocked
    refine ⟨fun left until? houtlook' _ slot hslot id hid => ?_, fun _ _ _ hup => ?_⟩
    · obtain ⟨rfl, rfl⟩ := Prod.mk.inj (Option.some.inj houtlook')
      refine (h.seen [] found houtlook (by simp [isRoused, hlocked, Ticker.holdsLock]) slot hslot id hid).imp_right ?_
      exact fun ⟨i, hi⟩ => ⟨i, hi.imp_right fun ⟨hi, _⟩ => ⟨hi, rfl⟩⟩
    · cases hflag.symm.trans hup
  | sleep seen since until? htick =>
    have houtlook : s.tick.outlook = some ([], until?) := by rw [htick]; rfl
    refine ⟨fun left until?' houtlook' hroused => ?_, fun _ => h.alerted (by rw [houtlook]; rfl)⟩
    exact h.seen left until?' (houtlook.trans houtlook') hroused
  | _ => exact of_outlook_eq_none rfl

end Vigilant

theorem Reachable.vigilant (h : s.Reachable) : s.Vigilant := by
  induction h with
  | start blocking clock defaultPriority => exact .of_outlook_eq_none rfl
  | act hs hacts ih => exact ih.act hs.sound hacts
  | go hs hgoes ih => exact ih.go hs.sound hgoes

/-! ### The flag -/

/-- A caller may raise the flag, but nobody except the tick takes it down. -/
theorem Acts.flag (hacts : s.Acts s') (hs : s.Sound) :
    s'.giveUps = s.giveUps ∧
      (s'.scheduler.interrupted = s.scheduler.interrupted ∧ s'.interrupts = s.interrupts ∨
        s'.scheduler.interrupted = true ∧ s'.interrupts = s.interrupts + 1) := by
  obtain ⟨insertions, horderly⟩ := hs.fits.orderly
  refine ⟨hacts.giveUps_eq, ?_⟩
  cases hacts.affects horderly.toKept with
  | raise i _ _ => exact .inr ⟨rfl, rfl⟩
  | _ => exact .inl ⟨rfl, rfl⟩

/-- The tick takes the flag down when it ends a wait because of it. -/
theorem Goes.flag (hgoes : s.Goes s') (hs : s.Sound) :
    s'.interrupts = s.interrupts ∧
      (s'.scheduler.interrupted = s.scheduler.interrupted ∧ s'.giveUps = s.giveUps ∨
        s.scheduler.interrupted = true ∧ s'.scheduler.interrupted = false ∧ s'.giveUps = s.giveUps + 1) := by
  obtain ⟨scheduler, t, rfl, hmoves⟩ := hgoes.moves hs
  refine ⟨rfl, ?_⟩
  cases hmoves with
  | work _ _ _ _ hgiven _ _ hflag => exact .inl ⟨hflag, by simp [become, hgiven]⟩
  | giveUp seen _ hflag => exact .inr ⟨hflag, rfl, rfl⟩
  | _ => exact .inl ⟨rfl, rfl⟩

/-- Every wait that has ended because of an interrupt has used one up, and so will the next one where the flag is up. -/
theorem Reachable.giveUps_add_le (h : s.Reachable) :
    s.giveUps + (if s.scheduler.interrupted then 1 else 0) ≤ s.interrupts := by
  induction h with
  | start blocking clock defaultPriority => exact Nat.le_refl 0
  | act hs hacts ih =>
    obtain ⟨hgiveUps, ⟨hflag, hinterrupts⟩ | ⟨hflag, hinterrupts⟩⟩ := hacts.flag hs.sound
    · rwa [hgiveUps, hflag, hinterrupts]
    · rw [hgiveUps, hflag, hinterrupts, if_pos rfl]
      omega
  | go hs hgoes ih =>
    obtain ⟨hinterrupts, ⟨hflag, hgiveUps⟩ | ⟨hup, hdown, hgiveUps⟩⟩ := hgoes.flag hs.sound
    · rwa [hgiveUps, hflag, hinterrupts]
    · rw [hup, if_pos rfl] at ih
      rw [hgiveUps, hdown, hinterrupts]
      simpa using ih

/-- A flag that is up stays up until a wait ends because of it. -/
theorem Run.flag {n : Nat} {v : TickSystem} (h : s.Run n v) (hs : s.Reachable) (hup : s.scheduler.interrupted = true) :
    s.giveUps < v.giveUps ∨ s.giveUps = v.giveUps ∧ v.scheduler.interrupted = true := by
  induction h with
  | refl => exact .inr ⟨rfl, hup⟩
  | act hrun hacts ih =>
    obtain ⟨hgiveUps, hflag⟩ := hacts.flag (hrun.reachable hs).sound
    rw [hgiveUps]
    refine ih.imp_right fun ⟨hsame, hv⟩ => ⟨hsame, ?_⟩
    rcases hflag with ⟨hflag, -⟩ | ⟨hflag, -⟩
    · exact hflag.trans hv
    · exact hflag
  | go hrun hgoes ih =>
    obtain ⟨-, ⟨hflag, hgiveUps⟩ | ⟨-, -, hgiveUps⟩⟩ := hgoes.flag (hrun.reachable hs).sound
    · rw [hgiveUps, hflag]
      exact ih
    · left
      omega

/-- The first step of a wait takes the lock. -/
private theorem Moves.of_entering {scheduler : TickScheduler} {t : Ticker} (h : s.Moves scheduler t)
    (htick : s.tick = .acting (.waiting .entering)) :
    (∃ seen, t = .acting (.waiting (.flags seen))) ∧ scheduler.interrupted = s.scheduler.interrupted := by
  cases h with
  | lock seen _ => exact ⟨⟨seen, rfl⟩, rfl⟩
  | _ => simp_all [Ticker.isOutside, Ticker.holdsLock]

/-- The second one ends it, if the flag is up. -/
private theorem Moves.of_flags {scheduler : TickScheduler} {t : Ticker} (h : s.Moves scheduler t) {seen : Nat}
    (htick : s.tick = .acting (.waiting (.flags seen))) (hup : s.scheduler.interrupted = true) :
    t = .acting (.waiting (.ended (.error .interrupted))) := by
  cases h with
  | giveUp seen _ _ => rfl
  | _ => simp_all [Ticker.isOutside]

/-- How far a wait has got that began with the flag up, after so many steps of the tick. -/
def HeadsOut (v : TickSystem) : Nat → Prop
  | 0 => v.tick = .acting (.waiting .entering) ∧ v.scheduler.interrupted = true
  | 1 => (∃ seen, v.tick = .acting (.waiting (.flags seen))) ∧ v.scheduler.interrupted = true
  | 2 => v.tick = .acting (.waiting (.ended (.error .interrupted)))
  | _ => True

theorem Run.headsOut {n : Nat} {v : TickSystem} (h : s.Run n v) (hs : s.Reachable) (hstart : s.HeadsOut 0) :
    v.HeadsOut n := by
  induction h with
  | refl => exact hstart
  | @act n v v' hrun hacts ih =>
    have htick := hacts.tick_eq
    have hflag (hup : v.scheduler.interrupted = true) : v'.scheduler.interrupted = true := by
      rcases (hacts.flag (hrun.reachable hs).sound).2 with ⟨hflag, -⟩ | ⟨hflag, -⟩
      · exact hflag.trans hup
      · exact hflag
    match n, ih with
    | 0, ih => exact ⟨htick.trans ih.1, hflag ih.2⟩
    | 1, ih => exact ⟨ih.1.imp fun _ hseen => htick.trans hseen, hflag ih.2⟩
    | 2, ih => exact htick.trans ih
    | _ + 3, _ => trivial
  | @go n v v' hrun hgoes ih =>
    obtain ⟨scheduler, t, rfl, hmoves⟩ := hgoes.moves (hrun.reachable hs).sound
    match n, ih with
    | 0, ih =>
      obtain ⟨hnext, hsame⟩ := hmoves.of_entering ih.1
      exact ⟨hnext, hsame.trans ih.2⟩
    | 1, ih =>
      obtain ⟨⟨seen, htick⟩, hup⟩ := ih
      exact hmoves.of_flags htick hup
    | _ + 2, _ => trivial

/-! ### What a waiting tick does not miss -/

/-- The tick sleeps, and no wake-up has reached it. -/
structure IsAsleep (s : TickSystem) (until? : Option Nat) : Prop where
  sleeping : ∃ seen since, s.tick = .acting (.waiting (.sleeping seen since until?))
  unnotified : s.scheduler.notified = false

structure Attentive (s : TickSystem) : Prop where
  /-- While the tick sleeps the flag is down, unless an interrupt is about to wake it. -/
  flag_down (until? : Option Nat) :
    s.IsAsleep until? → (∀ i, s.callers i ≠ .alerting) → s.scheduler.interrupted = false
  /-- Whoever has queued a task for a time before the end of the sleep has not counted the arrival yet, or is about to
  wake the tick. -/
  announced (until? : Option Nat) :
    s.IsAsleep until? → ∀ id ∈ s.scheduler.backlog.queued,
      (∀ u, until? = some u → (s.scheduler.backlog.task id).runAt < u) →
      ∃ i, s.callers i = .announcing id ∨ s.callers i = .notifying id
  /-- A wait that begins with the flag up takes the lock and ends, whatever others do meanwhile. -/
  gives_up :
    s.tick = .acting (.waiting .entering) → s.scheduler.interrupted = true →
    ∀ v, s.Run 2 v → v.tick = .acting (.waiting (.ended (.error .interrupted)))
  giveUps_le : s.giveUps ≤ s.interrupts
  flag_stays :
    s.scheduler.interrupted = true →
    ∀ n v, s.Run n v → s.giveUps < v.giveUps ∨ s.giveUps = v.giveUps ∧ v.scheduler.interrupted = true

/-- A waiting tick misses neither work nor interrupts, however its steps and those of its callers come in between each
other. -/
theorem Reachable.attentive (h : s.Reachable) : s.Attentive := by
  have hlocked {until? : Option Nat} (hasleep : s.IsAsleep until?) : s.scheduler.locked = false := by
    obtain ⟨⟨seen, since, htick⟩, -⟩ := hasleep
    rw [h.sound.locked_eq, htick]
    rfl
  have houtlook {until? : Option Nat} (hasleep : s.IsAsleep until?) : s.tick.outlook = some ([], until?) := by
    obtain ⟨⟨seen, since, htick⟩, -⟩ := hasleep
    rw [htick]
    rfl
  refine ⟨fun until? hasleep hnobody => ?_, fun until? hasleep id hid hearly => ?_, fun htick hup v hrun => ?_, ?_,
    fun hup n v hrun => hrun.flag h hup⟩
  · by_contra hup
    obtain ⟨i, hi⟩ := h.vigilant.alerted (by rw [houtlook hasleep]; rfl) (hlocked hasleep) hasleep.unnotified
      (by simpa using hup)
    exact hnobody i hi
  · obtain ⟨slot, hmem⟩ := Backlog.mem_queued_iff.1 hid
    have hroused : s.isRoused = false := by simp [isRoused, hasleep.unnotified]
    rcases h.vigilant.seen [] until? (houtlook hasleep) hroused slot (by simp) id hmem with ⟨u, hu, hle⟩ | ⟨i, hi⟩
    · exact absurd (hearly u hu) (Nat.not_lt.2 hle)
    · exact ⟨i, hi.imp_right And.left⟩
  · exact hrun.headsOut h ⟨htick, hup⟩
  · exact (Nat.le_add_right _ _).trans h.giveUps_add_le

/-! ### Three runs -/

/-- The tick is asked for, and takes so many steps. -/
def ticked (s : TickSystem) (steps : Nat) : TickSystem := stepTick^[steps] (s.become (s.scheduler, .acting .entering))

/-- A caller begins a call, and takes so many steps. -/
def called (s : TickSystem) (i : Nat) (c : Caller) (steps : Nat) : TickSystem :=
  (fun s => s.stepCaller i)^[steps] (s.withCaller i c)

theorem Reachable.ticked (h : s.Reachable) {result : Except Trouble Nat} (htick : s.tick = .acting (.ended result))
    (steps : Nat) : (s.ticked steps).Reachable := (h.go (.enter result htick)).iterate steps

theorem Reachable.called (h : s.Reachable) {i : Nat} {c : Caller} (hbegin : s.Acts (s.withCaller i c)) (steps : Nat) :
    (s.called i c steps).Reachable := by
  induction steps with
  | zero => exact h.act hbegin
  | succ n ih =>
    rw [TickSystem.called, Function.iterate_succ_apply']
    exact ih.act (.caller i)

/-- A task that runs once, after so many milliseconds. -/
def request (millis : Nat) : Request := ⟨.ofMillis millis, .oneTime, ⟨none, none⟩⟩

/-- A blocking tick sleeps until the time 5000.  A task has been queued for the time 1000 meanwhile, and its arrival has
not been counted yet. -/
def unannounced : TickSystem :=
  (((start true default .high).called 0 (.submitting (request 5000)) 3).ticked 13).called 1
    (.submitting (request 1000)) 1

/-- A blocking tick sleeps for good.  An interrupt has raised the flag meanwhile, and has not woken the tick yet. -/
def alarmed : TickSystem := ((start true default .high).ticked 13).called 0 .interrupting 1

/-- An interrupt has raised the flag, and a blocking tick is about to wait. -/
def flagged : TickSystem := ((start true default .high).called 0 .interrupting 1).ticked 3

theorem reachable_unannounced : unannounced.Reachable := by
  have hsubmitted := (Reachable.start true default .high).called (.submit 0 (request 5000) rfl) 3
  exact (hsubmitted.ticked rfl 13).called (.submit 1 (request 1000) (by decide +kernel)) 1

theorem reachable_flagged : flagged.Reachable :=
  ((Reachable.start true default .high).called (.interrupt 0 rfl) 1).ticked rfl 3

/-- The flag is not down all the time that the tick sleeps: an interrupt raises it first, and wakes the tick then. -/
theorem flag_up_asleep : alarmed.Reachable ∧ alarmed.IsAsleep none ∧ alarmed.scheduler.interrupted = true := by
  have hreachable : alarmed.Reachable :=
    ((Reachable.start true default .high).ticked rfl 13).called (.interrupt 0 (by decide +kernel)) 1
  have hasleep : alarmed.IsAsleep none := ⟨⟨0, 0, by decide +kernel⟩, by decide +kernel⟩
  exact ⟨hreachable, hasleep, by decide +kernel⟩

theorem attentive_twice :
    (unannounced.IsAsleep (some 5000) ∧
      ∃ i, unannounced.callers i = .announcing ⟨1⟩ ∨ unannounced.callers i = .notifying ⟨1⟩) ∧
    (flagged.giveUps ≤ flagged.interrupts ∧
      ∀ v, flagged.Run 2 v → v.tick = .acting (.waiting (.ended (.error .interrupted)))) := by
  have hasleep : unannounced.IsAsleep (some 5000) := ⟨⟨1, 0, by decide +kernel⟩, by decide +kernel⟩
  refine ⟨⟨hasleep, ?_⟩, ?_, ?_⟩
  · refine (Reachable.attentive reachable_unannounced).announced (some 5000) hasleep ⟨1⟩ (by decide +kernel) ?_
    rintro u ⟨⟩
    decide +kernel
  · exact (Reachable.attentive reachable_flagged).giveUps_le
  · exact (Reachable.attentive reachable_flagged).gives_up (by decide +kernel) (by decide +kernel)

end TickSystem

end TaskScheduling
