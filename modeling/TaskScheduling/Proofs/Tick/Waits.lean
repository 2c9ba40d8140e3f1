import TaskScheduling.Proofs.Tick.Callers

/-!
# Ticks that wait among callers

Outside of a wait a tick works on the queues; within one it takes the lock, looks for an interrupt, looks at the queues
and goes to sleep.  Whatever the callers are in the middle of, the queues are in order, the task that the tick has in
hand is in none of them, and the lock is held as long as the tick holds it (`TickSystem.Sound`).

* `TickSystem.Goes.moves`: what the step of a tick can amount to.
* `TickSystem.Reachable.sound`: every system is sound.
-/

namespace TaskScheduling

namespace Ticker

/-- The task that has left its queue for a run which has not ended yet. -/
def hand? : Ticker → Option TaskId
  | acting (.claiming _ _ id) => some id
  | acting (.running _ _ id) => some id
  | _ => none

/-- Whether the tick is not waiting, or at the end of a wait. -/
def isOutside : Ticker → Bool
  | looking _ _ _ _ => false
  | acting (.waiting (.ended _)) => true
  | acting (.waiting _) => false
  | _ => true

def holdsLock : Ticker → Bool
  | acting (.waiting (.flags _)) => true
  | acting (.waiting (.queues _)) => true
  | looking _ _ _ _ => true
  | _ => false

/-- Whether the tick, still with its lock, has found the flag down. -/
def hasPassed : Ticker → Bool
  | acting (.waiting (.queues _)) => true
  | looking _ _ _ _ => true
  | _ => false

/-- The queues are in order, and the task in hand is in none of them. -/
structure Fits (s : TickScheduler) (t : Ticker) : Prop where
  orderly : ∃ insertions, s.backlog.Orderly insertions s.clock.cached
  in_hand (id : TaskId) : t.hand? = some id → (s.backlog.task id).slot = none ∧ id.index < s.backlog.nextId

theorem Fits.of_none {s : TickScheduler} {t : Ticker} {insertions : List TaskId}
    (horderly : s.backlog.Orderly insertions s.clock.cached) (hnone : t.hand? = none) : t.Fits s where
  orderly := ⟨insertions, horderly⟩
  in_hand id hid := by
    rw [hnone] at hid
    cases hid

theorem holdsLock_eq_false {t : Ticker} (h : t.isOutside = true) : t.holdsLock = false := by
  cases t with
  | looking _ _ _ _ => cases h
  | acting t =>
    cases t with
    | waiting w => cases w <;> first | rfl | cases h
    | _ => rfl

theorem hasPassed_eq_false {t : Ticker} (h : t.isOutside = true) : t.hasPassed = false := by
  cases t with
  | looking _ _ _ _ => cases h
  | acting t =>
    cases t with
    | waiting w => cases w <;> first | rfl | cases h
    | _ => rfl

theorem holdsLock_of_hasPassed {t : Ticker} (h : t.hasPassed = true) : t.holdsLock = true := by
  cases t with
  | looking _ _ _ _ => rfl
  | acting t =>
    cases t with
    | waiting w => cases w <;> first | rfl | cases h
    | _ => cases h

end Ticker

namespace TickSystem

variable {s s' : TickSystem}

structure Sound (s : TickSystem) : Prop where
  fits : s.tick.Fits s.scheduler
  locked_eq : s.scheduler.locked = s.tick.holdsLock
  flag_down : s.tick.hasPassed = true → s.scheduler.interrupted = false

/-- What a step of the tick amounts to: it works, or it goes on with a wait. -/
inductive Moves (s : TickSystem) : TickScheduler → Ticker → Prop where
  | work (scheduler : TickScheduler) (t : Ticker) :
      s.tick.isOutside = true → t.isOutside = true → t.hasGivenUp = false → t.Fits scheduler →
      scheduler.locked = s.scheduler.locked → scheduler.interrupted = s.scheduler.interrupted → Moves s scheduler t
  | start : s.tick.isOutside = true → Moves s s.scheduler (.acting (.waiting .entering))
  | lock (seen : Nat) :
      s.tick = .acting (.waiting .entering) →
      Moves s { s.scheduler with locked := true } (.acting (.waiting (.flags seen)))
  | giveUp (seen : Nat) :
      s.tick = .acting (.waiting (.flags seen)) → s.scheduler.interrupted = true →
      Moves s { s.scheduler with interrupted := false, locked := false }
        (.acting (.waiting (.ended (.error .interrupted))))
  | pass (seen : Nat) :
      s.tick = .acting (.waiting (.flags seen)) → s.scheduler.interrupted = false →
      Moves s s.scheduler (.acting (.waiting (.queues seen)))
  | turn (seen now : Nat) (clock : Clock) :
      s.tick = .acting (.waiting (.queues seen)) → s.scheduler.clock.cached ≤ clock.cached →
      Moves s { s.scheduler with clock := clock } (.looking seen now Scope.everything.queues none)
  | look (seen now : Nat) (slot : QueueSlot) (left : List QueueSlot) (found : Option Nat) :
      s.tick = .looking seen now (slot :: left) found →
      Moves s s.scheduler (.looking seen now left (QueueSet.earlier found (s.scheduler.backlog.headRunAt slot)))
  | doze (seen now : Nat) (found : Option Nat) :
      s.tick = .looking seen now [] found →
      Moves s { s.scheduler with locked := false, notified := false } (.acting (.waiting (.sleeping seen now found)))
  | find (t : Ticker) :
      s.tick = t → t.holdsLock = true → s.scheduler.interrupted = false →
      Moves s { s.scheduler with locked := false } (.acting (.waiting (.ended (.ok ()))))
  | sleep (seen since : Nat) (until? : Option Nat) :
      s.tick = .acting (.waiting (.sleeping seen since until?)) →
      Moves s s.scheduler (.acting (.waiting (.sleeping seen since until?)))
  | wake (seen since : Nat) (until? : Option Nat) :
      s.tick = .acting (.waiting (.sleeping seen since until?)) →
      Moves s { s.scheduler with locked := true, notified := false } (.acting (.waiting (.flags seen)))

/-! ### Steps of the tick -/

namespace Sound

/-- A step outside of waits that queues nothing. -/
private theorem moves_work (h : s.Sound) {u t : Ticker} {scheduler : TickScheduler} (htick : s.tick = u)
    (hu : u.isOutside = true) (ht : t.isOutside = true) (hgiven : t.hasGivenUp = false)
    (hhand : t.hand? = none ∨ t.hand? = u.hand?) (hbacklog : s.scheduler.backlog.Sheds scheduler.backlog)
    (hclock : s.scheduler.clock.cached ≤ scheduler.clock.cached) (hlocked : scheduler.locked = s.scheduler.locked)
    (hflag : scheduler.interrupted = s.scheduler.interrupted) : s.Moves scheduler t := by
  subst htick
  obtain ⟨insertions, horderly⟩ := h.fits.orderly
  refine .work scheduler t hu ht hgiven ?_ hlocked hflag
  rcases hhand with hnone | hsame
  · exact .of_none ((horderly.of_sheds hbacklog).mono hclock) hnone
  · refine ⟨⟨insertions, (horderly.of_sheds hbacklog).mono hclock⟩, fun id hid => ?_⟩
    obtain ⟨hslot, hlt⟩ := h.fits.in_hand id (hsame ▸ hid)
    exact ⟨hbacklog.slot_eq_none horderly.toKept hslot, hbacklog.nextId_eq ▸ hlt⟩

/-- A task that is taken out of its queue is in the hands of the tick. -/
private theorem moves_pick (h : s.Sound) {now ran : Nat} {id : TaskId} (htick : s.tick = .acting (.picking now ran))
    (hremoved : (s.scheduler.backlog.remove id).2 = true) :
    s.Moves { s.scheduler with backlog := (s.scheduler.backlog.remove id).1 } (.acting (.claiming now ran id)) := by
  obtain ⟨insertions, horderly⟩ := h.fits.orderly
  have hb : s.scheduler.backlog.Kept := horderly.toKept
  have hsheds := Backlog.Sheds.remove hb id
  refine .work _ _ (by rw [htick]; rfl) rfl rfl ⟨⟨insertions, horderly.of_sheds hsheds⟩, fun j hj => ?_⟩ rfl rfl
  obtain rfl := Option.some.inj hj
  refine ⟨hb.slot_remove id, hsheds.nextId_eq ▸ ?_⟩
  -- numbers that were not drawn yet are in no queue
  by_contra hlt
  have habsent := hb.task_eq_absent id (Nat.not_lt.1 hlt)
  rw [Backlog.remove_of_slot_none (by rw [habsent]; rfl)] at hremoved
  cases hremoved

/-- Whatever is due is taken out; where nothing is, the tick ends or begins to wait. -/
private theorem moves_picking (h : s.Sound) {now ran : Nat} (htick : s.tick = .acting (.picking now ran)) :
    s.Moves ((Tick.picking now ran).step s.scheduler).1 (.acting ((Tick.picking now ran).step s.scheduler).2) := by
  obtain ⟨insertions, horderly⟩ := h.fits.orderly
  have hb : s.scheduler.backlog.Kept := horderly.toKept
  have hpop : s.scheduler.backlog.popDue now = _ := Backlog.popDue_eq_nextDue hb now
  cases hnext : s.scheduler.backlog.nextDue now none with
  | some id =>
    have hslot := hb.mem_queue_iff.1 (hb.eligible_iff.1 (Backlog.eligible_of_nextDue hb hnext)).1
    have hremove := Backlog.remove_eq_unlink hslot (hb.mem_queue_iff.2 hslot)
    have hremoved : (s.scheduler.backlog.remove id).2 = true := by rw [hremove]
    have hpick := h.moves_pick htick hremoved
    rw [hremove] at hpick
    rw [hnext, Option.map_some] at hpop
    simp only [Tick.step, hpop]
    exact hpick
  | none =>
    rw [hnext, Option.map_none] at hpop
    simp only [Tick.step, hpop]
    split
    · exact h.moves_work htick rfl rfl rfl (.inl rfl) (.refl hb) (Nat.le_refl _) rfl rfl
    · exact .start (by rw [htick]; rfl)

private theorem moves_claiming (h : s.Sound) {now ran : Nat} {id : TaskId}
    (htick : s.tick = .acting (.claiming now ran id)) :
    s.Moves ((Tick.claiming now ran id).step s.scheduler).1
      (.acting ((Tick.claiming now ran id).step s.scheduler).2) := by
  obtain ⟨insertions, horderly⟩ := h.fits.orderly
  have hb : s.scheduler.backlog.Kept := horderly.toKept
  obtain ⟨hslot, hlt⟩ := h.fits.in_hand id (by rw [htick]; rfl)
  have hsheds : s.scheduler.backlog.Sheds (s.scheduler.backlog.begin id).1 :=
    .transition (hb.transition_of_ne id .executing (by decide))
  have hcount : s.scheduler.backlog.Sheds ((s.scheduler.backlog.begin id).1.modify id Task.countRun) :=
    hsheds.trans (.modify hsheds.kept (hsheds.nextId_eq ▸ hlt) (hsheds.slot_eq_none hb hslot)
      (hsheds.slot_eq_none hb hslot) rfl)
  simp only [Tick.step]
  rcases hbegin : s.scheduler.backlog.begin id with ⟨c, _ | _⟩ <;> rw [hbegin] at hsheds hcount
  · exact h.moves_work htick rfl rfl rfl (.inl rfl) hsheds (Nat.le_refl _) rfl rfl
  · exact h.moves_work htick rfl rfl rfl (.inr rfl) hcount (Nat.le_refl _) rfl rfl

private theorem moves_flags {seen : Nat} (htick : s.tick = .acting (.waiting (.flags seen))) :
    s.Moves ((Waiting.flags seen).step s.scheduler).1
      (.acting (.waiting ((Waiting.flags seen).step s.scheduler).2)) := by
  simp only [Waiting.step]
  split
  · exact .giveUp seen htick ‹_›
  · have hdown : s.scheduler.interrupted = false := Bool.eq_false_of_not_eq_true ‹_›
    split
    · exact .find _ htick rfl hdown
    · exact .pass seen htick hdown

private theorem moves_waiting (h : s.Sound) {w : Waiting} (htick : s.tick = .acting (.waiting w)) :
    s.Moves (s.tick.step s.scheduler).1 (s.tick.step s.scheduler).2 := by
  obtain ⟨insertions, horderly⟩ := h.fits.orderly
  have hsame : s.scheduler.backlog.Sheds s.scheduler.backlog := .refl horderly.toKept
  rw [htick]
  cases w with
  | entering => exact .lock _ htick
  | flags seen => exact moves_flags htick
  | queues seen => exact .turn seen _ _ htick (Clock.cached_le_cached_now _)
  | sleeping seen since until? => exact .sleep seen since until? htick
  | ended result =>
    cases result with
    | ok _ => exact h.moves_work htick rfl rfl rfl (.inl rfl) hsame (Nat.le_refl _) rfl rfl
    | error cause => exact h.moves_work htick rfl rfl rfl (.inl rfl) hsame (Nat.le_refl _) rfl rfl

private theorem moves_step (h : s.Sound) : s.Moves (s.tick.step s.scheduler).1 (s.tick.step s.scheduler).2 := by
  obtain ⟨insertions, horderly⟩ := h.fits.orderly
  have hsame : s.scheduler.backlog.Sheds s.scheduler.backlog := .refl horderly.toKept
  cases htick : s.tick with
  | acting t =>
    cases t with
    | entering =>
      simp only [Ticker.step, Tick.step]
      split <;> exact h.moves_work htick rfl rfl rfl (.inl rfl) hsame (Nat.le_refl _) rfl rfl
    | reading => exact h.moves_work htick rfl rfl rfl (.inl rfl) hsame (Clock.cached_le_cached_now _) rfl rfl
    | picking now ran => exact h.moves_picking htick
    | claiming now ran id => exact h.moves_claiming htick
    | running now ran id => exact h.moves_work htick rfl rfl rfl (.inr rfl) hsame (Nat.le_refl _) rfl rfl
    | waiting w =>
      rw [← htick]
      exact h.moves_waiting htick
    | ended result => exact h.moves_work htick rfl rfl rfl (.inl rfl) hsame (Nat.le_refl _) rfl rfl
  | looking seen now left found =>
    cases left with
    | cons slot left => exact .look seen now slot left found htick
    | nil =>
      have hdown : s.scheduler.interrupted = false := h.flag_down (by rw [htick]; rfl)
      cases found with
      | none => exact .doze seen now none htick
      | some t =>
        simp only [Ticker.step]
        split
        · exact .find _ htick rfl hdown
        · exact .doze seen now (some t) htick

/-- The end of an action, after which its task is settled. -/
private theorem moves_finish (h : s.Sound) {now ran : Nat} {id : TaskId}
    (htick : s.tick = .acting (.running now ran id)) (thread : Option String) (outcome : Option Panic) :
    s.Moves ((Tick.running now ran id).finish s.scheduler thread outcome).1
      (.acting ((Tick.running now ran id).finish s.scheduler thread outcome).2) := by
  obtain ⟨insertions, horderly⟩ := h.fits.orderly
  obtain ⟨hslot, hlt⟩ := h.fits.in_hand id (by rw [htick]; rfl)
  obtain ⟨insertions', hcomplete⟩ :=
    (horderly.mono (Clock.cached_le_cached_now s.scheduler.clock)).complete hlt hslot s.scheduler.clock.now.1
  simp only [Tick.finish]
  split <;> exact .work _ _ (by rw [htick]; rfl) rfl rfl (.of_none hcomplete rfl) rfl rfl

end Sound

theorem Goes.moves (hgoes : s.Goes s') (h : s.Sound) :
    ∃ scheduler t, s' = s.become (scheduler, t) ∧ s.Moves scheduler t := by
  obtain ⟨insertions, horderly⟩ := h.fits.orderly
  have hsame : s.scheduler.backlog.Sheds s.scheduler.backlog := .refl horderly.toKept
  cases hgoes with
  | enter result htick => exact ⟨_, _, rfl, h.moves_work htick rfl rfl rfl (.inl rfl) hsame (Nat.le_refl _) rfl rfl⟩
  | step => exact ⟨_, _, rfl, h.moves_step⟩
  | pick now ran id htick hremoved => exact ⟨_, _, rfl, h.moves_pick htick hremoved⟩
  | leave now ran htick => exact ⟨_, _, rfl, h.moves_work htick rfl rfl rfl (.inl rfl) hsame (Nat.le_refl _) rfl rfl⟩
  | wait now ran htick => exact ⟨_, _, rfl, .start (by rw [htick]; rfl)⟩
  | finish now ran id thread outcome htick => exact ⟨_, _, rfl, h.moves_finish htick thread outcome⟩
  | wake seen since until? htick => exact ⟨_, _, rfl, .wake seen since until? htick⟩

/-! ### What the books and the lock keep -/

namespace Sound

protected theorem start (blocking : Bool) (clock : Clock) (defaultPriority : Priority) :
    (TickSystem.start blocking clock defaultPriority).Sound where
  fits := .of_none (.empty clock.cached) rfl
  locked_eq := rfl
  flag_down hpassed := by cases hpassed

theorem act (h : s.Sound) (hacts : s.Acts s') : s'.Sound := by
  obtain ⟨insertions, horderly⟩ := h.fits.orderly
  have hb : s.scheduler.backlog.Kept := horderly.toKept
  obtain ⟨⟨-, hhand⟩, hlocked, hdown⟩ := h
  cases hacts.affects hb with
  | quiet backlog clock callers hsheds hclock _ =>
    refine ⟨⟨⟨insertions, (horderly.of_sheds hsheds).mono hclock⟩, fun id hid => ?_⟩, hlocked, hdown⟩
    obtain ⟨hslot, hlt⟩ := hhand id hid
    exact ⟨hsheds.slot_eq_none hb hslot, hsheds.nextId_eq ▸ hlt⟩
  | lodge i r _ =>
    have henlist := horderly.enlist (Clock.cached_le_cached_hold _) r s.scheduler.defaultPriority
    refine ⟨⟨⟨_, henlist.mono (Clock.cached_le_cached_release _)⟩, fun id hid => ?_⟩, hlocked, hdown⟩
    obtain ⟨hslot, hlt⟩ := hhand id hid
    -- the task that is queued has a new number
    have hne : id ≠ ⟨s.scheduler.backlog.nextId⟩ := by
      rintro rfl
      exact Nat.lt_irrefl _ hlt
    show ((s.scheduler.backlog.enlist _ r _).task id).slot = none ∧ id.index < (s.scheduler.backlog.enlist _ r _).nextId
    rw [Backlog.Accounted.task_enlist, if_neg hne, Backlog.Accounted.nextId_enlist]
    exact ⟨hslot, Nat.lt_succ_of_lt hlt⟩
  | announce i id _ _ => exact ⟨⟨⟨insertions, horderly⟩, hhand⟩, hlocked, hdown⟩
  | notify i _ => exact ⟨⟨⟨insertions, horderly⟩, hhand⟩, hlocked, hdown⟩
  | raise i _ hfree =>
    refine ⟨⟨⟨insertions, horderly⟩, hhand⟩, hlocked, fun hpassed => ?_⟩
    -- whoever has found the flag down holds the lock
    rw [hlocked, Ticker.holdsLock_of_hasPassed hpassed] at hfree
    cases hfree

theorem go (h : s.Sound) (hgoes : s.Goes s') : s'.Sound := by
  obtain ⟨scheduler, t, rfl, hmoves⟩ := hgoes.moves h
  obtain ⟨⟨⟨insertions, horderly⟩, -⟩, hlocked, hdown⟩ := h
  cases hmoves with
  | work _ _ hs ht _ hfits hsame _ =>
    refine ⟨hfits, ?_, fun hpassed => ?_⟩
    · exact hsame.trans (hlocked.trans ((Ticker.holdsLock_eq_false hs).trans (Ticker.holdsLock_eq_false ht).symm))
    · exact absurd hpassed (by simp [become, Ticker.hasPassed_eq_false ht])
  | start hs => exact ⟨.of_none horderly rfl, hlocked.trans (Ticker.holdsLock_eq_false hs), nofun⟩
  | lock seen _ => exact ⟨.of_none horderly rfl, rfl, nofun⟩
  | giveUp seen _ _ => exact ⟨.of_none horderly rfl, rfl, nofun⟩
  | pass seen htick hflag => exact ⟨.of_none horderly rfl, hlocked.trans (by rw [htick]; rfl), fun _ => hflag⟩
  | turn seen now clock htick hclock =>
    rw [htick] at hlocked hdown
    exact ⟨.of_none (horderly.mono hclock) rfl, hlocked, fun _ => hdown rfl⟩
  | look seen now slot left found htick =>
    rw [htick] at hlocked hdown
    exact ⟨.of_none horderly rfl, hlocked, fun _ => hdown rfl⟩
  | doze seen now found _ => exact ⟨.of_none horderly rfl, rfl, nofun⟩
  | find _ _ _ _ => exact ⟨.of_none horderly rfl, rfl, nofun⟩
  | sleep seen since until? htick =>
    rw [htick] at hlocked
    exact ⟨.of_none horderly rfl, hlocked, nofun⟩
  | wake seen since until? _ => exact ⟨.of_none horderly rfl, rfl, nofun⟩

end Sound

theorem Reachable.sound (h : s.Reachable) : s.Sound := by
  induction h with
  | start blocking clock defaultPriority => exact .start blocking clock defaultPriority
  | act _ hacts ih => exact ih.act hacts
  | go _ hgoes ih => exact ih.go hgoes

end TickSystem

end TaskScheduling
