import TaskScheduling.Proofs.Backlog.Without
import TaskScheduling.Proofs.Dispatch.Hands

/-!
# Shutdowns without one task

A shutdown may come across a task that a submission has just queued and is about to withdraw.  `Shutdown.without` is how
far the shutdown would be if there had been no such task, and `PooledScheduler.Beside` compares a scheduler in which
there is one to the scheduler in which there is none.

* `Shutdown.beside_step`: when the shutdown takes a step in the one, it takes the same step in the other, or none when
  all that it does concerns the task.
* `Shutdown.suffers_step`: what becomes of the task itself.
-/

namespace TaskScheduling

open Backlog

/-- What a step of a shutdown does to one task, and how often it cancels it: only a pending task is cancelled, and it
has left its queue by then. -/
inductive Task.Suffers (t : Task) : Task → Nat → Prop where
  | spared : Suffers t t 0
  | taken : Suffers t { t with slot := none } 0
  | cancelled : t.state = .pending → t.slot = none → Suffers t { t with state := .cancelled } 1

/-- Only a pending task is cancelled, and only once. -/
theorem Task.Suffers.eq_zero_or {t t' : Task} {n : Nat} (h : t.Suffers t' n) : n = 0 ∨ n = 1 ∧ t.state = .pending := by
  cases h with
  | spared => exact .inl rfl
  | taken => exact .inl rfl
  | cancelled hstate _ => exact .inr ⟨rfl, hstate⟩

namespace Clearance

def without (id : TaskId) : Clearance → Clearance
  | draining left drained => draining left (drained.filter (· ≠ id))
  | marking left claimed => marking (left.filter (· ≠ id)) (claimed.filter (· ≠ id))
  | ended claimed => ended (claimed.filter (· ≠ id))

/-- What the clearance has cancelled so far. -/
def claimed : Clearance → List TaskId
  | draining _ _ => []
  | marking _ claimed => claimed
  | ended claimed => claimed

variable {b c : Backlog} {id : TaskId}

private theorem step_marking (scope : Scope) (b : Backlog) (j : TaskId) (left claimed : List TaskId) :
    (marking (j :: left) claimed).step scope b = ((b.transition j .pending .cancelled).1,
      marking left (if (b.task j).state = .pending then claimed ++ [j] else claimed)) := by
  rcases hmoved : b.transition j .pending .cancelled with ⟨b', _ | _⟩
  · simp only [step, hmoved, if_neg (transition_eq_false hmoved).1]
  · simp only [step, hmoved, if_pos (transition_eq_true hmoved).1]

/-- Nothing is to be marked where the task is missing; else both sides take the same step. -/
theorem without_step (h : b.Without id c) (scope : Scope) (m : Clearance) :
    (m.step scope b).1.Without id c ∧ (m.step scope b).2.without id = m.without id ∨
      (m.step scope b).1.Without id ((m.without id).step scope c).1 ∧
        (m.step scope b).2.without id = ((m.without id).step scope c).2 := by
  cases m with
  | draining left drained =>
    right
    cases left with
    | nil => exact ⟨h, rfl⟩
    | cons slot left =>
      refine ⟨h.takeOut scope slot, ?_⟩
      simp only [step, without, List.filter_append, h.takeOut_fst]
  | marking left claimed =>
    cases left with
    | nil => exact .inr ⟨h, rfl⟩
    | cons j left =>
      rw [step_marking]
      by_cases hj : j = id
      · subst hj
        refine .inl ⟨h.transition_self .pending .cancelled, ?_⟩
        split <;> simp [without]
      · have hwithout : (marking (j :: left) claimed).without id =
            marking (j :: left.filter (· ≠ id)) (claimed.filter (· ≠ id)) := by
          rw [without, List.filter_cons_of_pos (by simpa using hj)]
        rw [hwithout, step_marking, h.task_eq j hj]
        refine .inr ⟨h.transition hj .pending .cancelled, ?_⟩
        split <;> simp [without, hj]
  | ended claimed => exact .inr ⟨h, rfl⟩

theorem suffers_step (scope : Scope) {m : Clearance} (hslot : id ∈ m.drained → (b.task id).slot = none) :
    ∃ n, (b.task id).Suffers ((m.step scope b).1.task id) n ∧
      (m.step scope b).2.claimed.count id = m.claimed.count id + n := by
  cases m with
  | draining left drained =>
    refine ⟨0, ?_, by cases left <;> rfl⟩
    cases left with
    | nil => exact .spared
    | cons slot left =>
      simp only [step, task_takeOut]
      split
      · exact .taken
      · exact .spared
  | marking left claimed =>
    cases left with
    | nil => exact ⟨0, .spared, rfl⟩
    | cons j left =>
      rw [step_marking, task_transition_eq]
      by_cases hj : id = j ∧ (b.task j).state = .pending
      · obtain ⟨rfl, hstate⟩ := hj
        refine ⟨1, ?_, by simp [Clearance.claimed, hstate]⟩
        rw [if_pos ⟨rfl, hstate⟩]
        exact .cancelled hstate (hslot List.mem_cons_self)
      · refine ⟨0, ?_, ?_⟩
        · rw [if_neg hj]
          exact .spared
        · simp only [Clearance.claimed]
          split
          · next hstate =>
            rw [List.count_append, List.count_singleton, if_neg]
            simpa using fun hid => hj ⟨hid.symm, hstate⟩
          · rfl
  | ended claimed => exact ⟨0, .spared, rfl⟩

end Clearance

namespace Shutdown

def without (id : TaskId) : Shutdown → Shutdown
  | raising mode => raising mode
  | clearing scope c => clearing scope (c.without id)
  | counting discarded => counting (discarded.filter (· ≠ id))
  | waking discarded => waking (discarded.filter (· ≠ id))
  | ended discarded => ended (discarded.filter (· ≠ id))

/-- What the shutdown has cancelled and not counted yet. -/
def claimed : Shutdown → List TaskId
  | clearing _ c => c.claimed
  | counting discarded => discarded
  | _ => []

/-- How often the next step of the shutdown counts a task as cancelled. -/
def counts (id : TaskId) : Shutdown → Nat
  | counting discarded => discarded.count id
  | _ => 0

end Shutdown

/-! ### Schedulers with and without the task -/

/-- Only what a clock remembers may have become later. -/
structure Clock.Refreshes (c c' : Clock) : Prop where
  source_eq : c'.source = c.source
  holds_eq : c'.holds = c.holds
  cached_le : c.cached ≤ c'.cached

namespace Clock

theorem Refreshes.trans {c d e : Clock} (h : c.Refreshes d) (h' : d.Refreshes e) : c.Refreshes e :=
  ⟨h'.source_eq.trans h.source_eq, h'.holds_eq.trans h.holds_eq, Nat.le_trans h.cached_le h'.cached_le⟩

theorem refreshes_now (c : Clock) : c.Refreshes c.now.2 := ⟨c.source_now, c.holds_now, c.cached_le_cached_now⟩

end Clock

namespace PooledScheduler

/-- The number of the next task. -/
def freshId (s : PooledScheduler) : TaskId := ⟨s.backlog.nextId⟩

/-- A submission that has begun with the scheduler `o` is under way in `s`, while `u` is what the shutdowns alone have
made of `o`.  The new task has been counted as cancelled `k` times.  The submission may have started the dispatcher, for
want of which the shutdowns alone would have stopped the pool. -/
structure Beside (o u : PooledScheduler) (k : Nat) (s : PooledScheduler) : Prop where
  backlog : s.backlog.Without o.freshId u.backlog
  stats_eq : s.stats = (u.countCancelled k).stats
  shutdown_eq : s.shutdown = u.shutdown
  staff : s.pool = u.pool ∧ s.dispatcher = u.dispatcher ∨
    o.dispatcher.thread = none ∧ s.dispatcher.thread.isSome = true ∧ s.dispatcher.running = true ∧ s.pool = o.pool
  clock : u.clock.Refreshes s.clock
  settings_eq : s.router = u.router ∧ s.sink = u.sink ∧ s.defaultPriority = u.defaultPriority ∧ s.lowWait = u.lowWait

namespace Beside

variable {o u s : PooledScheduler} {k : Nat}

theorem withBacklogs (h : Beside o u k s) {b c : Backlog} (hbacklog : b.Without o.freshId c) :
    Beside o { u with backlog := c } k { s with backlog := b } :=
  ⟨hbacklog, h.stats_eq, h.shutdown_eq, h.staff, h.clock, h.settings_eq⟩

theorem withBacklog (h : Beside o u k s) {b : Backlog} (hbacklog : b.Without o.freshId u.backlog) :
    Beside o u k { s with backlog := b } := h.withBacklogs hbacklog

end Beside

end PooledScheduler

namespace Shutdown

open PooledScheduler

variable {o u s : PooledScheduler} {k : Nat} {id : TaskId}

/-- A dispatcher is woken; in its absence the pool is stopped. -/
private theorem passOnShutdown_eq (s : PooledScheduler) : s.passOnShutdown =
    { s with
      pool := if s.dispatcher.thread.isSome then s.pool else s.pool.stop
      dispatcher := if s.dispatcher.thread.isSome then { s.dispatcher with woken := true } else s.dispatcher } := by
  unfold passOnShutdown wakeDispatcher
  split <;> rfl

private theorem beside_passOnShutdown (h : Beside o u k s) : Beside o u.passOnShutdown k s.passOnShutdown := by
  rw [passOnShutdown_eq, passOnShutdown_eq]
  refine ⟨h.backlog, h.stats_eq, h.shutdown_eq, ?_, h.clock, h.settings_eq⟩
  rcases h.staff with ⟨hpool, hdispatcher⟩ | ⟨hnone, hthread, hrunning, hpool⟩
  · rw [hpool, hdispatcher]
    exact .inl ⟨rfl, rfl⟩
  · rw [if_pos hthread, if_pos hthread]
    exact .inr ⟨hnone, hthread, hrunning, hpool⟩

private theorem beside_counting (h : Beside o u k s) (discarded : List TaskId) :
    Beside o (u.countCancelled (discarded.filter (· ≠ o.freshId)).length) (k + discarded.count o.freshId)
      (s.countCancelled discarded.length) where
  backlog := h.backlog
  stats_eq := by
    have hlength : discarded.length =
        (discarded.filter (· ≠ o.freshId)).length + discarded.count o.freshId := by
      rw [List.count_eq_countP, List.length_eq_countP_add_countP (· ≠ o.freshId), List.countP_eq_length_filter]
      congr 2
      funext j
      by_cases hj : j = o.freshId <;> simp [hj]
    simp only [countCancelled, h.stats_eq, hlength, Stats.mk.injEq, true_and]
    omega
  shutdown_eq := h.shutdown_eq
  staff := h.staff
  clock := h.clock
  settings_eq := h.settings_eq

/-- Each step of a shutdown is taken on both sides, unless all that it does concerns the new task. -/
theorem beside_step (h : Beside o u k s) (m : Shutdown) :
    Beside o u (k + m.counts o.freshId) (m.step s).1 ∧ (m.step s).2.without o.freshId = m.without o.freshId ∨
      Beside o ((m.without o.freshId).step u).1 (k + m.counts o.freshId) (m.step s).1 ∧
        (m.step s).2.without o.freshId = ((m.without o.freshId).step u).2 := by
  cases m with
  | raising mode =>
    refine .inr ⟨⟨h.backlog, h.stats_eq, ?_, h.staff, h.clock, h.settings_eq⟩, rfl⟩
    show (s.raise mode).shutdown = (u.raise mode).shutdown
    simp only [PooledScheduler.raise, h.shutdown_eq]
  | clearing scope c =>
    have hstep := Clearance.without_step h.backlog scope c
    cases c with
    | ended discarded => exact .inr ⟨h, rfl⟩
    | _ => exact hstep.imp (fun hc => ⟨h.withBacklog hc.1, congrArg (clearing scope) hc.2⟩) fun hc =>
        ⟨h.withBacklogs hc.1, congrArg (clearing scope) hc.2⟩
  | counting discarded => exact .inr ⟨beside_counting h discarded, rfl⟩
  | waking discarded => exact .inr ⟨beside_passOnShutdown h, rfl⟩
  | ended discarded => exact .inr ⟨h, rfl⟩

/-- What becomes of one task, and how often it is claimed or counted. -/
theorem suffers_step {m : Shutdown} (hfree : s.backlog.Frees m.held) (id : TaskId) :
    ∃ n, (s.backlog.task id).Suffers ((m.step s).1.backlog.task id) n ∧ (n = 0 ∨ m.counts id = 0) ∧
      (m.step s).2.claimed.count id + m.counts id = m.claimed.count id + n := by
  cases m with
  | clearing scope c =>
    have hslot (hmem : id ∈ c.drained) : (s.backlog.task id).slot = none :=
      (hfree .waiting id (by simpa [held, Holding.only] using hmem)).1
    obtain ⟨n, hsuffers, hcount⟩ := Clearance.suffers_step scope hslot
    cases c with
    | ended discarded => exact ⟨0, .spared, .inl rfl, rfl⟩
    | _ => exact ⟨n, hsuffers, .inr rfl, hcount⟩
  | waking discarded =>
    refine ⟨0, ?_, .inl rfl, rfl⟩
    rw [step, passOnShutdown_eq]
    exact .spared
  | counting discarded => exact ⟨0, .spared, .inl rfl, by simp [step, claimed, counts]⟩
  | _ => exact ⟨0, .spared, .inl rfl, rfl⟩

theorem factory_step (s : PooledScheduler) (m : Shutdown) : (m.step s).1.factory = s.factory := by
  cases m with
  | clearing scope c => cases c <;> rfl
  | waking discarded => rw [step, passOnShutdown_eq]
  | _ => rfl

end Shutdown

namespace Client

def without (id : TaskId) : Client → Client
  | shutting m => shutting (m.without id)
  | c => c

/-- What the client has cancelled by a shutdown and not counted yet. -/
def claimed : Client → List TaskId
  | shutting m => m.claimed
  | _ => []

/-- Whether a client may make another call does not depend on one task. -/
theorem isFree_without (c : Client) (id : TaskId) : (c.without id).isFree = c.isFree := by
  cases c with
  | shutting m => cases m <;> rfl
  | _ => rfl

theorem claimed_of_isFree {c : Client} (h : c.isFree = true) : c.claimed = [] := by
  cases c with
  | shutting m =>
    cases m with
    | ended discarded => rfl
    | _ => cases h
  | _ => rfl

end Client

end TaskScheduling
