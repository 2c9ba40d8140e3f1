import TaskScheduling.Proofs.Backlog.Effects
import TaskScheduling.Proofs.Dispatch.Conservation
import TaskScheduling.Proofs.Dispatch.Phases
import TaskScheduling.Proofs.Dispatch.PoolUse
import TaskScheduling.Proofs.Dispatch.Signals

/-!
# Iterations of the dispatcher

An iteration takes the dispatcher from one moment of rest to the next, with nothing in between.  `System.goOn` lets it
take its single steps until then.

`System.Iterates` says what an iteration as a whole may do to a tidy backlog: it clears away what a shutdown has
condemned, and then nothing else, or it claims one pending task and hands it to a worker (`System.iterates_goOn`).  No
task has to be put back, since a worker that was reserved a moment ago cannot have left.
-/

namespace TaskScheduling

/-! ### The sweep of an iteration -/

namespace PooledScheduler

/-- What an iteration clears away first, and what the backlog is then. -/
def sweep (s : PooledScheduler) : Backlog × List TaskId :=
  match s.shutdown with
  | some mode => s.backlog.clear mode.scope
  | none => (s.backlog, [])

/-- Whether in between only the sweep has been made and counted. -/
structure Sweeps (s t : PooledScheduler) : Prop where
  backlog_eq : t.backlog = s.sweep.1
  stats_eq : t.stats = (s.countCancelled s.sweep.2.length).stats

/-- Whether after the sweep one task has been taken up. -/
structure TakesUp (s t : PooledScheduler) (id : TaskId) : Prop where
  pending : (s.sweep.1.task id).state = .pending
  backlog_eq : t.backlog = s.sweep.1.takeUp id
  stats_eq : t.stats = (s.countCancelled s.sweep.2.length).stats

theorem tidy_sweep {s : PooledScheduler} (h : s.backlog.Tidy none) : s.sweep.1.Tidy none := by
  unfold sweep
  split
  · exact h.clear _
  · exact h

/-- How far an iteration that has begun with the scheduler `s` has got when the scheduler is `t`. -/
def Reaches (s t : PooledScheduler) : Dispatcher → Prop
  | .sweeping scope c =>
    t.stats = s.stats ∧ ∃ mode n, s.shutdown = some mode ∧ scope = mode.scope ∧
      Clearance.advance scope n (s.backlog, .begin scope) = (t.backlog, c)
  | .counting discarded => t.stats = s.stats ∧ (t.backlog, discarded) = s.sweep
  | .acquiring id _ _ => s.Sweeps t ∧ (t.backlog.task id).state = .pending
  | .registering id => s.Sweeps t ∧ (t.backlog.task id).state = .pending
  | .spawning id k => s.Sweeps t ∧ (t.backlog.task id).state = .pending ∧ t.pool.isRegistered k = true
  | .spawned id k _ => s.Sweeps t ∧ (t.backlog.task id).state = .pending ∧ t.pool.isRegistered k = true
  | .unlinking id k => s.Sweeps t ∧ (t.backlog.task id).state = .pending ∧ t.pool.isRegistered k = true
  | .claiming id k =>
    (s.sweep.1.task id).state = .pending ∧ t.backlog = s.sweep.1.unlink id (s.sweep.1.task id).home ∧
      t.stats = (s.countCancelled s.sweep.2.length).stats ∧ t.pool.isRegistered k = true
  | .handing id k => s.TakesUp t id ∧ t.pool.isRegistered k = true
  | .checking => ∃ id, s.TakesUp t id
  | .restoring _ => False
  | .reinserting _ => False
  | .releasing _ => False
  | _ => s.Sweeps t

end PooledScheduler

/-! ### Iterations -/

namespace Dispatcher

/-- Whether the dispatcher is between two iterations, or has gone. -/
def isResting : Dispatcher → Bool
  | checking => true
  | parked _ _ => true
  | exited => true
  | faulted _ => true
  | _ => false

end Dispatcher

theorem Pool.mem_idle_of_acquire {p q : Pool} {priority : Priority} {dueSince now lowWait k : Nat}
    (h : p.acquire priority dueSince now lowWait = (q, .idle k)) : k ∈ p.idle := by
  rcases p.acquire_cases priority dueSince now lowWait with ⟨j, rest, hidle, heq⟩ | ⟨-, heq⟩ | ⟨answer, -, hne, heq⟩ <;>
    rw [heq] at h <;> cases h
  · rw [hidle]
    exact List.mem_cons_self ..
  · exact absurd rfl (hne k)

/-- Idle workers have not left. -/
theorem System.Reachable.isRegistered_of_idle {s : System} (h : s.Reachable) {k : Nat} (hk : k ∈ s.pool.idle) :
    s.pool.isRegistered k = true := by
  obtain ⟨u, hu⟩ := h.exists_keeps
  rw [← hu.pool_eq] at hk ⊢
  exact (hu.reachable.sound.balanced.idle_spare k hk).1

/-- Each step of an iteration takes it further. -/
theorem PooledScheduler.Reaches.step {s : PooledScheduler} {t : System} {d : Dispatcher} (h : s.Reaches t.scheduler d)
    (hs : s.backlog.Tidy none) (ht : t.Reachable) (hd : d.isResting = false) :
    s.Reaches (d.step t.scheduler).1 (d.step t.scheduler).2 := by
  have hswept := tidy_sweep hs
  have hgoes := d.goes_step t.scheduler
  generalize d.step t.scheduler = next at hgoes ⊢
  cases hgoes with
  | sweep scope c _ =>
    obtain ⟨hstats, mode, n, hmode, hscope, hadvance⟩ := h
    refine ⟨hstats, mode, n + 1, hmode, hscope, ?_⟩
    rw [Clearance.advance_add, hadvance]
    rfl
  | swept scope discarded =>
    obtain ⟨hstats, mode, n, hmode, rfl, hadvance⟩ := h
    refine ⟨hstats, ?_⟩
    rw [Clearance.eq_clear_of_ended hadvance, sweep, hmode]
  | count discarded =>
    obtain ⟨hstats, hsweep⟩ := h
    refine ⟨congrArg Prod.fst hsweep, ?_⟩
    rw [← hsweep]
    simp only [countCancelled, hstats]
  | leave _ _ => exact h
  | stay _ => exact h
  | pick id hnext =>
    have hbacklog : t.scheduler.backlog = s.sweep.1 := h.backlog_eq
    have htidy : t.scheduler.backlog.Tidy none := hbacklog ▸ hswept
    exact ⟨⟨hbacklog, h.stats_eq⟩, htidy.state_of_nextDue hnext⟩
  | rest _ => exact ⟨h.backlog_eq, h.stats_eq⟩
  | reserve id now lowWait pool k hacquire =>
    obtain ⟨hsweeps, hpending⟩ := h
    refine ⟨⟨hsweeps.backlog_eq, hsweeps.stats_eq⟩, hpending, ?_⟩
    have hknows := Pool.Knows.acquire t.scheduler.pool (t.scheduler.backlog.task id).priority
      (t.scheduler.backlog.task id).runAt now lowWait
    rw [hacquire] at hknows
    rw [hknows.isRegistered_eq]
    exact ht.isRegistered_of_idle (Pool.mem_idle_of_acquire hacquire)
  | grow id now lowWait pool _ => exact ⟨⟨h.1.backlog_eq, h.1.stats_eq⟩, h.2⟩
  | awaitPlace id now lowWait pool deadline _ => exact ⟨h.1.backlog_eq, h.1.stats_eq⟩
  | awaitWorker id now lowWait pool _ => exact ⟨h.1.backlog_eq, h.1.stats_eq⟩
  | consult id now deadline => exact h
  | register id =>
    refine ⟨⟨h.1.backlog_eq, h.1.stats_eq⟩, h.2, ?_⟩
    show t.scheduler.pool.register.1.isRegistered t.scheduler.pool.nextId = true
    rw [Pool.isRegistered_register, decide_eq_true rfl, Bool.or_true]
  | spawn id k factory thread _ => exact ⟨⟨h.1.backlog_eq, h.1.stats_eq⟩, h.2⟩
  | retry id k factory error _ => exact ⟨h.1.backlog_eq, h.1.stats_eq⟩
  | spawnFault id k factory fault _ => exact ⟨h.1.backlog_eq, h.1.stats_eq⟩
  | start id k thread => exact h
  | unlink id k backlog hremove =>
    obtain ⟨hsweeps, hpending, hreg⟩ := h
    rw [hsweeps.backlog_eq] at hpending hremove
    rw [hswept.remove hpending, Prod.mk.injEq] at hremove
    exact ⟨hpending, hremove.1.symm, hsweeps.stats_eq, hreg⟩
  | gone id k backlog hremove =>
    -- nobody has taken the task away since it was picked
    obtain ⟨hsweeps, hpending, -⟩ := h
    rw [hsweeps.backlog_eq] at hpending hremove
    rw [hswept.remove hpending] at hremove
    cases hremove
  | claim id k backlog hbegin =>
    obtain ⟨hpending, hbacklog, hstats, hreg⟩ := h
    rw [hbacklog, Backlog.begin_unlink hpending, Prod.mk.injEq] at hbegin
    exact ⟨⟨hpending, hbegin.1.symm, hstats⟩, hreg⟩
  | drop id k backlog hbegin =>
    obtain ⟨hpending, hbacklog, -⟩ := h
    rw [hbacklog, Backlog.begin_unlink hpending] at hbegin
    cases hbegin
  | hand id k pool _ => exact ⟨id, h.1.pending, h.1.backlog_eq, h.1.stats_eq⟩
  | keep id k pool hhand =>
    have hreg : t.scheduler.pool.isRegistered k = true := h.2
    simp only [Pool.hand, hreg, ↓reduceIte] at hhand
    cases hhand
  | restore id backlog _ => exact h.elim
  | letGo id backlog _ => exact h.elim
  | reinsert id backlog _ => exact h.elim
  | addFault id fault _ => exact h.elim
  | release k => exact h.elim
  | stop => exact ⟨h.backlog_eq, h.stats_eq⟩
  | exit => exact ⟨h.backlog_eq, h.stats_eq⟩
  | _ => cases hd

/-- A dispatcher that only wakes up, or stays where it is, changes nothing else. -/
private theorem PooledScheduler.step_of_resting {s : PooledScheduler} {d : Dispatcher} (hd : d.isResting = true)
    (hnext : (d.step s).2.isResting = true) : (d.step s).1.backlog = s.backlog ∧ (d.step s).1.stats = s.stats := by
  have hgoes := d.goes_step s
  generalize d.step s = next at hgoes hnext ⊢
  cases hgoes with
  | check mode _ => cases hnext
  | skip _ => cases hnext
  | wake until? reason _ => exact ⟨rfl, rfl⟩
  | expire until? reason _ _ => exact ⟨rfl, rfl⟩
  | sleep until? reason _ => exact ⟨rfl, rfl⟩
  | exited => exact ⟨rfl, rfl⟩
  | faulted fault => exact ⟨rfl, rfl⟩
  | _ => cases hd

private theorem PooledScheduler.reaches_of_resting {s : PooledScheduler} {d : Dispatcher} (hd : d.isResting = true)
    (hnext : (d.step s).2.isResting = false) : s.Reaches (d.step s).1 (d.step s).2 := by
  have hgoes := d.goes_step s
  generalize d.step s = next at hgoes hnext ⊢
  cases hgoes with
  | check mode hmode => exact ⟨rfl, mode, 0, hmode, rfl, rfl⟩
  | skip hnone => exact ⟨rfl, by rw [sweep, hnone]⟩
  | wake until? reason _ => cases hnext
  | expire until? reason _ _ => cases hnext
  | sleep until? reason _ => cases hnext
  | exited => cases hnext
  | faulted fault => cases hnext
  | _ => cases hd

namespace System

def isResting (s : System) : Bool := s.dispatcher.all Dispatcher.isResting

/-- The dispatcher goes on until it rests, for no more than `n` steps. -/
def goOn (now : Nat) : Nat → System → System
  | 0, s => s
  | n + 1, s =>
    match s.dispatcher with
    | none => s
    | some d =>
      if (s.stepDispatcher d now).isResting then s.stepDispatcher d now else goOn now n (s.stepDispatcher d now)

/-- What an iteration may do. -/
structure Iterates (s t : System) : Prop where
  reachable : t.Reachable
  /-- It wakes the dispatcher up and no more, it sweeps and no more, or it takes up a task as well. -/
  cases : t.backlog = s.backlog ∧ t.scheduler.stats = s.scheduler.stats ∨ s.scheduler.Sweeps t.scheduler ∨
    ∃ id, s.scheduler.TakesUp t.scheduler id
  shutdown_eq : t.scheduler.shutdown = s.scheduler.shutdown
  clients_eq : t.clients = s.clients
  /-- It may start a new thread. -/
  threads_cases (k : Nat) : t.threads k = s.threads k ∨
    s.threads k = none ∧ ∃ now, t.threads k = some (.acting (.fetching now))

/-- What the steps of an iteration leave alone. -/
private structure Spares (s t : System) : Prop where
  reachable : t.Reachable
  shutdown_eq : t.scheduler.shutdown = s.scheduler.shutdown
  clients_eq : t.clients = s.clients
  threads_cases (k : Nat) : t.threads k = s.threads k ∨
    s.threads k = none ∧ ∃ now, t.threads k = some (.acting (.fetching now))

variable {s t : System}

private theorem Spares.refl (h : s.Reachable) : s.Spares s := ⟨h, rfl, rfl, fun _ => .inl rfl⟩

private theorem Spares.stepDispatcher (h : s.Spares t) {d : Dispatcher} (hd : t.dispatcher = some d) (now : Nat) :
    s.Spares (t.stepDispatcher d now) where
  reachable := h.reachable.step (.dispatcher d now hd)
  shutdown_eq := (d.shutdown_step t.scheduler).trans h.shutdown_eq
  clients_eq := h.clients_eq
  threads_cases k := by
    rcases h.reachable.sound.threads_stepDispatcher_cases hd now k with hsame | ⟨hnone, hstarted⟩
    · rw [hsame]
      exact h.threads_cases k
    · rcases h.threads_cases k with hk | ⟨hk, -⟩
      · exact .inr ⟨hk ▸ hnone, now, hstarted⟩
      · exact .inr ⟨hk, now, hstarted⟩

private theorem Spares.iterates (h : s.Spares t)
    (hcases : t.backlog = s.backlog ∧ t.scheduler.stats = s.scheduler.stats ∨ s.scheduler.Sweeps t.scheduler ∨
      ∃ id, s.scheduler.TakesUp t.scheduler id) : s.Iterates t :=
  ⟨h.reachable, hcases, h.shutdown_eq, h.clients_eq, h.threads_cases⟩

/-- From a step in the middle of an iteration to its end. -/
private theorem iterates_of_reaches (hs : s.backlog.Tidy none) (h : s.Spares t) {d : Dispatcher}
    (hd : t.dispatcher = some d) (hreaches : s.scheduler.Reaches t.scheduler d) (hbusy : d.isResting = false)
    (now : Nat) {n : Nat} (hend : (t.goOn now n).isResting = true) : s.Iterates (t.goOn now n) := by
  induction n generalizing t d with
  | zero =>
    simp only [goOn, isResting, hd, Option.all_some, hbusy, Bool.false_eq_true] at hend
  | succ n ih =>
    have hstep := h.stepDispatcher hd now
    have hnext := hreaches.step hs h.reachable hbusy
    simp only [goOn, hd] at hend ⊢
    cases hresting : (t.stepDispatcher d now).isResting with
    | true =>
      simp only [↓reduceIte]
      refine hstep.iterates (.inr ?_)
      have hphase : (d.step t.scheduler).2.isResting = true := hresting
      show s.scheduler.Sweeps (d.step t.scheduler).1 ∨ ∃ id, s.scheduler.TakesUp (d.step t.scheduler).1 id
      generalize d.step t.scheduler = next at hphase hnext
      obtain ⟨u, e⟩ := next
      cases e with
      | checking => exact .inr hnext
      | parked until? reason => exact .inl hnext
      | exited => exact .inl hnext
      | faulted fault => exact .inl hnext
      | _ => cases hphase
    | false =>
      simp only [hresting, Bool.false_eq_true, ↓reduceIte] at hend ⊢
      exact ih hstep rfl hnext hresting hend

/-- What the dispatcher does between two moments at which it rests. -/
theorem iterates_goOn (h : s.Reachable) (hs : s.backlog.Tidy none) (hrests : s.isResting = true) (now : Nat) {n : Nat}
    (hend : (s.goOn now n).isResting = true) : s.Iterates (s.goOn now n) := by
  have hsame : s.Iterates s := (Spares.refl h).iterates (.inl ⟨rfl, rfl⟩)
  cases n with
  | zero => exact hsame
  | succ n =>
    cases hd : s.dispatcher with
    | none =>
      simp only [goOn, hd]
      exact hsame
    | some d =>
      have hspares := (Spares.refl h).stepDispatcher hd now
      have hresting : d.isResting = true := by simpa [isResting, hd] using hrests
      simp only [goOn, hd] at hend ⊢
      cases hfirst : (s.stepDispatcher d now).isResting with
      | true =>
        simp only [↓reduceIte]
        exact hspares.iterates (.inl (PooledScheduler.step_of_resting hresting hfirst))
      | false =>
        simp only [hfirst, Bool.false_eq_true, ↓reduceIte] at hend ⊢
        exact iterates_of_reaches hs hspares rfl (PooledScheduler.reaches_of_resting hresting hfirst) hfirst now hend

end System

end TaskScheduling
