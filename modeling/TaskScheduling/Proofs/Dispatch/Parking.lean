import Mathlib
import TaskScheduling.Dispatch.Dispatcher
import TaskScheduling.Proofs.Backlog.Accounted
import TaskScheduling.Proofs.Backlog.RunTimes

/-!
# How long a dispatcher parks

A dispatcher that finds nothing to do, no place or no worker parks until the moment when that can change by itself: a
run time comes, or low work has waited long enough.  It does not park past a moment at which it could serve a task, with
one exception: on behalf of starvable work it waits for a worker to become free and sets no time, although the pool has
room for the high and the low tasks that become due meanwhile.

* `Pool.acquire_eq_wait_iff`, `Pool.acquire_eq_waitUntil_iff`: when the pool has nothing to offer.
* `Dispatcher.round_eq_parked`: how a round comes to end with the dispatcher parked.
* `Dispatcher.canServe_of_parked`: exactly when it could have served a task before it wakes up.
-/

namespace TaskScheduling

/-! ### What the pool offers -/

namespace Pool

variable {p : Pool} {priority : Priority} {dueSince now lowWait : Nat}

theorem growth_eq_wait_iff : p.growth priority dueSince now lowWait = .wait ↔
    p.canGrow = false ∨ priority = .starvable ∧ p.size ≠ 0 := by
  unfold growth
  cases hroom : p.canGrow with
  | false => simp
  | true =>
    cases priority with
    | high => simp
    | low =>
      simp only [Bool.not_true, Bool.false_eq_true, ↓reduceIte]
      split <;> simp
    | starvable =>
      simp only [Bool.not_true, Bool.false_eq_true, ↓reduceIte]
      split <;> simp [*]

theorem growth_eq_waitUntil_iff {deadline : Nat} : p.growth priority dueSince now lowWait = .waitUntil deadline ↔
    p.canGrow = true ∧ priority = .low ∧ now < deadline ∧ deadline = Time.plus dueSince lowWait := by
  unfold growth
  cases hroom : p.canGrow with
  | false => simp
  | true =>
    cases priority with
    | high => simp
    | low =>
      simp only [Bool.not_true, Bool.false_eq_true, ↓reduceIte, true_and]
      constructor
      · intro h
        split at h
        · cases h; exact ⟨‹_›, rfl⟩
        · cases h
      · rintro ⟨hlt, rfl⟩
        rw [if_pos hlt]
    | starvable =>
      simp only [Bool.not_true, Bool.false_eq_true, ↓reduceIte]
      split <;> simp

/-- A pool that offers nothing reserves nothing. -/
theorem acquire_eq_growth (hstopping : p.stopping = false) (hidle : p.idle = []) :
    (p.acquire priority dueSince now lowWait).2 = p.growth priority dueSince now lowWait := by
  unfold acquire
  rw [hstopping, hidle]
  cases p.growth priority dueSince now lowWait <;> rfl

theorem acquire_eq_wait_iff : (p.acquire priority dueSince now lowWait).2 = .wait ↔
    p.stopping = true ∨ p.idle = [] ∧ (p.canGrow = false ∨ priority = .starvable ∧ p.size ≠ 0) := by
  cases hstopping : p.stopping with
  | true => simp [acquire_stopping hstopping]
  | false =>
    cases hidle : p.idle with
    | nil =>
      rw [acquire_eq_growth hstopping hidle, growth_eq_wait_iff]
      simp
    | cons worker rest => simp [acquire, hstopping, hidle]

theorem acquire_eq_waitUntil_iff {deadline : Nat} :
    (p.acquire priority dueSince now lowWait).2 = .waitUntil deadline ↔
      p.stopping = false ∧ p.idle = [] ∧ p.canGrow = true ∧ priority = .low ∧ now < deadline ∧
        deadline = Time.plus dueSince lowWait := by
  cases hstopping : p.stopping with
  | true => simp [acquire_stopping hstopping]
  | false =>
    cases hidle : p.idle with
    | nil =>
      rw [acquire_eq_growth hstopping hidle, growth_eq_waitUntil_iff]
      simp
    | cons worker rest => simp [acquire, hstopping, hidle]

theorem acquire_fst_of_wait (h : (p.acquire priority dueSince now lowWait).2 = .wait) :
    (p.acquire priority dueSince now lowWait).1 = p := by
  unfold acquire at h ⊢
  split
  · rfl
  · next hstopping =>
    rw [if_neg hstopping] at h
    split
    · next hidle => rw [hidle] at h; cases h
    · next hidle =>
      rw [hidle] at h
      split
      · next hgrow => simp only [hgrow] at h; cases h
      · rfl

theorem acquire_fst_of_waitUntil {deadline : Nat}
    (h : (p.acquire priority dueSince now lowWait).2 = .waitUntil deadline) :
    (p.acquire priority dueSince now lowWait).1 = p := by
  obtain ⟨hstopping, hidle, -⟩ := acquire_eq_waitUntil_iff.1 h
  unfold acquire at h ⊢
  rw [hstopping, hidle] at h ⊢
  simp only [Bool.false_eq_true, ↓reduceIte] at h ⊢
  split
  · next hgrow => simp only [hgrow] at h; cases h
  · rfl

/-- Whether the pool offers a worker or a place for one. -/
def Offers (p : Pool) (priority : Priority) (dueSince now lowWait : Nat) : Prop :=
  (∃ worker, (p.acquire priority dueSince now lowWait).2 = .idle worker) ∨
    (p.acquire priority dueSince now lowWait).2 = .grow

theorem not_offers_iff : ¬p.Offers priority dueSince now lowWait ↔
    (p.acquire priority dueSince now lowWait).2 = .wait ∨
      ∃ deadline, (p.acquire priority dueSince now lowWait).2 = .waitUntil deadline := by
  unfold Offers
  cases (p.acquire priority dueSince now lowWait).2 <;> simp

end Pool

/-! ### One round of the dispatcher -/

/-- Whether a dispatcher that parks for this reason waits on behalf of starvable work, while the pool has room for the
more urgent work that is queued. -/
def PooledScheduler.Overlooks (s : PooledScheduler) (reason : ParkReason) : Prop :=
  (∃ id, reason = .worker id ∧ (s.backlog.task id).priority = .starvable) ∧ s.pool.stopping = false ∧
    s.pool.canGrow = true ∧ ∃ j ∈ s.backlog.queued, (s.backlog.task j).priority ≠ .starvable

/-- Whether at the time `t` something is due for which the pool offers a worker or a place for one. -/
def PooledScheduler.CanServe (s : PooledScheduler) (t : Nat) : Prop :=
  ∃ id, s.backlog.nextDue t (some s.lowWait) = some id ∧
    s.pool.Offers (s.backlog.task id).priority (s.backlog.task id).runAt t s.lowWait

namespace Dispatcher

/-- Several steps with nothing in between, and none after the dispatcher has parked. -/
def advance : Nat → PooledScheduler × Dispatcher → PooledScheduler × Dispatcher
  | 0, x => x
  | _ + 1, (s, parked until? reason) => (s, parked until? reason)
  | n + 1, (s, d) => advance n (d.step s)

/-- A round from its start to the moment when the dispatcher parks, or has found a worker or a place for one. -/
def round (s : PooledScheduler) : PooledScheduler × Dispatcher := advance 6 (s, checking)

private theorem advance_succ {n : Nat} {s : PooledScheduler} {d : Dispatcher}
    (h : ∀ until? reason, d ≠ parked until? reason) : advance (n + 1) (s, d) = advance n (d.step s) := by
  cases d <;> first | rfl | exact absurd rfl (h _ _)

/-- The scheduler after the dispatcher has read the clock. -/
def looked (s : PooledScheduler) : PooledScheduler := { s with clock := s.clock.accurate.2 }

private theorem round_eq {s : PooledScheduler} (h : s.shutdown = none) : round s = advance 3 (s, picking) := by
  have hchecking : checking.step s = (s, counting []) := by simp only [step, h]
  have hleave : leaveTaking.step s = (s, picking) := by simp [step, PooledScheduler.isShutdown, h]
  have hcounting : (counting []).step s = (s, leaveTaking) := rfl
  rw [round, advance_succ (by simp), hchecking, advance_succ (by simp), hcounting, advance_succ (by simp), hleave]

/-- A round ends with the dispatcher parked because nothing is due, because low work has to wait for a place, or
because there is no worker for what is due. -/
theorem round_eq_parked {s s' : PooledScheduler} {until? : Option Nat} {reason : ParkReason} (h : s.shutdown = none)
    (hround : round s = (s', parked until? reason)) :
    s' = looked s ∧
      (s.backlog.nextDue s.clock.accurate.1 (some s.lowWait) = none ∧ reason = .nothingDue ∧
          until? = parkEnd s.clock.accurate.1 s.backlog.nextRunAt ∨
        ∃ id, s.backlog.nextDue s.clock.accurate.1 (some s.lowWait) = some id ∧
          ((∃ deadline, (s.pool.acquire (s.backlog.task id).priority (s.backlog.task id).runAt s.clock.accurate.1
                s.lowWait).2 = .waitUntil deadline ∧ reason = .place id ∧
              until? = parkEnd s.clock.accurate.1
                (QueueSet.earlier (s.backlog.nextRunAfter s.clock.accurate.1) (some deadline))) ∨
            (s.pool.acquire (s.backlog.task id).priority (s.backlog.task id).runAt s.clock.accurate.1
                s.lowWait).2 = .wait ∧ reason = .worker id ∧ until? = none)) := by
  rw [round_eq h] at hround
  cases hnext : s.backlog.nextDue s.clock.accurate.1 (some s.lowWait) with
  | none =>
    have hpicking : picking.step s =
        (looked s, parked (parkEnd s.clock.accurate.1 s.backlog.nextRunAt) .nothingDue) := by
      simp only [step, hnext]
      rfl
    rw [advance_succ (by simp), hpicking, advance] at hround
    cases hround
    exact ⟨rfl, .inl ⟨rfl, rfl, rfl⟩⟩
  | some id =>
    have hpicking : picking.step s = (looked s, acquiring id s.clock.accurate.1 s.lowWait) := by
      simp only [step, hnext]
      rfl
    rw [advance_succ (by simp), hpicking, advance_succ (by simp)] at hround
    rcases hacquire : s.pool.acquire (s.backlog.task id).priority (s.backlog.task id).runAt s.clock.accurate.1 s.lowWait
      with ⟨pool, answer⟩
    have hacquiring : (acquiring id s.clock.accurate.1 s.lowWait).step (looked s) = match answer with
        | .idle worker => ({ looked s with pool := pool }, unlinking id worker)
        | .grow => ({ looked s with pool := pool }, registering id)
        | .waitUntil deadline => ({ looked s with pool := pool }, consulting id s.clock.accurate.1 deadline)
        | .wait => ({ looked s with pool := pool }, parked none (.worker id)) := by
      simp only [step, looked, hacquire]
      cases answer <;> rfl
    rw [hacquiring] at hround
    cases answer with
    | idle worker =>
      -- with a worker at hand the round goes on
      have hunlinking : ∀ until? reason,
          ((unlinking id worker).step { looked s with pool := pool }).2 ≠ parked until? reason := by
        intro until? reason
        simp only [step]
        split <;> simp
      rw [advance_succ (by simp), advance] at hround
      exact absurd (congrArg Prod.snd hround) (hunlinking _ _)
    | grow =>
      rw [advance_succ (by simp), advance] at hround
      exact absurd (congrArg Prod.snd hround) (by simp [step])
    | waitUntil deadline =>
      have hanswer := congrArg Prod.snd hacquire
      have hpool := Pool.acquire_fst_of_waitUntil hanswer
      rw [hacquire] at hpool
      obtain rfl : pool = s.pool := hpool
      rw [advance_succ (by simp), advance] at hround
      cases hround
      exact ⟨rfl, .inr ⟨id, rfl, .inl ⟨deadline, hanswer, rfl, rfl⟩⟩⟩
    | wait =>
      have hanswer := congrArg Prod.snd hacquire
      have hpool := Pool.acquire_fst_of_wait hanswer
      rw [hacquire] at hpool
      obtain rfl : pool = s.pool := hpool
      rw [advance] at hround
      cases hround
      exact ⟨rfl, .inr ⟨id, rfl, .inr ⟨hanswer, rfl, rfl⟩⟩⟩

/-! ### Nothing is missed -/

variable {s : PooledScheduler} {now t : Nat} {id : TaskId}

/-- Before the next run time there is nothing to serve. -/
private theorem not_canServe_of_nothingDue (hkept : s.backlog.Kept) {lowWait : Option Nat}
    (hnext : s.backlog.nextDue now lowWait = none)
    (hend : ∀ e, parkEnd now s.backlog.nextRunAt = some e → t < e) : ¬s.CanServe t := by
  rintro ⟨j, hj, -⟩
  obtain ⟨hmem, hdue⟩ := hkept.eligible_iff.1 (Backlog.eligible_of_nextDue hkept hj)
  have hnot := (Backlog.nextDue_eq_none_iff hkept lowWait).1 hnext j
  rw [hkept.eligible_iff] at hnot
  have hkind : (s.backlog.task j).queueKind ≠ .ready := fun hk => hnot ⟨hmem, .inl hk⟩
  have hlate : now < (s.backlog.task j).runAt := by
    by_contra hle
    exact hnot ⟨hmem, .inr (by omega)⟩
  have hfuture : j ∈ s.backlog.queue ⟨(s.backlog.task j).priority, .future⟩ := by
    have hk : (s.backlog.task j).queueKind = .future := by cases h : (s.backlog.task j).queueKind <;> simp_all
    rwa [Task.home, hk] at hmem
  obtain ⟨r, hr, hrj⟩ := Backlog.exists_nextRunAt hkept hfuture
  rw [hr] at hend
  have hbefore : t < now + max (r - now) 1 := hend _ rfl
  have hrun := hdue.resolve_left hkind
  omega

/-- Before there is a place for it, and before anything else comes due, low work goes on waiting. -/
private theorem not_canServe_of_place (hkept : s.backlog.Kept) {deadline : Nat}
    (hnext : s.backlog.nextDue now (some s.lowWait) = some id)
    (hacquire : (s.pool.acquire (s.backlog.task id).priority (s.backlog.task id).runAt now s.lowWait).2 =
      .waitUntil deadline) (hle : now ≤ t)
    (hend : ∀ e, parkEnd now (QueueSet.earlier (s.backlog.nextRunAfter now) (some deadline)) = some e → t < e) :
    ¬s.CanServe t := by
  obtain ⟨hstopping, hidle, hroom, hlow, hlt, hdeadline⟩ := Pool.acquire_eq_waitUntil_iff.1 hacquire
  obtain ⟨a, ha, had⟩ : ∃ a, QueueSet.earlier (s.backlog.nextRunAfter now) (some deadline) = some a ∧ a ≤ deadline :=
    QueueSet.exists_earlier (.inr ⟨deadline, rfl, Nat.le_refl _⟩)
  have hnow : now < a := by
    rcases QueueSet.mem_earlier ha with hr | hr
    · exact Backlog.lt_of_nextRunAfter hkept hr
    · cases hr
      exact hlt
  rw [ha] at hend
  have hbefore : t < now + max (a - now) 1 := hend _ rfl
  -- nothing comes due before the dispatcher wakes up, so that it would pick the same task
  have hquiet : ∀ p, ∀ j ∈ s.backlog.queue ⟨p, .future⟩,
      (s.backlog.task j).runAt ≤ t → (s.backlog.task j).runAt ≤ now := by
    intro p j hj hdue
    by_contra hlate
    obtain ⟨r, hr, hrj⟩ := Backlog.exists_nextRunAfter hkept hj (Nat.not_le.1 hlate)
    obtain ⟨c, hc, hcr⟩ : ∃ c, QueueSet.earlier (s.backlog.nextRunAfter now) (some deadline) = some c ∧ c ≤ r :=
      QueueSet.exists_earlier (.inl ⟨r, hr, Nat.le_refl _⟩)
    rw [ha] at hc
    obtain rfl := Option.some.inj hc
    omega
  rintro ⟨j, hj, hoffers⟩
  rw [Backlog.nextDue_eq_of_quiet hle hquiet, hnext] at hj
  obtain rfl := Option.some.inj hj
  have hwait : (s.pool.acquire (s.backlog.task id).priority (s.backlog.task id).runAt t s.lowWait).2 =
      .waitUntil deadline :=
    Pool.acquire_eq_waitUntil_iff.2 ⟨hstopping, hidle, hroom, hlow, by omega, hdeadline⟩
  exact Pool.not_offers_iff.2 (.inr ⟨deadline, hwait⟩) hoffers

/-- Where there is no worker for what is due, there is none for anything else, unless that is starvable. -/
private theorem not_canServe_of_worker (hkept : s.backlog.Kept)
    (hacquire : (s.pool.acquire (s.backlog.task id).priority (s.backlog.task id).runAt now s.lowWait).2 = .wait)
    (hnot : (s.backlog.task id).priority = .starvable → s.pool.stopping = false → s.pool.canGrow = true →
      ∀ j ∈ s.backlog.queued, (s.backlog.task j).priority = .starvable) : ¬s.CanServe t := by
  rintro ⟨j, hj, hoffers⟩
  have hmem := (Backlog.eligible_of_nextDue hkept hj).mem_queued
  refine Pool.not_offers_iff.2 (.inl (Pool.acquire_eq_wait_iff.2 ?_)) hoffers
  rcases Pool.acquire_eq_wait_iff.1 hacquire with hstopping | ⟨hidle, hroom | ⟨hstarvable, hsize⟩⟩
  · exact .inl hstopping
  · exact .inr ⟨hidle, .inl hroom⟩
  · cases hstopping : s.pool.stopping with
    | true => exact .inl rfl
    | false =>
      cases hroom : s.pool.canGrow with
      | false => exact .inr ⟨hidle, .inl rfl⟩
      | true => exact .inr ⟨hidle, .inr ⟨hnot hstarvable hstopping hroom j hmem, hsize⟩⟩

/-! ### What is overlooked -/

private theorem offers_of_room {p : Pool} (hstopping : p.stopping = false) (hroom : p.canGrow = true)
    {priority : Priority} {dueSince lowWait : Nat} (hstarvable : priority ≠ .starvable)
    (hlow : priority = .low → Time.plus dueSince lowWait ≤ t) : p.Offers priority dueSince t lowWait := by
  by_contra hnot
  rcases Pool.not_offers_iff.1 hnot with hwait | ⟨deadline, hwait⟩
  · rcases Pool.acquire_eq_wait_iff.1 hwait with h | ⟨-, h | ⟨h, -⟩⟩
    · rw [hstopping] at h
      cases h
    · rw [hroom] at h
      cases h
    · exact hstarvable h
  · obtain ⟨-, -, -, hp, hlt, rfl⟩ := Pool.acquire_eq_waitUntil_iff.1 hwait
    have := hlow hp
    omega

/-- While starvable work is shown, everything more urgent lies in the future. -/
private theorem future_of_starvable (hkept : s.backlog.Kept) {lowWait : Option Nat}
    (hnext : s.backlog.nextDue now lowWait = some id) (hid : (s.backlog.task id).priority = .starvable) {j : TaskId}
    (hj : j ∈ s.backlog.queued) (hurgent : (s.backlog.task j).priority ≠ .starvable) :
    j ∈ s.backlog.queue ⟨(s.backlog.task j).priority, .future⟩ ∧ now < (s.backlog.task j).runAt := by
  have hnot : ¬s.backlog.Eligible now j := fun helig =>
    hurgent (Backlog.priority_of_nextDue hkept hnext hid helig)
  obtain ⟨slot, hmem⟩ := Backlog.mem_queued_iff.1 hj
  have hhome := hkept.task_home_of_mem hmem
  obtain ⟨p, kind⟩ := slot
  obtain rfl : (s.backlog.task j).priority = p := congrArg QueueSlot.priority hhome
  cases kind with
  | ready => exact absurd ⟨_, hmem, .inl rfl⟩ hnot
  | future =>
    refine ⟨hmem, ?_⟩
    by_contra hle
    exact hnot ⟨_, hmem, .inr (by omega)⟩

/-- Once more urgent work has come due, and low work has waited long enough, it would be served. -/
private theorem canServe_of_starvable (hkept : s.backlog.Kept)
    (hnext : s.backlog.nextDue now (some s.lowWait) = some id) (hid : (s.backlog.task id).priority = .starvable)
    (hstopping : s.pool.stopping = false) (hroom : s.pool.canGrow = true) {j : TaskId}
    (hj : j ∈ s.backlog.queued) (hurgent : (s.backlog.task j).priority ≠ .starvable)
    (hdue : (s.backlog.task j).runAt ≤ t)
    (hlow : (s.backlog.task j).priority = .low → Time.plus (s.backlog.task j).runAt s.lowWait ≤ t) :
    s.CanServe t := by
  obtain ⟨hmem, -⟩ := future_of_starvable hkept hnext hid hj hurgent
  have helig : s.backlog.Eligible t j := ⟨_, hmem, .inr hdue⟩
  cases hshown : s.backlog.nextDue t (some s.lowWait) with
  | none => exact absurd helig ((Backlog.nextDue_eq_none_iff hkept _).1 hshown j)
  | some x =>
    have hx : (s.backlog.task x).priority ≠ .starvable := fun hx =>
      hurgent (Backlog.priority_of_nextDue hkept hshown hx helig)
    refine ⟨x, hshown, offers_of_room hstopping hroom hx fun hxlow => ?_⟩
    obtain ⟨hpeek, hahead⟩ := Backlog.peekDue_of_nextDue_low hkept hshown hxlow
    cases hhigh : (s.backlog.queueSet .high).peekDue s.backlog.tasks t with
    | some y =>
      -- it goes ahead of high work, which was not due before, so that it has waited long enough
      obtain ⟨hy, hyhigh⟩ := Backlog.eligible_of_peekDue hkept hhigh
      have hyurgent : (s.backlog.task y).priority ≠ .starvable := by simp [hyhigh]
      obtain ⟨hyfuture, -⟩ := future_of_starvable hkept hnext hid hy.mem_queued hyurgent
      have hykind : (s.backlog.task y).queueKind = .future :=
        congrArg QueueSlot.kind (hkept.task_home_of_mem hyfuture)
      have hydue := (hkept.eligible_iff.1 hy).2.resolve_left (by simp [hykind])
      have hwaited := hahead y hhigh
      omega
    | none =>
      have hjlow : (s.backlog.task j).priority = .low := by
        cases hp : (s.backlog.task j).priority with
        | high => exact absurd hp ((Backlog.peekDue_eq_none_iff hkept).1 hhigh j helig)
        | low => rfl
        | starvable => exact absurd hp hurgent
      rw [hjlow] at hmem
      have hle := Backlog.runAt_le_of_peekDue hkept hpeek hmem hdue
      exact (Time.plus_mono s.lowWait hle).trans (hlow hjlow)

/-- A dispatcher that parks at the time `now` sleeps past a moment at which it could serve a task exactly when it
overlooks one: then it has set no time at all, and misses high work from its run time on, and low work from when it has
waited long enough. -/
theorem canServe_of_parked {s s' : PooledScheduler} {until? : Option Nat} {reason : ParkReason}
    (hkept : s.backlog.Kept) (hshutdown : s.shutdown = none) (hround : round s = (s', parked until? reason)) :
    ((∃ t, s.clock.accurate.1 ≤ t ∧ (∀ e, until? = some e → t < e) ∧ s'.CanServe t) ↔ s'.Overlooks reason) ∧
    (s'.Overlooks reason → until? = none ∧
      ∀ j ∈ s'.backlog.queued, (s'.backlog.task j).priority ≠ .starvable → s.clock.accurate.1 < (s'.backlog.task j).runAt ∧
        ∀ t, (s'.backlog.task j).runAt ≤ t →
          ((s'.backlog.task j).priority = .low → Time.plus (s'.backlog.task j).runAt s'.lowWait ≤ t) →
          s'.CanServe t) := by
  obtain ⟨rfl, hcases⟩ := round_eq_parked hshutdown hround
  have hmissed (hoverlooks : (looked s).Overlooks reason) : until? = none ∧
      ∀ j ∈ s.backlog.queued, (s.backlog.task j).priority ≠ .starvable → s.clock.accurate.1 < (s.backlog.task j).runAt ∧
        ∀ t, (s.backlog.task j).runAt ≤ t →
          ((s.backlog.task j).priority = .low → Time.plus (s.backlog.task j).runAt s.lowWait ≤ t) →
          (looked s).CanServe t := by
    obtain ⟨⟨id, rfl, hid⟩, hstopping, hroom, -⟩ := hoverlooks
    rcases hcases with ⟨-, hreason, -⟩ | ⟨j, hnext, ⟨_, -, hreason, -⟩ | ⟨-, hreason, huntil⟩⟩
    · cases hreason
    · cases hreason
    · cases hreason
      refine ⟨huntil, fun j hj hurgent => ?_⟩
      have hlate := (future_of_starvable hkept hnext hid hj hurgent).2
      exact ⟨hlate, fun t hdue hlow =>
        canServe_of_starvable (s := looked s) hkept hnext hid hstopping hroom hj hurgent hdue hlow⟩
  refine ⟨⟨?_, ?_⟩, hmissed⟩
  · rintro ⟨t, hle, hend, hserve⟩
    rcases hcases with ⟨hnext, rfl, rfl⟩ | ⟨id, hnext, ⟨deadline, hacquire, rfl, rfl⟩ | ⟨hacquire, rfl, rfl⟩⟩
    · exact absurd hserve (not_canServe_of_nothingDue (s := looked s) hkept hnext hend)
    · exact absurd hserve (not_canServe_of_place (s := looked s) hkept hnext hacquire hle hend)
    · by_contra hnot
      refine not_canServe_of_worker (s := looked s) hkept hacquire ?_ hserve
      intro hid hstopping hroom j hj
      by_contra hurgent
      exact hnot ⟨⟨id, rfl, hid⟩, hstopping, hroom, j, hj, hurgent⟩
  · intro hoverlooks
    obtain ⟨huntil, hserved⟩ := hmissed hoverlooks
    -- some task that is not starvable comes due while the dispatcher sleeps
    obtain ⟨-, -, -, j, hj, hurgent⟩ := hoverlooks
    obtain ⟨hlate, hserve⟩ := hserved j hj hurgent
    refine ⟨max (s.backlog.task j).runAt (Time.plus (s.backlog.task j).runAt s.lowWait), ?_, ?_, ?_⟩
    · have hlate : s.clock.accurate.1 < (s.backlog.task j).runAt := hlate
      omega
    · intro e he
      rw [huntil] at he
      cases he
    · exact hserve _ (Nat.le_max_left _ _) fun _ => Nat.le_max_right _ _

private def spareWork : Request := ⟨.zero, .oneTime, some .starvable, none⟩

private def laterWork : Request := ⟨.ofMillis 100, .oneTime, some .high, none⟩

/-- One of two workers is busy, starvable work is due, and high work will be. -/
private def oneBusy : PooledScheduler :=
  { PooledScheduler.start (.start (.manual 0)) ((Pool.start 2 .zero).acquire .high 0 0 0).1.register.1 (.plain "w") .bare
      .empty .high 10 with
    backlog := (Backlog.empty.enlist 0 spareWork .high).enlist 0 laterWork .high }

private theorem kept_oneBusy : oneBusy.backlog.Kept := by
  have hempty := Backlog.Accounted.empty .high 0
  have hspare := hempty.enlist (Nat.le_refl 0) spareWork
  have hlater := hspare.enlist (Nat.le_refl 0) laterWork
  exact hlater.tidy.toKept

/-- The dispatcher parks for good, though it could start the high task on the second worker after 100 milliseconds. -/
theorem canServe_oneBusy :
    oneBusy.backlog.Kept ∧ oneBusy.shutdown = none ∧
      round oneBusy = (looked oneBusy, parked none (.worker ⟨0⟩)) ∧
      (looked oneBusy).Overlooks (.worker ⟨0⟩) ∧ (looked oneBusy).CanServe 100 := by
  have hround : round oneBusy = (looked oneBusy, parked none (.worker ⟨0⟩)) := by cbv
  have hqueued : (looked oneBusy).backlog.queued = [⟨1⟩, ⟨0⟩] := by cbv
  have hpriority : ((looked oneBusy).backlog.task ⟨1⟩).priority = .high := by cbv
  have hrun : ((looked oneBusy).backlog.task ⟨1⟩).runAt = 100 := by cbv
  have hmem : (⟨1⟩ : TaskId) ∈ (looked oneBusy).backlog.queued := by simp [hqueued]
  have hurgent : ((looked oneBusy).backlog.task ⟨1⟩).priority ≠ .starvable := by simp [hpriority]
  have hoverlooks : (looked oneBusy).Overlooks (.worker ⟨0⟩) :=
    ⟨⟨_, rfl, by cbv⟩, by cbv, by cbv, ⟨1⟩, hmem, hurgent⟩
  have hmissed := (canServe_of_parked kept_oneBusy rfl hround).2 hoverlooks
  exact ⟨kept_oneBusy, rfl, hround, hoverlooks,
    (hmissed.2 ⟨1⟩ hmem hurgent).2 100 (Nat.le_of_eq hrun) (by simp [hpriority])⟩

end Dispatcher

end TaskScheduling
