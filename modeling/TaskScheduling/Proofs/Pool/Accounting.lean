import Mathlib.Logic.Function.Basic
import TaskScheduling.Proofs.Pool.Roster

/-!
# The books of a pool

A pool does not remember to whom it has answered what.  `PoolUse` keeps books on that beside the pool: the promised
places that nobody has been entered in yet, the workers whose threads are still to be started, the reserved workers, and
those that execute a task.  `PoolUse.Step` has every operation of the pool in the way in which dispatchers and workers
use it, in any order.

`PoolUse.Reachable.accounts` says that the books balance.  A worker plays one part at a time (`PoolUse.parts`): it is
idle, or it is reserved, which includes that its thread is still to be started, or it holds a task, or it executes one.
Only a worker that has left may still be reserved, and only a worker of a pool that is stopping may have no part.
-/

namespace TaskScheduling

/-! ### Books -/

/-- A pool with what it owes and what it is owed. -/
structure PoolUse where
  pool : Pool
  /-- The places that were promised and in which nobody has been entered yet. -/
  promised : Nat
  /-- The workers that were entered and whose threads are still to be started. -/
  starting : List Nat
  reserved : List Nat
  /-- The workers that have taken a task and not given themselves back since. -/
  running : Nat → Bool

namespace PoolUse

/-- A pool that nobody has used yet. -/
def start (maxSize : Nat) (keepAlive : Duration) : PoolUse := ⟨.start maxSize keepAlive, 0, [], [], fun _ => false⟩

def withPool (u : PoolUse) (p : Pool) : PoolUse := { u with pool := p }

/-- The pool is asked for a worker, and reserves the worker or the place that it answers. -/
def acquire (u : PoolUse) (priority : Priority) (dueSince now lowWait : Nat) : PoolUse :=
  match u.pool.acquire priority dueSince now lowWait with
  | (p, .idle k) => { u with pool := p, reserved := k :: u.reserved }
  | (p, .grow) => { u with pool := p, promised := u.promised + 1 }
  | (p, _) => u.withPool p

/-- A worker is entered in a promised place. -/
def register (u : PoolUse) : PoolUse :=
  { u with
    pool := u.pool.register.1
    promised := u.promised - 1
    starting := u.pool.register.2 :: u.starting }

/-- The thread of a worker has been started; the worker is reserved for who has started it. -/
def enter (u : PoolUse) (k : Nat) : PoolUse :=
  { u with starting := u.starting.erase k, reserved := k :: u.reserved }

/-- The thread of a worker could not be started. -/
def decline (u : PoolUse) (k : Nat) : PoolUse :=
  { u with pool := u.pool.removeWorker k, starting := u.starting.erase k }

def hand (u : PoolUse) (k : Nat) (id : TaskId) : PoolUse :=
  { u with pool := (u.pool.hand k id).1, reserved := u.reserved.erase k }

def releaseUnused (u : PoolUse) (k : Nat) : PoolUse :=
  { u with pool := u.pool.releaseUnused k, reserved := u.reserved.erase k }

def take (u : PoolUse) (k : Nat) : PoolUse :=
  { u with pool := (u.pool.takeTask k).1, running := Function.update u.running k true }

def release (u : PoolUse) (k : Nat) : PoolUse :=
  { u with pool := (u.pool.release k).1, running := Function.update u.running k false }

/-- One operation of the pool, by somebody who may use it. -/
inductive Step (u : PoolUse) : PoolUse → Prop where
  | acquire (priority : Priority) (dueSince now lowWait : Nat) : Step u (u.acquire priority dueSince now lowWait)
  | register : 0 < u.promised → Step u u.register
  | enter (k : Nat) : k ∈ u.starting → Step u (u.enter k)
  | decline (k : Nat) : k ∈ u.starting → Step u (u.decline k)
  | hand (k : Nat) (id : TaskId) : k ∈ u.reserved → Step u (u.hand k id)
  | releaseUnused (k : Nat) : k ∈ u.reserved → Step u (u.releaseUnused k)
  | take (k : Nat) : (u.pool.task? k).isSome = true → Step u (u.take k)
  /-- Only a worker that has finished a task gives itself back. -/
  | release (k : Nat) : u.running k = true → Step u (u.release k)
  /-- A worker that executes no task may retire at any time. -/
  | retire (k : Nat) : k ∉ u.starting → u.running k = false → Step u (u.withPool (u.pool.retire k).1)
  | setMaxSize (n : Nat) : Step u (u.withPool (u.pool.setMaxSize n))
  | setKeepAlive (d : Duration) : Step u (u.withPool (u.pool.setKeepAlive d))
  | interruptAll : Step u (u.withPool u.pool.interruptAll)
  | stop : Step u (u.withPool u.pool.stop)
  /-- A worker is no longer interrupted when it has finished its task. -/
  | calm (k : Nat) : Step u (u.withPool (u.pool.modifyWorker k fun w => { w with interrupted := false }))
  /-- A worker uses its wake-up. -/
  | rouse (k : Nat) : Step u (u.withPool (u.pool.modifyWorker k fun w => { w with woken := false }))

inductive Reachable : PoolUse → Prop where
  | start (maxSize : Nat) (keepAlive : Duration) : Reachable (start maxSize keepAlive)
  | step {u u' : PoolUse} : Reachable u → Step u u' → Reachable u'

/-- How many parts the worker `k` plays: it may be idle, reserved or still to be started, hold a task or execute one. -/
def parts (u : PoolUse) (k : Nat) : Nat :=
  u.pool.idle.count k + (u.starting.count k + u.reserved.count k) + (u.pool.task? k).isSome.toNat +
    (u.running k).toNat

/-- What is kept of the worker `k`. -/
structure PlaysPart (u : PoolUse) (k : Nat) : Prop where
  parts_le : u.parts k ≤ 1
  parts_eq : u.pool.isRegistered k = true → u.pool.stopping = false → u.parts k = 1
  /-- A worker that has left may only be reserved. -/
  left : u.pool.isRegistered k = false → u.parts k = u.reserved.count k
  lt_nextId : u.pool.isRegistered k = true ∨ 0 < u.parts k → k < u.pool.nextId

namespace PlaysPart

variable {u u' : PoolUse} {k : Nat}

/-- A worker goes over to another part, or to none that it has not had. -/
theorem mono (h : u.PlaysPart k) (hreg : u'.pool.isRegistered k = u.pool.isRegistered k)
    (hnext : u.pool.nextId ≤ u'.pool.nextId) (hle : u'.parts k ≤ u.parts k)
    (heq : u.pool.isRegistered k = true → u'.pool.stopping = false →
      u.pool.stopping = false ∧ u'.parts k = u.parts k)
    (hleft : u.pool.isRegistered k = false → u'.parts k + u.reserved.count k = u.parts k + u'.reserved.count k) :
    u'.PlaysPart k where
  parts_le := Nat.le_trans hle h.parts_le
  parts_eq hreg' hstopping := by
    rw [hreg] at hreg'
    obtain ⟨hstopping, hparts⟩ := heq hreg' hstopping
    rw [hparts, h.parts_eq hreg' hstopping]
  left hreg' := by
    rw [hreg] at hreg'
    have hold := h.left hreg'
    have hnew := hleft hreg'
    omega
  lt_nextId hused := by
    rw [hreg] at hused
    exact Nat.lt_of_lt_of_le (h.lt_nextId (hused.imp_right (Nat.lt_of_lt_of_le · hle))) hnext

/-- Nothing changes for a worker. -/
theorem congr (h : u.PlaysPart k) (hreg : u'.pool.isRegistered k = u.pool.isRegistered k)
    (hnext : u.pool.nextId ≤ u'.pool.nextId) (hstopping : u'.pool.stopping = u.pool.stopping)
    (hparts : u'.parts k = u.parts k) (hreserved : u'.reserved.count k = u.reserved.count k) : u'.PlaysPart k :=
  h.mono hreg hnext (Nat.le_of_eq hparts) (fun _ h' => ⟨hstopping ▸ h', hparts⟩) fun _ => by rw [hparts, hreserved]

theorem acquire (h : u.PlaysPart k) (priority : Priority) (dueSince now lowWait : Nat) :
    (u.acquire priority dueSince now lowWait).PlaysPart k := by
  have hcases := u.pool.acquire_cases priority dueSince now lowWait
  unfold PoolUse.acquire
  rcases hcases with ⟨j, rest, hidle, heq⟩ | ⟨-, heq⟩ | ⟨answer, hgrow, hidle, heq⟩
  · rw [heq]
    have hcount : u.pool.idle.count k = rest.count k + if j = k then 1 else 0 := by
      rw [hidle, List.count_cons]
      simp only [beq_iff_eq]
    have htask : Pool.task? { u.pool with idle := rest } k = u.pool.task? k := rfl
    have hleft := h.left
    simp only [parts, hcount] at hleft
    refine h.mono rfl (Nat.le_refl _) ?_ (fun _ hstopping => ⟨hstopping, ?_⟩) fun hreg => ?_ <;>
      simp only [parts, hcount, htask, List.count_cons, beq_iff_eq]
    · omega
    · omega
    · have := hleft hreg
      omega
  · rw [heq]
    exact h.congr rfl (Nat.le_refl _) rfl rfl rfl
  · rw [heq]
    cases answer with
    | idle j => exact absurd rfl (hidle j)
    | grow => exact absurd rfl hgrow
    | waitUntil _ => exact h
    | wait => exact h

/-- Whoever leaves keeps no part but that of a reserved worker. -/
theorem removeWorker (h : u.PlaysPart k) {n : Nat} (hsized : u.pool.Sized n) (j : Nat)
    (hpool : u'.pool = u.pool.removeWorker j) (hreserved : u'.reserved = u.reserved)
    (hstarting : u'.starting.count k = if k = j then 0 else u.starting.count k)
    (hrunning : u'.running k = (u.running k && decide (k ≠ j))) : u'.PlaysPart k := by
  have hidle : u'.pool.idle.count k = if k = j then 0 else u.pool.idle.count k := by
    rw [hpool, hsized.idle_removeWorker]
    split
    · next hk => rw [hk, List.count_eq_zero]; simp
    · next hk => exact List.count_filter (by simpa using hk)
  have htask : u'.pool.task? k = if k = j then none else u.pool.task? k := by rw [hpool, Pool.task?_removeWorker]
  have hreg : u'.pool.isRegistered k = (u.pool.isRegistered k && decide (k ≠ j)) := by
    rw [hpool, Pool.isRegistered_removeWorker]
  have hnext : u'.pool.nextId = u.pool.nextId := by rw [hpool]; rfl
  have hstopping : u'.pool.stopping = u.pool.stopping := by rw [hpool]; rfl
  by_cases hk : k = j
  · have hparts : u'.parts k = u.reserved.count k := by
      rw [parts, hidle, htask, hstarting, hrunning, hreserved]
      simp [hk]
    have hle : u.reserved.count k ≤ u.parts k := by unfold parts; omega
    have hgone : u'.pool.isRegistered k = false := by rw [hreg]; simp [hk]
    refine ⟨?_, fun hreg' => ?_, fun _ => ?_, fun hused => ?_⟩
    · rw [hparts]
      exact Nat.le_trans hle h.parts_le
    · rw [hgone] at hreg'
      cases hreg'
    · rw [hparts, hreserved]
    · rw [hnext]
      rw [hgone, hparts] at hused
      exact h.lt_nextId (.inr (Nat.lt_of_lt_of_le (hused.resolve_left Bool.false_ne_true) hle))
  · refine h.congr ?_ (Nat.le_of_eq hnext.symm) hstopping ?_ (by rw [hreserved])
    · rw [hreg, decide_eq_true hk, Bool.and_true]
    · simp only [parts, hidle, htask, hstarting, hrunning, hreserved, if_neg hk, decide_eq_true hk, Bool.and_true]

/-- Nobody has used the number of the next worker. -/
theorem parts_nextId (h : u.PlaysPart u.pool.nextId) :
    u.parts u.pool.nextId = 0 ∧ u.pool.isRegistered u.pool.nextId = false := by
  constructor
  · by_contra hpos
    exact Nat.lt_irrefl _ (h.lt_nextId (.inr (Nat.pos_of_ne_zero hpos)))
  · by_contra hreg
    exact Nat.lt_irrefl _ (h.lt_nextId (.inl (Bool.of_not_eq_false hreg)))

theorem register (h : u.PlaysPart k) : u.register.PlaysPart k := by
  have hreg : u.register.pool.isRegistered k = (u.pool.isRegistered k || decide (k = u.pool.nextId)) :=
    Pool.isRegistered_register u.pool k
  have hparts : u.register.parts k = u.parts k + if u.pool.nextId = k then 1 else 0 := by
    have htask : u.register.pool.task? k = u.pool.task? k := Pool.task?_register u.pool k
    have hidle : u.register.pool.idle = u.pool.idle := rfl
    have hstarting : u.register.starting.count k = u.starting.count k + if u.pool.nextId = k then 1 else 0 := by
      simp only [PoolUse.register, Pool.register, List.count_cons, beq_iff_eq]
    have hreserved : u.register.reserved = u.reserved := rfl
    have hrunning : u.register.running = u.running := rfl
    simp only [parts, htask, hidle, hstarting, hreserved, hrunning]
    omega
  by_cases hk : k = u.pool.nextId
  · subst hk
    obtain ⟨hzero, -⟩ := h.parts_nextId
    rw [hzero, if_pos rfl] at hparts
    refine ⟨Nat.le_of_eq hparts, fun _ _ => hparts, fun hgone => ?_, fun _ => Nat.lt_succ_self _⟩
    rw [hreg] at hgone
    simp at hgone
  · refine h.congr ?_ (Nat.le_succ _) rfl ?_ rfl
    · rw [hreg, decide_eq_false hk, Bool.or_false]
    · rw [hparts, if_neg (Ne.symm hk)]
      rfl

theorem enter (h : u.PlaysPart k) {j : Nat} (hj : j ∈ u.starting) : (u.enter j).PlaysPart k := by
  have hpos : 0 < u.starting.count j := List.count_pos_iff.2 hj
  have hstarting : (u.enter j).starting.count k = u.starting.count k - if j = k then 1 else 0 := by
    simp only [PoolUse.enter, List.count_erase, beq_iff_eq]
  have hreserved : (u.enter j).reserved.count k = u.reserved.count k + if j = k then 1 else 0 := by
    simp only [PoolUse.enter, List.count_cons, beq_iff_eq]
  by_cases hk : j = k
  · subst hk
    have hreg : u.pool.isRegistered j = true := by
      by_contra hreg
      have hleft := h.left (Bool.eq_false_iff.2 hreg)
      unfold parts at hleft
      omega
    have hparts : (u.enter j).parts j = u.parts j := by
      simp only [if_pos] at hstarting hreserved
      simp only [parts, hstarting, hreserved]
      show u.pool.idle.count j + _ + (u.pool.task? j).isSome.toNat + (u.running j).toNat = _
      omega
    refine h.mono rfl (Nat.le_refl _) (Nat.le_of_eq hparts) (fun _ hstopping => ⟨hstopping, hparts⟩) fun hreg' => ?_
    rw [hreg] at hreg'
    cases hreg'
  · rw [if_neg hk] at hstarting hreserved
    refine h.congr rfl (Nat.le_refl _) rfl ?_ hreserved
    simp only [parts, hstarting, hreserved]
    rfl

/-- A worker is no longer reserved.  It has got another part for that, unless it has left or is to leave. -/
theorem unreserve (h : u.PlaysPart k) (hreg : u'.pool.isRegistered k = u.pool.isRegistered k)
    (hnext : u'.pool.nextId = u.pool.nextId) (hstopping : u'.pool.stopping = u.pool.stopping)
    (hreserved : u'.reserved.count k + 1 = u.reserved.count k)
    (hparts : u.pool.isRegistered k = true ∧ u'.parts k = u.parts k ∨
      (u.pool.isRegistered k = true → u.pool.stopping = true) ∧ u'.parts k + 1 = u.parts k) : u'.PlaysPart k := by
  rcases hparts with ⟨hin, hparts⟩ | ⟨hgoing, hparts⟩
  · refine h.mono hreg (Nat.le_of_eq hnext.symm) (Nat.le_of_eq hparts)
      (fun _ h' => ⟨hstopping ▸ h', hparts⟩) fun hgone => ?_
    rw [hin] at hgone
    cases hgone
  · refine h.mono hreg (Nat.le_of_eq hnext.symm) (by omega) (fun hin hgoing' => ?_) fun _ => by omega
    rw [hstopping, hgoing hin] at hgoing'
    cases hgoing'

/-- A reserved worker is given a task, unless it has left. -/
theorem hand (h : u.PlaysPart k) {j : Nat} (hj : j ∈ u.reserved) (id : TaskId) : (u.hand j id).PlaysPart k := by
  have hpos : 0 < u.reserved.count j := List.count_pos_iff.2 hj
  have hreg : (u.hand j id).pool.isRegistered k = u.pool.isRegistered k := Pool.isRegistered_hand u.pool j id k
  have htask : (u.hand j id).pool.task? k =
      if k = j ∧ u.pool.isRegistered j = true then some id else u.pool.task? k := Pool.task?_hand u.pool j id k
  have hidle : (u.hand j id).pool.idle = u.pool.idle := Pool.idle_hand u.pool j id
  have hnext : (u.hand j id).pool.nextId = u.pool.nextId := Pool.nextId_hand u.pool j id
  have hstopping : (u.hand j id).pool.stopping = u.pool.stopping := (Pool.KeepsRoster.hand u.pool j id).stopping_eq
  have hreserved : (u.hand j id).reserved.count k = u.reserved.count k - if j = k then 1 else 0 := by
    simp only [PoolUse.hand, List.count_erase, beq_iff_eq]
  have hstarting : (u.hand j id).starting = u.starting := rfl
  have hrunning : (u.hand j id).running = u.running := rfl
  by_cases hk : k = j
  · subst hk
    rw [if_pos rfl] at hreserved
    refine h.unreserve hreg hnext hstopping (by omega) ?_
    have hle := h.parts_le
    simp only [parts] at hle
    cases hin : u.pool.isRegistered k with
    | true =>
      rw [if_pos ⟨rfl, hin⟩] at htask
      refine .inl ⟨rfl, ?_⟩
      simp only [parts, htask, hidle, hstarting, hreserved, hrunning, Option.isSome_some, Bool.toNat_true]
      omega
    | false =>
      simp only [hin, Bool.false_eq_true, and_false, ↓reduceIte] at htask
      refine .inr ⟨fun h' => Bool.noConfusion h', ?_⟩
      simp only [parts, htask, hidle, hstarting, hreserved, hrunning]
      omega
  · rw [if_neg (Ne.symm hk)] at hreserved
    rw [if_neg fun h' => hk h'.1] at htask
    refine h.congr hreg (Nat.le_of_eq hnext.symm) hstopping ?_ hreserved
    simp only [parts, htask, hidle, hstarting, hreserved, hrunning]
    rfl

/-- A reserved worker that got no task is idle again, unless it has left or is to leave. -/
theorem releaseUnused (h : u.PlaysPart k) {j : Nat} (hj : j ∈ u.reserved) : (u.releaseUnused j).PlaysPart k := by
  have hpos : 0 < u.reserved.count j := List.count_pos_iff.2 hj
  have hknows := Pool.Knows.releaseUnused u.pool j
  have hreg : (u.releaseUnused j).pool.isRegistered k = u.pool.isRegistered k := hknows.isRegistered_eq k
  have htask : (u.releaseUnused j).pool.task? k = u.pool.task? k := hknows.task?_eq k
  have hnext : (u.releaseUnused j).pool.nextId = u.pool.nextId := hknows.nextId_eq
  have hstopping : (u.releaseUnused j).pool.stopping = u.pool.stopping :=
    (Pool.KeepsRoster.releaseUnused u.pool j).stopping_eq
  have hidle : (u.releaseUnused j).pool.idle =
      if u.pool.isRegistered j && !u.pool.stopping then j :: u.pool.idle else u.pool.idle :=
    Pool.idle_releaseUnused u.pool j
  have hreserved : (u.releaseUnused j).reserved.count k = u.reserved.count k - if j = k then 1 else 0 := by
    simp only [PoolUse.releaseUnused, List.count_erase, beq_iff_eq]
  have hstarting : (u.releaseUnused j).starting = u.starting := rfl
  have hrunning : (u.releaseUnused j).running = u.running := rfl
  by_cases hk : k = j
  · subst hk
    rw [if_pos rfl] at hreserved
    refine h.unreserve hreg hnext hstopping (by omega) ?_
    by_cases hback : u.pool.isRegistered k = true ∧ u.pool.stopping = false
    · rw [if_pos (by simpa using hback)] at hidle
      refine .inl ⟨hback.1, ?_⟩
      simp only [parts, htask, hidle, hstarting, hreserved, hrunning, List.count_cons_self]
      omega
    · rw [if_neg (by simpa using hback)] at hidle
      refine .inr ⟨fun hin => Bool.of_not_eq_false fun hgoing => hback ⟨hin, hgoing⟩, ?_⟩
      simp only [parts, htask, hidle, hstarting, hreserved, hrunning]
      omega
  · rw [if_neg (Ne.symm hk)] at hreserved
    have hcount : (u.releaseUnused j).pool.idle.count k = u.pool.idle.count k := by
      rw [hidle]
      split
      · exact List.count_cons_of_ne (Ne.symm hk)
      · rfl
    refine h.congr hreg (Nat.le_of_eq hnext.symm) hstopping ?_ hreserved
    simp only [parts, htask, hcount, hstarting, hreserved, hrunning]
    rfl

/-- A worker takes the task that it holds. -/
theorem take (h : u.PlaysPart k) {j : Nat} (hj : (u.pool.task? j).isSome = true) : (u.take j).PlaysPart k := by
  have hreg : (u.take j).pool.isRegistered k = u.pool.isRegistered k := Pool.isRegistered_takeTask u.pool j k
  have hnext : (u.take j).pool.nextId = u.pool.nextId := Pool.nextId_takeTask u.pool j
  have hstopping : (u.take j).pool.stopping = u.pool.stopping := (Pool.KeepsRoster.takeTask u.pool j).stopping_eq
  refine h.congr hreg (Nat.le_of_eq hnext.symm) hstopping ?_ rfl
  have htask : (u.take j).pool.task? k = if k = j then none else u.pool.task? k := Pool.task?_takeTask u.pool j k
  have hidle : (u.take j).pool.idle = u.pool.idle := Pool.idle_takeTask u.pool j
  have hrunning : (u.take j).running k = if k = j then true else u.running k := Function.update_apply ..
  have hstarting : (u.take j).starting = u.starting := rfl
  have hreserved : (u.take j).reserved = u.reserved := rfl
  by_cases hk : k = j
  · subst hk
    have hle := h.parts_le
    simp only [parts, hj, Bool.toNat_true] at hle
    have hidling : (u.running k).toNat = 0 := by omega
    simp [parts, htask, hidle, hrunning, hstarting, hreserved, hj, hidling]
  · simp only [parts, htask, hidle, hrunning, hstarting, hreserved, if_neg hk]

/-- A worker that has finished a task is idle again or leaves. -/
theorem release (h : u.PlaysPart k) {n : Nat} (hsized : u.pool.Sized n) {j : Nat} (hj : u.running j = true) :
    (u.release j).PlaysPart k := by
  have hrunning : (u.release j).running k = if k = j then false else u.running k := Function.update_apply ..
  rcases u.pool.release_cases j with heq | heq
  · refine h.removeWorker hsized j (congrArg Prod.fst heq) rfl ?_ ?_
    · split
      · next hk =>
        have hle := h.parts_le
        rw [← hk] at hj
        simp only [parts, hj, Bool.toNat_true] at hle
        show u.starting.count k = 0
        omega
      · rfl
    · rw [hrunning]
      split <;> simp [*]
  · have hpool : (u.release j).pool = { u.pool with idle := j :: u.pool.idle } := congrArg Prod.fst heq
    have hparts : (u.release j).parts k = u.parts k := by
      have htask : (u.release j).pool.task? k = u.pool.task? k := by rw [hpool]; rfl
      have hidle : (u.release j).pool.idle = j :: u.pool.idle := by rw [hpool]
      have hstarting : (u.release j).starting = u.starting := rfl
      have hreserved : (u.release j).reserved = u.reserved := rfl
      simp only [parts, htask, hidle, hstarting, hreserved, hrunning]
      by_cases hk : k = j
      · subst hk
        rw [List.count_cons_self, if_pos rfl, hj]
        simp only [Bool.toNat_false, Bool.toNat_true]
        omega
      · rw [List.count_cons_of_ne (Ne.symm hk), if_neg hk]
    refine h.congr ?_ (Nat.le_of_eq ?_) ?_ hparts rfl <;> rw [hpool]
    rfl

/-- A worker that executes nothing leaves or stays. -/
theorem retire (h : u.PlaysPart k) {n : Nat} (hsized : u.pool.Sized n) {j : Nat} (hstarting : j ∉ u.starting)
    (hrunning : u.running j = false) : (u.withPool (u.pool.retire j).1).PlaysPart k := by
  rcases u.pool.retire_cases j with ⟨heq, -⟩ | heq
  · refine h.removeWorker hsized j (congrArg Prod.fst heq) rfl ?_ ?_
    · split
      · next hk => rw [hk]; exact List.count_eq_zero.2 hstarting
      · rfl
    · show u.running k = _
      by_cases hk : k = j
      · rw [hk, hrunning, Bool.false_and]
      · rw [decide_eq_true hk, Bool.and_true]
  · rw [heq]
    exact h

/-- The thread of a worker could not be started. -/
theorem decline (h : u.PlaysPart k) {n : Nat} (hsized : u.pool.Sized n) {j : Nat} (hj : j ∈ u.starting) :
    (u.decline j).PlaysPart k := by
  have hpos : 0 < u.starting.count j := List.count_pos_iff.2 hj
  have hle := h.parts_le
  simp only [parts] at hle
  refine h.removeWorker hsized j rfl rfl ?_ ?_
  · show (u.starting.erase j).count k = _
    rw [List.count_erase]
    simp only [beq_iff_eq, eq_comm (a := j)]
    split
    · next hk => subst hk; omega
    · rfl
  · show u.running k = _
    by_cases hk : k = j
    · subst hk
      have hidling : (u.running k).toNat = 0 := by omega
      cases hrun : u.running k with
      | true => rw [hrun] at hidling; cases hidling
      | false => rfl
    · rw [decide_eq_true hk, Bool.and_true]

/-- An operation that only talks to workers. -/
theorem of_knows (h : u.PlaysPart k) {p : Pool} (hknows : u.pool.Knows p) (hidle : p.idle = u.pool.idle)
    (hstopping : p.stopping = u.pool.stopping) : (u.withPool p).PlaysPart k := by
  refine h.congr (hknows.isRegistered_eq k) (Nat.le_of_eq hknows.nextId_eq.symm) hstopping ?_ rfl
  show p.idle.count k + (u.starting.count k + u.reserved.count k) + (p.task? k).isSome.toNat + (u.running k).toNat = _
  rw [hidle, hknows.task?_eq]
  rfl

/-- Idle workers lose their part when the pool stops. -/
theorem stop (h : u.PlaysPart k) : (u.withPool u.pool.stop).PlaysPart k := by
  have hknows := Pool.Knows.stop u.pool
  have hparts : (u.withPool u.pool.stop).parts k + u.pool.idle.count k = u.parts k := by
    have hidle : (u.withPool u.pool.stop).pool.idle = [] := rfl
    have htask : (u.withPool u.pool.stop).pool.task? k = u.pool.task? k := hknows.task?_eq k
    simp only [parts, hidle, htask, List.count_nil]
    show 0 + (u.starting.count k + u.reserved.count k) + _ + (u.running k).toNat + _ = _
    omega
  refine h.mono (hknows.isRegistered_eq k) (Nat.le_of_eq hknows.nextId_eq.symm) (by omega)
    (fun _ hgoing => by cases hgoing) fun hgone => ?_
  have hleft := h.left hgone
  have hidle : u.pool.idle.count k = 0 := by
    simp only [parts] at hleft
    omega
  show _ + u.reserved.count k = _ + u.reserved.count k
  omega

end PlaysPart

/-! ### Runs -/

/-- What is kept of the books. -/
structure Sound (u : PoolUse) : Prop where
  sized : u.pool.Sized u.promised
  playsPart (k : Nat) : u.PlaysPart k

namespace Sound

variable {u u' : PoolUse}

theorem acquire (h : u.Sound) (priority : Priority) (dueSince now lowWait : Nat) :
    (u.acquire priority dueSince now lowWait).Sound where
  sized := by
    have hcases := u.pool.acquire_cases priority dueSince now lowWait
    unfold PoolUse.acquire
    rcases hcases with ⟨k, rest, -, heq⟩ | ⟨-, heq⟩ | ⟨answer, hgrow, hidle, heq⟩
    · rw [heq]
      exact h.sized.of_keepsRoster ⟨rfl, rfl, rfl⟩
    · rw [heq]
      refine ⟨?_, h.sized.roster_nodup⟩
      have hsize := h.sized.size_eq
      show u.pool.size + 1 = u.pool.roster.length + (u.promised + 1)
      omega
    · rw [heq]
      cases answer with
      | idle k => exact absurd rfl (hidle k)
      | grow => exact absurd rfl hgrow
      | waitUntil _ => exact h.sized
      | wait => exact h.sized
  playsPart k := (h.playsPart k).acquire priority dueSince now lowWait

theorem register (h : u.Sound) (hpos : 0 < u.promised) : u.register.Sound where
  sized := by
    have hfresh := (h.playsPart u.pool.nextId).parts_nextId.2
    have hsized := h.sized
    rw [show u.promised = u.promised - 1 + 1 by omega] at hsized
    exact hsized.register hfresh
  playsPart k := (h.playsPart k).register

/-- An operation that only talks to workers. -/
theorem of_knows (h : u.Sound) {p : Pool} (hknows : u.pool.Knows p) (hkeeps : u.pool.KeepsRoster p)
    (hidle : p.idle = u.pool.idle) : (u.withPool p).Sound :=
  ⟨h.sized.of_keepsRoster hkeeps, fun k => (h.playsPart k).of_knows hknows hidle hkeeps.stopping_eq⟩

theorem step (h : u.Sound) (hstep : Step u u') : u'.Sound := by
  cases hstep with
  | acquire priority dueSince now lowWait => exact h.acquire priority dueSince now lowWait
  | register hpos => exact h.register hpos
  | enter k hk => exact ⟨h.sized.of_keepsRoster ⟨rfl, rfl, rfl⟩, fun j => (h.playsPart j).enter hk⟩
  | decline k hk => exact ⟨h.sized.removeWorker k, fun j => (h.playsPart j).decline h.sized hk⟩
  | hand k id hk =>
    exact ⟨h.sized.of_keepsRoster (.hand u.pool k id), fun j => (h.playsPart j).hand hk id⟩
  | releaseUnused k hk =>
    exact ⟨h.sized.of_keepsRoster (.releaseUnused u.pool k),
      fun j => (h.playsPart j).releaseUnused hk⟩
  | take k hk =>
    exact ⟨h.sized.of_keepsRoster (.takeTask u.pool k), fun j => (h.playsPart j).take hk⟩
  | release k hk =>
    refine ⟨?_, fun j => (h.playsPart j).release h.sized hk⟩
    show (u.pool.release k).1.Sized u.promised
    rcases u.pool.release_cases k with heq | heq <;> rw [heq]
    · exact h.sized.removeWorker k
    · exact h.sized.of_keepsRoster ⟨rfl, rfl, rfl⟩
  | retire k hstarting hrunning =>
    refine ⟨?_, fun j => (h.playsPart j).retire h.sized hstarting hrunning⟩
    show (u.pool.retire k).1.Sized u.promised
    rcases u.pool.retire_cases k with ⟨heq, -⟩ | heq <;> rw [heq]
    · exact h.sized.removeWorker k
    · exact h.sized
  | setMaxSize n =>
    have hkeeps := Pool.KeepsRoster.modifyWorkers u.pool (u.pool.idle.take (u.pool.size - max n 1))
      (f := Worker.dismiss) fun _ => rfl
    exact h.of_knows (.setMaxSize u.pool n) ⟨rfl, hkeeps.roster_eq, rfl⟩ rfl
  | setKeepAlive d => exact h.of_knows ⟨fun _ => rfl, fun _ => rfl, rfl⟩ ⟨rfl, rfl, rfl⟩ rfl
  | interruptAll => exact h.of_knows (.interruptAll u.pool) ⟨rfl, Pool.roster_map _ fun _ => rfl, rfl⟩ rfl
  | stop =>
    have hkeeps := Pool.KeepsRoster.modifyWorkers u.pool u.pool.idle (f := Worker.dismiss) fun _ => rfl
    have hsized := h.sized.of_keepsRoster hkeeps
    exact ⟨⟨hsized.size_eq, hsized.roster_nodup⟩, fun k => (h.playsPart k).stop⟩
  | calm k =>
    exact h.of_knows (.modifyWorker u.pool k (fun _ => rfl) fun _ => rfl) (.modifyWorker u.pool k fun _ => rfl) rfl
  | rouse k =>
    exact h.of_knows (.modifyWorker u.pool k (fun _ => rfl) fun _ => rfl) (.modifyWorker u.pool k fun _ => rfl) rfl

end Sound

theorem Reachable.sound {u : PoolUse} (h : Reachable u) : u.Sound := by
  induction h with
  | start maxSize keepAlive =>
    refine ⟨⟨rfl, List.nodup_nil⟩, fun k => ⟨Nat.zero_le _, fun hreg => ?_, fun _ => rfl, fun hused => ?_⟩⟩
    · cases hreg
    · rcases hused with hreg | hpos
      · cases hreg
      · exact absurd hpos (Nat.lt_irrefl 0)
  | step _ hstep ih => exact ih.step hstep

/-- Only a new place makes a pool larger. -/
theorem Step.size_le {u u' : PoolUse} (hstep : Step u u') :
    u'.pool.size ≤ u.pool.size ∨ u'.pool.size ≤ u'.pool.maxSize := by
  have hremove (k : Nat) : (u.pool.removeWorker k).size ≤ u.pool.size := by
    simp only [Pool.removeWorker]
    split <;> omega
  cases hstep with
  | acquire priority dueSince now lowWait =>
    have hcases := u.pool.acquire_cases priority dueSince now lowWait
    unfold PoolUse.acquire
    rcases hcases with ⟨k, rest, -, heq⟩ | ⟨hgrow, heq⟩ | ⟨answer, -, -, heq⟩ <;> rw [heq]
    · exact .inl (Nat.le_refl _)
    · exact .inr (Pool.growth_eq_grow hgrow)
    · left
      cases answer with
      | grow => exact Nat.le_refl _
      | _ => exact Nat.le_refl _
  | register _ => exact .inl (Nat.le_refl _)
  | enter k _ => exact .inl (Nat.le_refl _)
  | decline k _ => exact .inl (hremove k)
  | hand k id _ => exact .inl (Nat.le_of_eq (Pool.KeepsRoster.hand u.pool k id).size_eq)
  | releaseUnused k _ => exact .inl (Nat.le_of_eq (Pool.KeepsRoster.releaseUnused u.pool k).size_eq)
  | take k _ => exact .inl (Nat.le_of_eq (Pool.KeepsRoster.takeTask u.pool k).size_eq)
  | release k _ =>
    left
    show (u.pool.release k).1.size ≤ _
    rcases u.pool.release_cases k with heq | heq
    · rw [heq]
      exact hremove k
    · exact Nat.le_of_eq (congrArg (·.1.size) heq)
  | retire k _ _ =>
    left
    show (u.pool.retire k).1.size ≤ _
    rcases u.pool.retire_cases k with ⟨heq, -⟩ | heq
    · rw [heq]
      exact hremove k
    · exact Nat.le_of_eq (congrArg (·.1.size) heq)
  | _ => exact .inl (Nat.le_refl _)

/-- The books of a pool balance. -/
structure Balanced (u : PoolUse) : Prop where
  size_eq : u.pool.size = u.pool.workers.length + u.promised
  workers_nodup : (u.pool.workers.map Worker.id).Nodup
  /-- Whoever leaves has a place to give back. -/
  removalFault?_eq_none (k : Nat) : u.pool.removalFault? k = none
  idle_nodup : u.pool.idle.Nodup
  /-- An idle worker is registered and does nothing else. -/
  idle_spare (k : Nat) : k ∈ u.pool.idle → u.pool.isRegistered k = true ∧ k ∉ u.starting ∧ k ∉ u.reserved ∧
    u.pool.task? k = none ∧ u.running k = false
  /-- A worker plays one part, or it has none because the pool is stopping, and leaves as soon as it asks to. -/
  parts_eq (k : Nat) : u.pool.isRegistered k = true →
    u.parts k = 1 ∨ u.parts k = 0 ∧ u.pool.stopping = true ∧ (u.pool.retire k).2 = true

private theorem Sound.idle_spare {u : PoolUse} (h : u.Sound) {k : Nat} (hk : k ∈ u.pool.idle) :
    u.pool.isRegistered k = true ∧ k ∉ u.starting ∧ k ∉ u.reserved ∧ u.pool.task? k = none ∧ u.running k = false := by
  have hpos := List.count_pos_iff.2 hk
  have hle := (h.playsPart k).parts_le
  have hleft := (h.playsPart k).left
  simp only [parts] at hle hleft
  have htask : (u.pool.task? k).isSome.toNat = 0 := by omega
  have hrunning : (u.running k).toNat = 0 := by omega
  refine ⟨?_, fun hstarting => ?_, fun hreserved => ?_, ?_, ?_⟩
  · by_contra hreg
    have := hleft (Bool.eq_false_iff.2 hreg)
    omega
  · have := List.count_pos_iff.2 hstarting
    omega
  · have := List.count_pos_iff.2 hreserved
    omega
  · simpa using htask
  · simpa using hrunning

theorem Sound.balanced {u : PoolUse} (h : u.Sound) : u.Balanced where
  size_eq := by
    rw [h.sized.size_eq]
    simp only [Pool.roster, List.length_map]
  workers_nodup := h.sized.roster_nodup
  removalFault?_eq_none := h.sized.removalFault?_eq_none
  idle_nodup := List.nodup_iff_count_le_one.2 fun k => by
    have hle := (h.playsPart k).parts_le
    simp only [parts] at hle
    omega
  idle_spare _ hk := h.idle_spare hk
  parts_eq k hreg := by
    have hle := (h.playsPart k).parts_le
    rcases Nat.le_one_iff_eq_zero_or_eq_one.1 hle with hzero | hone
    · have hstopping : u.pool.stopping = true := by
        by_contra hgoing
        have := (h.playsPart k).parts_eq hreg (Bool.eq_false_iff.2 hgoing)
        omega
      have htask : u.pool.task? k = none := by
        simp only [parts] at hzero
        have htask : (u.pool.task? k).isSome.toNat = 0 := by omega
        simpa using htask
      exact .inr ⟨hzero, hstopping, Pool.retire_snd_of_stopping hstopping htask⟩
    · exact .inl hone

/-- However a pool is used, its books balance, it never grows beyond its bound, and it grows for starvable work only
where there is nobody, and for low work only when that has waited long enough. -/
theorem Reachable.accounts {u : PoolUse} (h : Reachable u) :
    u.Balanced ∧
      (∀ u', Step u u' → u.pool.size < u'.pool.size → u'.pool.size ≤ u'.pool.maxSize) ∧
      ∀ priority dueSince now lowWait, (u.pool.acquire priority dueSince now lowWait).2 = .grow →
        (priority = .starvable → u.pool.size = 0) ∧ (priority = .low → Time.plus dueSince lowWait ≤ now) := by
  refine ⟨h.sound.balanced, fun u' hstep hlt => ?_, fun priority dueSince now lowWait hgrow => ?_⟩
  · exact hstep.size_le.resolve_left (Nat.not_le_of_lt hlt)
  · exact Pool.of_acquire_eq_grow hgrow

/-- Two workers, of whom the second executes a task while the first is idle. -/
private def oneBusy : PoolUse :=
  ((((((((start 2 .zero).acquire .high 0 0 0).register.enter 0).acquire .high 0 0 0).register.enter 1).hand 1 ⟨0⟩).take
    1).releaseUnused 0)

private theorem reachable_oneBusy : Reachable oneBusy := by
  have hstart := Reachable.start 2 .zero
  have hfirst := ((hstart.step (.acquire .high 0 0 0)).step (.register (by decide))).step (.enter 0 (by decide))
  have hsecond := ((hfirst.step (.acquire .high 0 0 0)).step (.register (by decide))).step (.enter 1 (by decide))
  have hbusy := (hsecond.step (.hand 1 ⟨0⟩ (by decide))).step (.take 1 (by decide))
  exact hbusy.step (.releaseUnused 0 (by decide))

/-- The bound is lowered, so that the idle worker is told to leave, and does so after it has been reserved. -/
private def leftReserved : PoolUse :=
  let reserved := (oneBusy.withPool (oneBusy.pool.setMaxSize 1)).acquire .high 0 0 0
  reserved.withPool (reserved.pool.retire 0).1

/-- A worker that leaves while it is reserved gives its place back once, and that place is not for starvable work. -/
theorem accounts_leftReserved : Reachable leftReserved ∧ leftReserved.reserved = [0] ∧ leftReserved.pool.size = 1 ∧
    leftReserved.pool.isRegistered 0 = false ∧ leftReserved.Balanced ∧
    (∀ u', Step leftReserved u' → 1 < u'.pool.size → u'.pool.size ≤ u'.pool.maxSize) ∧
    ∀ dueSince now lowWait, (leftReserved.pool.acquire .starvable dueSince now lowWait).2 ≠ .grow := by
  have hreachable : Reachable leftReserved := by
    have hreserved := (reachable_oneBusy.step (.setMaxSize 1)).step (.acquire .high 0 0 0)
    exact hreserved.step (.retire 0 (by decide) (by decide))
  obtain ⟨hbalanced, hbound, hgrow⟩ := hreachable.accounts
  have hsize : leftReserved.pool.size = 1 := by decide
  refine ⟨hreachable, by decide, hsize, by decide, hbalanced, fun u' hstep hlt => ?_, fun dueSince now lowWait h => ?_⟩
  · exact hbound u' hstep (by rwa [hsize])
  · have hzero := (hgrow .starvable dueSince now lowWait h).1 rfl
    rw [hsize] at hzero
    cases hzero

end PoolUse

end TaskScheduling
