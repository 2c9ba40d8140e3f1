import TaskScheduling.Proofs.Dispatch.Phases
import TaskScheduling.Proofs.Dispatch.System
import TaskScheduling.Proofs.Pool.Workers

/-!
# The workers of a system

Each worker has at most one part to play: it lies on the idle stack, or the dispatcher has reserved it or is about to
start it, or it was given a task, or its thread is busy with one.  `Staffed` says so of one worker, together with what
its thread has to do with its place in the pool; every step of a system keeps it (`System.IsStaffed.step`).
-/

namespace TaskScheduling

namespace Dispatcher

/-- How often the dispatcher has reserved the worker `k`. -/
def reserves (k : Nat) : Dispatcher → Nat
  | spawned _ j _ => if j = k then 1 else 0
  | unlinking _ j => if j = k then 1 else 0
  | claiming _ j => if j = k then 1 else 0
  | handing _ j => if j = k then 1 else 0
  | releasing j => if j = k then 1 else 0
  | _ => 0

/-- How often the dispatcher is about to start the worker `k`. -/
def awaits (k : Nat) : Dispatcher → Nat
  | spawning _ j => if j = k then 1 else 0
  | _ => 0

/-- Only a worker that was about to be started is started. -/
theorem awaits_of_step_eq_spawned {s : PooledScheduler} {d : Dispatcher} {id : TaskId} {k : Nat} {thread : String}
    (h : (d.step s).2 = spawned id k thread) : d.awaits k = 1 := by
  have hgoes := d.goes_step s
  generalize d.step s = next at h hgoes
  cases hgoes with
  | spawn _ j _ _ _ =>
    cases h
    simp only [awaits, ↓reduceIte]
  | _ => cases h

/-- What a single step of the dispatcher does to the pool. -/
theorem pool_step_cases (s : PooledScheduler) (d : Dispatcher) :
    s.pool.Knows (d.step s).1.pool ∨ (∃ id, d = registering id ∧ (d.step s).1.pool = s.pool.register.1) ∨
      (∃ id k, d = spawning id k ∧ (d.step s).1.pool = s.pool.removeWorker k) ∨
      ∃ id k, d = handing id k ∧ (d.step s).1.pool = (s.pool.hand k id).1 := by
  have hacquired {id : TaskId} {now lowWait : Nat} {pool : Pool} {answer : Acquire}
      (h : s.pool.acquire (s.backlog.task id).priority (s.backlog.task id).runAt now lowWait = (pool, answer)) :
      s.pool.Knows pool := by
    have hknows := Pool.Knows.acquire s.pool (s.backlog.task id).priority (s.backlog.task id).runAt now lowWait
    rwa [h] at hknows
  have hgoes := d.goes_step s
  generalize d.step s = next at hgoes ⊢
  cases hgoes with
  | reserve _ _ _ _ _ hacquire => exact .inl (hacquired hacquire)
  | grow _ _ _ _ hacquire => exact .inl (hacquired hacquire)
  | awaitPlace _ _ _ _ _ hacquire => exact .inl (hacquired hacquire)
  | awaitWorker _ _ _ _ hacquire => exact .inl (hacquired hacquire)
  | register id => exact .inr (.inl ⟨id, rfl, rfl⟩)
  | retry id k _ _ _ => exact .inr (.inr (.inl ⟨id, k, rfl, rfl⟩))
  | hand id k _ hhand => exact .inr (.inr (.inr ⟨id, k, rfl, by rw [hhand]⟩))
  | keep id k _ hhand => exact .inr (.inr (.inr ⟨id, k, rfl, by rw [hhand]⟩))
  | release k => exact .inl (Pool.Knows.releaseUnused s.pool k)
  | stop => exact .inl (Pool.Knows.stop s.pool)
  | _ => exact .inl (Pool.Knows.refl s.pool)

end Dispatcher

namespace WorkerThread

def isBusy : WorkerThread → Bool
  | executing _ _ => true
  | acting phase => phase.isBusy

theorem isBusy_ofPhase (phase : WorkerPhase) : (ofPhase phase).isBusy = phase.isBusy := by cases phase <;> rfl

theorem ofPhase_eq_exited_iff (phase : WorkerPhase) : ofPhase phase = acting .exited ↔ phase = .exited := by
  cases phase <;> simp [ofPhase]

end WorkerThread

/-- What is kept of the worker `k` with the thread `t`, which was reserved `r` times and is awaited `a` times. -/
structure Staffed (p : Pool) (r a : Nat) (t : Option WorkerThread) (k : Nat) : Prop where
  /-- A worker has at most one part to play. -/
  roles_le : p.idle.count k + r + a + (if (p.task? k).isSome then 1 else 0) +
    (if t.any WorkerThread.isBusy then 1 else 0) ≤ 1
  lt_nextId : p.isRegistered k = true ∨ t.isSome = true → k < p.nextId
  /-- Nobody relies on a worker without a thread. -/
  isSome_thread : 0 < p.idle.count k + r ∨ (p.task? k).isSome = true → t.isSome = true
  awaited : 0 < a → t = none ∧ p.isRegistered k = true
  isRegistered_iff (x : WorkerThread) : t = some x → (p.isRegistered k = true ↔ x ≠ .acting .exited)

namespace Staffed

variable {p q : Pool} {r r' a a' k : Nat} {t : Option WorkerThread}

/-- What is known of a worker stays, and it may be put to less use. -/
theorem mono (h : Staffed p r a t k) (hreg : q.isRegistered k = p.isRegistered k) (htask : q.task? k = p.task? k)
    (hnext : q.nextId = p.nextId) (hr : q.idle.count k + r' ≤ p.idle.count k + r) (ha : a' ≤ a) :
    Staffed q r' a' t k where
  roles_le := by
    have := h.roles_le
    rw [htask]
    omega
  lt_nextId := by
    rw [hreg, hnext]
    exact h.lt_nextId
  isSome_thread := by
    rw [htask]
    exact fun hused => h.isSome_thread (hused.imp_left fun hpos => by omega)
  awaited hpos := by
    rw [hreg]
    exact h.awaited (by omega)
  isRegistered_iff := by
    rw [hreg]
    exact h.isRegistered_iff

theorem of_knows (h : Staffed p r a t k) (hknows : p.Knows q) (hr : q.idle.count k + r' ≤ p.idle.count k + r)
    (ha : a' ≤ a) : Staffed q r' a' t k :=
  h.mono (hknows.isRegistered_eq k) (hknows.task?_eq k) hknows.nextId_eq hr ha

/-- The thread goes on without taking a task or giving itself back. -/
theorem act {x y : WorkerThread} (h : Staffed p r a (some x) k) (hbusy : y.isBusy = x.isBusy)
    (hexited : y = .acting .exited ↔ x = .acting .exited) : Staffed p r a (some y) k where
  roles_le := by
    have hle := h.roles_le
    simp only [Option.any_some, hbusy] at hle ⊢
    exact hle
  lt_nextId := by simpa using h.lt_nextId
  isSome_thread _ := rfl
  awaited hpos := by cases (h.awaited hpos).1
  isRegistered_iff z hz := by
    cases hz
    rw [ne_eq, hexited]
    exact h.isRegistered_iff x rfl

/-- A worker that has left the pool, or never came to it. -/
theorem of_unregistered (hreg : p.isRegistered k = false) (hlt : t.isSome = true → k < p.nextId)
    (ht : ∀ x, t = some x → x = .acting .exited) (hroles : p.idle.count k + r ≤ 1)
    (hsome : 0 < p.idle.count k + r → t.isSome = true) : Staffed p r 0 t k where
  roles_le := by
    rw [Pool.task?_eq_none_of_not_isRegistered hreg]
    have hbusy : t.any WorkerThread.isBusy = false := by
      cases t with
      | none => rfl
      | some x => rw [ht x rfl]; rfl
    simp only [Option.isSome_none, hbusy, Bool.false_eq_true, ↓reduceIte]
    exact hroles
  lt_nextId h := hlt (h.resolve_left (by simp [hreg]))
  isSome_thread := by
    rw [Pool.task?_eq_none_of_not_isRegistered hreg]
    exact fun h => hsome (h.resolve_right (by simp))
  awaited hpos := absurd hpos (Nat.lt_irrefl 0)
  isRegistered_iff x hx := by simp [hreg, ht x hx]

/-- A worker that plays another part has no task waiting. -/
theorem task?_eq_none (h : Staffed p r a t k)
    (hpart : 0 < p.idle.count k + r + a ∨ t.any WorkerThread.isBusy = true) : p.task? k = none := by
  have hle := h.roles_le
  cases htask : p.task? k with
  | none => rfl
  | some id =>
    simp only [htask, Option.isSome_some, ↓reduceIte] at hle
    rcases hpart with hpos | hbusy
    · omega
    · simp only [hbusy, ↓reduceIte] at hle
      omega

/-! ### Steps of the dispatcher -/

theorem register (h : Staffed p 0 0 t k) :
    Staffed p.register.1 0 (if p.nextId = k then 1 else 0) t k where
  roles_le := by
    have hle := h.roles_le
    rw [Pool.task?_register]
    split
    · next hk =>
      -- the number of the new worker is not in use yet
      obtain rfl : t = none := by
        cases t with
        | none => rfl
        | some x => exact absurd (h.lt_nextId (.inr rfl)) (by omega)
      have hidle : p.register.1.idle.count k = 0 := by
        by_contra hpos
        cases h.isSome_thread (.inl (Nat.pos_of_ne_zero hpos))
      have htask : p.task? k = none := by
        cases htask : p.task? k with
        | none => rfl
        | some id => cases h.isSome_thread (.inr (by rw [htask]; rfl))
      rw [hidle, htask]
      decide
    · exact hle
  lt_nextId hused := by
    rw [Pool.isRegistered_register] at hused
    show k < p.nextId + 1
    rcases hused with hreg | ht
    · simp only [Bool.or_eq_true, decide_eq_true_eq] at hreg
      rcases hreg with hreg | rfl
      · exact Nat.lt_succ_of_lt (h.lt_nextId (.inl hreg))
      · exact Nat.lt_succ_self _
    · exact Nat.lt_succ_of_lt (h.lt_nextId (.inr ht))
  isSome_thread := by
    rw [Pool.task?_register]
    exact h.isSome_thread
  awaited hpos := by
    have hk : p.nextId = k := by
      by_contra hne
      simp [hne] at hpos
    rw [Pool.isRegistered_register]
    cases t with
    | none => simp [hk]
    | some x => exact absurd (h.lt_nextId (.inr rfl)) (by omega)
  isRegistered_iff x hx := by
    have hlt := h.lt_nextId (.inr (by rw [hx]; rfl))
    have hne : k ≠ p.nextId := by omega
    rw [Pool.isRegistered_register, decide_eq_false hne, Bool.or_false]
    exact h.isRegistered_iff x hx

/-- The thread of a new worker starts. -/
theorem enter (h : Staffed p 0 1 t k) (now : Nat) :
    Staffed p 1 0 (some (.acting (.fetching now))) k where
  roles_le := by
    have hle := h.roles_le
    have hbusy : (some (WorkerThread.acting (.fetching now))).any WorkerThread.isBusy = false := rfl
    rw [hbusy]
    simp only [Bool.false_eq_true, ↓reduceIte]
    omega
  lt_nextId _ := h.lt_nextId (.inl (h.awaited Nat.one_pos).2)
  isSome_thread _ := rfl
  awaited hpos := absurd hpos (Nat.lt_irrefl 0)
  isRegistered_iff x hx := by
    cases hx
    simp [(h.awaited Nat.one_pos).2]

/-- Another worker leaves. -/
theorem removeWorker_of_ne (h : Staffed p r a t k) {j : Nat} (hne : k ≠ j) : Staffed (p.removeWorker j) r a t k := by
  have hidle := Pool.count_idle_removeWorker_le p j k
  refine h.mono ?_ ?_ rfl (by omega) (Nat.le_refl a)
  · rw [Pool.isRegistered_removeWorker, decide_eq_true hne, Bool.and_true]
  · rw [Pool.task?_removeWorker, if_neg hne]

/-- A worker leaves that could not be started. -/
theorem removeWorker_awaited (h : Staffed p 0 1 t k) : Staffed (p.removeWorker k) 0 0 t k := by
  have hnone := (h.awaited Nat.one_pos).1
  have hidle := Pool.count_idle_removeWorker_le p k k
  have hle := h.roles_le
  refine of_unregistered ?_ ?_ ?_ ?_ ?_
  · simp [Pool.isRegistered_removeWorker]
  · simp [hnone]
  · simp [hnone]
  · omega
  · omega

/-- A worker is given a task. -/
theorem hand (h : Staffed p 1 0 t k) (id : TaskId) : Staffed (p.hand k id).1 0 0 t k where
  roles_le := by
    have hle := h.roles_le
    rw [Pool.idle_hand]
    split <;> omega
  lt_nextId := by
    rw [Pool.isRegistered_hand, Pool.nextId_hand]
    exact h.lt_nextId
  isSome_thread _ := h.isSome_thread (.inl (by omega))
  awaited hpos := absurd hpos (Nat.lt_irrefl 0)
  isRegistered_iff := by
    rw [Pool.isRegistered_hand]
    exact h.isRegistered_iff

/-- Another worker is given a task. -/
theorem hand_of_ne (h : Staffed p r a t k) {j : Nat} (hne : k ≠ j) (id : TaskId) : Staffed (p.hand j id).1 r a t k := by
  refine h.mono (Pool.isRegistered_hand p j id k) ?_ (Pool.nextId_hand p j id) ?_ (Nat.le_refl a)
  · rw [Pool.task?_hand, if_neg fun hk => hne hk.1]
  · simp only [Pool.idle_hand, Nat.le_refl]

/-! ### Steps of a worker -/

/-- A worker takes its task. -/
theorem takeTask {x y : WorkerThread} (h : Staffed p r a (some x) k) {id : TaskId} (htask : p.task? k = some id)
    (hx : x.isBusy = false) (hy : y.isBusy = true) (hexited : x ≠ .acting .exited) :
    Staffed (p.takeTask k).1 r a (some y) k where
  roles_le := by
    have hle := h.roles_le
    rw [Pool.idle_takeTask, Pool.task?_takeTask, if_pos rfl]
    simp only [htask, Option.isSome_some, ↓reduceIte, Option.any_some, hx, hy] at hle ⊢
    simpa using hle
  lt_nextId := by
    rw [Pool.isRegistered_takeTask, Pool.nextId_takeTask]
    exact fun _ => h.lt_nextId (.inr rfl)
  isSome_thread _ := rfl
  awaited hpos := by cases (h.awaited hpos).1
  isRegistered_iff z hz := by
    cases hz
    have hne : y ≠ .acting .exited := by
      rintro rfl
      cases hy
    rw [Pool.isRegistered_takeTask]
    simp [hne, (h.isRegistered_iff x rfl).2 hexited]

/-- Another worker takes its task. -/
theorem takeTask_of_ne (h : Staffed p r a t k) {j : Nat} (hne : k ≠ j) : Staffed (p.takeTask j).1 r a t k := by
  refine h.mono (Pool.isRegistered_takeTask p j k) ?_ (Pool.nextId_takeTask p j) ?_ (Nat.le_refl a)
  · rw [Pool.task?_takeTask, if_neg hne]
  · simp only [Pool.idle_takeTask, Nat.le_refl]

/-- A worker leaves by itself. -/
theorem removeWorker {x : WorkerThread} (h : Staffed p r a (some x) k) :
    Staffed (p.removeWorker k) r 0 (some (.acting .exited)) k := by
  have hidle := Pool.count_idle_removeWorker_le p k k
  have hle := h.roles_le
  refine of_unregistered ?_ ?_ ?_ ?_ ?_
  · simp [Pool.isRegistered_removeWorker]
  · exact fun _ => h.lt_nextId (.inr rfl)
  · rintro x hx
    cases hx
    rfl
  · omega
  · exact fun _ => rfl

/-- A worker that has finished its task becomes idle. -/
theorem giveBack {x y : WorkerThread} (h : Staffed p r a (some x) k) (hx : x.isBusy = true) (hy : y.isBusy = false)
    (hexited : y ≠ .acting .exited) : Staffed { p with idle := k :: p.idle } r a (some y) k where
  roles_le := by
    have hle := h.roles_le
    have htask : Pool.task? { p with idle := k :: p.idle } k = p.task? k := rfl
    rw [htask, List.count_cons_self]
    simp only [Option.any_some, hx, hy, ↓reduceIte, Bool.false_eq_true] at hle ⊢
    omega
  lt_nextId _ := h.lt_nextId (.inr rfl)
  isSome_thread _ := rfl
  awaited hpos := by cases (h.awaited hpos).1
  isRegistered_iff z hz := by
    cases hz
    have hne : x ≠ .acting .exited := by
      rintro rfl
      cases hx
    exact ⟨fun _ => hexited, fun _ => (h.isRegistered_iff x rfl).2 hne⟩

end Staffed

/-! ### Systems -/

namespace System

def reserves (s : System) (k : Nat) : Nat := s.dispatcher.elim 0 (Dispatcher.reserves k)

def awaits (s : System) (k : Nat) : Nat := s.dispatcher.elim 0 (Dispatcher.awaits k)

def IsStaffed (s : System) : Prop := ∀ k, Staffed s.pool (s.reserves k) (s.awaits k) (s.threads k) k

namespace IsStaffed

variable {s : System}

theorem stepDispatcher (h : s.IsStaffed) {d : Dispatcher} (hd : s.dispatcher = some d) (now : Nat) :
    (s.stepDispatcher d now).IsStaffed := by
  intro k
  have hk := h k
  simp only [reserves, awaits, hd, Option.elim_some] at hk
  simp only [reserves, awaits, System.stepDispatcher, Option.elim_some]
  cases d with
  | checking =>
    simp only [Dispatcher.step]
    split <;> exact hk
  | sweeping scope c => cases c <;> exact hk
  | counting discarded => exact hk
  | leaveTaking =>
    simp only [Dispatcher.step]
    split <;> exact hk
  | picking =>
    simp only [Dispatcher.step]
    split <;> exact hk
  | acquiring id now lowWait =>
    have hknows := Pool.Knows.acquire s.pool (s.backlog.task id).priority (s.backlog.task id).runAt now lowWait
    have hidle := Pool.count_idle_acquire s.pool (s.backlog.task id).priority (s.backlog.task id).runAt now lowWait k
    simp only [Dispatcher.step]
    rcases hacquire : s.scheduler.pool.acquire (s.scheduler.backlog.task id).priority
      (s.scheduler.backlog.task id).runAt now lowWait with ⟨p, answer⟩
    have hpool : s.pool.acquire (s.backlog.task id).priority (s.backlog.task id).runAt now lowWait = (p, answer) :=
      hacquire
    rw [hpool] at hknows hidle
    cases answer with
    | idle j =>
      simp only [Acquire.idle.injEq] at hidle
      exact hk.of_knows hknows (Nat.le_of_eq hidle) (Nat.zero_le _)
    | grow => exact hk.of_knows hknows (Nat.le_of_add_right_le (Nat.le_of_eq hidle)) (Nat.zero_le _)
    | waitUntil deadline => exact hk.of_knows hknows (Nat.le_of_add_right_le (Nat.le_of_eq hidle)) (Nat.zero_le _)
    | wait => exact hk.of_knows hknows (Nat.le_of_add_right_le (Nat.le_of_eq hidle)) (Nat.zero_le _)
  | consulting id now deadline => exact hk
  | registering id => exact hk.register
  | spawning id j =>
    simp only [Dispatcher.step]
    rcases s.scheduler.factory.spawn with ⟨factory, (_ | fault) | thread⟩
    -- the thread could not be started, so its worker leaves again
    · by_cases hj : k = j
      · subst hj
        simp only [Dispatcher.awaits, ↓reduceIte] at hk
        exact hk.removeWorker_awaited
      · simp only [Dispatcher.awaits, if_neg (Ne.symm hj)] at hk
        exact hk.removeWorker_of_ne hj
    · exact hk.of_knows (Pool.Knows.refl _) (Nat.le_refl _) (Nat.zero_le _)
    -- the worker that was awaited is reserved from now on
    · by_cases hj : k = j
      · subst hj
        simp only [Dispatcher.awaits, ↓reduceIte] at hk
        simp only [Dispatcher.reserves, ↓reduceIte, startThread, Function.update_self]
        exact hk.enter now
      · simp only [Dispatcher.awaits, if_neg (Ne.symm hj)] at hk
        simp only [Dispatcher.reserves, if_neg (Ne.symm hj), startThread, Function.update_of_ne hj]
        exact hk
  | spawned id j thread => exact hk
  | unlinking id j =>
    simp only [Dispatcher.step]
    rcases s.scheduler.backlog.remove id with ⟨backlog, _ | _⟩ <;> exact hk
  | claiming id j =>
    simp only [Dispatcher.step]
    rcases s.scheduler.backlog.begin id with ⟨backlog, _ | _⟩ <;> exact hk
  | handing id j =>
    have hhanded : Staffed (s.scheduler.pool.hand j id).1 0 0 (s.threads k) k := by
      by_cases hj : k = j
      · subst hj
        simp only [Dispatcher.reserves, ↓reduceIte] at hk
        exact hk.hand id
      · simp only [Dispatcher.reserves, if_neg (Ne.symm hj)] at hk
        exact hk.hand_of_ne hj id
    simp only [Dispatcher.step]
    rcases hhand : s.scheduler.pool.hand j id with ⟨p, _ | _⟩
    all_goals
      rw [hhand] at hhanded
      exact hhanded
  | restoring id =>
    simp only [Dispatcher.step]
    rcases s.scheduler.backlog.transition id .executing .pending with ⟨backlog, _ | _⟩ <;> exact hk
  | reinserting id =>
    simp only [Dispatcher.step]
    cases s.scheduler.backlog.add id <;> exact hk
  | releasing j =>
    have hidle := Pool.count_idle_releaseUnused_le s.pool j k
    simp only [eq_comm (a := k)] at hidle
    exact hk.of_knows (Pool.Knows.releaseUnused _ j) hidle (Nat.zero_le _)
  | parked until? reason =>
    simp only [Dispatcher.step]
    split
    · exact hk
    · split <;> exact hk
  | stopping => exact hk.of_knows (Pool.Knows.stop _) (Nat.zero_le _) (Nat.zero_le _)
  | leaving => exact hk
  | exited => exact hk
  | faulted fault => exact hk

theorem awaits_eq_zero (h : s.IsStaffed) {k : Nat} {t : WorkerThread} (ht : s.threads k = some t) : s.awaits k = 0 := by
  by_contra hne
  have hnone := ((h k).awaited (Nat.pos_of_ne_zero hne)).1
  rw [ht] at hnone
  cases hnone

/-- One thread goes on. -/
private theorem of_thread {k : Nat} {y : WorkerThread} {s' : System} (hd : s'.dispatcher = s.dispatcher)
    (ht : s'.threads = Function.update s.threads k (some y))
    (hself : Staffed s'.pool (s.reserves k) (s.awaits k) (some y) k)
    (hothers : ∀ j, j ≠ k → Staffed s'.pool (s.reserves j) (s.awaits j) (s.threads j) j) : s'.IsStaffed := by
  intro j
  simp only [reserves, awaits, hd, ht]
  by_cases hjk : j = k
  · subst hjk
    rw [Function.update_self]
    exact hself
  · rw [Function.update_of_ne hjk]
    exact hothers j hjk

/-- A thread goes on without taking a task or giving itself back. -/
theorem act (h : s.IsStaffed) {k : Nat} {x : WorkerThread} (y : WorkerThread) (ht : s.threads k = some x)
    (hbusy : y.isBusy = x.isBusy) (hexited : y = .acting .exited ↔ x = .acting .exited) {s' : System}
    (hknows : s.pool.Knows s'.pool) (hidle : s'.pool.idle = s.pool.idle) (hd : s'.dispatcher = s.dispatcher)
    (ht' : s'.threads = Function.update s.threads k (some y)) : s'.IsStaffed := by
  have hle (j : Nat) : s'.pool.idle.count j + s.reserves j ≤ s.pool.idle.count j + s.reserves j := by
    simp only [hidle, Nat.le_refl]
  refine of_thread hd ht' ?_ fun j _ => (h j).of_knows hknows (hle j) (Nat.le_refl _)
  have hk := h k
  rw [ht] at hk
  exact (hk.act hbusy hexited).of_knows hknows (hle k) (Nat.le_refl _)

/-- A worker that leaves cannot have been given a task meanwhile. -/
theorem task?_eq_none_of_depart (h : s.IsStaffed) {k : Nat} {phase : WorkerPhase}
    (ht : s.threads k = some (.acting phase))
    (hdepart : phase = .releasing ∨
      (∃ idleSince, phase = .retiring idleSince) ∧ (k ∈ s.pool.idle ∨ s.pool.task? k = none)) :
    s.pool.task? k = none := by
  have hk := h k
  rw [ht] at hk
  rcases hdepart with rfl | ⟨-, hidle | hnone⟩
  · exact hk.task?_eq_none (.inr rfl)
  · have hpos := List.count_pos_iff.2 hidle
    exact hk.task?_eq_none (.inl (by omega))
  · exact hnone

theorem stepWorker (h : s.IsStaffed) {k : Nat} {phase : WorkerPhase} (ht : s.threads k = some (.acting phase))
    (now : Nat) : (s.stepWorker k phase now).IsStaffed := by
  have hk := h k
  rw [ht] at hk
  have hpool := s.pool_stepWorker k phase now
  have hthreads := s.threads_stepWorker k phase now
  have hmoves := phase.moves_step s.pool k now
  generalize (phase.step s.pool k now).1 = q at hmoves hpool
  generalize (phase.step s.pool k now).2 = next at hmoves hthreads
  cases hmoves with
  | take idleSince id htask =>
    refine of_thread (s := s) rfl hthreads ?_ fun j hj => ?_ <;> rw [hpool]
    · exact hk.takeTask htask rfl rfl (by simp)
    · exact (h j).takeTask_of_ne hj
  | giveBack =>
    refine of_thread (s := s) rfl hthreads ?_ fun j hj => ?_ <;> rw [hpool]
    · exact hk.giveBack rfl rfl (by simp [WorkerThread.ofPhase])
    · refine (h j).mono rfl rfl rfl (Nat.le_of_eq ?_) (Nat.le_refl _)
      rw [List.count_cons_of_ne (Ne.symm hj)]
  | depart _ _ =>
    refine of_thread (s := s) rfl hthreads ?_ fun j hj => ?_ <;> rw [hpool]
    · rw [h.awaits_eq_zero ht]
      exact hk.removeWorker
    · exact (h j).removeWorker_of_ne hj
  | goOn _ _ _ hknows hidle hbusy hexited _ =>
    refine h.act (.ofPhase next) ht ?_ ?_ (by rwa [hpool]) (by rwa [hpool]) rfl hthreads
    · rw [WorkerThread.isBusy_ofPhase, hbusy]
      rfl
    · rw [WorkerThread.ofPhase_eq_exited_iff, hexited]
      simp

/-- The dispatcher goes over to a phase in which it has reserved nobody, from one in which it had not either. -/
theorem withDispatcher (h : s.IsStaffed) (d : Dispatcher) (hr : ∀ k, d.reserves k = 0) (ha : ∀ k, d.awaits k = 0) :
    (s.withDispatcher d).IsStaffed := by
  intro k
  refine (h k).of_knows (Pool.Knows.refl _) ?_ ?_
  · simp only [reserves, System.withDispatcher, Option.elim_some, hr]
    exact Nat.le_add_right _ _
  · simp only [awaits, System.withDispatcher, Option.elim_some, ha]
    exact Nat.zero_le _

theorem stepClient (h : s.IsStaffed) (i : Nat) : (s.stepClient i).IsStaffed := by
  intro k
  have hr : (s.stepClient i).reserves k = s.reserves k := by
    simp only [reserves, System.stepClient]
    cases s.dispatcher with
    | some d => rfl
    | none => cases ((s.clients i).step s.scheduler).1.dispatcher.thread <;> rfl
  have ha : (s.stepClient i).awaits k = s.awaits k := by
    simp only [awaits, System.stepClient]
    cases s.dispatcher with
    | some d => rfl
    | none => cases ((s.clients i).step s.scheduler).1.dispatcher.thread <;> rfl
  rw [hr, ha]
  rcases (s.clients i).pool_step s.scheduler with hpool | hpool
  · have hsame : (s.stepClient i).pool = s.pool := hpool
    rw [hsame]
    exact h k
  · have hstop : (s.stepClient i).pool = s.pool.stop := hpool
    rw [hstop]
    exact (h k).of_knows (Pool.Knows.stop _) (Nat.add_le_add_right (Nat.zero_le _) _) (Nat.le_refl _)

theorem stepExecution (h : s.IsStaffed) {k : Nat} {id : TaskId} {e : Execution}
    (ht : s.threads k = some (.executing id e)) (name : Option String) : (s.stepExecution k id e name).IsStaffed := by
  have hpool : (s.stepExecution k id e name).pool = s.pool := e.pool_step s.scheduler id name
  refine h.act _ ht ?_ ?_ ?_ (by rw [hpool]) rfl rfl
  · cases (e.step s.scheduler id name).2 <;> rfl
  · cases (e.step s.scheduler id name).2 <;> simp [WorkerThread.ofExecution]
  · rw [hpool]
    exact Pool.Knows.refl _

/-- A change of the settings, or of the pool, that moves nobody. -/
theorem withScheduler (h : s.IsStaffed) {scheduler : PooledScheduler} (hknows : s.pool.Knows scheduler.pool)
    (hidle : scheduler.pool.idle = s.pool.idle) : (s.withScheduler scheduler).IsStaffed := by
  intro k
  refine (h k).of_knows hknows (Nat.le_of_eq ?_) (Nat.le_refl _)
  rw [← hidle]
  rfl

theorem step (h : s.IsStaffed) {s' : System} (hstep : Step s s') : s'.IsStaffed := by
  cases hstep with
  | submit i r _ => exact h
  | cancel i id _ => exact h
  | shutDown i mode _ => exact h
  | client i => exact h.stepClient i
  | dispatcher d now hd => exact h.stepDispatcher hd now
  | pick id now lowWait hd => exact h.withDispatcher _ (fun _ => rfl) fun _ => rfl
  | miss until? hd => exact h.withDispatcher _ (fun _ => rfl) fun _ => rfl
  | leave hd _ => exact h.withDispatcher _ (fun _ => rfl) fun _ => rfl
  | rouse until? reason hd => exact h.withDispatcher _ (fun _ => rfl) fun _ => rfl
  | worker k phase now ht => exact h.stepWorker ht now
  | rouseWorker k idleSince until? ht =>
    exact h.act (.acting (.fetching idleSince)) ht rfl (by simp) (Pool.Knows.refl _) rfl rfl rfl
  | execution k id e name ht => exact h.stepExecution ht name
  | finish k id outcome ht =>
    exact h.act (.executing id (Execution.running.finish outcome)) ht rfl (by simp) (Pool.Knows.refl _) rfl rfl rfl
  | setMaxPoolSize n =>
    have hpool := s.scheduler.pool_setMaxPoolSize n
    exact h.withScheduler (by rw [hpool]; exact Pool.Knows.setMaxSize _ n) (by rw [hpool]; rfl)
  | setKeepAlive d => exact h.withScheduler ⟨fun _ => rfl, fun _ => rfl, rfl⟩ rfl
  | setLowWait d =>
    have hpool := s.scheduler.pool_setLowWait d
    exact h.withScheduler (by rw [hpool]; exact Pool.Knows.refl _) (by rw [hpool]; rfl)
  | interruptAll => exact h.withScheduler (Pool.Knows.interruptAll _) rfl
  | tell clock => exact h

end IsStaffed

/-- Throughout every run each worker has at most one part to play. -/
theorem Reachable.isStaffed {s : System} (h : Reachable s) : s.IsStaffed := by
  induction h with
  | start clock maxSize keepAlive factory router sink defaultPriority lowWait =>
    intro k
    exact Staffed.of_unregistered rfl (fun ht => by cases ht) (fun x ht => by cases ht) (Nat.zero_le _) fun hpos =>
      absurd hpos (Nat.lt_irrefl 0)
  | step _ hstep ih => exact ih.step hstep

/-- A thread stays where it is until it goes on itself. -/
theorem Step.thread_cases {s s' : System} (hstep : Step s s') (h : s.IsStaffed) {k : Nat} {x : WorkerThread}
    (ht : s.threads k = some x) :
    s'.threads k = some x ∨
      (∃ phase, x = .acting phase ∧
        ((∃ idleSince until?, phase = .parked idleSince until?) ∨ ∃ now, s' = s.stepWorker k phase now)) ∨
      ∃ id e, x = .executing id e ∧ (e = .running ∨ ∃ name, s' = s.stepExecution k id e name) := by
  have hother {j : Nat} (hj : k ≠ j) (y : WorkerThread) : Function.update s.threads j (some y) k = some x :=
    (Function.update_of_ne hj _ _).trans ht
  cases hstep with
  | dispatcher d now hd =>
    left
    simp only [System.stepDispatcher]
    cases hnext : (d.step s.scheduler).2 with
    | spawned id j thread =>
      -- the worker that is started has no thread yet
      refine hother ?_ _
      rintro rfl
      have hawaits : 0 < s.awaits k := by
        rw [awaits, hd, Option.elim_some, Dispatcher.awaits_of_step_eq_spawned hnext]
        exact Nat.one_pos
      rw [((h k).awaited hawaits).1] at ht
      cases ht
    | _ => exact ht
  | worker j phase now hj =>
    by_cases hjk : k = j
    · subst hjk
      cases hj.symm.trans ht
      exact .inr (.inl ⟨phase, rfl, .inr ⟨now, rfl⟩⟩)
    · exact .inl (hother hjk _)
  | rouseWorker j idleSince until? hj =>
    by_cases hjk : k = j
    · subst hjk
      cases hj.symm.trans ht
      exact .inr (.inl ⟨_, rfl, .inl ⟨idleSince, until?, rfl⟩⟩)
    · exact .inl (hother hjk _)
  | execution j id e name hj =>
    by_cases hjk : k = j
    · subst hjk
      cases hj.symm.trans ht
      exact .inr (.inr ⟨id, e, rfl, .inr ⟨name, rfl⟩⟩)
    · exact .inl (hother hjk _)
  | finish j id outcome hj =>
    by_cases hjk : k = j
    · subst hjk
      cases hj.symm.trans ht
      exact .inr (.inr ⟨id, _, rfl, .inl rfl⟩)
    · exact .inl (hother hjk _)
  | _ => exact .inl ht

end System

end TaskScheduling
