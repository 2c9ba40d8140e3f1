import TaskScheduling.Pool.WorkerPhase

/-!
# The workers of a pool

A pool is looked at through four views: which workers are registered, which task a worker was given (`Pool.task?`), the
idle stack, and the number of the next worker.  `Pool.Knows` says that two pools agree in all of these but the idle
stack, which holds for every operation that only talks to workers.  `task?_hand`, `task?_takeTask`,
`isRegistered_register` and `isRegistered_removeWorker` describe those that do more.

`WorkerPhase.Moves` says what a worker does to its pool in a single step.
-/

namespace TaskScheduling

namespace Pool

/-- The task that a worker was given and has not taken yet. -/
def task? (p : Pool) (k : Nat) : Option TaskId := (p.worker? k).bind Worker.nextTask

theorem task?_eq_none_of_not_isRegistered {p : Pool} {k : Nat} (h : p.isRegistered k = false) : p.task? k = none := by
  simp only [isRegistered, Option.isSome_eq_false_iff, Option.isNone_iff_eq_none] at h
  simp only [task?, h, Option.bind_none]

/-! ### Talking to workers -/

/-- The same workers are registered in both pools, with the same tasks. -/
structure Knows (p q : Pool) : Prop where
  isRegistered_eq (k : Nat) : q.isRegistered k = p.isRegistered k
  task?_eq (k : Nat) : q.task? k = p.task? k
  nextId_eq : q.nextId = p.nextId

theorem Knows.refl (p : Pool) : p.Knows p := ⟨fun _ => rfl, fun _ => rfl, rfl⟩

theorem worker?_map (p : Pool) {f : Worker → Worker} (hf : ∀ w, (f w).id = w.id) (k : Nat) :
    { p with workers := p.workers.map f }.worker? k = (p.worker? k).map f := by
  simp only [worker?, List.find?_map, Function.comp_def, hf]

theorem Knows.map (p : Pool) {f : Worker → Worker} (hf : ∀ w, (f w).id = w.id)
    (hg : ∀ w, (f w).nextTask = w.nextTask) : p.Knows { p with workers := p.workers.map f } where
  isRegistered_eq k := by rw [isRegistered, worker?_map p hf, Option.isSome_map, isRegistered]
  task?_eq k := by
    rw [task?, worker?_map p hf, task?]
    cases p.worker? k with
    | none => rfl
    | some w => exact hg w
  nextId_eq := rfl

theorem Knows.modifyWorker (p : Pool) (k : Nat) {f : Worker → Worker} (hf : ∀ w, (f w).id = w.id)
    (hg : ∀ w, (f w).nextTask = w.nextTask) : p.Knows (p.modifyWorker k f) :=
  Knows.map p (fun w => by split <;> simp [hf]) fun w => by split <;> simp [hg]

theorem Knows.modifyWorkers (p : Pool) (ks : List Nat) {f : Worker → Worker} (hf : ∀ w, (f w).id = w.id)
    (hg : ∀ w, (f w).nextTask = w.nextTask) : p.Knows (p.modifyWorkers ks f) :=
  Knows.map p (fun w => by split <;> simp [hf]) fun w => by split <;> simp [hg]

theorem Knows.interruptAll (p : Pool) : p.Knows p.interruptAll := Knows.map p (fun _ => rfl) fun _ => rfl

theorem Knows.setMaxSize (p : Pool) (n : Nat) : p.Knows (p.setMaxSize n) := by
  have h := Knows.modifyWorkers p (p.idle.take (p.size - max n 1)) (f := Worker.dismiss) (fun _ => rfl) fun _ => rfl
  exact ⟨h.isRegistered_eq, h.task?_eq, h.nextId_eq⟩

theorem Knows.stop (p : Pool) : p.Knows p.stop := by
  have h := Knows.modifyWorkers p p.idle (f := Worker.dismiss) (fun _ => rfl) fun _ => rfl
  exact ⟨h.isRegistered_eq, h.task?_eq, h.nextId_eq⟩

/-! ### New workers -/

theorem worker?_register (p : Pool) (k : Nat) :
    p.register.1.worker? k = (p.worker? k).or (if p.nextId = k then some (.fresh p.nextId) else none) := by
  simp only [register, worker?, List.find?_append, List.find?_singleton, Worker.fresh, beq_iff_eq]

theorem isRegistered_register (p : Pool) (k : Nat) :
    p.register.1.isRegistered k = (p.isRegistered k || decide (k = p.nextId)) := by
  rw [isRegistered, worker?_register, Option.isSome_or, isRegistered]
  by_cases hk : p.nextId = k
  · simp [hk]
  · simp [hk, Ne.symm hk]

theorem task?_register (p : Pool) (k : Nat) : p.register.1.task? k = p.task? k := by
  rw [task?, worker?_register, task?]
  cases p.worker? k with
  | some w => rfl
  | none =>
    rw [Option.none_or]
    split <;> rfl

/-! ### Workers that leave -/

theorem worker?_removeWorker (p : Pool) (k j : Nat) :
    (p.removeWorker k).worker? j = if j = k then none else p.worker? j := by
  simp only [removeWorker, worker?, List.find?_filter]
  by_cases hj : j = k
  · subst hj
    simp
  · rw [if_neg hj]
    congr 1
    funext w
    by_cases hw : w.id = j
    · simp [hw, hj]
    · simp [hw]

theorem isRegistered_removeWorker (p : Pool) (k j : Nat) :
    (p.removeWorker k).isRegistered j = (p.isRegistered j && decide (j ≠ k)) := by
  rw [isRegistered, worker?_removeWorker, isRegistered]
  split <;> simp [*]

theorem task?_removeWorker (p : Pool) (k j : Nat) :
    (p.removeWorker k).task? j = if j = k then none else p.task? j := by
  rw [task?, worker?_removeWorker, task?]
  split <;> rfl

theorem count_idle_removeWorker_le (p : Pool) (k j : Nat) :
    (p.removeWorker k).idle.count j ≤ p.idle.count j := by
  simp only [removeWorker]
  split
  · exact Nat.le_refl _
  · exact (List.filter_sublist).count_le j

/-! ### Handing over -/

theorem isRegistered_hand (p : Pool) (k : Nat) (id : TaskId) (j : Nat) :
    (p.hand k id).1.isRegistered j = p.isRegistered j := by
  unfold hand
  split
  · rw [isRegistered, modifyWorker, worker?_map p fun w => by split <;> rfl, Option.isSome_map, isRegistered]
  · rfl

theorem hand_snd (p : Pool) (k : Nat) (id : TaskId) : (p.hand k id).2 = p.isRegistered k := by
  unfold hand
  split <;> simp [*]

theorem task?_hand (p : Pool) (k : Nat) (id : TaskId) (j : Nat) :
    (p.hand k id).1.task? j = if j = k ∧ p.isRegistered k = true then some id else p.task? j := by
  unfold hand
  by_cases hk : p.isRegistered k = true
  · rw [if_pos hk, task?, modifyWorker, worker?_map p fun w => by split <;> rfl]
    cases hw : p.worker? j with
    | none =>
      have hj : j ≠ k := by
        rintro rfl
        simp [isRegistered, hw] at hk
      simp [task?, hw, hj]
    | some w =>
      obtain rfl : w.id = j := by simpa using List.find?_some hw
      by_cases hj : w.id = k <;> simp [task?, hw, hj, hk, Worker.wake]
  · simp [hk]

theorem idle_hand (p : Pool) (k : Nat) (id : TaskId) : (p.hand k id).1.idle = p.idle := by
  unfold hand
  split <;> rfl

theorem nextId_hand (p : Pool) (k : Nat) (id : TaskId) : (p.hand k id).1.nextId = p.nextId := by
  unfold hand
  split <;> rfl

theorem isRegistered_takeTask (p : Pool) (k j : Nat) : (p.takeTask k).1.isRegistered j = p.isRegistered j := by
  unfold takeTask
  split
  · rw [isRegistered, modifyWorker, worker?_map p fun w => by split <;> rfl, Option.isSome_map, isRegistered]
  · rfl

theorem takeTask_snd (p : Pool) (k : Nat) : (p.takeTask k).2 = p.task? k := by
  unfold takeTask task?
  split <;> simp [*]

theorem takeTask_fst_of_none {p : Pool} {k : Nat} (h : p.task? k = none) : (p.takeTask k).1 = p := by
  unfold takeTask
  split
  · next id hid => rw [task?, hid] at h; cases h
  · rfl

theorem task?_takeTask (p : Pool) (k j : Nat) :
    (p.takeTask k).1.task? j = if j = k then none else p.task? j := by
  unfold takeTask
  split
  · next id hid =>
    rw [task?, modifyWorker, worker?_map p fun w => by split <;> rfl]
    cases hw : p.worker? j with
    | none => simp [task?, hw]
    | some w =>
      obtain rfl : w.id = j := by simpa using List.find?_some hw
      by_cases hj : w.id = k <;> simp [task?, hw, hj]
  · next hnone =>
    split
    · next hj => rw [hj, task?, hnone]
    · rfl

theorem idle_takeTask (p : Pool) (k : Nat) : (p.takeTask k).1.idle = p.idle := by
  unfold takeTask
  split <;> rfl

theorem nextId_takeTask (p : Pool) (k : Nat) : (p.takeTask k).1.nextId = p.nextId := by
  unfold takeTask
  split <;> rfl

theorem Knows.takeTask {p : Pool} {k : Nat} (h : p.task? k = none) : p.Knows (p.takeTask k).1 where
  isRegistered_eq := isRegistered_takeTask p k
  task?_eq j := by
    rw [task?_takeTask]
    split
    · next hj => rw [hj, h]
    · rfl
  nextId_eq := nextId_takeTask p k

/-! ### The idle stack -/

theorem Knows.acquire (p : Pool) (priority : Priority) (dueSince now lowWait : Nat) :
    p.Knows (p.acquire priority dueSince now lowWait).1 := by
  unfold Pool.acquire
  split
  · exact refl p
  · split
    · exact ⟨fun _ => rfl, fun _ => rfl, rfl⟩
    · split
      · exact ⟨fun _ => rfl, fun _ => rfl, rfl⟩
      · exact refl p

theorem growth_ne_idle (p : Pool) (priority : Priority) (dueSince now lowWait k : Nat) :
    p.growth priority dueSince now lowWait ≠ .idle k := by
  unfold growth
  split
  · simp
  · split
    · simp
    · dsimp only
      split <;> simp
    · split <;> simp

/-- The worker that is answered leaves the idle stack. -/
theorem count_idle_acquire (p : Pool) (priority : Priority) (dueSince now lowWait k : Nat) :
    (p.acquire priority dueSince now lowWait).1.idle.count k +
        (if (p.acquire priority dueSince now lowWait).2 = .idle k then 1 else 0) = p.idle.count k := by
  unfold acquire
  split
  · simp
  · split
    · next j rest hidle =>
      rw [hidle, List.count_cons]
      simp only [Acquire.idle.injEq, beq_iff_eq]
    · next hidle =>
      split
      · simp [hidle]
      · simp [growth_ne_idle]

theorem Knows.releaseUnused (p : Pool) (k : Nat) : p.Knows (p.releaseUnused k) := by
  have h := Knows.modifyWorker p k (f := Worker.wake) (fun _ => rfl) fun _ => rfl
  unfold Pool.releaseUnused
  dsimp only
  split
  · exact ⟨h.isRegistered_eq, h.task?_eq, h.nextId_eq⟩
  · exact h

theorem count_idle_releaseUnused_le (p : Pool) (k j : Nat) :
    (p.releaseUnused k).idle.count j ≤ p.idle.count j + if j = k then 1 else 0 := by
  unfold releaseUnused modifyWorker
  dsimp only
  split
  · rw [List.count_cons]
    simp only [beq_iff_eq, eq_comm (a := k)]
    exact Nat.le_refl _
  · exact Nat.le_add_right _ _

/-- A worker that has finished its task leaves, or lies on top of the idle stack. -/
theorem release_cases (p : Pool) (k : Nat) :
    p.release k = (p.removeWorker k, false) ∨ p.release k = ({ p with idle := k :: p.idle }, true) := by
  unfold release
  split
  · exact .inl rfl
  · exact .inr rfl

/-- Only a worker that is idle, or that holds no task, retires. -/
theorem retire_cases (p : Pool) (k : Nat) :
    p.retire k = (p.removeWorker k, true) ∧ (k ∈ p.idle ∨ p.task? k = none) ∨ p.retire k = (p, false) := by
  unfold retire
  dsimp only
  split
  · next h =>
    refine .inl ⟨rfl, h.imp_right fun hleaving => ?_⟩
    cases hw : p.worker? k with
    | none => simp [task?, hw]
    | some w => simpa [task?, hw] using hleaving.2
  · exact .inr rfl

end Pool

/-! ### The life of a worker -/

namespace WorkerPhase

/-- Whether the worker has a task to execute, or has not given itself back since it executed one. -/
def isBusy : WorkerPhase → Bool
  | working _ => true
  | finished => true
  | releasing => true
  | _ => false

/-- What the worker `k` does in a single step, from one phase to the next. -/
inductive Moves (p : Pool) (k : Nat) : WorkerPhase → Pool → WorkerPhase → Prop where
  | take (idleSince : Nat) (id : TaskId) :
      p.task? k = some id → Moves p k (fetching idleSince) (p.takeTask k).1 (working id)
  | giveBack : Moves p k releasing { p with idle := k :: p.idle } announcing
  /-- It leaves the pool after a task, or because it has none to wait for. -/
  | depart (phase : WorkerPhase) :
      phase = releasing ∨ (∃ idleSince, phase = retiring idleSince) ∧ (k ∈ p.idle ∨ p.task? k = none) →
        Moves p k phase (p.removeWorker k) exited
  /-- All other steps change nothing that others could rely on. -/
  | goOn (phase : WorkerPhase) (q : Pool) (next : WorkerPhase) :
      p.Knows q → q.idle = p.idle → next.isBusy = phase.isBusy → (next = exited ↔ phase = exited) →
        (∀ id, next = working id ↔ phase = working id) → Moves p k phase q next

theorem moves_step (p : Pool) (k now : Nat) (phase : WorkerPhase) :
    Moves p k phase (phase.step p k now).1 (phase.step p k now).2 := by
  have hwoken : p.Knows (p.modifyWorker k fun w => { w with woken := false }) :=
    .modifyWorker p k (fun _ => rfl) fun _ => rfl
  have hcalmed : p.Knows (p.modifyWorker k fun w => { w with interrupted := false }) :=
    .modifyWorker p k (fun _ => rfl) fun _ => rfl
  cases phase with
  | fetching idleSince =>
    have hsnd := p.takeTask_snd k
    simp only [step]
    rcases htake : p.takeTask k with ⟨q, _ | id⟩ <;> rw [htake] at hsnd
    · have hknows := Pool.Knows.takeTask hsnd.symm
      have hidle := p.idle_takeTask k
      rw [htake] at hknows hidle
      exact .goOn _ _ _ hknows hidle rfl (by simp) (by simp)
    · have hmove := Moves.take (p := p) (k := k) idleSince id hsnd.symm
      rw [htake] at hmove
      exact hmove
  | working id => exact .goOn _ _ _ (.refl p) rfl rfl (by simp [step]) (by simp [step])
  | finished => exact .goOn _ _ _ hcalmed rfl rfl (by simp [step]) (by simp [step])
  | releasing =>
    rcases p.release_cases k with h | h <;> simp only [step, h]
    · exact .depart releasing (.inl rfl)
    · exact .giveBack
  | announcing => exact .goOn _ _ _ (.refl p) rfl rfl (by simp [step]) (by simp [step])
  | deciding idleSince =>
    simp only [step]
    split <;> exact .goOn _ _ _ (.refl p) rfl rfl (by simp) (by simp)
  | retiring idleSince =>
    rcases p.retire_cases k with ⟨h, hspare⟩ | h <;> simp only [step, h]
    · exact .depart _ (.inr ⟨⟨idleSince, rfl⟩, hspare⟩)
    -- it has been reserved, and waits for its task
    · exact .goOn _ _ _ (.refl p) rfl rfl (by simp) (by simp)
  | parked idleSince until? =>
    simp only [step]
    split
    · exact .goOn _ _ _ hwoken rfl rfl (by simp) (by simp)
    · split <;> exact .goOn _ _ _ (.refl p) rfl rfl (by simp) (by simp)
  | exited => exact .goOn _ _ _ (.refl p) rfl rfl (by simp [step]) (by simp [step])

end WorkerPhase

end TaskScheduling
