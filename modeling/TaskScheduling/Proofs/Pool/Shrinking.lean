import Mathlib.Data.List.Perm.Subperm
import TaskScheduling.Proofs.Pool.Accounting

/-!
# Pools whose bound is lowered

When the bound is lowered, as many idle workers are told to leave as there are too many.  A worker that finishes a task
leaves if there are too many at that moment, and does not ask how many of the others have been told to leave.  So the
same excess can be taken away twice.

`Pool.staying` counts the places of a pool without those of the workers that have been told to leave, and
`PoolUse.Eases` counts, along a run, the workers that leave although the others that have been told to are enough.

Main statement: `PoolUse.Reachable.eases`.
-/

namespace TaskScheduling

namespace Pool

/-- How many registered workers have been told to leave. -/
def leaving (p : Pool) : Nat := p.workers.countP Worker.dismissed

/-- The places that are left when everybody has gone who was told to. -/
def staying (p : Pool) : Nat := p.size - p.leaving

variable {p q : Pool} {n : Nat}

theorem Sized.leaving_le (h : p.Sized n) : p.leaving ≤ p.size := by
  have hcount : p.workers.countP Worker.dismissed ≤ p.workers.length := List.countP_le_length
  have hsize := h.size_eq
  simp only [roster, List.length_map] at hsize
  unfold leaving
  omega

theorem Sized.staying_add_leaving (h : p.Sized n) : p.staying + p.leaving = p.size := by
  have hle := h.leaving_le
  unfold staying
  omega

/-! ### Who has been told to leave -/

theorem leaving_map (p : Pool) {f : Worker → Worker} (hf : ∀ w, (f w).dismissed = w.dismissed) :
    { p with workers := p.workers.map f }.leaving = p.leaving := by
  simp only [leaving, List.countP_map, Function.comp_def, hf]

theorem leaving_modifyWorker (p : Pool) (k : Nat) {f : Worker → Worker} (hf : ∀ w, (f w).dismissed = w.dismissed) :
    (p.modifyWorker k f).leaving = p.leaving :=
  leaving_map p fun w => by split <;> simp [hf]

theorem leaving_hand (p : Pool) (k : Nat) (id : TaskId) : (p.hand k id).1.leaving = p.leaving := by
  unfold hand
  split
  · exact leaving_modifyWorker p k fun _ => rfl
  · rfl

theorem leaving_takeTask (p : Pool) (k : Nat) : (p.takeTask k).1.leaving = p.leaving := by
  unfold takeTask
  split
  · exact leaving_modifyWorker p k fun _ => rfl
  · rfl

theorem leaving_releaseUnused (p : Pool) (k : Nat) : (p.releaseUnused k).leaving = p.leaving := by
  have hwake := leaving_modifyWorker p k (f := Worker.wake) fun _ => rfl
  unfold releaseUnused
  dsimp only
  split <;> exact hwake

theorem leaving_register (p : Pool) : p.register.1.leaving = p.leaving := by
  simp [leaving, register, Worker.fresh]

/-- Among workers with different numbers, only those with the number `k` are struck off with `k`. -/
private theorem countP_dismissed_filter (ws : List Worker) (hnodup : (ws.map Worker.id).Nodup) (k : Nat) :
    (ws.filter (·.id ≠ k)).countP Worker.dismissed + ((ws.find? (·.id == k)).any Worker.dismissed).toNat =
      ws.countP Worker.dismissed := by
  induction ws with
  | nil => rfl
  | cons w ws ih =>
    rw [List.map_cons, List.nodup_cons] at hnodup
    obtain ⟨hnew, hrest⟩ := hnodup
    by_cases hk : w.id = k
    · have hothers : ws.filter (·.id ≠ k) = ws := by
        rw [List.filter_eq_self]
        intro v hv
        have hne : v.id ≠ k := fun heq => hnew (by rw [hk, ← heq]; exact List.mem_map_of_mem hv)
        simpa using hne
      have hfind : (w :: ws).find? (·.id == k) = some w := by simp [hk]
      have hfilter : (w :: ws).filter (·.id ≠ k) = ws := by
        rw [List.filter_cons_of_neg (by simp [hk]), hothers]
      rw [hfind, hfilter, List.countP_cons]
      cases hw : w.dismissed <;> simp [hw]
    · have hfind : (w :: ws).find? (·.id == k) = ws.find? (·.id == k) := by simp [hk]
      have hfilter : (w :: ws).filter (·.id ≠ k) = w :: ws.filter (·.id ≠ k) :=
        List.filter_cons_of_pos (by simp [hk])
      have ih := ih hrest
      rw [hfind, hfilter, List.countP_cons, List.countP_cons]
      omega

theorem Sized.leaving_removeWorker (h : p.Sized n) (k : Nat) :
    (p.removeWorker k).leaving + (p.isDismissed k).toNat = p.leaving :=
  countP_dismissed_filter p.workers h.roster_nodup k

theorem isRegistered_of_isDismissed {k : Nat} (h : p.isDismissed k = true) : p.isRegistered k = true := by
  unfold isDismissed at h
  unfold isRegistered
  cases hw : p.worker? k with
  | none => rw [hw] at h; cases h
  | some w => rfl

theorem size_removeWorker_add (h : p.isRegistered k = true) (hsize : 0 < p.size) :
    (p.removeWorker k).size + 1 = p.size := by
  simp only [removeWorker, h, ↓reduceIte]
  omega

/-- A list of numbers names at most as many workers as it is long. -/
theorem Sized.countP_mem_le (h : p.Sized n) (ks : List Nat) : p.workers.countP (·.id ∈ ks) ≤ ks.length := by
  have hnodup : ((p.workers.filter (·.id ∈ ks)).map Worker.id).Nodup :=
    h.roster_nodup.sublist (List.filter_sublist.map _)
  have hsubset : (p.workers.filter (·.id ∈ ks)).map Worker.id ⊆ ks := by
    intro k hk
    obtain ⟨w, hw, rfl⟩ := List.mem_map.1 hk
    simpa using (List.mem_filter.1 hw).2
  rw [List.countP_eq_length_filter, ← List.length_map (f := Worker.id)]
  exact (List.subperm_of_subset hnodup hsubset).length_le

private theorem countP_dismiss_le (ws : List Worker) (ks : List Nat) :
    (ws.map fun w => if w.id ∈ ks then w.dismiss else w).countP Worker.dismissed ≤
      ws.countP Worker.dismissed + ws.countP (·.id ∈ ks) := by
  induction ws with
  | nil => exact Nat.le_refl _
  | cons w ws ih =>
    rw [List.map_cons, List.countP_cons, List.countP_cons, List.countP_cons]
    by_cases hk : w.id ∈ ks
    · simp only [hk, ↓reduceIte, decide_true]
      split <;> split <;> omega
    · simp only [hk, ↓reduceIte, decide_false, Bool.false_eq_true]
      omega

/-- A new bound has no more workers leave than are too many. -/
theorem Sized.leaving_setMaxSize_le (h : p.Sized n) (m : Nat) :
    (p.setMaxSize m).leaving ≤ p.leaving + (p.size - max m 1) := by
  have hdismissed := countP_dismiss_le p.workers (p.idle.take (p.size - max m 1))
  have hcount := h.countP_mem_le (p.idle.take (p.size - max m 1))
  have hlength := List.length_take_le (p.size - max m 1) p.idle
  show (p.workers.map _).countP Worker.dismissed ≤ p.workers.countP Worker.dismissed + _
  omega

end Pool

namespace PoolUse

variable {u u' v w : PoolUse} {k n : Nat}

/-- One step of the workers or the dispatcher while nobody is idle for too long, every thread can be started, and
nobody changes the bound or stops the pool. -/
inductive Routine (u : PoolUse) : PoolUse → Prop where
  | acquire (priority : Priority) (dueSince now lowWait : Nat) : Routine u (u.acquire priority dueSince now lowWait)
  | register : 0 < u.promised → Routine u u.register
  | enter (k : Nat) : k ∈ u.starting → Routine u (u.enter k)
  | hand (k : Nat) (id : TaskId) : k ∈ u.reserved → Routine u (u.hand k id)
  | releaseUnused (k : Nat) : k ∈ u.reserved → Routine u (u.releaseUnused k)
  | take (k : Nat) : (u.pool.task? k).isSome = true → Routine u (u.take k)
  | release (k : Nat) : u.running k = true → Routine u (u.release k)
  /-- Only a worker that was told to leave retires. -/
  | retire (k : Nat) : k ∉ u.starting → u.running k = false → u.pool.isDismissed k = true →
      Routine u (u.withPool (u.pool.retire k).1)
  | setKeepAlive (d : Duration) : Routine u (u.withPool (u.pool.setKeepAlive d))
  | interruptAll : Routine u (u.withPool u.pool.interruptAll)
  | calm (k : Nat) : Routine u (u.withPool (u.pool.modifyWorker k fun w => { w with interrupted := false }))
  | rouse (k : Nat) : Routine u (u.withPool (u.pool.modifyWorker k fun w => { w with woken := false }))

theorem Routine.toStep (h : Routine u u') : Step u u' := by
  cases h with
  | acquire priority dueSince now lowWait => exact .acquire priority dueSince now lowWait
  | register hpos => exact .register hpos
  | enter k hk => exact .enter k hk
  | hand k id hk => exact .hand k id hk
  | releaseUnused k hk => exact .releaseUnused k hk
  | take k hk => exact .take k hk
  | release k hk => exact .release k hk
  | retire k hstarting hrunning _ => exact .retire k hstarting hrunning
  | setKeepAlive d => exact .setKeepAlive d
  | interruptAll => exact .interruptAll
  | calm k => exact .calm k
  | rouse k => exact .rouse k

/-- A worker leaves that was not told to, and there will be fewer than the bound when those have gone who were. -/
def Overlaps (u u' : PoolUse) : Prop :=
  u'.pool.size < u.pool.size ∧ u'.pool.leaving = u.pool.leaving ∧ u.pool.staying ≤ u.pool.maxSize

instance (u u' : PoolUse) : Decidable (u.Overlaps u') := by unfold Overlaps; infer_instance

/-- A run of routine steps, with the number of those among them that overlap with what was told before. -/
inductive Eases (u : PoolUse) : Nat → PoolUse → Prop where
  | refl : Eases u 0 u
  | step {n : Nat} {v w : PoolUse} : Eases u n v → Routine v w → Eases u (n + if v.Overlaps w then 1 else 0) w

/-! ### A single step -/

/-- What a routine step does to the places of a pool. -/
inductive Alters (p : Pool) : Pool → Prop where
  | keep (q : Pool) : q.size = p.size → q.leaving = p.leaving → Alters p q
  | grow (q : Pool) : q.size = p.size + 1 → q.leaving = p.leaving → Alters p q
  /-- Somebody leaves who was told to. -/
  | heed (q : Pool) : q.size + 1 = p.size → q.leaving + 1 = p.leaving → Alters p q
  /-- Somebody else leaves, because there are too many. -/
  | shed (q : Pool) : p.maxSize < p.size → q.size + 1 = p.size → q.leaving = p.leaving → Alters p q

/-- A registered worker that leaves has been told to, or there are too many. -/
theorem Sound.alters_removeWorker (h : u.Sound) {k : Nat} (hreg : u.pool.isRegistered k = true)
    (hleaves : u.pool.isDismissed k = true ∨ u.pool.maxSize < u.pool.size) :
    Alters u.pool (u.pool.removeWorker k) := by
  have hmem := List.length_pos_of_mem (Pool.isRegistered_iff_mem_roster.1 hreg)
  have hcount := h.sized.size_eq
  have hsize := Pool.size_removeWorker_add hreg (by omega)
  have hleaving := h.sized.leaving_removeWorker k
  cases htold : u.pool.isDismissed k with
  | true =>
    rw [htold, Bool.toNat_true] at hleaving
    exact .heed _ hsize hleaving
  | false =>
    rw [htold, Bool.toNat_false] at hleaving
    exact .shed _ (hleaves.resolve_left (by simp [htold])) hsize hleaving

theorem Sound.isRegistered_of_running (h : u.Sound) {k : Nat} (hrunning : u.running k = true) :
    u.pool.isRegistered k = true := by
  by_contra hreg
  have hleft := (h.playsPart k).left (Bool.eq_false_iff.2 hreg)
  simp only [parts, hrunning, Bool.toNat_true] at hleft
  omega

theorem Sound.alters (h : u.Sound) (hgoing : u.pool.stopping = false) (hstep : Routine u u') :
    Alters u.pool u'.pool := by
  cases hstep with
  | acquire priority dueSince now lowWait =>
    have hcases := u.pool.acquire_cases priority dueSince now lowWait
    unfold PoolUse.acquire
    rcases hcases with ⟨k, rest, -, heq⟩ | ⟨-, heq⟩ | ⟨answer, hgrow, hidle, heq⟩ <;> rw [heq]
    · exact .keep _ rfl rfl
    · exact .grow _ rfl rfl
    · cases answer with
      | idle k => exact absurd rfl (hidle k)
      | grow => exact absurd rfl hgrow
      | waitUntil _ => exact .keep _ rfl rfl
      | wait => exact .keep _ rfl rfl
  | register _ => exact .keep _ rfl (Pool.leaving_register _)
  | enter k _ => exact .keep _ rfl rfl
  | hand k id _ => exact .keep _ (Pool.KeepsRoster.hand _ k id).size_eq (Pool.leaving_hand _ k id)
  | releaseUnused k _ => exact .keep _ (Pool.KeepsRoster.releaseUnused _ k).size_eq (Pool.leaving_releaseUnused _ k)
  | take k _ => exact .keep _ (Pool.KeepsRoster.takeTask _ k).size_eq (Pool.leaving_takeTask _ k)
  | release k hrunning =>
    show Alters u.pool (u.pool.release k).1
    unfold Pool.release
    split
    · next hleaves =>
      simp only [hgoing, Bool.false_or, Bool.or_eq_true, decide_eq_true_eq] at hleaves
      exact h.alters_removeWorker (h.isRegistered_of_running hrunning) hleaves
    · exact .keep _ rfl rfl
  | retire k _ _ htold =>
    show Alters u.pool (u.pool.retire k).1
    rcases u.pool.retire_cases k with ⟨heq, -⟩ | heq <;> rw [heq]
    · exact h.alters_removeWorker (Pool.isRegistered_of_isDismissed htold) (.inl htold)
    · exact .keep _ rfl rfl
  | setKeepAlive d => exact .keep _ rfl rfl
  | interruptAll => exact .keep _ rfl (Pool.leaving_map _ fun _ => rfl)
  | calm k => exact .keep _ rfl (Pool.leaving_modifyWorker _ k fun _ => rfl)
  | rouse k => exact .keep _ rfl (Pool.leaving_modifyWorker _ k fun _ => rfl)

/-- Routine changes neither the bound nor whether the pool is stopping. -/
theorem Routine.maxSize_stopping (h : Routine u u') :
    u'.pool.maxSize = u.pool.maxSize ∧ u'.pool.stopping = u.pool.stopping := by
  cases h with
  | acquire priority dueSince now lowWait =>
    have hcases := u.pool.acquire_cases priority dueSince now lowWait
    unfold PoolUse.acquire
    rcases hcases with ⟨k, rest, -, heq⟩ | ⟨-, heq⟩ | ⟨answer, -, -, heq⟩ <;> rw [heq]
    · exact ⟨rfl, rfl⟩
    · exact ⟨rfl, rfl⟩
    · cases answer <;> exact ⟨rfl, rfl⟩
  | hand k id _ =>
    show (u.pool.hand k id).1.maxSize = _ ∧ (u.pool.hand k id).1.stopping = _
    unfold Pool.hand
    split <;> exact ⟨rfl, rfl⟩
  | releaseUnused k _ =>
    show (u.pool.releaseUnused k).maxSize = _ ∧ (u.pool.releaseUnused k).stopping = _
    unfold Pool.releaseUnused
    dsimp only
    split <;> exact ⟨rfl, rfl⟩
  | take k _ =>
    show (u.pool.takeTask k).1.maxSize = _ ∧ (u.pool.takeTask k).1.stopping = _
    unfold Pool.takeTask
    split <;> exact ⟨rfl, rfl⟩
  | release k _ =>
    show (u.pool.release k).1.maxSize = _ ∧ (u.pool.release k).1.stopping = _
    rcases u.pool.release_cases k with heq | heq <;> rw [heq] <;> exact ⟨rfl, rfl⟩
  | retire k _ _ _ =>
    show (u.pool.retire k).1.maxSize = _ ∧ (u.pool.retire k).1.stopping = _
    rcases u.pool.retire_cases k with ⟨heq, -⟩ | heq <;> rw [heq] <;> exact ⟨rfl, rfl⟩
  | _ => exact ⟨rfl, rfl⟩

/-! ### Runs -/

/-- What is kept after `n` has become the bound of the pool of `u`; `overlaps` steps have overlapped since. -/
structure Spared (u : PoolUse) (n overlaps : Nat) (v : PoolUse) : Prop where
  maxSize_eq : v.pool.maxSize = max n 1
  size_eq : v.pool.size = v.pool.staying + v.pool.leaving
  /-- Nobody else has been told to leave. -/
  leaving_le : v.pool.leaving ≤ (u.pool.setMaxSize n).leaving
  /-- Whoever is missing was told to leave, and has left. -/
  le_size : min u.pool.size (max n 1) + v.pool.leaving ≤ v.pool.size + (u.pool.setMaxSize n).leaving
  /-- Nobody is missing, even after everybody has left who was told to, but for overlaps and for those who had been told
  to leave before. -/
  le_staying : min u.pool.size (max n 1) ≤ v.pool.staying + overlaps + u.pool.leaving

theorem Spared.start (h : u.Sound) (n : Nat) : Spared u n 0 (u.withPool (u.pool.setMaxSize n)) where
  maxSize_eq := rfl
  size_eq := by
    have hset := (h.step (.setMaxSize n)).sized.staying_add_leaving
    exact hset.symm
  leaving_le := Nat.le_refl _
  le_size := by
    show min u.pool.size _ + (u.pool.setMaxSize n).leaving ≤ u.pool.size + _
    omega
  le_staying := by
    have htold := h.sized.leaving_setMaxSize_le n
    show min u.pool.size _ ≤ u.pool.size - (u.pool.setMaxSize n).leaving + 0 + _
    omega

theorem Spared.step {o : Nat} (h : Spared u n o v) (hv : v.Sound) (hgoing : v.pool.stopping = false)
    (hstep : Routine v w) : Spared u n (o + if v.Overlaps w then 1 else 0) w := by
  have hbound := hstep.maxSize_stopping.1
  have hsum := (hv.step hstep.toStep).sized.staying_add_leaving
  have hmax := h.maxSize_eq
  have hsize := h.size_eq
  have htold := h.leaving_le
  have hle := h.le_size
  have hstaying := h.le_staying
  have hover : v.Overlaps w ↔
      w.pool.size < v.pool.size ∧ w.pool.leaving = v.pool.leaving ∧ v.pool.staying ≤ v.pool.maxSize := Iff.rfl
  cases hv.alters hgoing hstep with
  | keep hkeep hleaving => exact ⟨by omega, hsum.symm, by omega, by omega, by split <;> omega⟩
  | grow hgrow hleaving => exact ⟨by omega, hsum.symm, by omega, by omega, by split <;> omega⟩
  | heed hgone hleaving => exact ⟨by omega, hsum.symm, by omega, by omega, by split <;> omega⟩
  | shed hmany hgone hleaving =>
    refine ⟨by omega, hsum.symm, by omega, by omega, ?_⟩
    split
    · omega
    · next hnot =>
      -- more than the bound will stay, so that one less is no loss
      rw [hover] at hnot
      omega

theorem Eases.spared (h : u.Sound) (hgoing : u.pool.stopping = false) (n : Nat) {o : Nat}
    (hrun : (u.withPool (u.pool.setMaxSize n)).Eases o v) : v.Sound ∧ v.pool.stopping = false ∧ Spared u n o v := by
  induction hrun with
  | refl => exact ⟨h.step (.setMaxSize n), hgoing, .start h n⟩
  | step _ hstep ih =>
    obtain ⟨hv, hstill, hspared⟩ := ih
    exact ⟨hv.step hstep.toStep, hstep.maxSize_stopping.2.trans hstill, hspared.step hv hstill hstep⟩

/-- After the bound has been changed, the size of a pool falls below the old size and the new bound by no more than the
number of the workers that were told to leave and have left; and not at all, unless some worker leaves on its own when
those that were told to are enough already, or some had been told to leave before. -/
theorem Reachable.eases (h : u.Reachable) (hgoing : u.pool.stopping = false) (n : Nat) {o : Nat}
    (hrun : (u.withPool (u.pool.setMaxSize n)).Eases o v) : Spared u n o v :=
  (Eases.spared h.sound hgoing n hrun).2.2

/-- Three workers, of whom the last executes a task while the others are idle. -/
private def twoIdle : PoolUse :=
  let one := ((start 3 .zero).acquire .high 0 0 0).register.enter 0
  let two := (one.acquire .high 0 0 0).register.enter 1
  let three := (two.acquire .high 0 0 0).register.enter 2
  (((three.hand 2 ⟨0⟩).take 2).releaseUnused 0).releaseUnused 1

private theorem reachable_twoIdle : twoIdle.Reachable := by
  have hone := (((Reachable.start 3 .zero).step (.acquire .high 0 0 0)).step (.register (by decide))).step
    (.enter 0 (by decide))
  have htwo := ((hone.step (.acquire .high 0 0 0)).step (.register (by decide))).step (.enter 1 (by decide))
  have hthree := ((htwo.step (.acquire .high 0 0 0)).step (.register (by decide))).step (.enter 2 (by decide))
  have hbusy := (hthree.step (.hand 2 ⟨0⟩ (by decide))).step (.take 2 (by decide))
  exact (hbusy.step (.releaseUnused 0 (by decide))).step (.releaseUnused 1 (by decide))

/-- One worker is enough from now on.  The busy one is the first to leave, and then both that were told to. -/
private def deserted : PoolUse :=
  let shed := (twoIdle.withPool (twoIdle.pool.setMaxSize 1)).release 2
  let heeded := shed.withPool (shed.pool.retire 0).1
  heeded.withPool (heeded.pool.retire 1).1

private theorem run_deserted : (twoIdle.withPool (twoIdle.pool.setMaxSize 1)).Eases 1 deserted := by
  have hshed := (Eases.refl (u := twoIdle.withPool (twoIdle.pool.setMaxSize 1))).step (.release 2 (by decide))
  have hheeded := hshed.step (.retire 0 (by decide) (by decide) (by decide))
  exact hheeded.step (.retire 1 (by decide) (by decide) (by decide))

/-- Nobody is left, although one worker was to stay: one step has overlapped. -/
theorem eases_deserted : twoIdle.Reachable ∧ twoIdle.pool.size = 3 ∧ twoIdle.pool.leaving = 0 ∧
    (twoIdle.withPool (twoIdle.pool.setMaxSize 1)).Eases 1 deserted ∧ deserted.pool.size = 0 ∧
    Spared twoIdle 1 1 deserted := by
  have hspared := reachable_twoIdle.eases (by decide) 1 run_deserted
  exact ⟨reachable_twoIdle, by decide, by decide, run_deserted, by decide, hspared⟩

end PoolUse

end TaskScheduling
