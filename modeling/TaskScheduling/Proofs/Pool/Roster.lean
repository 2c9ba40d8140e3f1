import Mathlib.Data.List.Nodup
import TaskScheduling.Proofs.Pool.Workers

/-!
# The roster of a pool

The numbers of the registered workers, and how many places they fill.  `Pool.Sized` says that the size of a pool is the
length of its roster together with the places that it has promised; `Pool.KeepsRoster` holds of every operation that
neither enters a worker nor strikes one off, and `Sized.register` and `Sized.removeWorker` are about those that do.

`Pool.acquire_cases` tells apart what comes of asking for a worker.
-/

namespace TaskScheduling

namespace Pool

/-! ### The roster -/

/-- The numbers of the registered workers. -/
def roster (p : Pool) : List Nat := p.workers.map Worker.id

theorem isRegistered_iff_mem_roster {p : Pool} {k : Nat} : p.isRegistered k = true ↔ k ∈ p.roster := by
  simp [isRegistered, worker?, roster]

theorem roster_map (p : Pool) {f : Worker → Worker} (hf : ∀ w, (f w).id = w.id) :
    { p with workers := p.workers.map f }.roster = p.roster := by
  simp only [roster, List.map_map, Function.comp_def, hf]

theorem roster_register (p : Pool) : p.register.1.roster = p.roster ++ [p.nextId] := by
  simp only [roster, register, Worker.fresh, List.map_append, List.map_cons, List.map_nil]

theorem roster_removeWorker (p : Pool) (k : Nat) : (p.removeWorker k).roster = p.roster.filter (· != k) := by
  simp only [roster, removeWorker, List.filter_map, Function.comp_def, decide_not]
  rfl

/-- What the pool answers comes off the idle stack, is a new place, or is nothing yet. -/
theorem acquire_cases (p : Pool) (priority : Priority) (dueSince now lowWait : Nat) :
    (∃ k rest, p.idle = k :: rest ∧ p.acquire priority dueSince now lowWait = ({ p with idle := rest }, .idle k)) ∨
      (p.growth priority dueSince now lowWait = .grow ∧
        p.acquire priority dueSince now lowWait = ({ p with size := p.size + 1 }, .grow)) ∨
      ∃ answer, answer ≠ .grow ∧ (∀ k, answer ≠ .idle k) ∧
        p.acquire priority dueSince now lowWait = (p, answer) := by
  unfold acquire
  split
  · exact .inr (.inr ⟨.wait, by simp, by simp, rfl⟩)
  · split
    · next k rest hidle => exact .inl ⟨k, rest, hidle, rfl⟩
    · split
      · next hgrow => exact .inr (.inl ⟨hgrow, rfl⟩)
      · next hgrow => exact .inr (.inr ⟨_, hgrow, growth_ne_idle p priority dueSince now lowWait, rfl⟩)

theorem idle_releaseUnused (p : Pool) (k : Nat) :
    (p.releaseUnused k).idle = if p.isRegistered k && !p.stopping then k :: p.idle else p.idle := by
  have hreg : (p.modifyWorker k Worker.wake).isRegistered k = p.isRegistered k :=
    (Knows.modifyWorker p k (f := Worker.wake) (fun _ => rfl) fun _ => rfl).isRegistered_eq k
  have hstopping : (p.modifyWorker k Worker.wake).stopping = p.stopping := rfl
  unfold releaseUnused
  simp only [hreg, hstopping]
  split <;> rfl

/-- Who has nothing to do may leave a pool that is stopping. -/
theorem retire_snd_of_stopping {p : Pool} {k : Nat} (hstopping : p.stopping = true) (htask : p.task? k = none) :
    (p.retire k).2 = true := by
  have hholding : (p.worker? k).any (·.nextTask.isSome) = false := by
    cases hw : p.worker? k with
    | none => rfl
    | some w => simpa [task?, hw] using htask
  unfold retire
  simp only [hstopping, hholding, Bool.true_or, Bool.false_eq_true, not_false_eq_true, and_self, or_true, ↓reduceIte]

/-- Starvable work gets a new worker only where there is none, low work only when it has waited long enough. -/
theorem of_acquire_eq_grow {p : Pool} {priority : Priority} {dueSince now lowWait : Nat}
    (h : (p.acquire priority dueSince now lowWait).2 = .grow) :
    (priority = .starvable → p.size = 0) ∧ (priority = .low → Time.plus dueSince lowWait ≤ now) := by
  have hgrow : p.growth priority dueSince now lowWait = .grow := by
    rcases p.acquire_cases priority dueSince now lowWait with ⟨k, rest, -, heq⟩ | ⟨hgrow, -⟩ | ⟨answer, hne, -, heq⟩
    · rw [heq] at h; cases h
    · exact hgrow
    · rw [heq] at h; exact absurd h hne
  unfold growth at hgrow
  split at hgrow
  · cases hgrow
  · constructor
    · rintro rfl
      by_contra hsize
      simp only [hsize, ↓reduceIte] at hgrow
      cases hgrow
    · rintro rfl
      by_contra hlate
      simp only [Nat.not_le.1 hlate, ↓reduceIte] at hgrow
      cases hgrow

/-- Nobody comes or goes, and the pool is as willing to give out work as before. -/
structure KeepsRoster (p q : Pool) : Prop where
  size_eq : q.size = p.size
  roster_eq : q.roster = p.roster
  stopping_eq : q.stopping = p.stopping

theorem KeepsRoster.modifyWorker (p : Pool) (k : Nat) {f : Worker → Worker} (hf : ∀ w, (f w).id = w.id) :
    p.KeepsRoster (p.modifyWorker k f) :=
  ⟨rfl, roster_map p fun w => by split <;> simp [hf], rfl⟩

theorem KeepsRoster.modifyWorkers (p : Pool) (ks : List Nat) {f : Worker → Worker} (hf : ∀ w, (f w).id = w.id) :
    p.KeepsRoster (p.modifyWorkers ks f) :=
  ⟨rfl, roster_map p fun w => by split <;> simp [hf], rfl⟩

theorem KeepsRoster.hand (p : Pool) (k : Nat) (id : TaskId) : p.KeepsRoster (p.hand k id).1 := by
  unfold Pool.hand
  split
  · exact modifyWorker p k fun _ => rfl
  · exact ⟨rfl, rfl, rfl⟩

theorem KeepsRoster.takeTask (p : Pool) (k : Nat) : p.KeepsRoster (p.takeTask k).1 := by
  unfold Pool.takeTask
  split
  · exact modifyWorker p k fun _ => rfl
  · exact ⟨rfl, rfl, rfl⟩

theorem KeepsRoster.releaseUnused (p : Pool) (k : Nat) : p.KeepsRoster (p.releaseUnused k) := by
  have h := modifyWorker p k (f := Worker.wake) fun _ => rfl
  unfold Pool.releaseUnused
  dsimp only
  split <;> exact ⟨h.size_eq, h.roster_eq, h.stopping_eq⟩

/-- The size of a pool counts its workers and `promised` places more, and no worker twice. -/
structure Sized (p : Pool) (promised : Nat) : Prop where
  size_eq : p.size = p.roster.length + promised
  roster_nodup : p.roster.Nodup

namespace Sized

variable {p q : Pool} {n : Nat}

theorem of_keepsRoster (h : p.Sized n) (hkeeps : p.KeepsRoster q) : q.Sized n where
  size_eq := by rw [hkeeps.size_eq, hkeeps.roster_eq, h.size_eq]
  roster_nodup := by rw [hkeeps.roster_eq]; exact h.roster_nodup

/-- There is a place to give back for everybody who leaves. -/
theorem removalFault?_eq_none (h : p.Sized n) (k : Nat) : p.removalFault? k = none := by
  unfold removalFault?
  split
  · next hfault =>
    simp only [Bool.and_eq_true, beq_iff_eq] at hfault
    have hpos := List.length_pos_of_mem (isRegistered_iff_mem_roster.1 hfault.1)
    have hsize := h.size_eq
    omega
  · rfl

theorem idle_removeWorker (h : p.Sized n) (k : Nat) : (p.removeWorker k).idle = p.idle.filter (· ≠ k) := by
  simp only [removeWorker, h.removalFault?_eq_none, Option.isSome_none, Bool.false_eq_true, ↓reduceIte]

theorem register (h : p.Sized (n + 1)) (hfresh : p.isRegistered p.nextId = false) : p.register.1.Sized n where
  size_eq := by
    have hsize := h.size_eq
    rw [roster_register, List.length_append]
    show p.size = _
    simp only [List.length_singleton]
    omega
  roster_nodup := by
    rw [roster_register]
    have hnotin : p.nextId ∉ p.roster := by
      rw [← isRegistered_iff_mem_roster, hfresh]
      exact Bool.false_ne_true
    simpa [List.nodup_append] using ⟨h.roster_nodup, fun k hk hk' => hnotin (hk' ▸ hk)⟩

theorem removeWorker (h : p.Sized n) (k : Nat) : (p.removeWorker k).Sized n where
  size_eq := by
    have hsize := h.size_eq
    rw [roster_removeWorker, ← h.roster_nodup.erase_eq_filter k, List.length_erase]
    by_cases hk : p.isRegistered k = true
    · have hmem := isRegistered_iff_mem_roster.1 hk
      have hpos := List.length_pos_of_mem hmem
      simp only [Pool.removeWorker, hk, ↓reduceIte, if_pos hmem]
      omega
    · have hmem := mt isRegistered_iff_mem_roster.2 hk
      simp only [Pool.removeWorker, hk, ↓reduceIte, if_neg hmem, hsize, Bool.false_eq_true]
  roster_nodup := by
    rw [roster_removeWorker]
    exact h.roster_nodup.filter _

end Sized

end Pool

end TaskScheduling
