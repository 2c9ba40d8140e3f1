import Mathlib.Data.Set.Card
import TaskScheduling.Dispatch.Scheduler
import TaskScheduling.Proofs.Backlog.Effects

/-!
# What a scheduler counts

A `Ledger` is the backlog of a scheduler with its counters, and with what they count: the tasks that have been
accepted, the runs that have ended, and the workers that are in the middle of one.  `Ledger.Step` is what may happen at
once: a task is accepted, tasks are cancelled, a task goes on to its next state, a run begins, or one ends.

Main statement: counters that are exact remain so (`Ledger.Exact.run`).
-/

namespace TaskScheduling

structure Ledger where
  backlog : Backlog
  stats : Stats
  /-- The tasks that have been accepted, the last one first. -/
  accepted : List TaskId
  /-- The runs that have ended, the last one first, and whether each did with a panic. -/
  ended : List (TaskId × Bool)
  /-- The workers that are in the middle of a run. -/
  inProgress : Set Nat

/-- What a task may come to without being cancelled. -/
inductive Task.GoesOn (t : Task) : TaskState → Prop where
  | stay : GoesOn t t.state
  | claim : t.state = .pending → GoesOn t .executing
  | return : t.state = .executing → t.isRecurring = true → GoesOn t .pending
  | finish : t.state = .executing → t.isRecurring = false → t.runs = 1 → GoesOn t .done

theorem Task.GoesOn.cancelled_iff {t : Task} {state : TaskState} (h : t.GoesOn state) :
    state = .cancelled ↔ t.state = .cancelled := by
  cases h with
  | stay => exact .rfl
  | _ => simp [*]

namespace Ledger

inductive Step (l : Ledger) : Ledger → Prop where
  | accept (b : Backlog) (recurring : Bool) : l.backlog.nextId < b.nextId →
      l.backlog.Brings b ⟨l.backlog.nextId⟩ (recurring, .pending, 0) →
      Step l { l with
        backlog := b
        stats := { l.stats with submitted := l.stats.submitted + 1 }
        accepted := ⟨l.backlog.nextId⟩ :: l.accepted }
  | cancel (b : Backlog) (ids : List TaskId) : l.backlog.Cancels b ids →
      Step l { l with backlog := b, stats := { l.stats with cancelled := l.stats.cancelled + ids.length } }
  | goOn (b : Backlog) (id : TaskId) (state : TaskState) : (l.backlog.task id).GoesOn state →
      l.backlog.Brings b id ((l.backlog.task id).isRecurring, state, (l.backlog.task id).runs) →
      Step l { l with backlog := b }
  | begin (b : Backlog) (k : Nat) (id : TaskId) : k ∉ l.inProgress →
      ((l.backlog.task id).state = .executing ∨
        (l.backlog.task id).state = .cancelled ∧ (l.backlog.task id).isRecurring = true) →
      l.backlog.Brings b id
        ((l.backlog.task id).isRecurring, (l.backlog.task id).state, (l.backlog.task id).runs + 1) →
      Step l { l with backlog := b, inProgress := insert k l.inProgress }
  | finish (k : Nat) (id : TaskId) (panicked : Bool) : k ∈ l.inProgress →
      Step l { l with
        stats := { l.stats with
          executed := l.stats.executed + 1
          failed := l.stats.failed + panicked.toNat }
        ended := (id, panicked) :: l.ended
        inProgress := l.inProgress \ {k} }

/-- Whether the counters are right, and what that relies on. -/
structure Exact (l : Ledger) : Prop where
  accepted_nodup : l.accepted.Nodup
  index_lt (id : TaskId) : id ∈ l.accepted → id.index < l.backlog.nextId
  /-- Tasks that were not accepted are as if they had never been there. -/
  status_eq (id : TaskId) : id ∉ l.accepted → (l.backlog.task id).status = (false, .cancelled, 0)
  once_of_done (id : TaskId) : (l.backlog.task id).state = .done →
    (l.backlog.task id).isRecurring = false ∧ (l.backlog.task id).runs = 1
  submitted_eq : l.stats.submitted = l.accepted.length
  cancelled_eq : l.stats.cancelled = l.accepted.countP fun id => (l.backlog.task id).state = .cancelled
  executed_eq : l.stats.executed = l.ended.length
  failed_eq : l.stats.failed = l.ended.countP (·.2)
  finite : l.inProgress.Finite
  runs_eq : l.stats.executed + l.inProgress.ncard = (l.accepted.map fun id => (l.backlog.task id).runs).sum

/-- A sum in which one summand has changed. -/
private theorem sum_map_of_ne {ids : List TaskId} (hnodup : ids.Nodup) {id : TaskId} (hmem : id ∈ ids)
    {f g : TaskId → Nat} (hother : ∀ j, j ≠ id → g j = f j) : (ids.map g).sum + f id = (ids.map f).sum + g id := by
  have hperm := List.perm_cons_erase hmem
  have hrest : (ids.erase id).map g = (ids.erase id).map f :=
    List.map_congr_left fun j hj => hother j (hnodup.mem_erase_iff.1 hj).1
  rw [(hperm.map g).sum_eq, (hperm.map f).sum_eq, List.map_cons, List.map_cons, List.sum_cons, List.sum_cons, hrest]
  omega

namespace Exact

variable {l l' : Ledger} {id : TaskId}

/-- The ledger of a new scheduler. -/
protected theorem empty : Exact ⟨.empty, .zero, [], [], ∅⟩ where
  accepted_nodup := .nil
  index_lt id hid := by cases hid
  status_eq id _ := congrArg Task.status (Table.get_empty id)
  once_of_done id hid := by
    rw [show Backlog.empty.task id = .absent from Table.get_empty id] at hid
    cases hid
  submitted_eq := rfl
  cancelled_eq := rfl
  executed_eq := rfl
  failed_eq := rfl
  finite := Set.finite_empty
  runs_eq := congrArg (0 + ·) (Set.ncard_empty Nat)

theorem mem_accepted (h : l.Exact) (hstatus : (l.backlog.task id).state ≠ .cancelled ∨
    (l.backlog.task id).isRecurring = true) : id ∈ l.accepted := by
  by_contra hnot
  obtain ⟨hr, hs, -⟩ := Task.status_eq_iff.1 (h.status_eq id hnot)
  rcases hstatus with hstate | hrecurring
  · exact hstate hs
  · rw [hr] at hrecurring
    cases hrecurring

/-- A number that was not drawn yet has not been given to a task. -/
theorem not_mem_accepted (h : l.Exact) : ⟨l.backlog.nextId⟩ ∉ l.accepted :=
  fun hmem => Nat.lt_irrefl _ (h.index_lt _ hmem)

private theorem accept (h : l.Exact) {b : Backlog} {recurring : Bool} (hnext : l.backlog.nextId < b.nextId)
    (hbrings : l.backlog.Brings b ⟨l.backlog.nextId⟩ (recurring, .pending, 0)) :
    Exact { l with
      backlog := b
      stats := { l.stats with submitted := l.stats.submitted + 1 }
      accepted := ⟨l.backlog.nextId⟩ :: l.accepted } := by
  have hnew := Task.status_eq_iff.1 ((hbrings.status_eq _).trans (if_pos rfl))
  have hold {j : TaskId} (hj : j ≠ ⟨l.backlog.nextId⟩) : (b.task j).status = (l.backlog.task j).status :=
    (hbrings.status_eq j).trans (if_neg hj)
  have hne {j : TaskId} (hj : j ∈ l.accepted) : j ≠ ⟨l.backlog.nextId⟩ := fun hid => h.not_mem_accepted (hid ▸ hj)
  have hstate {j : TaskId} (hj : j ∈ l.accepted) := (Task.status_eq_iff.1 (hold (hne hj))).2
  refine { h with
    accepted_nodup := List.nodup_cons.2 ⟨h.not_mem_accepted, h.accepted_nodup⟩
    index_lt := fun id hid => ?_
    status_eq := fun id hid => ?_
    once_of_done := fun id hid => ?_
    submitted_eq := congrArg (· + 1) h.submitted_eq
    cancelled_eq := ?_
    runs_eq := ?_ }
  · rcases List.mem_cons.1 hid with rfl | hid
    · exact hnext
    · exact (h.index_lt id hid).trans hnext
  · rw [List.mem_cons, not_or] at hid
    rw [hold hid.1]
    exact h.status_eq id hid.2
  · have hid' : id ≠ ⟨l.backlog.nextId⟩ := by
      rintro rfl
      rw [hnew.2.1] at hid
      cases hid
    obtain ⟨hr, hs, hruns⟩ := Task.status_eq_iff.1 (hold hid')
    rw [hr, hruns]
    exact h.once_of_done id (hs ▸ hid)
  · rw [List.countP_cons_of_neg (by simp [hnew.2.1])]
    refine h.cancelled_eq.trans (List.countP_congr fun j hj => ?_)
    rw [(hstate hj).1]
  · rw [List.map_cons, List.sum_cons, hnew.2.2, Nat.zero_add]
    exact h.runs_eq.trans (congrArg List.sum (List.map_congr_left fun j hj => (hstate hj).2.symm))

private theorem cancel (h : l.Exact) {b : Backlog} {ids : List TaskId} (hcancels : l.backlog.Cancels b ids) :
    Exact { l with backlog := b, stats := { l.stats with cancelled := l.stats.cancelled + ids.length } } := by
  have hrecurring (id : TaskId) : (b.task id).isRecurring = (l.backlog.task id).isRecurring :=
    Task.isRecurring_eq_of_identity (hcancels.thins.identity_eq id)
  have hne {id : TaskId} (hid : id ∈ ids) : (l.backlog.task id).state ≠ .cancelled := by
    rcases hcancels.canCancel id hid with hs | ⟨hs, -⟩ <;> simp [hs]
  have hmem {id : TaskId} (hid : id ∈ ids) : id ∈ l.accepted := h.mem_accepted (.inl (hne hid))
  have hperm : (l.accepted.filter fun id => (b.task id).state = .cancelled).Perm
      ((l.accepted.filter fun id => (l.backlog.task id).state = .cancelled) ++ ids) := by
    refine (List.perm_ext_iff_of_nodup (h.accepted_nodup.filter _) ?_).2 fun id => ?_
    · refine (h.accepted_nodup.filter _).append hcancels.nodup fun id hid hid' => hne hid' ?_
      simpa using (List.mem_filter.1 hid).2
    · simp only [List.mem_filter, List.mem_append, decide_eq_true_eq, hcancels.state_eq]
      by_cases hid : id ∈ ids <;> simp [hid, hmem]
  refine { h with
    index_lt := fun id hid => ?_
    status_eq := fun id hid => ?_
    once_of_done := fun id hid => ?_
    cancelled_eq := ?_
    runs_eq := ?_ }
  · rw [hcancels.thins.nextId_eq]
    exact h.index_lt id hid
  · have hstatus := Task.status_eq_iff.1 (h.status_eq id hid)
    refine Task.status_eq_iff.2 ⟨(hrecurring id).trans hstatus.1, ?_, (hcancels.runs_eq id).trans hstatus.2.2⟩
    rw [hcancels.state_eq, if_neg fun hid' => hid (hmem hid')]
    exact hstatus.2.1
  · have hid' : (l.backlog.task id).state = .done := by
      rw [hcancels.state_eq] at hid
      split at hid
      · cases hid
      · exact hid
    rw [hrecurring, hcancels.runs_eq]
    exact h.once_of_done id hid'
  · rw [List.countP_eq_length_filter, hperm.length_eq, List.length_append, ← List.countP_eq_length_filter,
      ← h.cancelled_eq]
  · refine h.runs_eq.trans (congrArg List.sum (List.map_congr_left fun j _ => ?_))
    exact (hcancels.runs_eq j).symm

/-- What the ledger relies on when a task comes to another status. -/
private theorem of_brings (h : l.Exact) {b : Backlog} {state : TaskState} {runs : Nat} {inProgress : Set Nat}
    (hbrings : l.backlog.Brings b id ((l.backlog.task id).isRecurring, state, runs))
    (hstate : state = .cancelled ↔ (l.backlog.task id).state = .cancelled)
    (hmem : id ∉ l.accepted → runs = (l.backlog.task id).runs)
    (hdone : state = .done → (l.backlog.task id).isRecurring = false ∧ runs = 1) (hfinite : inProgress.Finite)
    (hruns : l.stats.executed + inProgress.ncard = (l.accepted.map fun id => (b.task id).runs).sum) :
    Exact { l with backlog := b, inProgress := inProgress } := by
  have hself := Task.status_eq_iff.1 ((hbrings.status_eq id).trans (if_pos rfl))
  have hother {j : TaskId} (hj : j ≠ id) := Task.status_eq_iff.1 ((hbrings.status_eq j).trans (if_neg hj))
  have hcancelled (j : TaskId) : (b.task j).state = .cancelled ↔ (l.backlog.task j).state = .cancelled := by
    by_cases hj : j = id
    · rw [hj, hself.2.1, hstate]
    · rw [(hother hj).2.1]
  refine { h with
    index_lt := fun j hj => Nat.lt_of_lt_of_le (h.index_lt j hj) hbrings.nextId_le
    status_eq := fun j hj => ?_
    once_of_done := fun j hj => ?_
    cancelled_eq := ?_
    finite := hfinite
    runs_eq := hruns }
  · have hstatus := Task.status_eq_iff.1 (h.status_eq j hj)
    refine Task.status_eq_iff.2 ?_
    by_cases hid : j = id
    · subst hid
      exact ⟨hself.1.trans hstatus.1, (hcancelled j).2 hstatus.2.1, hself.2.2.trans ((hmem hj).trans hstatus.2.2)⟩
    · rw [(hother hid).1, (hother hid).2.1, (hother hid).2.2]
      exact hstatus
  · by_cases hid : j = id
    · subst hid
      rw [hself.1, hself.2.2]
      exact hdone (hself.2.1 ▸ hj)
    · rw [(hother hid).1, (hother hid).2.2]
      exact h.once_of_done j ((hother hid).2.1 ▸ hj)
  · refine h.cancelled_eq.trans (List.countP_congr fun j _ => ?_)
    simp only [decide_eq_true_eq, hcancelled j]

private theorem goOn (h : l.Exact) {b : Backlog} {state : TaskState} (hgoes : (l.backlog.task id).GoesOn state)
    (hbrings : l.backlog.Brings b id ((l.backlog.task id).isRecurring, state, (l.backlog.task id).runs)) :
    Exact { l with backlog := b } := by
  refine h.of_brings hbrings hgoes.cancelled_iff (fun _ => rfl) (fun hdone => ?_) h.finite ?_
  · cases hgoes with
    | stay => exact h.once_of_done id hdone
    | finish _ hr hruns => exact ⟨hr, hruns⟩
    | _ => cases hdone
  · refine h.runs_eq.trans (congrArg List.sum (List.map_congr_left fun j _ => ?_))
    have hstatus := hbrings.status_eq j
    split at hstatus
    · next hj =>
      subst hj
      exact (Task.status_eq_iff.1 hstatus).2.2.symm
    · exact (Task.status_eq_iff.1 hstatus).2.2.symm

private theorem begin (h : l.Exact) {b : Backlog} {k : Nat} (hk : k ∉ l.inProgress)
    (hstate : (l.backlog.task id).state = .executing ∨
      (l.backlog.task id).state = .cancelled ∧ (l.backlog.task id).isRecurring = true)
    (hbrings : l.backlog.Brings b id
      ((l.backlog.task id).isRecurring, (l.backlog.task id).state, (l.backlog.task id).runs + 1)) :
    Exact { l with backlog := b, inProgress := insert k l.inProgress } := by
  have hmem : id ∈ l.accepted := by
    refine h.mem_accepted ?_
    rcases hstate with hs | ⟨-, hr⟩
    · exact .inl (by simp [hs])
    · exact .inr hr
  have hsum := sum_map_of_ne h.accepted_nodup hmem (f := fun j => (l.backlog.task j).runs)
    (g := fun j => (b.task j).runs)
    fun j hj => (Task.status_eq_iff.1 ((hbrings.status_eq j).trans (if_neg hj))).2.2
  have hself := (Task.status_eq_iff.1 ((hbrings.status_eq id).trans (if_pos rfl))).2.2
  refine h.of_brings hbrings .rfl (fun hnot => absurd hmem hnot) (fun hdone => ?_) (h.finite.insert k) ?_
  · rcases hstate with hs | ⟨hs, -⟩ <;> rw [hs] at hdone <;> cases hdone
  · have hruns := h.runs_eq
    rw [Set.ncard_insert_of_notMem hk h.finite]
    omega

private theorem finish (h : l.Exact) {k : Nat} (hk : k ∈ l.inProgress) (id : TaskId) (panicked : Bool) :
    Exact { l with
      stats := { l.stats with
        executed := l.stats.executed + 1
        failed := l.stats.failed + panicked.toNat }
      ended := (id, panicked) :: l.ended
      inProgress := l.inProgress \ {k} } := by
  refine { h with
    executed_eq := congrArg (· + 1) h.executed_eq
    failed_eq := ?_
    finite := h.finite.sdiff
    runs_eq := ?_ }
  · rw [List.countP_cons, ← h.failed_eq]
    cases panicked <;> rfl
  · have hcard := Set.ncard_sdiff_singleton_add_one hk h.finite
    have hruns := h.runs_eq
    dsimp only
    omega

theorem step (h : l.Exact) (hstep : l.Step l') : l'.Exact := by
  cases hstep with
  | accept b recurring hnext hbrings => exact h.accept hnext hbrings
  | cancel b ids hcancels => exact h.cancel hcancels
  | goOn b id state hgoes hbrings => exact h.goOn hgoes hbrings
  | begin b k id hk hstate hbrings => exact h.begin hk hstate hbrings
  | finish k id panicked hk => exact h.finish hk id panicked

theorem run (h : l.Exact) (hrun : Relation.ReflTransGen Step l l') : l'.Exact := by
  induction hrun with
  | refl => exact h
  | tail _ hstep ih => exact ih.step hstep

/-- A cancelled task remains cancelled. -/
private theorem cancelled_step (h : l.Exact) (hstep : l.Step l') (hmem : id ∈ l.accepted)
    (hs : (l.backlog.task id).state = .cancelled) : id ∈ l'.accepted ∧ (l'.backlog.task id).state = .cancelled := by
  cases hstep with
  | accept b recurring _ hbrings =>
    have hne : id ≠ ⟨l.backlog.nextId⟩ := fun hid => h.not_mem_accepted (hid ▸ hmem)
    have hstatus := (hbrings.status_eq id).trans (if_neg hne)
    exact ⟨List.mem_cons_of_mem _ hmem, (Task.status_eq_iff.1 hstatus).2.1.trans hs⟩
  | cancel b ids hcancels =>
    refine ⟨hmem, (hcancels.state_eq id).trans ?_⟩
    split
    · rfl
    · exact hs
  | goOn b j state hgoes hbrings =>
    refine ⟨hmem, ?_⟩
    have hstatus := hbrings.status_eq id
    split at hstatus
    · next hid => exact (Task.status_eq_iff.1 hstatus).2.1.trans (hgoes.cancelled_iff.2 (hid ▸ hs))
    · exact (Task.status_eq_iff.1 hstatus).2.1.trans hs
  | begin b k j _ _ hbrings =>
    refine ⟨hmem, ?_⟩
    have hstatus := hbrings.status_eq id
    split at hstatus
    · next hid => exact (Task.status_eq_iff.1 hstatus).2.1.trans (hid ▸ hs)
    · exact (Task.status_eq_iff.1 hstatus).2.1.trans hs
  | finish k j panicked _ => exact ⟨hmem, hs⟩

theorem cancelled_run (h : l.Exact) (hrun : Relation.ReflTransGen Step l l') (hmem : id ∈ l.accepted)
    (hs : (l.backlog.task id).state = .cancelled) : id ∈ l'.accepted ∧ (l'.backlog.task id).state = .cancelled := by
  induction hrun with
  | refl => exact ⟨hmem, hs⟩
  | tail hrun hstep ih => exact (h.run hrun).cancelled_step hstep ih.1 ih.2

end Exact

end Ledger

end TaskScheduling
