import Mathlib.Data.List.Forall2
import TaskScheduling.Proofs.Backlog.Effects

/-!
# The high work of two backlogs

Two backlogs may have numbered their high tasks differently, because of the other tasks that there are, and still hold
the same high work: task for task the same but for the number, in the same order.  `Backlog.Mirrors` says so, for a
relation between the numbers; each operation on high tasks keeps it when it is carried out on both sides, and each
operation on another task when it is carried out on one.
-/

namespace TaskScheduling

/-- A task without its number. -/
def Task.unnumbered (t : Task) : Task := { t with id := ⟨0⟩ }

namespace Backlog

variable {R : TaskId → TaskId → Prop} {b b' c : Backlog} {i j : TaskId} {now : Nat}

/-- Related tasks differ in nothing but their numbers, and the high queues hold related tasks. -/
structure Mirrors (R : TaskId → TaskId → Prop) (b c : Backlog) : Prop where
  biUnique : Relator.BiUnique R
  task_eq {i j : TaskId} : R i j → (b.task i).unnumbered = (c.task j).unnumbered
  queue (kind : QueueKind) : List.Forall₂ R (b.queue ⟨.high, kind⟩) (c.queue ⟨.high, kind⟩)

theorem forall₂_erase (hR : Relator.BiUnique R) (hij : R i j) {xs ys : List TaskId} (h : List.Forall₂ R xs ys) :
    List.Forall₂ R (xs.erase i) (ys.erase j) := by
  induction h with
  | nil => exact .nil
  | @cons x y xs ys hxy hrest ih =>
    by_cases hx : x = i
    · have hy : y = j := hR.2 hxy (hx ▸ hij)
      rw [hx, hy, List.erase_cons_head, List.erase_cons_head]
      exact hrest
    · have hy : y ≠ j := fun hy => hx (hR.1 hxy (hy ▸ hij))
      rw [List.erase_cons_tail (by simpa using hx), List.erase_cons_tail (by simpa using hy)]
      exact .cons hxy ih

theorem rel_head? {xs ys : List TaskId} (h : List.Forall₂ R xs ys) : Option.Rel R xs.head? ys.head? := by
  cases h with
  | nil => exact .none
  | cons hxy _ => exact .some hxy

theorem forall₂_insertByRunAt {tasks tasks' : Table} (hij : R i j) {t : Nat} {xs ys : List TaskId}
    (hruns : ∀ x y, R x y → (tasks.get x).runAt = (tasks'.get y).runAt) (h : List.Forall₂ R xs ys) :
    List.Forall₂ R (QueueSet.insertByRunAt tasks t i xs) (QueueSet.insertByRunAt tasks' t j ys) := by
  induction h with
  | nil => exact .cons hij .nil
  | @cons x y xs ys hxy hrest ih =>
    simp only [QueueSet.insertByRunAt, hruns x y hxy]
    split
    · exact .cons hxy ih
    · exact .cons hij (.cons hxy hrest)

/-- A task that has just been cancelled leaves its queue. -/
theorem Tidy.remove_transition (h : b.Tidy none) (hs : (b.task i).state = .pending) :
    ((b.transition i .pending .cancelled).1.remove i).1 =
      (b.transition i .pending .cancelled).1.unlink i (b.task i).home := by
  have hslot : ((b.transition i .pending .cancelled).1.task i).slot = some (b.task i).home := by
    rw [slot_transition]
    exact h.slot_eq_some hs
  have hmem : i ∈ (b.transition i .pending .cancelled).1.queue (b.task i).home := by
    rw [queue_transition, h.mem_queue_iff]
    exact h.slot_eq_some hs
  rw [remove_eq_unlink hslot hmem]

/-- A clearance of everything cancels what is pending, and nothing else. -/
theorem Tidy.task_clear_everything (h : b.Tidy none) (i : TaskId) :
    (b.clear .everything).1.task i =
      if (b.task i).state = .pending then { b.task i with slot := none, state := .cancelled } else b.task i := by
  have hdrain : i ∈ (b.drain .everything).1 ↔ (b.task i).state = .pending := by
    rw [h.toKept.mem_drain_iff, h.isSome_slot_iff i]
    simp [Scope.takes]
  have hclear : i ∈ (b.clear .everything).2 ↔ (b.task i).state = .pending := by
    rw [mem_clear_iff h]
    simp [Scope.takes]
  rw [drain] at hdrain
  by_cases hs : (b.task i).state = .pending
  · rw [task_clear, if_pos (hclear.2 hs), drain, task_takeOutAll, if_pos (hdrain.2 hs), if_pos hs]
  · rw [task_clear, if_neg (mt hclear.1 hs), drain, task_takeOutAll, if_neg (mt hdrain.1 hs), if_neg hs]

namespace Mirrors

protected theorem symm (h : Mirrors R b c) : Mirrors (fun j i => R i j) c b where
  biUnique := ⟨fun _ _ _ hx hy => h.biUnique.2 hx hy, fun _ _ _ hx hy => h.biUnique.1 hx hy⟩
  task_eq hij := (h.task_eq hij).symm
  queue kind := (h.queue kind).flip

/-- What is done to other tasks does not matter. -/
theorem of_same (h : Mirrors R b c) (htask : ∀ i j, R i j → b'.task i = b.task i)
    (hqueue : ∀ kind, b'.queue ⟨.high, kind⟩ = b.queue ⟨.high, kind⟩) : Mirrors R b' c where
  biUnique := h.biUnique
  task_eq {i j} hij := by rw [htask i j hij]; exact h.task_eq hij
  queue kind := by rw [hqueue]; exact h.queue kind

theorem eq_iff (h : Mirrors R b c) {i' j' : TaskId} (hij : R i j) (hij' : R i' j') : i' = i ↔ j' = j := by
  constructor
  · rintro rfl
    exact h.biUnique.2 hij' hij
  · rintro rfl
    exact h.biUnique.1 hij' hij

theorem state_eq (h : Mirrors R b c) (hij : R i j) : (b.task i).state = (c.task j).state :=
  (congrArg Task.state (h.task_eq hij) :)

theorem runAt_eq (h : Mirrors R b c) (hij : R i j) : (b.task i).runAt = (c.task j).runAt :=
  (congrArg Task.runAt (h.task_eq hij) :)

theorem home_eq (h : Mirrors R b c) (hij : R i j) : (b.task i).home = (c.task j).home :=
  (congrArg Task.home (h.task_eq hij) :)

theorem isRecurring_eq (h : Mirrors R b c) (hij : R i j) : (b.task i).isRecurring = (c.task j).isRecurring :=
  (congrArg Task.isRecurring (h.task_eq hij) :)

/-! ### Single changes -/

/-- A change to two related tasks that does not depend on their numbers. -/
theorem modify (h : Mirrors R b c) (hij : R i j) {f : Task → Task}
    (hf : ∀ t, (f t).unnumbered = (f t.unnumbered).unnumbered) :
    Mirrors R (b.modify i f) (c.modify j f) where
  biUnique := h.biUnique
  task_eq {i' j'} hij' := by
    rw [task_modify, task_modify]
    by_cases hi : i' = i
    · rw [if_pos hi, if_pos ((h.eq_iff hij hij').1 hi), hf, h.task_eq hij', ← hf]
    · rw [if_neg hi, if_neg fun hj => hi ((h.eq_iff hij hij').2 hj)]
      exact h.task_eq hij'
  queue kind := by
    rw [queue_modify, queue_modify]
    exact h.queue kind

theorem transition (h : Mirrors R b c) (hij : R i j) (source target : TaskState) :
    Mirrors R (b.transition i source target).1 (c.transition j source target).1 where
  biUnique := h.biUnique
  task_eq {i' j'} hij' := by
    have hsame := h.task_eq hij'
    rw [task_transition_eq, task_transition_eq, h.state_eq hij]
    simp only [h.eq_iff hij hij']
    split
    · exact congrArg (fun t : Task => { t with state := target }) hsame
    · exact hsame
  queue kind := by
    rw [queue_transition, queue_transition]
    exact h.queue kind

theorem unlink (h : Mirrors R b c) (hij : R i j) (slot : QueueSlot) :
    Mirrors R (b.unlink i slot) (c.unlink j slot) where
  biUnique := h.biUnique
  task_eq {i' j'} hij' := by
    have hsame := h.task_eq hij'
    rw [task_unlink, task_unlink]
    simp only [h.eq_iff hij hij']
    split
    · exact congrArg (fun t : Task => { t with slot := none }) hsame
    · exact hsame
  queue kind := by
    rw [queue_unlink, queue_unlink]
    split
    · exact forall₂_erase h.biUnique hij (h.queue kind)
    · exact h.queue kind

theorem place (h : Mirrors R b c) (hij : R i j) (hb : b.Kept) (hc : c.Kept) : Mirrors R (b.place i) (c.place j) where
  biUnique := h.biUnique
  task_eq {i' j'} hij' := by
    have hsame := h.task_eq hij'
    rw [task_place, task_place, h.home_eq hij]
    simp only [h.eq_iff hij hij']
    split
    · exact congrArg (fun t : Task => { t with slot := some (c.task j).home }) hsame
    · exact hsame
  queue kind := by
    by_cases hslot : (⟨.high, kind⟩ : QueueSlot) = (b.task i).home
    · have hslot' := hslot.trans (h.home_eq hij)
      have hqueue := h.queue kind
      have himmediate : (b.task i).immediate = (c.task j).immediate :=
        (congrArg Task.immediate (h.task_eq hij) :)
      rw [hslot] at hqueue ⊢
      cases hi : (b.task i).immediate with
      | true =>
        rw [queue_place_of_immediate hi]
        rw [h.home_eq hij] at hqueue ⊢
        rw [queue_place_of_immediate (himmediate ▸ hi)]
        exact List.rel_append hqueue (.cons hij .nil)
      | false =>
        rw [queue_place_of_not_immediate hi (hb.in_order _)]
        rw [h.home_eq hij] at hqueue ⊢
        rw [queue_place_of_not_immediate (himmediate ▸ hi) (hc.in_order _), h.runAt_eq hij]
        exact forall₂_insertByRunAt hij (fun x y hxy => h.runAt_eq hxy) hqueue
    · rw [queue_place_of_ne b i hslot, queue_place_of_ne c j (h.home_eq hij ▸ hslot)]
      exact h.queue kind

/-! ### Operations -/

theorem launch (h : Mirrors R b c) (hij : R i j) : Mirrors R (b.launch i) (c.launch j) := by
  rw [Backlog.launch, Backlog.launch, h.home_eq hij]
  exact ((h.unlink hij _).transition hij .pending .executing).modify hij fun _ => rfl

theorem replan (h : Mirrors R b c) (hij : R i j) (completedAt : Nat) :
    Mirrors R (b.replan i completedAt) (c.replan j completedAt) := h.modify hij fun _ => rfl

theorem requeue (h : Mirrors R b c) (hij : R i j) (hb : b.Tidy none) (hc : c.Tidy none)
    (hs : (b.task i).state = .executing) (completedAt : Nat) :
    Mirrors R (b.requeue i completedAt) (c.requeue j completedAt) := by
  have hs' : (c.task j).state = .executing := (h.state_eq hij).symm.trans hs
  have hkept {b : Backlog} {i : TaskId} (hb : b.Tidy none) (hs : (b.task i).state = .executing) :
      ((b.replan i completedAt).transition i .executing .pending).1.Kept :=
    (hb.replan (by simp [hs]) (hb.index_lt (by simp [hs])) completedAt).toKept.transition_of_ne i .pending (by decide)
  exact ((h.replan hij completedAt).transition hij .executing .pending).place hij (hkept hb hs) (hkept hc hs')

theorem complete (h : Mirrors R b c) (hij : R i j) (hb : b.Tidy none) (hc : c.Tidy none)
    (hstate : (b.task i).state ≠ .pending) (completedAt : Nat) :
    Mirrors R (b.complete i completedAt).1 (c.complete j completedAt).1 := by
  have hstate' : (c.task j).state ≠ .pending := h.state_eq hij ▸ hstate
  rcases complete_cases (hb.slot_eq_none hstate) completedAt with ⟨hr, hx⟩ | ⟨hr, hs, hx⟩ | ⟨hr, hs, hx⟩ <;>
    rw [h.isRecurring_eq hij] at hr <;> rw [hx]
  · rw [complete_once hr]
    exact h.transition hij .executing .done
  · rw [complete_of_executing hr ((h.state_eq hij).symm.trans hs) (hc.slot_eq_none hstate')]
    exact h.requeue hij hb hc hs completedAt
  · rw [complete_of_not_executing hr (h.state_eq hij ▸ hs)]
    exact h.replan hij completedAt

theorem cancel (h : Mirrors R b c) (hij : R i j) (hb : b.Tidy none) (hc : c.Tidy none) :
    Mirrors R (b.cancel i).1 (c.cancel j).1 := by
  have hs' := (h.state_eq hij).symm
  cases hs : (b.task i).state with
  | pending =>
    have hcancelled := h.transition hij .pending .cancelled
    rw [cancel_of_pending hs, cancel_of_pending (hs'.trans hs), hb.remove_transition hs,
      hc.remove_transition (hs'.trans hs), h.home_eq hij]
    exact hcancelled.unlink hij _
  | executing =>
    cases hr : (b.task i).isRecurring with
    | true =>
      rw [cancel_of_executing_recurring hs hr,
        cancel_of_executing_recurring (hs'.trans hs) ((h.isRecurring_eq hij).symm.trans hr)]
      exact h.transition hij .executing .cancelled
    | false =>
      rw [cancel_of_executing_once hs hr,
        cancel_of_executing_once (hs'.trans hs) ((h.isRecurring_eq hij).symm.trans hr)]
      exact h
  | done => rw [cancel_of_settled (.inl hs), cancel_of_settled (.inl (hs'.trans hs))]; exact h
  | cancelled => rw [cancel_of_settled (.inr hs), cancel_of_settled (.inr (hs'.trans hs))]; exact h

theorem clear (h : Mirrors R b c) (hb : b.Tidy none) (hc : c.Tidy none) :
    Mirrors R (b.clear .everything).1 (c.clear .everything).1 where
  biUnique := h.biUnique
  task_eq {i j} hij := by
    rw [hb.task_clear_everything, hc.task_clear_everything, h.state_eq hij]
    split
    · exact congrArg (fun t : Task => { t with slot := none, state := .cancelled }) (h.task_eq hij)
    · exact h.task_eq hij
  queue kind := by
    have hnil {b : Backlog} (hb : b.Tidy none) : (b.clear .everything).1.queue ⟨.high, kind⟩ = [] := by
      rw [queue_clear hb]
      exact List.filter_eq_nil_iff.2 fun _ _ => by simp [Scope.takes]
    rw [hnil hb, hnil hc]
    exact .nil

theorem enlist (h : Mirrors R b c) (hb : b.Kept) (hc : c.Kept)
    (hfresh : ∀ i j, R i j → i ≠ ⟨b.nextId⟩ ∧ j ≠ ⟨c.nextId⟩) (t : Nat) (r : Request) (defaultPriority : Priority) :
    Mirrors (fun i j => R i j ∨ i = ⟨b.nextId⟩ ∧ j = ⟨c.nextId⟩) (b.enlist t r defaultPriority)
      (c.enlist t r defaultPriority) := by
  have henroll : Mirrors (fun i j => R i j ∨ i = ⟨b.nextId⟩ ∧ j = ⟨c.nextId⟩) (b.enroll t r defaultPriority)
      (c.enroll t r defaultPriority) := by
    refine ⟨⟨?_, ?_⟩, ?_, fun kind => ?_⟩
    · rintro x z y (hx | ⟨rfl, rfl⟩) (hz | ⟨rfl, hy⟩)
      · exact h.biUnique.1 hx hz
      · exact absurd hy (hfresh x y hx).2
      · exact absurd rfl (hfresh z _ hz).2
      · rfl
    · rintro x y z (hy | ⟨rfl, rfl⟩) (hz | ⟨hx, rfl⟩)
      · exact h.biUnique.2 hy hz
      · exact absurd hx (hfresh x y hy).1
      · exact absurd rfl (hfresh _ z hz).1
      · rfl
    · rintro x y (hxy | ⟨rfl, rfl⟩)
      · rw [Accounted.task_enroll, Accounted.task_enroll, if_neg (hfresh x y hxy).1, if_neg (hfresh x y hxy).2]
        exact h.task_eq hxy
      · rw [Accounted.task_enroll, Accounted.task_enroll, if_pos rfl, if_pos rfl]
        rfl
    · rw [Accounted.queue_enroll, Accounted.queue_enroll]
      exact (h.queue kind).imp fun _ _ hxy => .inl hxy
  exact henroll.place (.inr ⟨rfl, rfl⟩) (Accounted.kept_enroll hb t r defaultPriority)
    (Accounted.kept_enroll hc t r defaultPriority)

/-- The same high task is due, or none. -/
theorem peekDue (h : Mirrors R b c) (now : Nat) :
    Option.Rel R (b.high.peekDue b.tasks now) (c.high.peekDue c.tasks now) := by
  have hruns {i j : TaskId} (hij : R i j) : (b.tasks.get i).runAt = (c.tasks.get j).runAt := h.runAt_eq hij
  have hready : Option.Rel R b.high.ready.head? c.high.ready.head? := rel_head? (h.queue .ready)
  have hfuture : Option.Rel R b.high.future.head? c.high.future.head? := rel_head? (h.queue .future)
  have hdue : Option.Rel R (b.high.dueHead b.tasks now) (c.high.dueHead c.tasks now) := by
    unfold QueueSet.dueHead
    generalize b.high.future.head? = x, c.high.future.head? = y at hfuture
    cases hfuture with
    | none => exact .none
    | some hij =>
      simp only [Option.filter, hruns hij]
      split
      · exact .some hij
      · exact .none
  unfold QueueSet.peekDue
  generalize b.high.ready.head? = x, c.high.ready.head? = y at hready
  generalize b.high.dueHead b.tasks now = x', c.high.dueHead c.tasks now = y' at hdue
  cases hready with
  | none => exact hdue
  | some hij =>
    cases hdue with
    | none => exact .some hij
    | some hij' =>
      simp only [hruns hij, hruns hij']
      split
      · exact .some hij'
      · exact .some hij

end Mirrors

/-! ### Other tasks -/

/-- From `b` to `b'` nothing has happened but to one task and to the queue in which it belongs. -/
structure Minds (b : Backlog) (id : TaskId) (b' : Backlog) : Prop where
  task_eq (i : TaskId) : i ≠ id → b'.task i = b.task i
  queue_eq (slot : QueueSlot) : slot ≠ (b.task id).home → b'.queue slot = b.queue slot

namespace Minds

variable {id : TaskId}

theorem refl (b : Backlog) (id : TaskId) : b.Minds id b := ⟨fun _ _ => rfl, fun _ _ => rfl⟩

theorem transition (b : Backlog) (id : TaskId) (source target : TaskState) :
    b.Minds id (b.transition id source target).1 where
  task_eq i hi := by rw [task_transition_eq, if_neg fun h => hi h.1]
  queue_eq slot _ := queue_transition b id source target slot

theorem launch (hstate : (b.task id).state = .pending) : b.Minds id (b.launch id) where
  task_eq i hi := by rw [Accounted.task_launch hstate, if_neg hi]
  queue_eq slot hslot := by rw [queue_launch, if_neg hslot]

theorem complete (hslot : (b.task id).slot = none) (completedAt : Nat) : b.Minds id (b.complete id completedAt).1 where
  task_eq i hi := task_complete_of_ne hslot hi completedAt
  queue_eq slot hne := by
    rcases complete_cases hslot completedAt with ⟨-, hc⟩ | ⟨-, -, hc⟩ | ⟨-, -, hc⟩ <;> rw [hc]
    · rw [queue_transition]
    · have hhome :
          (((b.replan id completedAt).transition id .executing .pending).1.task id).home = (b.task id).home := by
        rw [Task.home_eq_of_identity (identity_transition ..), task_replan]
        rfl
      rw [requeue, queue_place_of_ne _ id (hhome ▸ hne), queue_transition, Backlog.replan, queue_modify]
    · rw [Backlog.replan, queue_modify]

theorem cancel (h : b.Tidy none) (id : TaskId) : b.Minds id (b.cancel id).1 := by
  cases hs : (b.task id).state with
  | pending =>
    rw [cancel_of_pending hs, h.remove_transition hs]
    refine ⟨fun i hi => ?_, fun slot hslot => ?_⟩
    · rw [task_unlink, if_neg hi, task_transition_eq, if_neg fun h => hi h.1]
    · rw [queue_unlink, if_neg hslot, queue_transition]
  | executing =>
    cases hr : (b.task id).isRecurring with
    | true => rw [cancel_of_executing_recurring hs hr]; exact transition b id .executing .cancelled
    | false => rw [cancel_of_executing_once hs hr]; exact refl b id
  | done => rw [cancel_of_settled (.inl hs)]; exact refl b id
  | cancelled => rw [cancel_of_settled (.inr hs)]; exact refl b id

end Minds

/-- Neither does a task matter that is not high. -/
theorem Mirrors.of_minds (h : Mirrors R b c) {id : TaskId} (hminds : b.Minds id b') (hid : ∀ i j, R i j → i ≠ id)
    (hp : (b.task id).priority ≠ .high) : Mirrors R b' c :=
  h.of_same (fun i j hij => hminds.task_eq i (hid i j hij)) fun _ =>
    hminds.queue_eq _ fun hslot => hp (congrArg QueueSlot.priority hslot).symm

theorem Mirrors.of_enlist (h : Mirrors R b c) (hfresh : ∀ i j, R i j → i ≠ ⟨b.nextId⟩) (t : Nat) {r : Request}
    {defaultPriority : Priority} (hp : r.options.priority.getD defaultPriority ≠ .high) :
    Mirrors R (b.enlist t r defaultPriority) c := by
  refine h.of_same (fun i j hij => ?_) fun kind => ?_
  · rw [Accounted.task_enlist, if_neg (hfresh i j hij)]
  · have htask : (b.enroll t r defaultPriority).task ⟨b.nextId⟩ = r.task defaultPriority ⟨b.nextId⟩ t := by
      rw [Accounted.task_enroll, if_pos rfl]
    have hslot : (⟨.high, kind⟩ : QueueSlot) ≠ ((b.enroll t r defaultPriority).task ⟨b.nextId⟩).home := by
      rw [htask]
      exact fun hslot => hp (congrArg QueueSlot.priority hslot).symm
    rw [Backlog.enlist, queue_place_of_ne _ _ hslot, Accounted.queue_enroll]

end Backlog

end TaskScheduling
