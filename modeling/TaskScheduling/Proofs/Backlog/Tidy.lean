import TaskScheduling.Proofs.Backlog.Turn
import TaskScheduling.Queue.Cancellation

/-!
# Backlogs between two operations

Between operations a task is pending exactly when it is queued, `Backlog.Tidy`, with the exception of a task in hand
that has left its queue and is not claimed yet.  Each operation as a whole keeps this: a submission (`Tidy.accept`), a
cancellation (`Tidy.cancel`), a clearance (`Tidy.clear`), taking a task out and claiming it (`Tidy.unlink`,
`Tidy.begin`), and settling it after its run (`Tidy.complete`).

Cancellations and clearances do no more than take tasks away, which `Backlog.Thins` says once for both.
-/

namespace TaskScheduling.Backlog

/-! ### Taking tasks away -/

/-- From `b` to `c` tasks have been taken out of queues or cancelled, and nothing else has happened. -/
structure Thins (b c : Backlog) : Prop where
  queue_sublist (slot : QueueSlot) : (c.queue slot).Sublist (b.queue slot)
  identity_eq (id : TaskId) : (c.task id).identity = (b.task id).identity
  runAt_eq (id : TaskId) : (c.task id).runAt = (b.task id).runAt
  state_eq (id : TaskId) : (c.task id).state = (b.task id).state ∨
    (c.task id).state = .cancelled ∧
      ((b.task id).state = .pending ∨ (b.task id).state = .executing ∧ (b.task id).isRecurring = true)
  nextId_eq : c.nextId = b.nextId

namespace Thins

variable {b c d : Backlog}

theorem refl (b : Backlog) : b.Thins b :=
  ⟨fun _ => List.Sublist.refl _, fun _ => rfl, fun _ => rfl, fun _ => .inl rfl, rfl⟩

theorem trans (h : b.Thins c) (h' : c.Thins d) : b.Thins d where
  queue_sublist slot := (h'.queue_sublist slot).trans (h.queue_sublist slot)
  identity_eq id := (h'.identity_eq id).trans (h.identity_eq id)
  runAt_eq id := (h'.runAt_eq id).trans (h.runAt_eq id)
  state_eq id := by
    rcases h'.state_eq id with hcd | ⟨hd, hc⟩
    · rw [hcd]
      exact h.state_eq id
    · rcases h.state_eq id with hbc | ⟨hcc, hb⟩
      · rw [hbc, Task.isRecurring_eq_of_identity (h.identity_eq id)] at hc
        exact .inr ⟨hd, hc⟩
      · exact .inr ⟨hd, hb⟩
  nextId_eq := h'.nextId_eq.trans h.nextId_eq

theorem transition (b : Backlog) (id : TaskId) {source : TaskState}
    (hsource : (b.task id).state = source →
      source = .pending ∨ source = .executing ∧ (b.task id).isRecurring = true) :
    b.Thins (b.transition id source .cancelled).1 where
  queue_sublist slot := by simp only [queue_transition, List.Sublist.refl]
  identity_eq := identity_transition b id source .cancelled
  runAt_eq := runAt_transition b id source .cancelled
  state_eq j := by
    rw [task_transition_eq]
    split
    · next h => exact .inr ⟨rfl, by rw [h.1, h.2]; exact hsource h.2⟩
    · exact .inl rfl
  nextId_eq := nextId_transition b id source .cancelled

theorem unlink (b : Backlog) (id : TaskId) (slot : QueueSlot) : b.Thins (b.unlink id slot) where
  queue_sublist other := by
    rw [queue_unlink]
    split
    · exact List.erase_sublist
    · exact List.Sublist.refl _
  identity_eq := identity_unlink b id slot
  runAt_eq := runAt_unlink b id slot
  state_eq j := by rw [task_unlink]; split <;> exact .inl rfl
  nextId_eq := nextId_unlink b id slot

theorem takeOut (b : Backlog) (scope : Scope) (slot : QueueSlot) : b.Thins (b.takeOut scope slot).2 where
  queue_sublist other := by
    rw [queue_takeOut]
    split
    · exact List.filter_sublist
    · exact List.Sublist.refl _
  identity_eq := identity_takeOut b scope slot
  runAt_eq := runAt_takeOut b scope slot
  state_eq j := by rw [task_takeOut]; split <;> exact .inl rfl
  nextId_eq := nextId_takeOut b scope slot

theorem takeOutAll (b : Backlog) (scope : Scope) (slots : List QueueSlot) : b.Thins (b.takeOutAll scope slots).2 := by
  induction slots generalizing b with
  | nil => exact refl b
  | cons slot slots ih => exact (takeOut b scope slot).trans (ih _)

end Thins

/-! ### Bulk cancellation as a whole -/

theorem Kept.takeOutAll {b : Backlog} (h : b.Kept) (scope : Scope) (slots : List QueueSlot) :
    (b.takeOutAll scope slots).2.Kept := by
  induction slots generalizing b with
  | nil => exact h
  | cons slot slots ih => exact ih (h.takeOut scope slot)

theorem Kept.mem_takeOutAll_iff {b : Backlog} (h : b.Kept) {scope : Scope} {slots : List QueueSlot} {id : TaskId} :
    id ∈ (b.takeOutAll scope slots).1 ↔
      scope.takes (b.task id) = true ∧ ∃ slot ∈ slots, (b.task id).slot = some (scope.target slot) := by
  induction slots generalizing b with
  | nil => simp [Backlog.takeOutAll]
  | cons slot slots ih =>
    have hfirst : id ∈ (b.takeOut scope slot).1 ↔ _ := h.mem_takeOut_iff
    simp only [Backlog.takeOutAll, List.mem_append, ih (h.takeOut scope slot), List.mem_cons, exists_eq_or_imp]
    by_cases hid : id ∈ (b.takeOut scope slot).1
    · simp [hid, hfirst.1 hid]
    · rw [task_takeOut, if_neg hid]
      rw [hfirst] at hid
      simp only [not_and] at hid
      constructor
      · rintro (hmem | ⟨htakes, hrest⟩)
        · exact absurd (hfirst.1 hmem).2 (hid (hfirst.1 hmem).1)
        · exact ⟨htakes, .inr hrest⟩
      · rintro ⟨htakes, hs | hrest⟩
        · exact absurd htakes (hid hs)
        · exact .inr ⟨htakes, hrest⟩

theorem task_takeOutAll (b : Backlog) (scope : Scope) (slots : List QueueSlot) (j : TaskId) :
    (b.takeOutAll scope slots).2.task j =
      if j ∈ (b.takeOutAll scope slots).1 then { b.task j with slot := none } else b.task j := by
  induction slots generalizing b with
  | nil => rfl
  | cons slot slots ih =>
    simp only [takeOutAll, List.mem_append, ih, task_takeOut]
    by_cases hfirst : j ∈ (b.takeOut scope slot).1 <;>
      by_cases hrest : j ∈ ((b.takeOut scope slot).2.takeOutAll scope slots).1 <;> simp [hfirst, hrest]

theorem markCancelled_fst (b : Backlog) (id : TaskId) (rest : List TaskId) :
    (b.markCancelled (id :: rest)).1 = ((b.transition id .pending .cancelled).1.markCancelled rest).1 := by
  rw [markCancelled]
  rcases b.transition id .pending .cancelled with ⟨c, moved⟩
  cases moved <;> rfl

theorem task_markCancelled (b : Backlog) (ids : List TaskId) (j : TaskId) :
    (b.markCancelled ids).1.task j =
      if j ∈ ids ∧ (b.task j).state = .pending then { b.task j with state := .cancelled } else b.task j := by
  induction ids generalizing b with
  | nil => simp [markCancelled]
  | cons id rest ih =>
    rw [markCancelled_fst, ih, task_transition_eq]
    by_cases hj : j = id
    · subst hj
      by_cases hs : (b.task j).state = .pending <;> simp [hs]
    · simp [hj]

theorem Thins.markCancelled (b : Backlog) (ids : List TaskId) : b.Thins (b.markCancelled ids).1 := by
  induction ids generalizing b with
  | nil => exact refl b
  | cons id rest ih =>
    rw [markCancelled_fst]
    exact (transition b id fun _ => .inl rfl).trans (ih _)

theorem Kept.markCancelled {b : Backlog} (h : b.Kept) (ids : List TaskId) : (b.markCancelled ids).1.Kept := by
  induction ids generalizing b with
  | nil => exact h
  | cons id rest ih =>
    rw [markCancelled_fst]
    exact ih (h.transition_of_ne id .cancelled (by decide))

theorem Thins.clear (b : Backlog) (scope : Scope) : b.Thins (b.clear scope).1 :=
  (takeOutAll b scope scope.queues).trans (markCancelled _ _)

theorem Thins.remove (b : Backlog) (id : TaskId) : b.Thins (b.remove id).1 := by
  by_cases hnamed : ∃ slot, (b.task id).slot = some slot ∧ id ∈ b.queue slot
  · obtain ⟨slot, hslot, hmem⟩ := hnamed
    rw [remove_eq_unlink hslot hmem]
    exact unlink b id slot
  · rw [remove_eq_self fun slot hslot hmem => hnamed ⟨slot, hslot, hmem⟩]
    exact refl b

theorem Thins.cancel (b : Backlog) (id : TaskId) : b.Thins (b.cancel id).1 := by
  cases hs : (b.task id).state with
  | pending =>
    rw [cancel_of_pending hs]
    exact (transition b id fun _ => .inl rfl).trans (remove _ id)
  | executing =>
    cases hr : (b.task id).isRecurring with
    | true =>
      rw [cancel_of_executing_recurring hs hr]
      exact transition b id fun _ => .inr ⟨rfl, hr⟩
    | false => rw [cancel_of_executing_once hs hr]; exact refl b
  | done => rw [cancel_of_settled (.inl hs)]; exact refl b
  | cancelled => rw [cancel_of_settled (.inr hs)]; exact refl b

/-- A clearance takes all queued tasks in scope. -/
theorem Kept.mem_drain_iff {b : Backlog} (h : b.Kept) {scope : Scope} {id : TaskId} :
    id ∈ (b.drain scope).1 ↔ scope.takes (b.task id) = true ∧ (b.task id).slot.isSome = true := by
  rw [drain, h.mem_takeOutAll_iff, Option.isSome_iff_exists]
  refine and_congr_right fun htakes => ⟨fun ⟨slot, _, hs⟩ => ⟨_, hs⟩, fun ⟨slot, hs⟩ => ⟨slot, ?_⟩⟩
  obtain ⟨p, k⟩ := slot
  cases scope with
  | everything => exact ⟨by cases p <;> cases k <;> decide, hs⟩
  | recurring =>
    have hkind : k = .future := by
      have hk : k = (b.task id).queueKind := congrArg QueueSlot.kind (h.slot_eq_home id _ hs)
      cases hi : (b.task id).immediate with
      | false => rw [hk, Task.queueKind, hi]; rfl
      | true => exact absurd htakes (by simp [Scope.takes, h.isRecurring_of_immediate id hi])
    subst hkind
    exact ⟨by cases p <;> decide, hs⟩

/-! ### Pending exactly when queued -/

/-- A task is pending exactly when it notes a queue, unless it is the task in hand. -/
structure Tidy (b : Backlog) (hand : Option TaskId) : Prop extends b.Kept where
  isSome_slot_iff (id : TaskId) : (b.task id).slot.isSome = true ↔ (b.task id).state = .pending ∧ hand ≠ some id

namespace Tidy

variable {b : Backlog}

protected theorem empty : Backlog.empty.Tidy none where
  toKept := Kept.empty
  isSome_slot_iff id := by
    rw [show Backlog.empty.task id = .absent from Table.get_empty id]
    simp [Task.absent]

theorem slot_eq_none (h : b.Tidy none) {id : TaskId} (hstate : (b.task id).state ≠ .pending) :
    (b.task id).slot = none := by
  have hiff := h.isSome_slot_iff id
  simp only [hstate, false_and, iff_false, Bool.not_eq_true, Option.isSome_eq_false_iff, Option.isNone_iff_eq_none]
    at hiff
  exact hiff

/-- Whatever is in a queue is pending. -/
theorem state_of_slot {hand : Option TaskId} (h : b.Tidy hand) {id : TaskId} {slot : QueueSlot}
    (hslot : (b.task id).slot = some slot) : (b.task id).state = .pending :=
  ((h.isSome_slot_iff id).1 (Option.isSome_of_eq_some hslot)).1

theorem slot_eq_some (h : b.Tidy none) {id : TaskId} (hstate : (b.task id).state = .pending) :
    (b.task id).slot = some (b.task id).home := by
  obtain ⟨slot, hs⟩ := Option.isSome_iff_exists.1 ((h.isSome_slot_iff id).2 ⟨hstate, by simp⟩)
  rw [hs, h.slot_eq_home id slot hs]

/-- A submission: a new task is entered and queued. -/
theorem accept (h : b.Tidy none) {t : Task} {c : Backlog} (hc : c.Kept) (hsame : ∀ id, c.task id = b.task id)
    (hid : t.id.index < c.nextId) (hold : b.nextId ≤ t.id.index) (hslot : t.slot = none)
    (honce : t.immediate = true → t.isRecurring = false) (hstate : t.state = .pending) :
    ((c.enter t).place t.id).Tidy none := by
  have hfree : (c.task t.id).slot = none := by rw [hsame, h.task_eq_absent _ hold]; rfl
  have henter : (c.enter t).task t.id = t := by rw [task_enter, if_pos rfl]
  refine ⟨(hc.enter hid hslot honce hfree).place hid (by rw [henter, hslot]), fun id => ?_⟩
  rw [task_place, task_enter]
  by_cases heq : id = t.id
  · simp [heq, hstate]
  · simp only [heq, ↓reduceIte, hsame]
    exact h.isSome_slot_iff id

theorem cancel (h : b.Tidy none) (id : TaskId) : (b.cancel id).1.Tidy none := by
  cases hs : (b.task id).state with
  | pending =>
    have hslot : ((b.transition id .pending .cancelled).1.task id).slot = some (b.task id).home := by
      rw [task_transition_eq]
      split <;> exact h.slot_eq_some hs
    have hkept : (b.transition id .pending .cancelled).1.Kept := h.toKept.transition_of_ne id .cancelled (by decide)
    rw [cancel_of_pending hs, remove_eq_unlink hslot (hkept.mem_queue_iff.2 hslot)]
    refine ⟨hkept.unlink hslot, fun j => ?_⟩
    rw [task_unlink, task_transition_eq]
    by_cases hj : j = id
    · simp [hj, hs]
    · simp only [hj, false_and, ↓reduceIte]
      exact h.isSome_slot_iff j
  | executing =>
    cases hr : (b.task id).isRecurring with
    | true =>
      rw [cancel_of_executing_recurring hs hr]
      refine ⟨h.toKept.transition_of_ne id .cancelled (by decide), fun j => ?_⟩
      rw [task_transition_eq]
      by_cases hj : j = id
      · have hslot : (b.task id).slot = none := h.slot_eq_none (by simp [hs])
        simp [hj, hs, hslot]
      · simp only [hj, false_and, ↓reduceIte]
        exact h.isSome_slot_iff j
    | false => rw [cancel_of_executing_once hs hr]; exact h
  | done => rw [cancel_of_settled (.inl hs)]; exact h
  | cancelled => rw [cancel_of_settled (.inr hs)]; exact h

theorem clear (h : b.Tidy none) (scope : Scope) : (b.clear scope).1.Tidy none := by
  refine ⟨(h.toKept.takeOutAll scope scope.queues).markCancelled _, fun id => ?_⟩
  have htask : ((b.clear scope).1.task id) = ((b.drain scope).2.markCancelled (b.drain scope).1).1.task id := rfl
  rw [htask, task_markCancelled, drain, task_takeOutAll]
  by_cases hid : id ∈ (b.takeOutAll scope scope.queues).1
  · have hsome := (h.toKept.mem_drain_iff.1 hid).2
    have hpending := ((h.isSome_slot_iff id).1 hsome).1
    simp [hid, hpending]
  · simp only [hid, false_and, ↓reduceIte]
    exact h.isSome_slot_iff id

theorem unlink (h : b.Tidy none) {id : TaskId} (hstate : (b.task id).state = .pending) :
    (b.unlink id (b.task id).home).Tidy (some id) := by
  refine ⟨h.toKept.unlink (h.slot_eq_some hstate), fun j => ?_⟩
  rw [task_unlink]
  by_cases hj : j = id
  · simp [hj]
  · simp only [hj, ↓reduceIte, ne_eq, Option.some.injEq, Ne.symm hj, not_false_eq_true]
    simpa using h.isSome_slot_iff j

/-- Claiming the task in hand. -/
theorem begin {id : TaskId} (h : b.Tidy (some id)) : (b.transition id .pending .executing).1.Tidy none := by
  refine ⟨h.toKept.transition_of_ne id .executing (by decide), fun j => ?_⟩
  have hiff := h.isSome_slot_iff j
  rw [task_transition_eq]
  by_cases hj : j = id
  · subst hj
    by_cases hs : (b.task j).state = .pending <;> simp_all
  · simpa [hj, Ne.symm hj] using hiff

theorem modify (h : b.Tidy none) {id : TaskId} {f : Task → Task} (hstate : (b.task id).state ≠ .pending)
    (hid : id.index < b.nextId) (hfslot : (f (b.task id)).slot = (b.task id).slot)
    (hfstate : (f (b.task id)).state = (b.task id).state)
    (hident : (f (b.task id)).identity = (b.task id).identity) : (b.modify id f).Tidy none := by
  have hslot := h.slot_eq_none hstate
  refine ⟨h.toKept.modify hid hfslot hident (by simp [hslot]), fun j => ?_⟩
  rw [task_modify]
  by_cases hj : j = id
  · simp [hj, hfslot, hfstate, hslot, hstate]
  · simp only [hj, ↓reduceIte]
    exact h.isSome_slot_iff j

theorem countRun (h : b.Tidy none) {id : TaskId} (hstate : (b.task id).state ≠ .pending)
    (hid : id.index < b.nextId) : (b.modify id Task.countRun).Tidy none :=
  h.modify hstate hid rfl rfl rfl

end Tidy

/-! ### Settling -/

/-- The backlog after a recurring task has been planned anew. -/
def replan (b : Backlog) (id : TaskId) (completedAt : Nat) : Backlog :=
  b.modify id fun t => { t with runAt := t.nextRunAt completedAt }

private theorem advance_succ (id : TaskId) (completedAt n : Nat) (b : Backlog) (c : Completion) :
    Completion.advance id completedAt (n + 1) (b, c) = Completion.advance id completedAt n (c.step b id completedAt) :=
  rfl

theorem task_replan (b : Backlog) (id : TaskId) (completedAt : Nat) :
    (b.replan id completedAt).task id = { b.task id with runAt := (b.task id).nextRunAt completedAt } := by
  rw [replan, task_modify, if_pos rfl]

private theorem settling_step {b : Backlog} {id : TaskId} (hr : (b.task id).isRecurring = true) (completedAt : Nat) :
    Completion.settling.step b id completedAt = (b.replan id completedAt, .returning) := by
  simp only [Completion.step, hr, ↓reduceIte]
  rfl

/-- The backlog after a recurring task has been planned anew and queued again. -/
def requeue (b : Backlog) (id : TaskId) (completedAt : Nat) : Backlog :=
  ((b.replan id completedAt).transition id .executing .pending).1.place id

theorem complete_of_executing {b : Backlog} {id : TaskId} (hr : (b.task id).isRecurring = true)
    (hs : (b.task id).state = .executing) (hslot : (b.task id).slot = none) (completedAt : Nat) :
    b.complete id completedAt = (b.requeue id completedAt, .ok true) := by
  have htask := task_replan b id completedAt
  rcases hmoved : (b.replan id completedAt).transition id .executing .pending with ⟨c, moved⟩
  have hc : c = ((b.replan id completedAt).transition id .executing .pending).1 := by rw [hmoved]
  have hsnd := transition_snd (b.replan id completedAt) id .executing .pending
  rw [hmoved, htask, hs] at hsnd
  obtain rfl : moved = true := by simpa using hsnd
  have hpending : c.task id = { b.task id with runAt := (b.task id).nextRunAt completedAt, state := .pending } := by
    rw [hc, task_transition_eq, if_pos ⟨rfl, by rw [htask]; exact hs⟩, htask]
  have hreturning : Completion.returning.step (b.replan id completedAt) id completedAt = (c, .inserting) := by
    rw [Completion.step, hmoved]
  have hinserting : Completion.inserting.step c id completedAt = (c.place id, .rechecking) := by
    rw [Completion.step, add_eq_ok (by rw [hpending]; exact hslot)]
  have hrechecking : Completion.rechecking.step (c.place id) id completedAt = (c.place id, .ended true) := by
    simp [Completion.step, task_place, hpending]
  unfold complete
  rw [advance_succ, settling_step hr, advance_succ, hreturning, advance_succ, hinserting, advance_succ, hrechecking,
    requeue, hmoved]
  rfl

theorem complete_of_not_executing {b : Backlog} {id : TaskId} (hr : (b.task id).isRecurring = true)
    (hs : (b.task id).state ≠ .executing) (completedAt : Nat) :
    b.complete id completedAt = (b.replan id completedAt, .ok false) := by
  have hreturning : Completion.returning.step (b.replan id completedAt) id completedAt =
      (b.replan id completedAt, .ended false) := by
    simp [Completion.step, transition, Task.transition, task_replan, hs]
  unfold complete
  rw [advance_succ, settling_step hr, advance_succ, hreturning]
  rfl

/-- What settling a task does to the backlog, as far as it depends on the state of the task. -/
theorem complete_cases {b : Backlog} {id : TaskId} (hslot : (b.task id).slot = none) (completedAt : Nat) :
    ((b.task id).isRecurring = false ∧
        b.complete id completedAt = ((b.transition id .executing .done).1, .ok false)) ∨
      ((b.task id).isRecurring = true ∧ (b.task id).state = .executing ∧
        b.complete id completedAt = (b.requeue id completedAt, .ok true)) ∨
      ((b.task id).isRecurring = true ∧ (b.task id).state ≠ .executing ∧
        b.complete id completedAt = (b.replan id completedAt, .ok false)) := by
  cases hr : (b.task id).isRecurring with
  | false => exact .inl ⟨rfl, complete_once hr completedAt⟩
  | true =>
    by_cases hs : (b.task id).state = .executing
    · exact .inr (.inl ⟨rfl, hs, complete_of_executing hr hs hslot completedAt⟩)
    · exact .inr (.inr ⟨rfl, hs, complete_of_not_executing hr hs completedAt⟩)

theorem nextId_complete {b : Backlog} {id : TaskId} (hslot : (b.task id).slot = none) (completedAt : Nat) :
    (b.complete id completedAt).1.nextId = b.nextId := by
  rcases complete_cases hslot completedAt with ⟨-, hc⟩ | ⟨-, -, hc⟩ | ⟨-, -, hc⟩ <;> rw [hc]
  · rw [nextId_transition]
  · rw [requeue, nextId_place, nextId_transition, replan, nextId_modify]
  · rw [replan, nextId_modify]

theorem Tidy.replan {b : Backlog} (h : b.Tidy none) {id : TaskId} (hstate : (b.task id).state ≠ .pending)
    (hid : id.index < b.nextId) (completedAt : Nat) : (b.replan id completedAt).Tidy none :=
  h.modify hstate hid rfl rfl rfl

theorem Tidy.requeue {b : Backlog} (h : b.Tidy none) {id : TaskId} (hs : (b.task id).state = .executing)
    (completedAt : Nat) : (b.requeue id completedAt).Tidy none := by
  have hid : id.index < b.nextId := h.toKept.index_lt (by simp [hs])
  have hreplan := h.replan (by simp [hs]) hid completedAt
  have hslot : (b.task id).slot = none := h.slot_eq_none (by simp [hs])
  have hkept : ((b.replan id completedAt).transition id .executing .pending).1.Kept :=
    hreplan.toKept.transition_of_ne id .pending (by decide)
  have hnone : (((b.replan id completedAt).transition id .executing .pending).1.task id).slot = none := by
    rw [task_transition_eq, task_replan]
    split <;> exact hslot
  have hlt : id.index < ((b.replan id completedAt).transition id .executing .pending).1.nextId := by
    rw [nextId_transition]
    exact hid
  refine ⟨hkept.place hlt hnone, fun j => ?_⟩
  rw [Backlog.requeue, task_place, task_transition_eq]
  by_cases hj : j = id
  · subst hj
    simp [task_replan, hs]
  · simp only [hj, ↓reduceIte, false_and]
    exact hreplan.isSome_slot_iff j

theorem Tidy.finish {b : Backlog} (h : b.Tidy none) (id : TaskId) : (b.transition id .executing .done).1.Tidy none := by
  refine ⟨h.toKept.transition_of_ne id .done (by decide), fun j => ?_⟩
  rw [task_transition_eq]
  split
  · next heq =>
    obtain ⟨rfl, hs⟩ := heq
    have hslot : (b.task j).slot = none := h.slot_eq_none (by simp [hs])
    simp [hslot]
  · exact h.isSome_slot_iff j

/-- Settling a task that is not queued. -/
theorem Tidy.complete {b : Backlog} (h : b.Tidy none) {id : TaskId} (hstate : (b.task id).state ≠ .pending)
    (hid : id.index < b.nextId) (completedAt : Nat) : (b.complete id completedAt).1.Tidy none := by
  rcases complete_cases (h.slot_eq_none hstate) completedAt with ⟨-, hc⟩ | ⟨-, hs, hc⟩ | ⟨-, -, hc⟩ <;> rw [hc]
  · exact h.finish id
  · exact h.requeue hs completedAt
  · exact h.replan hstate hid completedAt

end TaskScheduling.Backlog
