import Mathlib
import TaskScheduling.Proofs.Backlog.HighWork

/-!
# Cancelling in bulk and one by one

A clearance empties queues and marks what it took out; a cancellation marks one task and then looks for it in its queue.
Between operations both come to the same: the tasks are cancelled, they are out of their queues, and nothing else has
changed (`Backlog.Drops`).  So a clearance leaves what single cancellations of the same tasks leave, in whatever order
they are made.  Where in its ring a queue lies may differ; that is no part of what a queue holds.

* `Drops.cancelEach`, `Drops.clear`: what single cancellations and a clearance do.
* `clear_snd`, `queued_clear`: a clearance names the queued tasks in its scope in their order, and keeps the others.
* `clear_eq_cancelEach`: both ways agree.
-/

namespace TaskScheduling

/-- Whether a task is in scope is settled by what never changes about it. -/
theorem Scope.takes_eq_of_identity {t u : Task} (h : t.identity = u.identity) (scope : Scope) :
    scope.takes t = scope.takes u := by
  cases scope with
  | everything => rfl
  | recurring => exact Task.isRecurring_eq_of_identity h

namespace Backlog

/-- Cancels some tasks one after the other, and names those for which the cancellation says that it did it. -/
def cancelEach (b : Backlog) : List TaskId → Backlog × List TaskId
  | [] => (b, [])
  | id :: rest =>
    let (b, claimed) := b.cancel id
    let (b, more) := b.cancelEach rest
    (b, if claimed then id :: more else more)

/-- The same tasks, the same queues and the same next number. -/
structure Agrees (b c : Backlog) : Prop where
  task_eq (id : TaskId) : c.task id = b.task id
  queue_eq (slot : QueueSlot) : c.queue slot = b.queue slot
  nextId_eq : c.nextId = b.nextId

/-- Some tasks have been cancelled and taken out of their queues, and nothing else has changed. -/
structure Drops (b c : Backlog) (ids : List TaskId) : Prop where
  task_eq (id : TaskId) :
    c.task id = if id ∈ ids then { b.task id with slot := none, state := .cancelled } else b.task id
  queue_eq (slot : QueueSlot) : c.queue slot = (b.queue slot).filter fun id => id ∉ ids
  nextId_eq : c.nextId = b.nextId

variable {b c d : Backlog} {id : TaskId} {ids xs ys : List TaskId}

namespace Drops

theorem refl (b : Backlog) : b.Drops b [] := ⟨by simp, by simp, rfl⟩

theorem trans (h : b.Drops c xs) (h' : c.Drops d ys) : b.Drops d (xs ++ ys) where
  task_eq id := by
    rw [h'.task_eq, h.task_eq]
    by_cases hx : id ∈ xs <;> by_cases hy : id ∈ ys <;> simp [hx, hy]
  queue_eq slot := by
    rw [h'.queue_eq, h.queue_eq, List.filter_filter]
    refine List.filter_congr fun id _ => ?_
    simp only [List.mem_append, not_or, Bool.decide_and, Bool.and_comm]
  nextId_eq := h'.nextId_eq.trans h.nextId_eq

/-- It does not matter in which order tasks are dropped. -/
theorem agrees (h : b.Drops c xs) (h' : b.Drops d ys) (hsame : ∀ id, id ∈ xs ↔ id ∈ ys) : c.Agrees d where
  task_eq id := by simp only [h.task_eq, h'.task_eq, hsame]
  queue_eq slot := by simp only [h.queue_eq, h'.queue_eq, hsame]
  nextId_eq := h'.nextId_eq.trans h.nextId_eq.symm

/-! ### One by one -/

theorem cancel (h : b.Tidy none) (hs : (b.task id).state = .pending) : b.Drops (b.cancel id).1 [id] := by
  rw [cancel_of_pending hs, h.remove_transition hs]
  refine ⟨fun j => ?_, fun slot => ?_, ?_⟩
  · rw [task_unlink, task_transition_eq]
    by_cases hj : j = id <;> simp [hj, hs]
  · rw [queue_unlink, queue_transition]
    have hfilter : ((b.queue slot).filter fun j => j ∉ [id]) = (b.queue slot).erase id := by
      rw [(h.toKept.nodup_queue slot).erase_eq_filter]
      refine List.filter_congr fun j _ => ?_
      by_cases hj : j = id <;> simp [hj]
    rw [hfilter]
    split
    · rfl
    · next hslot =>
      have hnot : id ∉ b.queue slot := fun hmem => hslot (h.toKept.task_home_of_mem hmem).symm
      exact (List.erase_of_not_mem hnot).symm
  · rw [nextId_unlink, nextId_transition]

theorem cancelEach (h : b.Tidy none) (hnodup : ids.Nodup) (hpending : ∀ id ∈ ids, (b.task id).state = .pending) :
    b.Drops (b.cancelEach ids).1 ids ∧ (b.cancelEach ids).2 = ids := by
  induction ids generalizing b with
  | nil => exact ⟨.refl b, rfl⟩
  | cons id rest ih =>
    obtain ⟨hnot, hnodup⟩ := List.nodup_cons.1 hnodup
    obtain ⟨hid, hrest⟩ := List.forall_mem_cons.1 hpending
    have hfirst := Drops.cancel h hid
    have hclaimed : (b.cancel id).2 = true := by rw [cancel_of_pending hid]
    -- the others are pending still
    have hleft (j : TaskId) (hj : j ∈ rest) : ((b.cancel id).1.task j).state = .pending := by
      have hne : j ∉ [id] := by
        rw [List.mem_singleton]
        rintro rfl
        exact hnot hj
      rw [hfirst.task_eq, if_neg hne]
      exact hrest j hj
    obtain ⟨hdrops, hnamed⟩ := ih (h.cancel id) hnodup hleft
    refine ⟨hfirst.trans hdrops, ?_⟩
    have hcons : (b.cancelEach (id :: rest)).2 =
        if (b.cancel id).2 then id :: ((b.cancel id).1.cancelEach rest).2 else ((b.cancel id).1.cancelEach rest).2 := rfl
    rw [hcons, hclaimed, hnamed, if_pos rfl]

/-! ### In bulk -/

theorem clear (h : b.Tidy none) (scope : Scope) : b.Drops (b.clear scope).1 (b.clear scope).2 where
  task_eq id := by
    have hdrained : id ∈ (b.takeOutAll scope scope.queues).1 ↔ id ∈ (b.clear scope).2 := by
      rw [← drain, h.toKept.mem_drain_iff, h.isSome_slot_iff, mem_clear_iff h]
      constructor
      · exact fun hmem => ⟨hmem.2.1, hmem.1⟩
      · exact fun hmem => ⟨hmem.2, hmem.1, by simp⟩
    rw [task_clear, drain, task_takeOutAll, if_congr hdrained rfl rfl]
    split <;> rfl
  queue_eq slot := by
    rw [queue_clear h]
    refine List.filter_congr fun id hid => ?_
    have hpending := h.state_of_slot (h.toKept.mem_queue_iff.1 hid)
    simp only [mem_clear_iff h, hpending, true_and, Bool.decide_eq_true, decide_not]
  nextId_eq := (Thins.clear b scope).nextId_eq

end Drops

/-! ### What a clearance names -/

theorem takeOutAll_fst {scope : Scope} {slots : List QueueSlot} (hslots : (slots.map scope.target).Nodup) :
    (b.takeOutAll scope slots).1 =
      slots.flatMap fun slot => (b.queue (scope.target slot)).filter fun id => scope.takes (b.task id) := by
  induction slots generalizing b with
  | nil => rfl
  | cons slot slots ih =>
    obtain ⟨hnot, hnodup⟩ := List.nodup_cons.1 hslots
    simp only [takeOutAll, List.flatMap_cons, takeOut_fst, ih hnodup]
    refine congrArg _ (List.flatMap_congr fun other hother => ?_)
    have hne : scope.target other ≠ scope.target slot := fun heq => hnot (heq ▸ List.mem_map_of_mem hother)
    rw [queue_takeOut, if_neg hne]
    exact List.filter_congr fun id _ => scope.takes_eq_of_identity (identity_takeOut b scope slot id)

/-- All the queues, in the order in which they are emptied. -/
theorem queued_eq_flatMap (b : Backlog) : b.queued = Scope.everything.queues.flatMap b.queue := by
  simp [queued, QueueSet.ids, Scope.queues, Priority.all, queue, QueueSet.queue, queueSet]

theorem Kept.drain_fst (h : b.Kept) (scope : Scope) :
    (b.drain scope).1 = b.queued.filter fun id => scope.takes (b.task id) := by
  cases scope with
  | everything =>
    rw [drain, takeOutAll_fst (by decide), queued_eq_flatMap, List.filter_flatMap]
    rfl
  | recurring =>
    -- in the ready queues there is nothing to take
    have hready (p : Priority) : (b.queue ⟨p, .ready⟩).filter (fun id => Scope.recurring.takes (b.task id)) = [] := by
      refine List.filter_eq_nil_iff.2 fun id hid => ?_
      have himmediate := Task.immediate_of_home (h.task_home_of_mem hid)
      simp [Scope.takes, h.isRecurring_of_immediate id himmediate]
    rw [drain, takeOutAll_fst (by decide), queued_eq_flatMap, List.filter_flatMap]
    simp [Scope.queues, Priority.all, Scope.target, hready]

theorem markCancelled_snd (hnodup : ids.Nodup) (hpending : ∀ id ∈ ids, (b.task id).state = .pending) :
    (b.markCancelled ids).2 = ids := by
  induction ids generalizing b with
  | nil => rfl
  | cons id rest ih =>
    obtain ⟨hnot, hnodup⟩ := List.nodup_cons.1 hnodup
    obtain ⟨hid, hrest⟩ := List.forall_mem_cons.1 hpending
    have hleft (j : TaskId) (hj : j ∈ rest) : ((b.transition id .pending .cancelled).1.task j).state = .pending := by
      have hne : j ≠ id := fun heq => hnot (heq ▸ hj)
      rw [task_transition, if_neg fun hboth => hne hboth.1]
      exact hrest j hj
    have hmoved : b.transition id .pending .cancelled = ((b.transition id .pending .cancelled).1, true) :=
      Prod.ext rfl (by rw [transition_snd, hid, decide_eq_true rfl])
    rw [markCancelled, hmoved]
    exact congrArg (id :: ·) (ih hnodup hleft)

/-- A clearance names the queued tasks in its scope in the order of the queues. -/
theorem clear_snd (h : b.Tidy none) (scope : Scope) :
    (b.clear scope).2 = b.queued.filter fun id => scope.takes (b.task id) := by
  rw [← h.toKept.drain_fst scope]
  have hnodup : (b.drain scope).1.Nodup := by
    rw [h.toKept.drain_fst]
    exact h.toKept.nodup_queued.filter _
  refine markCancelled_snd (b := (b.drain scope).2) hnodup fun id hid => ?_
  have hpending := ((h.isSome_slot_iff id).1 (h.toKept.mem_drain_iff.1 hid).2).1
  rw [drain, task_takeOutAll]
  split <;> exact hpending

/-- What is not in scope stays queued, in its order. -/
theorem queued_clear (h : b.Tidy none) (scope : Scope) :
    (b.clear scope).1.queued = b.queued.filter fun id => !scope.takes (b.task id) := by
  rw [queued_eq_flatMap, queued_eq_flatMap, List.filter_flatMap]
  exact List.flatMap_congr fun slot _ => queue_clear h scope slot

/-! ### Both ways agree -/

/-- Single cancellations of what is queued and in scope, in any order, do what a clearance does. -/
theorem cancelEach_of_perm (h : b.Tidy none) (scope : Scope) {order : List TaskId}
    (hperm : order.Perm (b.queued.filter fun id => scope.takes (b.task id))) :
    (b.cancelEach order).2 = order ∧ (b.cancelEach order).1.Agrees (b.clear scope).1 := by
  have hpending (id : TaskId) (hid : id ∈ order) : (b.task id).state = .pending := by
    have hqueued := (List.mem_filter.1 (hperm.mem_iff.1 hid)).1
    exact ((h.isSome_slot_iff id).1 (h.toKept.mem_queued_iff.1 hqueued)).1
  have hnodup : order.Nodup := hperm.nodup_iff.2 (h.toKept.nodup_queued.filter _)
  obtain ⟨hdrops, hnamed⟩ := Drops.cancelEach h hnodup hpending
  refine ⟨hnamed, hdrops.agrees (.clear h scope) fun id => ?_⟩
  rw [hperm.mem_iff, clear_snd h]

/-- Clearing what recurs and then everything leaves what clearing everything leaves. -/
theorem clear_recurring_everything (h : b.Tidy none) :
    ((b.clear .recurring).1.clear .everything).1.Agrees (b.clear .everything).1 ∧
    ((b.clear .recurring).2 ++ ((b.clear .recurring).1.clear .everything).2).Perm (b.clear .everything).2 := by
  have hperm : ((b.clear .recurring).2 ++ ((b.clear .recurring).1.clear .everything).2).Perm
      (b.clear .everything).2 := by
    have hrest : ((b.clear .recurring).1.clear .everything).2 = (b.clear .recurring).1.queued := by
      rw [clear_snd (h.clear .recurring)]
      exact List.filter_eq_self.2 fun _ _ => rfl
    have hall : (b.clear .everything).2 = b.queued := by
      rw [clear_snd h]
      exact List.filter_eq_self.2 fun _ _ => rfl
    rw [hrest, hall, clear_snd h, queued_clear h]
    exact List.filter_append_perm _ _
  have hboth := (Drops.clear h .recurring).trans (.clear (h.clear .recurring) .everything)
  exact ⟨hboth.agrees (.clear h .everything) fun id => hperm.mem_iff, hperm⟩

/-- Where every task is pending exactly when it is queued, clearing everything names each queued task once, by priority
and the ready ones first, and leaves what cancelling these tasks one by one leaves, in any order; clearing what recurs
does so for the recurring tasks, and the others keep their order and are not changed in anything; and clearing what
recurs before everything comes to the same as clearing everything at once. -/
theorem clear_eq_cancelEach (h : b.Tidy none) :
    (b.queued.Nodup ∧ (b.clear .everything).2 = b.queued ∧
      ∀ order : List TaskId, order.Perm b.queued →
        (b.cancelEach order).2 = order ∧ (b.cancelEach order).1.Agrees (b.clear .everything).1) ∧
    ((b.clear .recurring).2 = (b.queued.filter fun id => (b.task id).isRecurring) ∧
      (∀ order : List TaskId, order.Perm (b.queued.filter fun id => (b.task id).isRecurring) →
        (b.cancelEach order).2 = order ∧ (b.cancelEach order).1.Agrees (b.clear .recurring).1) ∧
      (∀ slot, (b.clear .recurring).1.queue slot = (b.queue slot).filter fun id => !(b.task id).isRecurring) ∧
      ∀ id, id ∉ (b.clear .recurring).2 → (b.clear .recurring).1.task id = b.task id) ∧
    (((b.clear .recurring).1.clear .everything).1.Agrees (b.clear .everything).1 ∧
      ((b.clear .recurring).2 ++ ((b.clear .recurring).1.clear .everything).2).Perm (b.clear .everything).2) := by
  have hall : (b.queued.filter fun id => Scope.everything.takes (b.task id)) = b.queued :=
    List.filter_eq_self.2 fun _ _ => rfl
  have heverything : (b.clear .everything).2 = b.queued := (clear_snd h .everything).trans hall
  have huntouched (id : TaskId) (hid : id ∉ (b.clear .recurring).2) : (b.clear .recurring).1.task id = b.task id := by
    rw [(Drops.clear h .recurring).task_eq, if_neg hid]
  exact ⟨⟨h.toKept.nodup_queued, heverything, fun order horder => cancelEach_of_perm h .everything (by rwa [hall])⟩,
    ⟨clear_snd h .recurring, fun order horder => cancelEach_of_perm h .recurring horder, queue_clear h .recurring,
      huntouched⟩, clear_recurring_everything h⟩

/-- Of the high tasks the first is delayed, the second is ready, and the third recurs; a low task recurs as well. -/
private def assorted : Backlog :=
  (((empty.enlist 0 ⟨.ofMillis 5, .oneTime, none, none⟩ .high).enlist 0 ⟨.zero, .oneTime, none, none⟩ .high).enlist 0
    ⟨.zero, .recurring (.ofMillis 10) .fixedRate, none, none⟩ .high).enlist 0
    ⟨.zero, .recurring (.ofMillis 10) .fixedRate, some .low, none⟩ .high

private theorem tidy_assorted : assorted.Tidy none :=
  (((((Accounted.empty .high 0).enlist (Nat.le_refl 0) _).enlist (Nat.le_refl 0) _).enlist (Nat.le_refl 0) _).enlist
    (Nat.le_refl 0) _).tidy

theorem clear_eq_cancelEach_assorted :
    assorted.Tidy none ∧ assorted.queued = [⟨1⟩, ⟨2⟩, ⟨0⟩, ⟨3⟩] ∧
    (assorted.clear .everything).2 = [⟨1⟩, ⟨2⟩, ⟨0⟩, ⟨3⟩] ∧ (assorted.clear .recurring).2 = [⟨2⟩, ⟨3⟩] ∧
    (assorted.cancelEach [⟨3⟩, ⟨0⟩, ⟨1⟩, ⟨2⟩]).1.Agrees (assorted.clear .everything).1 ∧
    (assorted.cancelEach [⟨3⟩, ⟨2⟩]).1.Agrees (assorted.clear .recurring).1 ∧
    (assorted.clear .recurring).1.queue ⟨.high, .future⟩ = [⟨0⟩] ∧
    ((assorted.clear .recurring).1.clear .everything).1.Agrees (assorted.clear .everything).1 := by
  have hqueued : assorted.queued = [⟨1⟩, ⟨2⟩, ⟨0⟩, ⟨3⟩] := by cbv
  have hrecurring : (assorted.queued.filter fun id => (assorted.task id).isRecurring) = [⟨2⟩, ⟨3⟩] := by cbv
  obtain ⟨⟨-, heverything, hall⟩, ⟨hsome, heach, -⟩, htwice, -⟩ := clear_eq_cancelEach tidy_assorted
  have horder : [⟨3⟩, ⟨0⟩, ⟨1⟩, ⟨2⟩].Perm assorted.queued := by
    rw [hqueued]
    decide
  have hswapped : [⟨3⟩, ⟨2⟩].Perm (assorted.queued.filter fun id => (assorted.task id).isRecurring) := by
    rw [hrecurring]
    exact .swap _ _ _
  exact ⟨tidy_assorted, hqueued, heverything.trans hqueued, hsome.trans hrecurring, (hall _ horder).2,
    (heach _ hswapped).2, by cbv, htwice⟩

end Backlog

end TaskScheduling
