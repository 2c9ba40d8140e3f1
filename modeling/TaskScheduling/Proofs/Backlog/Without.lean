import TaskScheduling.Proofs.Backlog.Kept

/-!
# Backlogs without one task

`Backlog.Without b id c` says that `c` is what `b` would be without the task `id`: all the others are the same, and they
are queued in the same order.  What is done to `id` alone does not matter (`Without.of_others`); what is done to another
task, or to a whole queue, is to be done on both sides (`Without.transition`, `Without.takeOut`).
-/

namespace TaskScheduling.Backlog

structure Without (b : Backlog) (id : TaskId) (c : Backlog) : Prop where
  task_eq (j : TaskId) : j ≠ id → c.task j = b.task j
  queue_eq (slot : QueueSlot) : c.queue slot = (b.queue slot).filter (· ≠ id)

/-- A task that notes no queue is not missed in any. -/
theorem Kept.filter_queue_eq_self {b : Backlog} (h : b.Kept) {id : TaskId} (hslot : (b.task id).slot = none)
    (slot : QueueSlot) : (b.queue slot).filter (· ≠ id) = b.queue slot := by
  refine List.filter_eq_self.2 fun j hj => decide_eq_true ?_
  rintro rfl
  rw [h.mem_queue_iff, hslot] at hj
  cases hj

/-- Taking a task out of its queue leaves the backlog without it. -/
theorem Kept.without_unlink {b : Backlog} (h : b.Kept) {id : TaskId} {slot : QueueSlot} (hid : id ∈ b.queue slot) :
    b.Without id (b.unlink id slot) where
  task_eq j hj := by rw [task_unlink, if_neg hj]
  queue_eq other := by
    rw [queue_unlink]
    split
    · rw [(h.nodup_queue other).erase_eq_filter]
      refine List.filter_congr fun j _ => ?_
      by_cases hj : j = id <;> simp [hj]
    · next hother =>
      refine (List.filter_eq_self.2 fun j hj => decide_eq_true ?_).symm
      rintro rfl
      exact hother ((h.task_home_of_mem hj).symm.trans (h.task_home_of_mem hid))

namespace Without

variable {b b' c : Backlog} {id j : TaskId}

theorem of_slot_none (h : b.Kept) (hslot : (b.task id).slot = none) : b.Without id b where
  task_eq _ _ := rfl
  queue_eq slot := (h.filter_queue_eq_self hslot slot).symm

theorem queue_eq_of_slot_none (h : b.Without id c) (hb : b.Kept) (hslot : (b.task id).slot = none)
    (slot : QueueSlot) : b.queue slot = c.queue slot := by
  rw [h.queue_eq, hb.filter_queue_eq_self hslot]

/-- Whatever becomes of the task itself. -/
theorem of_others (h : b.Without id c) (htask : ∀ j, j ≠ id → b'.task j = b.task j)
    (hqueue : ∀ slot, (b'.queue slot).filter (· ≠ id) = (b.queue slot).filter (· ≠ id)) : b'.Without id c where
  task_eq j hj := (h.task_eq j hj).trans (htask j hj).symm
  queue_eq slot := (h.queue_eq slot).trans (hqueue slot).symm

/-! ### What is done to the task itself -/

theorem transition_self (h : b.Without id c) (source target : TaskState) :
    (b.transition id source target).1.Without id c := by
  refine h.of_others (fun j hj => ?_) fun slot => ?_
  · rw [task_transition_eq, if_neg fun hc => hj hc.1]
  · rw [queue_transition]

theorem enter_place {t : Task} (h : b.Without id c) (hid : t.id = id) (hkept : (b.enter t).Kept) :
    ((b.enter t).place id).Without id c := by
  refine h.of_others (fun j hj => ?_) fun slot => ?_
  · rw [task_place, if_neg hj, task_enter, if_neg (hid ▸ hj)]
  · rw [filter_queue_place hkept (by simp), queue_enter]

theorem remove (h : b.Without id c) (hb : b.Kept) : (b.remove id).1.Without id c := by
  cases hslot : (b.task id).slot with
  | none => rwa [remove_of_slot_none hslot]
  | some slot =>
    have hid := hb.mem_queue_iff.2 hslot
    have hunlink := hb.without_unlink hid
    rw [remove_eq_unlink hslot hid]
    refine h.of_others hunlink.task_eq fun other => ?_
    rw [hunlink.queue_eq, List.filter_filter]
    simp only [Bool.and_self]

/-! ### What is done on both sides -/

theorem transition (h : b.Without id c) (hj : j ≠ id) (source target : TaskState) :
    (b.transition j source target).1.Without id (c.transition j source target).1 where
  task_eq k hk := by
    rw [task_transition_eq, task_transition_eq, h.task_eq j hj, h.task_eq k hk]
  queue_eq slot := by
    rw [queue_transition, queue_transition, h.queue_eq]

/-- The same tasks are taken out, but for the one that is not there. -/
theorem takeOut_fst (h : b.Without id c) (scope : Scope) (slot : QueueSlot) :
    (c.takeOut scope slot).1 = (b.takeOut scope slot).1.filter (· ≠ id) := by
  rw [Backlog.takeOut_fst, Backlog.takeOut_fst, h.queue_eq, List.filter_filter, List.filter_filter]
  refine List.filter_congr fun j _ => ?_
  by_cases hj : j = id
  · simp [hj]
  · simp [hj, h.task_eq j hj]

theorem takeOut (h : b.Without id c) (scope : Scope) (slot : QueueSlot) :
    (b.takeOut scope slot).2.Without id (c.takeOut scope slot).2 where
  task_eq j hj := by
    have hmem : j ∈ (c.takeOut scope slot).1 ↔ j ∈ (b.takeOut scope slot).1 := by
      rw [h.takeOut_fst, List.mem_filter]
      simp [hj]
    rw [task_takeOut, task_takeOut, h.task_eq j hj]
    simp only [hmem]
  queue_eq other := by
    rw [queue_takeOut, queue_takeOut, h.queue_eq]
    split
    · rw [List.filter_filter, List.filter_filter]
      refine List.filter_congr fun j _ => ?_
      by_cases hj : j = id
      · simp [hj]
      · simp [hj, h.task_eq j hj]
    · rfl

end Without

end TaskScheduling.Backlog
