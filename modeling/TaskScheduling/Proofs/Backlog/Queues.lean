import TaskScheduling.Queue.Clearance
import TaskScheduling.Queue.Completion

/-!
# The queues of a backlog

A backlog is looked at through its tasks and its six queues, `Backlog.queue`, and each of its operations is described by
what it does to these: `task_place` and `perm_queue_place` for queueing, `task_unlink` and `queue_unlink` for taking
out, `task_transition_eq` for a change of state, `task_takeOut` and `queue_takeOut` for emptying a queue.

Where a queue lies in its ring is left out: nothing but the search for a place in it depends on that.
-/

namespace TaskScheduling

namespace Task

/-- The queue in which a task belongs. -/
def home (t : Task) : QueueSlot := ⟨t.priority, t.queueKind⟩

/-- What never changes about a task. -/
def identity (t : Task) : TaskId × Priority × TaskKind × Bool × Option FailureHandler :=
  (t.id, t.priority, t.kind, t.immediate, t.handler)

theorem home_eq_of_identity {t u : Task} (h : t.identity = u.identity) : t.home = u.home := by
  simp only [identity, Prod.mk.injEq] at h
  obtain ⟨-, hp, -, hi, -⟩ := h
  simp only [home, queueKind, hp, hi]

theorem immediate_eq_of_identity {t u : Task} (h : t.identity = u.identity) : t.immediate = u.immediate := by
  simp only [identity, Prod.mk.injEq] at h
  exact h.2.2.2.1

theorem priority_eq_of_identity {t u : Task} (h : t.identity = u.identity) : t.priority = u.priority := by
  simp only [identity, Prod.mk.injEq] at h
  exact h.2.1

theorem isRecurring_eq_of_identity {t u : Task} (h : t.identity = u.identity) : t.isRecurring = u.isRecurring := by
  simp only [identity, Prod.mk.injEq] at h
  obtain ⟨-, -, hk, -, -⟩ := h
  simp only [isRecurring, hk]

/-- Only immediate tasks belong in a ready queue. -/
theorem immediate_of_home {t : Task} {p : Priority} (h : t.home = ⟨p, .ready⟩) : t.immediate = true := by
  have hkind : t.queueKind = .ready := congrArg QueueSlot.kind h
  cases hi : t.immediate with
  | true => rfl
  | false => simp [queueKind, hi] at hkind

theorem not_immediate_of_home {t : Task} {p : Priority} (h : t.home = ⟨p, .future⟩) : t.immediate = false := by
  have hkind : t.queueKind = .future := congrArg QueueSlot.kind h
  cases hi : t.immediate with
  | false => rfl
  | true => simp [queueKind, hi] at hkind

end Task

namespace Scope

/-- Whether a task is in scope. -/
def takes (scope : Scope) (t : Task) : Bool :=
  match scope with
  | everything => true
  | recurring => t.isRecurring

/-- The queue that is emptied when a slot is named: recurring tasks are in future queues only. -/
def target (scope : Scope) (slot : QueueSlot) : QueueSlot :=
  match scope with
  | everything => slot
  | recurring => ⟨slot.priority, .future⟩

end Scope

namespace Backlog

def queue (b : Backlog) (slot : QueueSlot) : List TaskId := (b.queueSet slot.priority).queue slot.kind

/-! ### Queue sets put back -/

theorem queue_withQueueSet (b : Backlog) {p : Priority} (s : QueueSet p) (tasks : Table) (kind : QueueKind) :
    (b.withQueueSet s tasks).queue ⟨p, kind⟩ = s.queue kind := by
  simp only [queue, queueSet_withQueueSet_self]

theorem queue_withQueueSet_of_ne (b : Backlog) {p : Priority} (s : QueueSet p) (tasks : Table) {slot : QueueSlot}
    (h : slot.priority ≠ p) : (b.withQueueSet s tasks).queue slot = b.queue slot := by
  simp only [queue, queueSet_withQueueSet_of_ne b s tasks h]

theorem task_withQueueSet (b : Backlog) {p : Priority} (s : QueueSet p) (tasks : Table) (id : TaskId) :
    (b.withQueueSet s tasks).task id = tasks.get id := by
  simp only [task, tasks_withQueueSet]

theorem withQueueSet_queueSet (b : Backlog) (p : Priority) : b.withQueueSet (b.queueSet p) b.tasks = b := by
  cases p <;> rfl

theorem mem_queued_iff {b : Backlog} {id : TaskId} : id ∈ b.queued ↔ ∃ slot, id ∈ b.queue slot := by
  rw [mem_queued]
  constructor
  · rintro ⟨p, h⟩
    rcases QueueSet.mem_ids.1 h with h | h
    · exact ⟨⟨p, .ready⟩, h⟩
    · exact ⟨⟨p, .future⟩, h⟩
  · rintro ⟨⟨p, _ | _⟩, h⟩
    · exact ⟨p, QueueSet.mem_ids.2 (.inl h)⟩
    · exact ⟨p, QueueSet.mem_ids.2 (.inr h)⟩

theorem isEmpty_iff {b : Backlog} : b.isEmpty = true ↔ b.queued = [] := by
  simp only [isEmpty, QueueSet.isEmpty, QueueSet.size, queued, QueueSet.ids, Bool.and_eq_true, beq_iff_eq,
    Nat.add_eq_zero_iff, List.length_eq_zero_iff, List.append_eq_nil_iff]

theorem queue_eq_nil_of_isEmpty {b : Backlog} (h : b.isEmpty = true) (slot : QueueSlot) : b.queue slot = [] := by
  rw [List.eq_nil_iff_forall_not_mem]
  intro id hmem
  have hqueued : id ∈ b.queued := mem_queued_iff.2 ⟨slot, hmem⟩
  rw [isEmpty_iff.1 h] at hqueued
  cases hqueued

/-! ### Building and entering -/

theorem task_enter (b : Backlog) (t : Task) (j : TaskId) :
    (b.enter t).task j = if j = t.id then t else b.task j := by
  simp only [enter, task, Table.get_set]

theorem queue_enter (b : Backlog) (t : Task) (slot : QueueSlot) : (b.enter t).queue slot = b.queue slot := by
  obtain ⟨p, k⟩ := slot
  cases p <;> rfl

theorem task_modify (b : Backlog) (id : TaskId) (f : Task → Task) (j : TaskId) :
    (b.modify id f).task j = if j = id then f (b.task j) else b.task j := by
  simp only [modify, task, Table.get_modify]

theorem queue_modify (b : Backlog) (id : TaskId) (f : Task → Task) (slot : QueueSlot) :
    (b.modify id f).queue slot = b.queue slot := by
  obtain ⟨p, k⟩ := slot
  cases p <;> rfl

theorem nextId_modify (b : Backlog) (id : TaskId) (f : Task → Task) : (b.modify id f).nextId = b.nextId := rfl

/-! ### Changing a state -/

theorem task_transition_eq (b : Backlog) (id : TaskId) (source target : TaskState) (j : TaskId) :
    (b.transition id source target).1.task j =
      if j = id ∧ (b.task id).state = source then { b.task j with state := target } else b.task j := by
  by_cases h : (b.task id).state = source
  · have hset : (b.transition id source target).1.tasks = b.tasks.set id { b.task id with state := target } := by
      simp [transition, Task.transition, h]
    rw [task, hset, Table.get_set]
    by_cases hj : j = id
    · subst hj
      simp only [↓reduceIte, h, and_self]
    · simp only [hj, ↓reduceIte, false_and]
      rfl
  · simp [transition, Task.transition, h]

theorem identity_transition (b : Backlog) (id : TaskId) (source target : TaskState) (j : TaskId) :
    ((b.transition id source target).1.task j).identity = (b.task j).identity := by
  rw [task_transition_eq]
  split <;> rfl

theorem runAt_transition (b : Backlog) (id : TaskId) (source target : TaskState) (j : TaskId) :
    ((b.transition id source target).1.task j).runAt = (b.task j).runAt := by
  rw [task_transition_eq]
  split <;> rfl

theorem slot_transition (b : Backlog) (id : TaskId) (source target : TaskState) (j : TaskId) :
    ((b.transition id source target).1.task j).slot = (b.task j).slot := by
  rw [task_transition_eq]
  split <;> rfl

theorem queue_transition (b : Backlog) (id : TaskId) (source target : TaskState) (slot : QueueSlot) :
    (b.transition id source target).1.queue slot = b.queue slot := by
  unfold transition
  obtain ⟨p, k⟩ := slot
  split
  split
  · cases p <;> rfl
  · rfl

theorem nextId_transition (b : Backlog) (id : TaskId) (source target : TaskState) :
    (b.transition id source target).1.nextId = b.nextId := by
  unfold transition
  split
  split <;> rfl

/-- A change of state that comes about changes nothing else. -/
theorem transition_eq_true {b c : Backlog} {id : TaskId} {source target : TaskState}
    (h : b.transition id source target = (c, true)) :
    (b.task id).state = source ∧ c = (b.transition id source target).1 := by
  have hs := transition_snd b id source target
  rw [h] at hs
  exact ⟨by simpa using hs.symm, by rw [h]⟩

theorem transition_eq_false {b c : Backlog} {id : TaskId} {source target : TaskState}
    (h : b.transition id source target = (c, false)) : (b.task id).state ≠ source ∧ c = b := by
  have hs := transition_snd b id source target
  rw [h] at hs
  have hne : (b.task id).state ≠ source := by simpa using hs.symm
  refine ⟨hne, ?_⟩
  have hc : c = (b.transition id source target).1 := by rw [h]
  rw [hc]
  simp [transition, Task.transition, hne]

theorem transition_of_state {b : Backlog} {id : TaskId} {source : TaskState} (h : (b.task id).state = source)
    (target : TaskState) : b.transition id source target = ((b.transition id source target).1, true) :=
  Prod.ext rfl (by rw [transition_snd, decide_eq_true h])

theorem transition_of_state_ne {b : Backlog} {id : TaskId} {source : TaskState} (h : (b.task id).state ≠ source)
    (target : TaskState) : b.transition id source target = (b, false) := by
  simp only [transition, Task.transition_eq_self h, Bool.false_eq_true, ↓reduceIte]

theorem task_transition_self {b : Backlog} {id : TaskId} {source : TaskState} (h : (b.task id).state = source)
    (target : TaskState) : (b.transition id source target).1.task id = { b.task id with state := target } := by
  rw [task_transition_eq, if_pos ⟨rfl, h⟩]

/-! ### Queueing -/

/-- The backlog after a task has been queued where it belongs. -/
def place (b : Backlog) (id : TaskId) : Backlog :=
  let placed := (b.queueSet (b.task id).priority).insert b.tasks id
  b.withQueueSet placed.1 placed.2

/-- Queueing fails only for a task that notes a queue already. -/
theorem add_eq_ok {b : Backlog} {id : TaskId} (h : (b.task id).slot = none) : b.add id = .ok (b.place id) := by
  have hr : (b.queueSet (b.task id).priority).refusal? (b.task id) = none := by
    simp [QueueSet.refusal?, h]
  unfold add QueueSet.add
  rw [show b.tasks.get id = b.task id from rfl, hr]
  rfl

/-- Only a task that is in no queue is queued. -/
theorem eq_place_of_add {b c : Backlog} {id : TaskId} (h : b.add id = .ok c) : (b.task id).slot = none ∧ c = b.place id := by
  cases hslot : (b.task id).slot with
  | none =>
    rw [add_eq_ok hslot] at h
    exact ⟨rfl, (Except.ok.inj h).symm⟩
  | some slot =>
    have hrefused : (b.queueSet (b.task id).priority).add b.tasks id = .error (.stillQueued (b.task id).id) := by
      have htask : b.tasks.get id = b.task id := rfl
      simp [QueueSet.add, QueueSet.refusal?, htask, hslot]
    rw [Backlog.add, hrefused] at h
    cases h

private theorem insert_snd (b : Backlog) (id : TaskId) :
    ((b.queueSet (b.task id).priority).insert b.tasks id).2 = b.tasks.setSlot id (some (b.task id).home) := by
  unfold QueueSet.insert
  rw [show b.tasks.get id = b.task id from rfl]
  cases hi : (b.task id).immediate <;> simp [QueueSet.slot, Task.home, Task.queueKind, hi]

theorem task_place (b : Backlog) (id j : TaskId) :
    (b.place id).task j = if j = id then { b.task j with slot := some (b.task id).home } else b.task j := by
  simp only [place, task_withQueueSet, insert_snd, Table.setSlot, Table.get_modify]
  rfl

theorem identity_place (b : Backlog) (id j : TaskId) : ((b.place id).task j).identity = (b.task j).identity := by
  rw [task_place]
  split <;> rfl

theorem state_place (b : Backlog) (id j : TaskId) : ((b.place id).task j).state = (b.task j).state := by
  rw [task_place]
  split <;> rfl

theorem runAt_place (b : Backlog) (id j : TaskId) : ((b.place id).task j).runAt = (b.task j).runAt := by
  rw [task_place]
  split <;> rfl

theorem nextId_place (b : Backlog) (id : TaskId) : (b.place id).nextId = b.nextId := by
  simp only [place, nextId_withQueueSet]

theorem queue_place_of_ne (b : Backlog) (id : TaskId) {slot : QueueSlot} (h : slot ≠ (b.task id).home) :
    (b.place id).queue slot = b.queue slot := by
  obtain ⟨p, k⟩ := slot
  by_cases hp : p = (b.task id).priority
  · subst hp
    simp only [place, queue_withQueueSet]
    unfold QueueSet.insert
    rw [show b.tasks.get id = b.task id from rfl]
    cases hi : (b.task id).immediate <;> cases k <;>
      simp_all [Task.home, Task.queueKind, queue, QueueSet.queue]
  · exact queue_withQueueSet_of_ne b _ _ hp

/-- An immediate task goes to the end of its queue. -/
theorem queue_place_of_immediate {b : Backlog} {id : TaskId} (h : (b.task id).immediate = true) :
    (b.place id).queue (b.task id).home = b.queue (b.task id).home ++ [id] := by
  have hhome : (b.task id).home = ⟨(b.task id).priority, .ready⟩ := by simp [Task.home, Task.queueKind, h]
  rw [hhome]
  simp only [place, queue_withQueueSet]
  unfold QueueSet.insert
  rw [show b.tasks.get id = b.task id from rfl, if_pos h]
  rfl

/-- In a future queue that is in order, a task goes behind those that are not later. -/
theorem queue_place_of_not_immediate {b : Backlog} {id : TaskId} (h : (b.task id).immediate = false)
    (horder : QueueSet.InOrder b.tasks (b.queueSet (b.task id).priority).future) :
    (b.place id).queue (b.task id).home =
      QueueSet.insertByRunAt b.tasks (b.task id).runAt id (b.queue (b.task id).home) := by
  have hhome : (b.task id).home = ⟨(b.task id).priority, .future⟩ := by simp [Task.home, Task.queueKind, h]
  rw [hhome]
  simp only [place, queue_withQueueSet]
  exact QueueSet.future_insert horder h

/-- Queueing adds one task to one queue. -/
theorem perm_queue_place (b : Backlog) (id : TaskId) :
    ((b.place id).queue (b.task id).home).Perm (id :: b.queue (b.task id).home) := by
  cases hi : (b.task id).immediate with
  | true =>
    rw [queue_place_of_immediate hi]
    exact List.perm_append_singleton id _
  | false =>
    have hhome : (b.task id).home = ⟨(b.task id).priority, .future⟩ := by simp [Task.home, Task.queueKind, hi]
    rw [hhome]
    simp only [place, queue_withQueueSet]
    unfold QueueSet.insert
    simp only [show b.tasks.get id = b.task id from rfl, hi, Bool.false_eq_true, ↓reduceIte, QueueSet.queue]
    refine List.perm_middle.trans (List.Perm.cons id ?_)
    rw [List.take_append_drop]
    exact List.Perm.refl _

/-! ### Taking out -/

/-- The backlog after a task has been taken out of a queue. -/
def unlink (b : Backlog) (id : TaskId) (slot : QueueSlot) : Backlog :=
  b.withQueueSet ((b.queueSet slot.priority).erase id slot.kind) (b.tasks.setSlot id none)

theorem remove_eq_unlink {b : Backlog} {id : TaskId} {slot : QueueSlot} (hslot : (b.task id).slot = some slot)
    (hmem : id ∈ b.queue slot) : b.remove id = (b.unlink id slot, true) := by
  unfold remove QueueSet.remove
  rw [show b.tasks.get id = b.task id from rfl, hslot]
  have hmem' : id ∈ (b.queueSet slot.priority).queue slot.kind := hmem
  simp only [true_and, if_pos hmem', unlink]

theorem remove_eq_self {b : Backlog} {id : TaskId} (h : ∀ slot, (b.task id).slot = some slot → id ∉ b.queue slot) :
    b.remove id = (b, false) := by
  unfold remove QueueSet.remove
  rw [show b.tasks.get id = b.task id from rfl]
  cases hslot : (b.task id).slot with
  | none => rfl
  | some slot =>
    have hnot : id ∉ (b.queueSet slot.priority).queue slot.kind := h slot hslot
    simp only [true_and, if_neg hnot, withQueueSet_queueSet]

theorem remove_of_slot_none {b : Backlog} {id : TaskId} (h : (b.task id).slot = none) : b.remove id = (b, false) :=
  remove_eq_self fun slot hslot => by rw [h] at hslot; cases hslot

theorem task_unlink (b : Backlog) (id : TaskId) (slot : QueueSlot) (j : TaskId) :
    (b.unlink id slot).task j = if j = id then { b.task j with slot := none } else b.task j := by
  simp only [unlink, task_withQueueSet, Table.setSlot, Table.get_modify]
  rfl

theorem identity_unlink (b : Backlog) (id : TaskId) (slot : QueueSlot) (j : TaskId) :
    ((b.unlink id slot).task j).identity = (b.task j).identity := by
  rw [task_unlink]
  split <;> rfl

theorem runAt_unlink (b : Backlog) (id : TaskId) (slot : QueueSlot) (j : TaskId) :
    ((b.unlink id slot).task j).runAt = (b.task j).runAt := by
  rw [task_unlink]
  split <;> rfl

theorem queue_unlink (b : Backlog) (id : TaskId) (slot other : QueueSlot) :
    (b.unlink id slot).queue other = if other = slot then (b.queue other).erase id else b.queue other := by
  obtain ⟨p, k⟩ := slot
  obtain ⟨q, l⟩ := other
  by_cases hq : q = p
  · subst hq
    simp only [unlink, queue_withQueueSet, QueueSet.queue_erase, QueueSlot.mk.injEq, true_and]
    rfl
  · rw [if_neg (by simp [hq])]
    exact queue_withQueueSet_of_ne b _ _ hq

theorem nextId_unlink (b : Backlog) (id : TaskId) (slot : QueueSlot) : (b.unlink id slot).nextId = b.nextId := by
  simp only [unlink, nextId_withQueueSet]

/-! ### Emptying a queue -/

private theorem get_clearSlots (tasks : Table) (ids : List TaskId) (j : TaskId) :
    (tasks.modifyAll ids fun t => { t with slot := none }).get j =
      if j ∈ ids then { tasks.get j with slot := none } else tasks.get j := by
  by_cases h : j ∈ ids
  · rw [if_pos h, Table.get_modifyAll_of_mem tasks _ h]
    exact fun _ => rfl
  · rw [if_neg h, Table.get_modifyAll_of_notMem tasks _ h]

theorem takeOut_fst (b : Backlog) (scope : Scope) (slot : QueueSlot) :
    (b.takeOut scope slot).1 = (b.queue (scope.target slot)).filter fun id => scope.takes (b.task id) := by
  cases scope with
  | everything =>
    simp only [takeOut, QueueSet.drainQueue, Scope.target, Scope.takes]
    exact (List.filter_eq_self.2 (by simp)).symm
  | recurring =>
    simp only [takeOut, QueueSet.drainRecurring, Scope.target, Scope.takes, queue, QueueSet.queue,
      List.partition_eq_filter_filter]
    rfl

theorem task_takeOut (b : Backlog) (scope : Scope) (slot : QueueSlot) (j : TaskId) :
    (b.takeOut scope slot).2.task j =
      if j ∈ (b.takeOut scope slot).1 then { b.task j with slot := none } else b.task j := by
  cases scope with
  | everything =>
    simp only [takeOut, QueueSet.drainQueue, task_withQueueSet, get_clearSlots]
    rfl
  | recurring =>
    simp only [takeOut, QueueSet.drainRecurring, task_withQueueSet, get_clearSlots]
    rfl

theorem identity_takeOut (b : Backlog) (scope : Scope) (slot : QueueSlot) (j : TaskId) :
    ((b.takeOut scope slot).2.task j).identity = (b.task j).identity := by
  rw [task_takeOut]
  split <;> rfl

theorem runAt_takeOut (b : Backlog) (scope : Scope) (slot : QueueSlot) (j : TaskId) :
    ((b.takeOut scope slot).2.task j).runAt = (b.task j).runAt := by
  rw [task_takeOut]
  split <;> rfl

theorem queue_takeOut (b : Backlog) (scope : Scope) (slot other : QueueSlot) :
    (b.takeOut scope slot).2.queue other =
      if other = scope.target slot then (b.queue other).filter fun id => !scope.takes (b.task id)
      else b.queue other := by
  obtain ⟨p, k⟩ := slot
  obtain ⟨q, l⟩ := other
  by_cases hq : q = p
  · subst hq
    cases scope with
    | everything =>
      simp only [takeOut, QueueSet.drainQueue, queue_withQueueSet, QueueSet.queue_emptied, Scope.target,
        QueueSlot.mk.injEq, true_and, Scope.takes, Bool.not_true]
      split
      · exact (List.filter_eq_nil_iff.2 (by simp)).symm
      · rfl
    | recurring =>
      simp only [takeOut, QueueSet.drainRecurring, queue_withQueueSet, Scope.target, QueueSlot.mk.injEq, true_and,
        Scope.takes, List.partition_eq_filter_filter]
      cases l <;> simp [queue, QueueSet.queue, task, Function.comp_def]
  · have hne : ¬((⟨q, l⟩ : QueueSlot) = scope.target ⟨p, k⟩) := by
      cases scope <;> simp [Scope.target, hq]
    rw [if_neg hne]
    cases scope <;> exact queue_withQueueSet_of_ne b _ _ hq

theorem nextId_takeOut (b : Backlog) (scope : Scope) (slot : QueueSlot) :
    (b.takeOut scope slot).2.nextId = b.nextId := by
  cases scope <;> simp only [takeOut, nextId_withQueueSet]

end Backlog

end TaskScheduling
