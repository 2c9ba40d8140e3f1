import TaskScheduling.Proofs.Backlog.Accounted
import TaskScheduling.Proofs.Backlog.Contest

/-!
# What operations do to the tasks

`Backlog.Cancels b c ids` says that between `b` and `c` the tasks `ids`, each of which could be cancelled, have been
cancelled and taken out of their queues, and nothing else has happened.  A cancellation cancels its task if it says so
(`Cancels.cancel`), and a clearance cancels the tasks that it names (`Cancels.clear`), which are those in its scope that
were pending (`mem_clear_iff`).

`Backlog.Brings b c id status` says that one task has come to a status: by a submission (`Brings.enlist`), when it is
claimed (`Brings.takeUp`), or when it is settled (`Brings.complete`).
-/

namespace TaskScheduling.Backlog

/-- Whether a task can be cancelled: it is pending, or it is running and would run again. -/
def CanCancel (b : Backlog) (id : TaskId) : Prop :=
  (b.task id).state = .pending ∨ (b.task id).state = .executing ∧ (b.task id).isRecurring = true

structure Cancels (b c : Backlog) (ids : List TaskId) : Prop where
  nodup : ids.Nodup
  canCancel (id : TaskId) : id ∈ ids → b.CanCancel id
  state_eq (id : TaskId) : (c.task id).state = if id ∈ ids then .cancelled else (b.task id).state
  runs_eq (id : TaskId) : (c.task id).runs = (b.task id).runs
  thins : b.Thins c

theorem Cancels.refl (b : Backlog) : b.Cancels b [] :=
  ⟨.nil, by simp, by simp, fun _ => rfl, .refl b⟩

/-! ### Cancellations -/

theorem runs_transition (b : Backlog) (id : TaskId) (source target : TaskState) (j : TaskId) :
    ((b.transition id source target).1.task j).runs = (b.task j).runs := by
  rw [task_transition_eq]
  split <;> rfl

/-- Who leaves a queue is not changed otherwise. -/
theorem task_remove (b : Backlog) (id j : TaskId) :
    (b.remove id).1.task j = b.task j ∨ (b.remove id).1.task j = { b.task j with slot := none } := by
  by_cases hnamed : ∃ slot, (b.task id).slot = some slot ∧ id ∈ b.queue slot
  · obtain ⟨slot, hslot, hmem⟩ := hnamed
    rw [remove_eq_unlink hslot hmem, task_unlink]
    split
    · exact .inr rfl
    · exact .inl rfl
  · rw [remove_eq_self fun slot hslot hmem => hnamed ⟨slot, hslot, hmem⟩]
    exact .inl rfl

theorem Cancels.transition {b : Backlog} {id : TaskId} (h : b.CanCancel id) :
    b.Cancels (b.transition id (b.task id).state .cancelled).1 [id] where
  nodup := List.pairwise_singleton _ id
  canCancel j hj := by rwa [List.mem_singleton.1 hj]
  state_eq j := by
    rw [task_transition]
    by_cases hj : j = id <;> simp [hj]
  runs_eq := runs_transition b id _ _
  thins := .transition b id fun _ => h

theorem Cancels.remove {b c : Backlog} {ids : List TaskId} (h : b.Cancels c ids) (id : TaskId) :
    b.Cancels (c.remove id).1 ids where
  nodup := h.nodup
  canCancel := h.canCancel
  state_eq j := by
    rw [← h.state_eq]
    rcases task_remove c id j with heq | heq <;> rw [heq]
  runs_eq j := by
    rw [← h.runs_eq]
    rcases task_remove c id j with heq | heq <;> rw [heq]
  thins := h.thins.trans (.remove c id)

theorem Cancels.cancel (b : Backlog) (id : TaskId) :
    b.Cancels (b.cancel id).1 (if (b.cancel id).2 then [id] else []) := by
  cases hs : (b.task id).state with
  | pending =>
    have hcancels : b.Cancels _ [id] := .transition (.inl hs)
    rw [hs] at hcancels
    rw [cancel_of_pending hs]
    exact hcancels.remove id
  | executing =>
    cases hr : (b.task id).isRecurring with
    | true =>
      have hcancels : b.Cancels _ [id] := .transition (.inr ⟨hs, hr⟩)
      rw [hs] at hcancels
      rw [cancel_of_executing_recurring hs hr]
      exact hcancels
    | false =>
      rw [cancel_of_executing_once hs hr]
      exact .refl b
  | done =>
    rw [cancel_of_settled (.inl hs)]
    exact .refl b
  | cancelled =>
    rw [cancel_of_settled (.inr hs)]
    exact .refl b

/-! ### Clearances -/

theorem mem_markCancelled_iff {b : Backlog} {ids : List TaskId} {id : TaskId} :
    id ∈ (b.markCancelled ids).2 ↔ id ∈ ids ∧ (b.task id).state = .pending := by
  induction ids generalizing b with
  | nil => simp [markCancelled]
  | cons j rest ih =>
    have hstate := task_transition b j .pending .cancelled id
    rw [markCancelled]
    rcases hmoved : b.transition j .pending .cancelled with ⟨c, moved⟩
    rw [hmoved] at hstate
    have hj := transition_snd b j .pending .cancelled
    rw [hmoved] at hj
    cases moved with
    | true =>
      have hj : (b.task j).state = .pending := by simpa using hj
      simp only [List.mem_cons, ih, hstate, hj, and_true]
      by_cases hid : id = j <;> simp [hid, hj]
    | false =>
      have hj : (b.task j).state ≠ .pending := by simpa using hj
      simp only [List.mem_cons, ih, hstate, hj, and_false, ↓reduceIte]
      by_cases hid : id = j <;> simp [hid, hj]

/-- Nobody is cancelled twice. -/
theorem nodup_markCancelled (b : Backlog) (ids : List TaskId) : (b.markCancelled ids).2.Nodup := by
  induction ids generalizing b with
  | nil => exact .nil
  | cons id rest ih =>
    rw [markCancelled]
    rcases hmoved : b.transition id .pending .cancelled with ⟨c, moved⟩
    cases moved with
    | true =>
      obtain ⟨hs, rfl⟩ := transition_eq_true hmoved
      refine List.nodup_cons.2 ⟨fun hmem => ?_, ih _⟩
      have hpending := (mem_markCancelled_iff.1 hmem).2
      rw [task_transition, if_pos ⟨rfl, hs⟩] at hpending
      cases hpending
    | false => exact ih c

theorem mem_clear_iff {b : Backlog} (h : b.Tidy none) {scope : Scope} {id : TaskId} :
    id ∈ (b.clear scope).2 ↔ (b.task id).state = .pending ∧ scope.takes (b.task id) = true := by
  have hclear : (b.clear scope).2 = ((b.drain scope).2.markCancelled (b.drain scope).1).2 := rfl
  have hstate : ((b.drain scope).2.task id).state = (b.task id).state := by
    rw [drain, task_takeOutAll]
    split <;> rfl
  rw [hclear, mem_markCancelled_iff, hstate, h.toKept.mem_drain_iff, h.isSome_slot_iff id]
  simp only [ne_eq, reduceCtorEq, not_false_eq_true, and_true]
  constructor
  · exact fun hmem => ⟨hmem.2, hmem.1.1⟩
  · exact fun hmem => ⟨⟨hmem.2, hmem.1⟩, hmem.1⟩

/-- What a clearance leaves of each task. -/
theorem task_clear (b : Backlog) (scope : Scope) (id : TaskId) :
    (b.clear scope).1.task id =
      if id ∈ (b.clear scope).2 then { (b.drain scope).2.task id with state := .cancelled }
      else (b.drain scope).2.task id := by
  have hclear : (b.clear scope) = (b.drain scope).2.markCancelled (b.drain scope).1 := rfl
  rw [hclear, task_markCancelled]
  simp only [mem_markCancelled_iff]

theorem Cancels.clear {b : Backlog} (h : b.Tidy none) (scope : Scope) :
    b.Cancels (b.clear scope).1 (b.clear scope).2 where
  nodup := nodup_markCancelled _ _
  canCancel id hid := .inl ((mem_clear_iff h).1 hid).1
  state_eq id := by
    rw [task_clear, drain, task_takeOutAll]
    split
    · rfl
    · split <;> rfl
  runs_eq id := by
    rw [task_clear, drain, task_takeOutAll]
    split <;> split <;> rfl
  thins := .clear b scope

/-- Only the tasks that are cancelled are not pending any more. -/
theorem Cancels.of_pending {b c : Backlog} {ids : List TaskId} (h : b.Cancels c ids) {id : TaskId}
    (hs : (b.task id).state = .pending) (hs' : (c.task id).state ≠ .pending) :
    id ∈ ids ∧ (c.task id).state = .cancelled := by
  have hstate := h.state_eq id
  split at hstate
  · exact ⟨‹_›, hstate⟩
  · exact absurd (hstate.trans hs) hs'

/-- What a clearance leaves in the queues keeps its order. -/
theorem queue_clear {b : Backlog} (h : b.Tidy none) (scope : Scope) (slot : QueueSlot) :
    (b.clear scope).1.queue slot = (b.queue slot).filter fun id => !scope.takes (b.task id) := by
  have hcancels := Cancels.clear h scope
  have htidy := h.clear scope
  have hmem (id : TaskId) : id ∈ (b.clear scope).1.queue slot ↔
      id ∈ (b.queue slot).filter fun id => !scope.takes (b.task id) := by
    rw [List.mem_filter, Bool.not_eq_true']
    constructor
    · intro hid
      have hpending := htidy.state_of_slot (htidy.toKept.mem_queue_iff.1 hid)
      refine ⟨(hcancels.thins.queue_sublist slot).subset hid, ?_⟩
      rw [hcancels.state_eq] at hpending
      split at hpending
      · cases hpending
      · next hnot =>
        rw [mem_clear_iff h, not_and] at hnot
        exact Bool.eq_false_iff.2 (hnot hpending)
    · rintro ⟨hid, htakes⟩
      have hslot := h.toKept.mem_queue_iff.1 hid
      have hpending := h.state_of_slot hslot
      have hnot : id ∉ (b.clear scope).2 := by
        rw [mem_clear_iff h, htakes]
        exact fun hcleared => Bool.noConfusion hcleared.2
      have hleft : ((b.clear scope).1.task id).state = .pending := by rw [hcancels.state_eq, if_neg hnot, hpending]
      rw [htidy.toKept.mem_queue_iff, htidy.slot_eq_some hleft,
        Task.home_eq_of_identity (hcancels.thins.identity_eq id), ← h.slot_eq_home id slot hslot]
  have hself : ((b.clear scope).1.queue slot).filter (fun id => !scope.takes (b.task id)) =
      (b.clear scope).1.queue slot := List.filter_eq_self.2 fun id hid => (List.mem_filter.1 ((hmem id).1 hid)).2
  have hsublist := (hcancels.thins.queue_sublist slot).filter fun id => !scope.takes (b.task id)
  rw [hself] at hsublist
  have hperm := (List.perm_ext_iff_of_nodup (htidy.toKept.nodup_queue slot)
    ((h.toKept.nodup_queue slot).filter _)).2 hmem
  exact hsublist.eq_of_length hperm.length_eq

/-! ### Bringing one task to a state -/

/-- The backlog after a task has been taken out of its queue and claimed. -/
def takeUp (b : Backlog) (id : TaskId) : Backlog :=
  ((b.unlink id (b.task id).home).transition id .pending .executing).1

/-- A pending task can be taken out of its queue. -/
theorem Tidy.remove {b : Backlog} (h : b.Tidy none) {id : TaskId} (hstate : (b.task id).state = .pending) :
    b.remove id = (b.unlink id (b.task id).home, true) :=
  remove_eq_unlink (h.slot_eq_some hstate) (h.toKept.mem_queue_iff.2 (h.slot_eq_some hstate))

theorem Tidy.takeUp {b : Backlog} (h : b.Tidy none) {id : TaskId} (hstate : (b.task id).state = .pending) :
    (b.takeUp id).Tidy none := (h.unlink hstate).begin

/-- Between `b` and `c` one task has come to a status, and the others have kept theirs. -/
structure Brings (b c : Backlog) (id : TaskId) (status : Bool × TaskState × Nat) : Prop where
  status_eq (j : TaskId) : (c.task j).status = if j = id then status else (b.task j).status
  nextId_le : b.nextId ≤ c.nextId

namespace Brings

variable {b c d : Backlog} {id : TaskId} {status status' : Bool × TaskState × Nat}

theorem trans (h : b.Brings c id status) (h' : c.Brings d id status') : b.Brings d id status' where
  status_eq j := by
    rw [h'.status_eq, h.status_eq]
    split <;> rfl
  nextId_le := h.nextId_le.trans h'.nextId_le

theorem of_same (hstatus : ∀ j, (c.task j).status = (b.task j).status) (hnext : b.nextId ≤ c.nextId) (id : TaskId) :
    b.Brings c id (b.task id).status where
  status_eq j := by
    rw [hstatus]
    split <;> simp [*]
  nextId_le := hnext

/-- Other tasks that are pending remain so. -/
theorem pending (h : b.Brings c id status) (hid : (b.task id).state ≠ .pending) {j : TaskId}
    (hj : (b.task j).state = .pending) : (c.task j).state = .pending := by
  have hne : j ≠ id := fun heq => hid (heq ▸ hj)
  exact (Task.status_eq_iff.1 ((h.status_eq j).trans (if_neg hne))).2.1.trans hj

/-- A task that is submitted. -/
theorem enlist (b : Backlog) (now : Nat) (r : Request) (defaultPriority : Priority) :
    b.Brings (b.enlist now r defaultPriority) ⟨b.nextId⟩
      ((r.task defaultPriority ⟨b.nextId⟩ now).isRecurring, .pending, 0) where
  status_eq j := by
    rw [Accounted.task_enlist]
    split <;> rfl
  nextId_le := by
    rw [Accounted.nextId_enlist]
    exact Nat.le_succ _

theorem transition {source : TaskState} (h : (b.task id).state = source) (target : TaskState) :
    b.Brings (b.transition id source target).1 id ((b.task id).isRecurring, target, (b.task id).runs) where
  status_eq j := by
    rw [status_transition]
    by_cases hj : j = id <;> simp [hj, h]
  nextId_le := Nat.le_of_eq (nextId_transition ..).symm

theorem modify (b : Backlog) (id : TaskId) (f : Task → Task) : b.Brings (b.modify id f) id (f (b.task id)).status where
  status_eq j := by
    rw [task_modify]
    split <;> simp [*]
  nextId_le := Nat.le_refl _

theorem takeUp (h : (b.task id).state = .pending) :
    b.Brings (b.takeUp id) id ((b.task id).isRecurring, .executing, (b.task id).runs) := by
  have htask : (b.unlink id (b.task id).home).task id = { b.task id with slot := none } := by
    rw [task_unlink, if_pos rfl]
  have hunlink : b.Brings (b.unlink id (b.task id).home) id (b.task id).status := by
    refine .of_same (fun j => ?_) (Nat.le_of_eq (nextId_unlink ..).symm) id
    rw [task_unlink]
    split <;> rfl
  have hpending : ((b.unlink id (b.task id).home).task id).state = .pending := by
    rw [htask]
    exact h
  have hclaim := transition hpending .executing
  rw [htask] at hclaim
  exact hunlink.trans hclaim

private theorem requeue (hs : (b.task id).state = .executing) (completedAt : Nat) :
    b.Brings (b.requeue id completedAt) id ((b.task id).isRecurring, .pending, (b.task id).runs) := by
  have htask := task_replan b id completedAt
  have hexecuting : ((b.replan id completedAt).task id).state = .executing := by
    rw [htask]
    exact hs
  have hreturn := transition hexecuting .pending
  rw [htask] at hreturn
  have hqueue : ((b.replan id completedAt).transition id .executing .pending).1.Brings (b.requeue id completedAt) id
      (((b.replan id completedAt).transition id .executing .pending).1.task id).status := by
    refine .of_same (fun j => ?_) (Nat.le_of_eq (nextId_place ..).symm) id
    rw [task_place]
    split <;> rfl
  have hstatus := hreturn.status_eq id
  rw [if_pos rfl] at hstatus
  rw [hstatus] at hqueue
  exact ((modify b id _).trans hreturn).trans hqueue

/-- A task that is settled. -/
theorem complete (hslot : (b.task id).slot = none) (completedAt : Nat) :
    ∃ state, b.Brings (b.complete id completedAt).1 id ((b.task id).isRecurring, state, (b.task id).runs) ∧
      (state = (b.task id).state ∨ (b.task id).state = .executing ∧
        state = if (b.task id).isRecurring then .pending else .done) := by
  rcases complete_cases hslot completedAt with ⟨hr, hc⟩ | ⟨hr, hs, hc⟩ | ⟨hr, hs, hc⟩ <;> rw [hc, hr, ← hr]
  · by_cases hs : (b.task id).state = .executing
    · exact ⟨.done, transition hs .done, .inr ⟨hs, by simp [hr]⟩⟩
    · refine ⟨_, .of_same (fun j => ?_) (Nat.le_of_eq (nextId_transition ..).symm) id, .inl rfl⟩
      rw [status_transition, if_neg fun h => hs h.2]
  · exact ⟨.pending, requeue hs completedAt, .inr ⟨hs, by simp [hr]⟩⟩
  · exact ⟨_, modify b id _, .inl rfl⟩

end Brings

end TaskScheduling.Backlog
