import TaskScheduling.Proofs.Backlog.Accounted
import TaskScheduling.Proofs.Backlog.RunTimes

/-!
# Steps that queue nothing

`Backlog.Sheds b c` says that from `b` to `c` nothing has come into a queue and that what is still queued has its run
time as before, whatever has become of the states of the tasks.  Every single step of a cancellation is of this kind
(`Cancellation.sheds_step`), and so is every step of a clearance (`Clearance.sheds_step`).

* `Orderly.of_sheds`: queues in order stay in order.
* `Orderly.complete`: they also do when a run ends, after which its task may be queued again.
* `Orderly.exists_headRunAt`: nothing in a queue in order is earlier than its head.
-/

namespace TaskScheduling

namespace Backlog

structure Sheds (b c : Backlog) : Prop where
  kept : c.Kept
  queue_sublist (slot : QueueSlot) : (c.queue slot).Sublist (b.queue slot)
  runAt_eq (slot : QueueSlot) : ∀ id ∈ c.queue slot, (c.task id).runAt = (b.task id).runAt
  nextId_eq : c.nextId = b.nextId

namespace Sheds

variable {b c d : Backlog} {id : TaskId}

theorem refl (hb : b.Kept) : b.Sheds b := ⟨hb, fun _ => List.Sublist.refl _, fun _ _ _ => rfl, rfl⟩

theorem trans (h : b.Sheds c) (h' : c.Sheds d) : b.Sheds d where
  kept := h'.kept
  queue_sublist slot := (h'.queue_sublist slot).trans (h.queue_sublist slot)
  runAt_eq slot id hid := (h'.runAt_eq slot id hid).trans (h.runAt_eq slot id ((h'.queue_sublist slot).subset hid))
  nextId_eq := h'.nextId_eq.trans h.nextId_eq

/-- Who is in no queue does not come into one. -/
theorem slot_eq_none (h : b.Sheds c) (hb : b.Kept) (hslot : (b.task id).slot = none) : (c.task id).slot = none := by
  cases hs : (c.task id).slot with
  | none => rfl
  | some slot =>
    have hmem := (h.queue_sublist slot).subset (h.kept.mem_queue_iff.2 hs)
    rw [hb.mem_queue_iff, hslot] at hmem
    cases hmem

theorem transition {source target : TaskState} (hkept : (b.transition id source target).1.Kept) :
    b.Sheds (b.transition id source target).1 where
  kept := hkept
  queue_sublist slot := by simp only [queue_transition, List.Sublist.refl]
  runAt_eq _ j _ := runAt_transition b id source target j
  nextId_eq := nextId_transition b id source target

/-- A change of a task that is in no queue. -/
theorem modify (hb : b.Kept) (hid : id.index < b.nextId) (hslot : (b.task id).slot = none) {f : Task → Task}
    (hnone : (f (b.task id)).slot = none) (hident : (f (b.task id)).identity = (b.task id).identity) :
    b.Sheds (b.modify id f) where
  kept := hb.modify hid (hnone.trans hslot.symm) hident fun hsome => by
    rw [hslot] at hsome
    cases hsome
  queue_sublist slot := by simp only [queue_modify, List.Sublist.refl]
  runAt_eq slot j hj := by
    rw [queue_modify] at hj
    rw [task_modify, if_neg]
    rintro rfl
    rw [hb.mem_queue_iff, hslot] at hj
    cases hj
  nextId_eq := rfl

theorem remove (hb : b.Kept) (id : TaskId) : b.Sheds (b.remove id).1 where
  kept := hb.remove id
  queue_sublist := (Thins.remove b id).queue_sublist
  runAt_eq _ j _ := (Thins.remove b id).runAt_eq j
  nextId_eq := (Thins.remove b id).nextId_eq

theorem takeOut (hb : b.Kept) (scope : Scope) (slot : QueueSlot) : b.Sheds (b.takeOut scope slot).2 where
  kept := hb.takeOut scope slot
  queue_sublist := (Thins.takeOut b scope slot).queue_sublist
  runAt_eq _ j _ := (Thins.takeOut b scope slot).runAt_eq j
  nextId_eq := (Thins.takeOut b scope slot).nextId_eq

end Sheds

end Backlog

open Backlog

theorem Cancellation.sheds_step {b : Backlog} (hb : b.Kept) (id : TaskId) (c : Cancellation) :
    b.Sheds (c.step b id).1 := by
  cases c with
  | looking => exact .refl hb
  | claiming seen =>
    have hstep : ((claiming seen).step b id).1 = (b.transition id seen .cancelled).1 := by
      simp only [step]
      split <;> simp only [*]
    rw [hstep]
    exact .transition (hb.cancelled id seen)
  | unlinking => exact .remove hb id
  | ended claimed => exact .refl hb

theorem Clearance.sheds_step {b : Backlog} (hb : b.Kept) (scope : Scope) (c : Clearance) :
    b.Sheds (c.step scope b).1 := by
  cases c with
  | draining left drained =>
    cases left with
    | nil => exact .refl hb
    | cons slot left => exact .takeOut hb scope slot
  | marking left claimed =>
    cases left with
    | nil => exact .refl hb
    | cons id left =>
      have hstep : ((marking (id :: left) claimed).step scope b).1 = (b.transition id .pending .cancelled).1 := by
        simp only [step]
        split <;> simp only [*]
      rw [hstep]
      exact .transition (hb.cancelled id .pending)
  | ended claimed => exact .refl hb

namespace Backlog.Orderly

variable {b c : Backlog} {insertions : List TaskId} {latestTime : Nat} {id : TaskId}

theorem of_sheds (h : b.Orderly insertions latestTime) (hsheds : b.Sheds c) : c.Orderly insertions latestTime :=
  h.of_sublist hsheds.kept hsheds.queue_sublist hsheds.runAt_eq

/-- The end of a run of a task that is in no queue. -/
theorem complete (h : b.Orderly insertions latestTime) (hid : id.index < b.nextId) (hslot : (b.task id).slot = none)
    (completedAt : Nat) : ∃ insertions', (b.complete id completedAt).1.Orderly insertions' latestTime := by
  have hreplan : b.Sheds (b.replan id completedAt) := .modify h.toKept hid hslot hslot rfl
  rcases complete_cases hslot completedAt with ⟨-, hc⟩ | ⟨hr, -, hc⟩ | ⟨-, -, hc⟩ <;> rw [hc]
  · exact ⟨_, h.of_sheds (.transition (h.toKept.transition_of_ne id .done (by decide)))⟩
  · have hpending : (b.replan id completedAt).Sheds
        ((b.replan id completedAt).transition id .executing .pending).1 :=
      .transition (hreplan.kept.transition_of_ne id .pending (by decide))
    have hsheds := hreplan.trans hpending
    refine ⟨_, (h.of_sheds hsheds).place (hsheds.nextId_eq ▸ hid) (hsheds.slot_eq_none h.toKept hslot) ?_⟩
    rw [Task.isRecurring_eq_of_identity (identity_transition ..), task_replan]
    exact hr
  · exact ⟨_, h.of_sheds hreplan⟩

theorem exists_headRunAt (h : b.Orderly insertions latestTime) {slot : QueueSlot} (hid : id ∈ b.queue slot) :
    ∃ t, b.headRunAt slot = some t ∧ t ≤ (b.task id).runAt := by
  obtain ⟨p, kind⟩ := slot
  have horder : QueueSet.InOrder b.tasks (b.queue ⟨p, kind⟩) := by
    cases kind with
    | ready => exact (h.inTurn.ready p).imp fun hxy => hxy.1
    | future => exact h.in_order p
  obtain ⟨f, hf, hle⟩ := QueueSet.exists_head horder hid
  exact ⟨_, by rw [headRunAt, hf]; rfl, hle⟩

end Backlog.Orderly

end TaskScheduling
