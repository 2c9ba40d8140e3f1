import TaskScheduling.Proofs.Dispatch.Parking

/-!
# A hand-off that fails

The dispatcher takes a task out of its queue and claims it before it hands it to the worker that it reserved.  If that
worker has left the pool, the claim is undone and the task is queued again, in the way in which every task is queued:
behind all ready tasks, or behind all future tasks that are not later.  So the task is what it was, but it lost its
place to those that were queued after it and are not to run later, its `peers`.

* `Backlog.Kept.putsBehind`: what taking the first task out of its queue and queueing it again amounts to.
* `Dispatcher.handOff_fails`: what is left of a hand-off whose worker has left.
-/

namespace TaskScheduling

namespace Backlog

variable {b c : Backlog} {id : TaskId} {now : Nat} {lowWait : Option Nat}

/-- The other tasks in the queue of a task behind which it would be queued now, and which are not ahead of it by their
run time: all of them in a ready queue, those with the same run time in a future queue. -/
def peers (b : Backlog) (id : TaskId) : List TaskId :=
  (b.queue (b.task id).home).filter fun j =>
    j ≠ id ∧ ((b.task id).immediate = true ∨ (b.task j).runAt = (b.task id).runAt)

/-- The tasks in the future queue of a task that are to run later. -/
def later (b : Backlog) (id : TaskId) : List TaskId :=
  (b.queue (b.task id).home).filter fun j => (b.task id).immediate = false ∧ (b.task id).runAt < (b.task j).runAt

/-- From `b` to `c`, the first task of a queue has gone behind its peers, and nothing else has happened. -/
structure PutsBehind (b : Backlog) (id : TaskId) (c : Backlog) : Prop where
  task_eq (j : TaskId) : c.task j = b.task j
  nextId_eq : c.nextId = b.nextId
  queue_eq_of_ne (slot : QueueSlot) : slot ≠ (b.task id).home → c.queue slot = b.queue slot
  queue_before : b.queue (b.task id).home = id :: (b.peers id ++ b.later id)
  queue_after : c.queue (b.task id).home = b.peers id ++ id :: b.later id

/-! ### What is shown next -/

/-- The task that is shown next is the first of its queue. -/
theorem head?_of_nextDue (h : b.Kept) (hnext : b.nextDue now lowWait = some id) :
    (b.queue (b.task id).home).head? = some id := by
  obtain ⟨p, hpeek⟩ := peekDue_of_nextDue hnext
  have hhead : ∃ k, (b.queue ⟨p, k⟩).head? = some id := by
    unfold QueueSet.peekDue at hpeek
    split at hpeek
    · next r f hr hf =>
      split at hpeek
      · obtain rfl := Option.some.inj hpeek
        exact ⟨.future, (Option.filter_eq_some_iff.1 hf).1⟩
      · obtain rfl := Option.some.inj hpeek
        exact ⟨.ready, hr⟩
    · next r hr _ =>
      obtain rfl := Option.some.inj hpeek
      exact ⟨.ready, hr⟩
    · exact ⟨.future, (Option.filter_eq_some_iff.1 hpeek).1⟩
  obtain ⟨k, hk⟩ := hhead
  rwa [h.task_home_of_mem (List.mem_of_mem_head? hk)]

/-- What is shown next depends on the tasks and on the order in which they are queued. -/
theorem nextDue_congr (htask : ∀ j, c.task j = b.task j) (hqueue : ∀ slot, c.queue slot = b.queue slot) (now : Nat)
    (lowWait : Option Nat) : c.nextDue now lowWait = b.nextDue now lowWait := by
  have hpeek (p : Priority) : (c.queueSet p).peekDue c.tasks now = (b.queueSet p).peekDue b.tasks now := by
    have hget (j : TaskId) : c.tasks.get j = b.tasks.get j := htask j
    have hready : (c.queueSet p).ready = (b.queueSet p).ready := hqueue ⟨p, .ready⟩
    have hfuture : (c.queueSet p).future = (b.queueSet p).future := hqueue ⟨p, .future⟩
    unfold QueueSet.peekDue QueueSet.dueHead
    simp only [hget, hready, hfuture]
  have hhigh := hpeek .high
  have hlow := hpeek .low
  have hstarvable := hpeek .starvable
  simp only [queueSet] at hhigh hlow hstarvable
  unfold nextDue
  simp only [hhigh, hlow, hstarvable, htask]

/-! ### Queueing again -/

/-- A claim that is taken back leaves all tasks as they were. -/
theorem transition_back (hstate : (b.task id).state = .pending) :
    ((b.transition id .pending .executing).1.transition id .executing .pending).2 = true ∧
    ∀ j, ((b.transition id .pending .executing).1.transition id .executing .pending).1.task j = b.task j := by
  have hclaimed : ((b.transition id .pending .executing).1.task id).state = .executing := by
    rw [task_transition_eq, if_pos ⟨rfl, hstate⟩]
  refine ⟨by rw [transition_snd, hclaimed, decide_eq_true rfl], fun j => ?_⟩
  rw [task_transition_eq, hclaimed, task_transition_eq]
  by_cases hj : j = id
  · rw [hj, if_pos ⟨rfl, rfl⟩, if_pos ⟨rfl, hstate⟩, ← hstate]
  · simp only [hj, false_and, ↓reduceIte]

theorem peers_and_later_of_immediate {rest : List TaskId} (hqueue : b.queue (b.task id).home = id :: rest)
    (hne : ∀ x ∈ rest, x ≠ id) (hi : (b.task id).immediate = true) : b.peers id = rest ∧ b.later id = [] := by
  have hpeers : b.peers id = rest := by
    rw [peers, hqueue, List.filter_cons_of_neg (by simp)]
    exact List.filter_eq_self.2 fun x hx => by simpa [hi] using hne x hx
  have hlater : b.later id = [] := List.filter_eq_nil_iff.2 fun x _ => by simp [hi]
  exact ⟨hpeers, hlater⟩

theorem peers_and_later_of_not_immediate {xs ys : List TaskId} (hqueue : b.queue (b.task id).home = id :: (xs ++ ys))
    (hne : ∀ x ∈ xs ++ ys, x ≠ id) (hi : (b.task id).immediate = false)
    (hxs : ∀ x ∈ xs, (b.task x).runAt = (b.task id).runAt) (hys : ∀ y ∈ ys, (b.task id).runAt < (b.task y).runAt) :
    b.peers id = xs ∧ b.later id = ys := by
  have hpeers : b.peers id = xs := by
    rw [peers, hqueue, List.filter_cons_of_neg (by simp), List.filter_append,
      List.filter_eq_self.2 fun x hx => by simp [hne x (List.mem_append_left ys hx), hxs x hx],
      List.filter_eq_nil_iff.2 fun y hy => by simpa [hi] using fun _ => (hys y hy).ne', List.append_nil]
  have hlater : b.later id = ys := by
    rw [later, hqueue, List.filter_cons_of_neg (by simp), List.filter_append,
      List.filter_eq_nil_iff.2 fun x hx => by simp [hxs x hx],
      List.filter_eq_self.2 fun y hy => by simp [hi, hys y hy], List.nil_append]
  exact ⟨hpeers, hlater⟩

/-- The first task of a queue goes behind its peers when it has left the queue and is queued again. -/
theorem Kept.putsBehind (h : b.Kept) (hhead : (b.queue (b.task id).home).head? = some id) (hc : c.Kept)
    (htask : ∀ j, c.task j = (b.unlink id (b.task id).home).task j) (hnext : c.nextId = b.nextId)
    (hqueue : ∀ slot, c.queue slot = (b.unlink id (b.task id).home).queue slot) : b.PutsBehind id (c.place id) := by
  have hid : c.task id = { b.task id with slot := none } := by rw [htask, task_unlink, if_pos rfl]
  have hhome : (c.task id).home = (b.task id).home := by rw [hid]; rfl
  have hslot := h.mem_queue_iff.1 (List.mem_of_mem_head? hhead)
  obtain ⟨rest, hrest⟩ := List.head?_eq_some_iff.1 hhead
  have hne : ∀ x ∈ rest, x ≠ id := fun x hx heq =>
    (List.nodup_cons.1 (hrest ▸ h.nodup_queue (b.task id).home)).1 (heq ▸ hx)
  have hleft : c.queue (b.task id).home = rest := by rw [hqueue, queue_unlink, if_pos rfl, hrest, List.erase_cons_head]
  have hqueues : b.queue (b.task id).home = id :: (b.peers id ++ b.later id) ∧
      (c.place id).queue (b.task id).home = b.peers id ++ id :: b.later id := by
    cases hi : (b.task id).immediate with
    | true =>
      have hi' : (c.task id).immediate = true := by rw [hid]; exact hi
      obtain ⟨hpeers, hlater⟩ := peers_and_later_of_immediate hrest hne hi
      rw [hpeers, hlater, List.append_nil, ← hhome, queue_place_of_immediate hi', hhome, hleft]
      exact ⟨hrest, rfl⟩
    | false =>
      have hi' : (c.task id).immediate = false := by rw [hid]; exact hi
      have hfuture : (b.task id).home = ⟨(b.task id).priority, .future⟩ := by simp [Task.home, Task.queueKind, hi]
      have horder := h.in_order (b.task id).priority
      rw [← hfuture, hrest] at horder
      obtain ⟨hfirst, horder⟩ := List.pairwise_cons.1 horder
      obtain ⟨xs, ys, rfl, hxs, hys⟩ := QueueSet.exists_split horder (b.task id).runAt
      have hxs' : ∀ x ∈ xs, (b.task x).runAt = (b.task id).runAt := fun x hx =>
        Nat.le_antisymm (hxs x hx) (hfirst x (List.mem_append_left ys hx))
      have htime (j : TaskId) : (c.tasks.get j).runAt = (b.task j).runAt := by
        rw [show c.tasks.get j = c.task j from rfl, htask, runAt_unlink]
      obtain ⟨hpeers, hlater⟩ := peers_and_later_of_not_immediate hrest hne hi hxs' hys
      rw [hpeers, hlater, ← hhome, queue_place_of_not_immediate hi' (hc.in_order _), hhome, hleft]
      refine ⟨hrest, QueueSet.insertByRunAt_append ?_ ?_⟩
      · exact fun x hx => by rw [htime, hid]; exact hxs x hx
      · exact fun y hy => by rw [htime, hid]; exact hys y hy
  refine ⟨fun j => ?_, (nextId_place c id).trans hnext, fun slot hslot => ?_, hqueues.1, hqueues.2⟩
  · rw [task_place, htask, task_unlink]
    split
    · next hj => rw [hj, hhome, ← hslot]
    · rfl
  · rw [queue_place_of_ne c id (hhome ▸ hslot), hqueue, queue_unlink, if_neg hslot]

namespace PutsBehind

variable (h : b.PutsBehind id c)
include h

/-- Nothing has changed exactly where nobody had to be let through. -/
theorem queue_eq_iff : (∀ slot, c.queue slot = b.queue slot) ↔ b.peers id = [] := by
  constructor
  · intro heq
    have hhome := heq (b.task id).home
    rw [h.queue_before, h.queue_after] at hhome
    by_contra hpeers
    obtain ⟨x, xs, hx⟩ := List.exists_cons_of_ne_nil hpeers
    rw [hx, List.cons_append] at hhome
    have hmem : x ∈ b.peers id := hx ▸ List.mem_cons_self
    have hne := (List.mem_filter.1 hmem).2
    simp only [decide_eq_true_eq] at hne
    exact hne.1 (List.cons.inj hhome).1
  · intro hpeers slot
    by_cases hslot : slot = (b.task id).home
    · rw [hslot, h.queue_before, h.queue_after, hpeers]
      rfl
    · exact h.queue_eq_of_ne slot hslot

/-- Whoever was let through is shown first. -/
theorem nextDue_ne (hc : c.Kept) (hpeers : b.peers id ≠ []) (now : Nat) (lowWait : Option Nat) :
    c.nextDue now lowWait ≠ some id := by
  intro hnext
  have hhead := head?_of_nextDue hc hnext
  obtain ⟨x, xs, hx⟩ := List.exists_cons_of_ne_nil hpeers
  have hmem : x ∈ b.peers id := hx ▸ List.mem_cons_self
  have hne := (List.mem_filter.1 hmem).2
  simp only [decide_eq_true_eq] at hne
  rw [h.task_eq, h.queue_after, hx, List.cons_append, List.head?_cons] at hhead
  exact hne.1 (Option.some.inj hhead)

end PutsBehind

end Backlog

namespace Dispatcher

open Backlog

variable {s : PooledScheduler} {id : TaskId} {worker now wait : Nat}

/-- When the worker has left that was reserved for the picked task, the dispatcher takes this task out, claims it, fails
to hand it over, and queues it again.  All tasks are then what they were before, and so are all queues but its own, in
which the task has gone behind its peers.  If it had none, the order is the same as before, and otherwise somebody else
is dispatched first. -/
theorem handOff_fails (h : s.backlog.Kept) (hstate : (s.backlog.task id).state = .pending)
    (hpick : s.backlog.nextDue now (some wait) = some id) (hleft : s.pool.isRegistered worker = false) :
    ∃ c : Backlog, advance 5 (s, unlinking id worker) = ({ s with backlog := c }, checking) ∧ c.Kept ∧
      s.backlog.PutsBehind id c ∧ ((∀ slot, c.queue slot = s.backlog.queue slot) ↔ s.backlog.peers id = []) ∧
      (s.backlog.peers id = [] → ∀ t lowWait, c.nextDue t lowWait = s.backlog.nextDue t lowWait) ∧
      (s.backlog.peers id ≠ [] → ∀ t lowWait, c.nextDue t lowWait ≠ some id) := by
  have hhead := head?_of_nextDue h hpick
  have hmem := List.mem_of_mem_head? hhead
  have hslot := h.mem_queue_iff.1 hmem
  -- the task in hand, then claimed, then with the claim taken back
  let taken := s.backlog.unlink id (s.backlog.task id).home
  let claimed := (taken.transition id .pending .executing).1
  let restored := (claimed.transition id .executing .pending).1
  have hunlinked : taken.task id = { s.backlog.task id with slot := none } := by rw [task_unlink, if_pos rfl]
  obtain ⟨hback, htask⟩ := transition_back (b := taken) (by rw [hunlinked]; exact hstate)
  have hrestored : claimed.transition id .executing .pending = (restored, true) := Prod.ext rfl hback
  have hkept : restored.Kept :=
    ((h.unlink hslot).transition_of_ne id .executing (by decide)).transition_of_ne id .pending (by decide)
  have hfree : (restored.task id).slot = none := by rw [htask, hunlinked]
  have hrun : advance 5 (s, unlinking id worker) = ({ s with backlog := restored.place id }, checking) := by
    have hhand : s.pool.hand worker id = (s.pool, false) := by
      rw [Pool.hand, hleft]
      rfl
    have hremove : s.backlog.remove id = (taken, true) := remove_eq_unlink hslot hmem
    have hbegin : taken.begin id = (claimed, true) := begin_unlink hstate
    simp only [advance, step, hremove, hbegin, hhand, hrestored, add_eq_ok hfree]
  have hputs : s.backlog.PutsBehind id (restored.place id) := by
    refine h.putsBehind hhead hkept htask ?_ fun slot => ?_
    · rw [nextId_transition, nextId_transition, nextId_unlink]
    · rw [queue_transition, queue_transition]
  have hc := hkept.place (hkept.index_lt (by rw [htask, hunlinked]; simp [hstate])) hfree
  exact ⟨_, hrun, hc, hputs, hputs.queue_eq_iff,
    fun hpeers t lowWait => nextDue_congr hputs.task_eq (hputs.queue_eq_iff.2 hpeers) t lowWait,
    fun hpeers t lowWait => hputs.nextDue_ne hc hpeers t lowWait⟩

/-- Two high tasks, submitted at 0 and at 1, and a worker that was reserved and has left. -/
private def deserted : PooledScheduler :=
  { PooledScheduler.start (.start (.manual 1))
      (((Pool.start 2 .zero).acquire .high 0 1 10).1.register.1.removeWorker 0) (.plain "w") .bare .empty .high 10 with
    backlog := (Backlog.empty.enlist 0 ⟨.zero, .oneTime, none, none⟩ .high).enlist 1 ⟨.zero, .oneTime, none, none⟩ .high }

private theorem kept_deserted : deserted.backlog.Kept := by
  have hfirst := (Backlog.Accounted.empty .high 0).enlist (Nat.le_refl 0) ⟨.zero, .oneTime, none, none⟩
  have hsecond := hfirst.enlist (Nat.zero_le 1) ⟨.zero, .oneTime, none, none⟩
  exact hsecond.tidy.toKept

/-- The task that was submitted first stands behind the second one after the hand-off, and is not the next. -/
theorem handOff_fails_deserted :
    deserted.backlog.nextDue 1 (some 10) = some ⟨0⟩ ∧ deserted.backlog.queue ⟨.high, .ready⟩ = [⟨0⟩, ⟨1⟩] ∧
    ∃ c : Backlog, advance 5 (deserted, unlinking ⟨0⟩ 0) = ({ deserted with backlog := c }, checking) ∧
      c.queue ⟨.high, .ready⟩ = [⟨1⟩, ⟨0⟩] ∧ ∀ t lowWait, c.nextDue t lowWait ≠ some ⟨0⟩ := by
  have hpick : deserted.backlog.nextDue 1 (some 10) = some ⟨0⟩ := by cbv
  have hhome : (deserted.backlog.task ⟨0⟩).home = ⟨.high, .ready⟩ := by cbv
  have hpeers : deserted.backlog.peers ⟨0⟩ = [⟨1⟩] := by decide +kernel
  have hlater : deserted.backlog.later ⟨0⟩ = [] := by decide +kernel
  have hleft : deserted.pool.isRegistered 0 = false := by cbv
  obtain ⟨c, hrun, -, hputs, -, -, hovertaken⟩ := handOff_fails kept_deserted (by cbv) hpick hleft
  have hafter := hputs.queue_after
  rw [hhome, hpeers, hlater] at hafter
  exact ⟨hpick, by cbv, c, hrun, hafter, hovertaken (by rw [hpeers]; exact List.cons_ne_nil _ _)⟩

end Dispatcher

end TaskScheduling
