import TaskScheduling.Proofs.Backlog.RunTimes
import TaskScheduling.Proofs.Backlog.Without

/-!
# Queries that agree

A backlog is asked what is due and which run times are to come.  Each of these queries looks at the heads of the queues,
or searches a queue, in a way of its own.  Where the ready queues are in order of run time as well, and ready tasks have
had their time, they all tell the same story about everything queued.

Taking out what is due is a loop: a task that was shown may be gone from its queue by the time that it is taken, and
then there is another pass (`QueueSet.Pops`).  With nobody else around there is either one pass or no end
(`QueueSet.pops_iff`).

* `nextRunAt_eq_min?`, `nextRunAfter_eq_min?`: the run times to come are minima over everything queued.
* `nextDue_eq_none_iff_nextRunAt`: nothing is due exactly when the next run time lies ahead.
* `without_of_popDue`: one task is taken out, and the others stay as they are.
-/

namespace TaskScheduling

namespace QueueSet

variable {p : Priority} {s : QueueSet p} {tasks : Table} {now : Nat} {id : TaskId}

/-! ### Minima -/

theorem earlier_min? (xs ys : List Nat) : earlier xs.min? ys.min? = (xs ++ ys).min? := by
  cases hx : xs.min? with
  | none =>
    rw [List.min?_eq_none_iff.1 hx]
    rfl
  | some a =>
    cases hy : ys.min? with
    | none =>
      rw [List.min?_eq_none_iff.1 hy, List.append_nil, hx]
      rfl
    | some c =>
      obtain ⟨ha, hleft⟩ := List.min?_eq_some_iff.1 hx
      obtain ⟨hc, hright⟩ := List.min?_eq_some_iff.1 hy
      refine (List.min?_eq_some_iff.2 ⟨?_, fun t ht => ?_⟩).symm
      · rw [List.mem_append]
        rcases Nat.le_total a c with hle | hle
        · exact .inl (by rwa [Nat.min_eq_left hle])
        · exact .inr (by rwa [Nat.min_eq_right hle])
      · rcases List.mem_append.1 ht with ht | ht
        · exact (Nat.min_le_left a c).trans (hleft t ht)
        · exact (Nat.min_le_right a c).trans (hright t ht)

/-- The first run time of a queue in order is that of its head. -/
theorem InOrder.min?_map {queue : List TaskId} (h : InOrder tasks queue) :
    (queue.map fun id => (tasks.get id).runAt).min? = queue.head?.map fun id => (tasks.get id).runAt := by
  rw [List.min?_eq_head?, List.head?_map]
  exact List.pairwise_map.2 (h.imp fun hle => Nat.min_eq_left hle)

theorem nextRunAt_eq_min? (hready : InOrder tasks s.ready) (hfuture : InOrder tasks s.future) :
    s.nextRunAt tasks = (s.ids.map fun id => (tasks.get id).runAt).min? := by
  rw [nextRunAt, ← hready.min?_map, ← hfuture.min?_map, earlier_min?, ids, List.map_append]

theorem nextRunAfter_eq_min? (hfuture : InOrder tasks s.future) (hpast : ∀ id ∈ s.ready, (tasks.get id).runAt ≤ now) :
    s.nextRunAfter tasks now = ((s.ids.map fun id => (tasks.get id).runAt).filter (now < ·)).min? := by
  -- ready tasks had their time, so that only future ones are left
  have hnone : s.ready.filter (fun id => decide (now < (tasks.get id).runAt)) = [] :=
    List.filter_eq_nil_iff.2 fun id hid => by simpa using hpast id hid
  have hlate : InOrder tasks (s.future.filter fun id => now < (tasks.get id).runAt) := List.Pairwise.filter _ hfuture
  rw [nextRunAfter_eq hfuture, ← List.head?_filter, ← hlate.min?_map, List.filter_map, ids, List.filter_append]
  simp only [Function.comp_def, hnone, List.nil_append]

/-! ### The loop -/

/-- What is shown as due is taken out; if the set turns out not to hold it any more, there is another pass.  The loop
ends after so many passes with what it has found. -/
inductive Pops (now : Nat) : QueueSet p → Table → Nat → Option (TaskId × QueueSet p × Table) → Prop where
  | nothing {s : QueueSet p} {tasks : Table} : s.peekDue tasks now = none → Pops now s tasks 1 none
  | taken {s s' : QueueSet p} {tasks tasks' : Table} {id : TaskId} :
      s.peekDue tasks now = some id → s.remove tasks id = (s', tasks', true) →
      Pops now s tasks 1 (some (id, s', tasks'))
  | again {s s' : QueueSet p} {tasks tasks' : Table} {id : TaskId} {passes : Nat}
      {found : Option (TaskId × QueueSet p × Table)} :
      s.peekDue tasks now = some id → s.remove tasks id = (s', tasks', false) → Pops now s' tasks' passes found →
      Pops now s tasks (passes + 1) found

theorem remove_eq_self (h : (s.remove tasks id).2.2 = false) : s.remove tasks id = (s, tasks, false) := by
  unfold remove at h ⊢
  split
  · rfl
  · next slot hslot =>
    simp only [hslot] at h
    split
    · next hheld =>
      rw [if_pos hheld] at h
      cases h
    · rfl

/-- The loop ends where the set holds what it shows, and then after one pass. -/
theorem pops_iff {passes : Nat} {found : Option (TaskId × QueueSet p × Table)} :
    Pops now s tasks passes found ↔
      (∀ id, s.peekDue tasks now = some id → (s.remove tasks id).2.2 = true) ∧ passes = 1 ∧
        found = s.popDue tasks now := by
  constructor
  · intro h
    induction h with
    | nothing hpeek => simp [popDue, hpeek]
    | taken hpeek hremove => simp [popDue, hpeek, hremove]
    | again hpeek hremove _ ih =>
      -- a pass that takes nothing out leaves everything as it was
      have hsame := remove_eq_self (congrArg (·.2.2) hremove)
      rw [hremove] at hsame
      simp only [Prod.mk.injEq] at hsame
      obtain ⟨rfl, rfl, -⟩ := hsame
      have htrue := ih.1 _ hpeek
      rw [hremove] at htrue
      cases htrue
  · rintro ⟨hheld, rfl, rfl⟩
    cases hpeek : s.peekDue tasks now with
    | none =>
      rw [show s.popDue tasks now = none by simp [popDue, hpeek]]
      exact .nothing hpeek
    | some id =>
      have htrue := hheld id hpeek
      rcases hremove : s.remove tasks id with ⟨s', tasks', _ | _⟩
      · rw [hremove] at htrue
        cases htrue
      · rw [show s.popDue tasks now = some (id, s', tasks') by simp [popDue, hpeek, hremove]]
        exact .taken hpeek hremove

end QueueSet

namespace Backlog

variable {b c : Backlog} {p : Priority} {now : Nat} {id : TaskId}

/-- The run times of everything queued. -/
def runTimes (b : Backlog) : List Nat := b.queued.map fun id => (b.task id).runAt

section Agreement

variable (h : b.Kept) (hready : ∀ p, QueueSet.InOrder b.tasks (b.queue ⟨p, .ready⟩))
  (hpast : ∀ p, ∀ id ∈ b.queue ⟨p, .ready⟩, (b.task id).runAt ≤ now)

include h hready in
theorem nextRunAt_eq_min? : b.nextRunAt = b.runTimes.min? := by
  have hset (q : Priority) := QueueSet.nextRunAt_eq_min? (s := b.queueSet q) (hready q) (h.in_order q)
  have hhigh := hset .high
  have hlow := hset .low
  have hstarvable := hset .starvable
  simp only [queueSet] at hhigh hlow hstarvable
  simp only [nextRunAt, hhigh, hlow, hstarvable, QueueSet.earlier_min?, runTimes, queued, List.map_append,
    List.append_assoc]
  rfl

include h hpast in
theorem nextRunAfter_eq_min? : b.nextRunAfter now = (b.runTimes.filter (now < ·)).min? := by
  have hset (q : Priority) := QueueSet.nextRunAfter_eq_min? (s := b.queueSet q) (h.in_order q) (hpast q)
  have hhigh := hset .high
  have hlow := hset .low
  have hstarvable := hset .starvable
  simp only [queueSet] at hhigh hlow hstarvable
  simp only [nextRunAfter, hhigh, hlow, hstarvable, QueueSet.earlier_min?, runTimes, queued, List.map_append,
    List.filter_append, List.append_assoc]
  rfl

include hpast in
/-- Where ready tasks have had their time, it is the time alone that counts. -/
theorem eligible_iff_runAt_le : b.Eligible now id ↔ id ∈ b.queued ∧ (b.task id).runAt ≤ now := by
  rw [mem_queued_iff]
  constructor
  · rintro ⟨⟨q, kind⟩, hmem, hdue⟩
    refine ⟨⟨_, hmem⟩, ?_⟩
    rcases hdue with rfl | hdue
    · exact hpast q id hmem
    · exact hdue
  · rintro ⟨⟨slot, hmem⟩, hdue⟩
    exact ⟨slot, hmem, .inr hdue⟩

include h hready hpast in
/-- Nothing is due exactly when the next run time, if there is one, lies ahead. -/
theorem nextDue_eq_none_iff_nextRunAt (lowWait : Option Nat) :
    b.nextDue now lowWait = none ↔ ∀ t, b.nextRunAt = some t → now < t := by
  rw [nextDue_eq_none_iff h, nextRunAt_eq_min? h hready]
  simp only [eligible_iff_runAt_le hpast, not_and, Nat.not_le]
  constructor
  · intro hlate t ht
    obtain ⟨hmem, -⟩ := List.min?_eq_some_iff.1 ht
    obtain ⟨id, hid, rfl⟩ := List.mem_map.1 hmem
    exact hlate id hid
  · intro hlate id hid
    have hmem : (b.task id).runAt ∈ b.runTimes := List.mem_map_of_mem hid
    cases ht : b.runTimes.min? with
    | none =>
      rw [List.min?_eq_none_iff.1 ht] at hmem
      cases hmem
    | some t => exact (hlate t ht).trans_le ((List.min?_eq_some_iff.1 ht).2 _ hmem)

end Agreement

/-! ### Taking out -/

theorem nextDue_eq_none_iff_popDue (h : b.Kept) (now : Nat) (lowWait : Option Nat) :
    b.nextDue now lowWait = none ↔ b.popDue now = none := by
  rw [popDue_eq_nextDue h, Option.map_eq_none_iff, nextDue_eq_none_iff h, nextDue_eq_none_iff h]

/-- Between `b` and `c` a task has left its queue, and nothing else has changed. -/
structure Yields (b : Backlog) (id : TaskId) (c : Backlog) : Prop where
  mem_queued : id ∈ b.queued
  without : b.Without id c
  task_self : c.task id = { b.task id with slot := none }

theorem Eligible.yields (hid : b.Eligible now id) (h : b.Kept) : b.Yields id (b.unlink id (b.task id).home) where
  mem_queued := hid.mem_queued
  without := h.without_unlink (h.eligible_iff.1 hid).1
  task_self := by rw [task_unlink, if_pos rfl]

theorem yields_of_popDue (h : b.Kept) (hpop : b.popDue now = some (id, c)) : b.Yields id c := by
  rw [popDue_eq_nextDue h] at hpop
  obtain ⟨j, hnext, hj⟩ := Option.map_eq_some_iff.1 hpop
  obtain ⟨rfl, rfl⟩ := Prod.mk.inj hj
  exact (eligible_of_nextDue h hnext).yields h

/-- A queue set finds the task that it shows. -/
theorem map_fst_popDue_queueSet (h : b.Kept) (p : Priority) (now : Nat) :
    ((b.queueSet p).popDue b.tasks now).map Prod.fst = (b.queueSet p).peekDue b.tasks now := by
  have hset := congrArg (Option.map Prod.fst) (popDue_queueSet h p now)
  rw [Option.map_map, Option.map_map] at hset
  simpa [Function.comp_def] using hset

theorem yields_of_popDue_queueSet (h : b.Kept) {s : QueueSet p} {tasks : Table}
    (hpop : (b.queueSet p).popDue b.tasks now = some (id, s, tasks)) : b.Yields id (b.withQueueSet s tasks) := by
  have hset := popDue_queueSet h p now
  rw [hpop, Option.map_some] at hset
  obtain ⟨j, hpeek, hj⟩ := Option.map_eq_some_iff.1 hset.symm
  obtain ⟨rfl, hc⟩ := Prod.mk.inj hj
  rw [← hc]
  exact (eligible_of_peekDue h hpeek).1.yields h

/-- Where the books are kept the loop of a queue set ends, after one pass. -/
theorem Kept.pops_iff (h : b.Kept) {passes : Nat} {found : Option (TaskId × QueueSet p × Table)} :
    QueueSet.Pops now (b.queueSet p) b.tasks passes found ↔
      passes = 1 ∧ found = (b.queueSet p).popDue b.tasks now := by
  rw [QueueSet.pops_iff, and_iff_right]
  intro id hpeek
  rw [remove_of_peekDue h hpeek]

end Backlog

end TaskScheduling
