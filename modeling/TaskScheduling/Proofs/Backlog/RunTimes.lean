import TaskScheduling.Proofs.Backlog.Due

/-!
# Run times to come

When a backlog is asked for its next run time, the answer is not later than that of any future task
(`exists_nextRunAt`), and the next run time after a given one is not later than that of any future task which comes
after it (`exists_nextRunAfter`).  While no future task comes due, the task shown as due stays the same
(`nextDue_eq_of_quiet`).

The next run time is found at the heads of the queues, one after the other (`nextRunAt_eq_foldl`).
-/

namespace TaskScheduling

namespace QueueSet

theorem mem_earlier {x y : Option Nat} {t : Nat} (h : earlier x y = some t) : x = some t ∨ y = some t := by
  cases x with
  | none => exact .inr h
  | some a =>
    cases y with
    | none => exact .inl h
    | some c =>
      simp only [earlier, Option.some.injEq] at h ⊢
      omega

/-- The earlier of two times is not later than either. -/
theorem exists_earlier {x y : Option Nat} {t : Nat} (h : (∃ a, x = some a ∧ a ≤ t) ∨ ∃ a, y = some a ∧ a ≤ t) :
    ∃ a, earlier x y = some a ∧ a ≤ t := by
  rcases h with ⟨a, rfl, ha⟩ | ⟨a, rfl, ha⟩
  · cases y with
    | none => exact ⟨a, rfl, ha⟩
    | some c => exact ⟨min a c, rfl, by omega⟩
  · cases x with
    | none => exact ⟨a, rfl, ha⟩
    | some c => exact ⟨min c a, rfl, by omega⟩

theorem earlier_assoc (x y z : Option Nat) : earlier (earlier x y) z = earlier x (earlier y z) := by
  cases x <;> cases y <;> cases z <;> first | rfl | exact congrArg some (Nat.min_assoc ..)

/-- The head of a queue in order is not later than what is behind it. -/
theorem exists_head {tasks : Table} {queue : List TaskId} (h : InOrder tasks queue) {id : TaskId}
    (hid : id ∈ queue) : ∃ f, queue.head? = some f ∧ (tasks.get f).runAt ≤ (tasks.get id).runAt := by
  cases queue with
  | nil => cases hid
  | cons f rest =>
    refine ⟨f, rfl, ?_⟩
    rcases List.mem_cons.1 hid with rfl | hid
    · exact Nat.le_refl _
    · exact (List.pairwise_cons.1 h).1 id hid

end QueueSet

namespace Backlog

variable {b : Backlog} {p : Priority} {now t : Nat} {id : TaskId}

private theorem exists_earlier_of_queueSet {f : (p : Priority) → Option Nat} (h : ∃ a, f p = some a ∧ a ≤ t) :
    ∃ a, QueueSet.earlier (f .high) (QueueSet.earlier (f .low) (f .starvable)) = some a ∧ a ≤ t := by
  cases p with
  | high => exact QueueSet.exists_earlier (.inl h)
  | low => exact QueueSet.exists_earlier (.inr (QueueSet.exists_earlier (.inl h)))
  | starvable => exact QueueSet.exists_earlier (.inr (QueueSet.exists_earlier (.inr h)))

/-- The head of a future queue is not later than what is behind it. -/
theorem Kept.exists_head (h : b.Kept) (hid : id ∈ b.queue ⟨p, .future⟩) :
    ∃ f, (b.queue ⟨p, .future⟩).head? = some f ∧ (b.task f).runAt ≤ (b.task id).runAt :=
  QueueSet.exists_head (h.in_order p) hid

/-- The run time of the task at the head of a queue. -/
def headRunAt (b : Backlog) (slot : QueueSlot) : Option Nat := (b.queue slot).head?.map fun id => (b.task id).runAt

/-- The next run time is the earliest one at the head of any queue. -/
theorem nextRunAt_eq_foldl (b : Backlog) :
    b.nextRunAt = Scope.everything.queues.foldl (fun found slot => QueueSet.earlier found (b.headRunAt slot)) none := by
  have hset (p : Priority) : (b.queueSet p).nextRunAt b.tasks =
      QueueSet.earlier (b.headRunAt ⟨p, .ready⟩) (b.headRunAt ⟨p, .future⟩) := rfl
  have hhigh := hset .high
  have hlow := hset .low
  have hstarvable := hset .starvable
  simp only [queueSet] at hhigh hlow hstarvable
  simp only [nextRunAt, hhigh, hlow, hstarvable, ← QueueSet.earlier_assoc]
  rfl

/-- What a queue set shows is not later than any future task that is due. -/
theorem runAt_le_of_peekDue (h : b.Kept) (hpeek : (b.queueSet p).peekDue b.tasks now = some id) {j : TaskId}
    (hj : j ∈ b.queue ⟨p, .future⟩) (hdue : (b.task j).runAt ≤ now) : (b.task id).runAt ≤ (b.task j).runAt := by
  obtain ⟨f, hf, hle⟩ := h.exists_head hj
  have hhead : (b.queueSet p).dueHead b.tasks now = some f :=
    Option.filter_eq_some_iff.2 ⟨hf, decide_eq_true (hle.trans hdue)⟩
  unfold QueueSet.peekDue at hpeek
  rw [hhead] at hpeek
  cases hr : (b.queueSet p).ready.head? with
  | none =>
    rw [hr] at hpeek
    cases hpeek
    exact hle
  | some r =>
    rw [hr] at hpeek
    dsimp only at hpeek
    split at hpeek
    · cases hpeek
      exact hle
    · next hnot =>
      have hnot : ¬(b.task f).runAt < (b.task r).runAt := hnot
      cases hpeek
      omega

theorem exists_nextRunAt (h : b.Kept) (hid : id ∈ b.queue ⟨p, .future⟩) :
    ∃ r, b.nextRunAt = some r ∧ r ≤ (b.task id).runAt := by
  obtain ⟨f, hf, hle⟩ := h.exists_head hid
  have hset : ∃ r, (b.queueSet p).nextRunAt b.tasks = some r ∧ r ≤ (b.task id).runAt := by
    have hhead : (b.queueSet p).future.head? = some f := hf
    refine QueueSet.exists_earlier (.inr ⟨(b.task f).runAt, ?_, hle⟩)
    rw [hhead]
    rfl
  exact exists_earlier_of_queueSet (f := fun q => (b.queueSet q).nextRunAt b.tasks) hset

theorem exists_nextRunAfter (h : b.Kept) (hid : id ∈ b.queue ⟨p, .future⟩) (hlate : now < (b.task id).runAt) :
    ∃ r, b.nextRunAfter now = some r ∧ r ≤ (b.task id).runAt := by
  have horder := h.in_order p
  have hset : ∃ r, (b.queueSet p).nextRunAfter b.tasks now = some r ∧ r ≤ (b.task id).runAt := by
    rw [QueueSet.nextRunAfter_eq horder]
    show ∃ r, ((b.queue ⟨p, .future⟩).find? _).map _ = some r ∧ _
    generalize b.queue ⟨p, .future⟩ = queue at horder hid
    induction queue with
    | nil => cases hid
    | cons f rest ih =>
      obtain ⟨hf, hrest⟩ := List.pairwise_cons.1 horder
      rw [List.find?_cons]
      by_cases hfirst : now < (b.tasks.get f).runAt
      · rw [decide_eq_true hfirst]
        refine ⟨_, rfl, ?_⟩
        rcases List.mem_cons.1 hid with rfl | hid
        · exact Nat.le_refl _
        · exact hf id hid
      · rw [decide_eq_false hfirst]
        refine ih hrest ((List.mem_cons.1 hid).resolve_left ?_)
        rintro rfl
        exact hfirst hlate
  exact exists_earlier_of_queueSet (f := fun q => (b.queueSet q).nextRunAfter b.tasks now) hset

theorem lt_of_nextRunAfter (h : b.Kept) {r : Nat} (hr : b.nextRunAfter now = some r) : now < r := by
  have hset (q : Priority) (hq : (b.queueSet q).nextRunAfter b.tasks now = some r) : now < r := by
    rw [QueueSet.nextRunAfter_eq (h.in_order q)] at hq
    obtain ⟨f, hf, rfl⟩ := Option.map_eq_some_iff.1 hq
    simpa using List.find?_some hf
  rcases QueueSet.mem_earlier hr with hr | hr
  · exact hset .high hr
  · rcases QueueSet.mem_earlier hr with hr | hr
    · exact hset .low hr
    · exact hset .starvable hr

/-- While nothing comes due, the same task is shown. -/
theorem nextDue_eq_of_quiet (hle : now ≤ t)
    (hquiet : ∀ p, ∀ id ∈ b.queue ⟨p, .future⟩, (b.task id).runAt ≤ t → (b.task id).runAt ≤ now)
    (lowWait : Option Nat) : b.nextDue t lowWait = b.nextDue now lowWait := by
  have hhead (q : Priority) : (b.queueSet q).dueHead b.tasks t = (b.queueSet q).dueHead b.tasks now := by
    have hq := hquiet q
    rw [show b.queue ⟨q, .future⟩ = (b.queueSet q).future from rfl] at hq
    unfold QueueSet.dueHead
    cases hfuture : (b.queueSet q).future with
    | nil => rfl
    | cons f rest =>
      have hf := hq f (by rw [hfuture]; exact List.mem_cons_self)
      have hiff : (b.tasks.get f).runAt ≤ t ↔ (b.tasks.get f).runAt ≤ now := ⟨hf, fun h => h.trans hle⟩
      simp only [List.head?_cons, Option.filter_some, hiff]
  have hpeek (q : Priority) : (b.queueSet q).peekDue b.tasks t = (b.queueSet q).peekDue b.tasks now := by
    simp only [QueueSet.peekDue, hhead]
  have hhigh := hpeek .high
  have hlow := hpeek .low
  have hstarvable := hpeek .starvable
  simp only [queueSet] at hhigh hlow hstarvable
  simp only [nextDue, hhigh, hlow, hstarvable]

end Backlog

end TaskScheduling
