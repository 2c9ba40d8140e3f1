import Mathlib
import TaskScheduling.Proofs.Backlog.Accounted

/-!
# Which task is selected

When low work has a threshold, a due low task goes ahead of the due high ones if all of them became due more than that
later, and otherwise the first high one goes ahead of all low ones.  The choice is made between the heads of the queues;
`nextDue_selects` says what it means for all eligible tasks.

Tasks of one priority are compared by run time, then a ready task comes before a future one, and in a queue they stand
in the order in which they were inserted (`InTurn.position_lt_iff`), which is their position.
-/

namespace TaskScheduling.Backlog

variable {b : Backlog} {insertions : List TaskId} {p : Priority} {now wait : Nat} {id : TaskId}

/-- How many tasks stand before a task in the queue in which it belongs. -/
def position (b : Backlog) (id : TaskId) : Nat := (b.queue (b.task id).home).idxOf id

/-- No eligible task of the same priority comes before this one. -/
def IsFirst (b : Backlog) (now : Nat) (id : TaskId) : Prop :=
  ∀ j, b.Eligible now j → (b.task j).priority = (b.task id).priority → j ≠ id →
    b.keyBy b.position id < b.keyBy b.position j

/-! ### Positions -/

theorem Kept.position_getElem (h : b.Kept) {slot : QueueSlot} {i : Nat} (hi : i < (b.queue slot).length) :
    b.position (b.queue slot)[i] = i := by
  rw [position, h.task_home_of_mem (List.getElem_mem hi)]
  exact (h.nodup_queue slot).idxOf_getElem i hi

/-- Among tasks of one queue and one run time, positions are in the order of the latest insertions. -/
theorem InTurn.position_lt_iff (hturn : b.InTurn insertions) (h : b.Kept) {slot : QueueSlot} {x y : TaskId}
    (hx : x ∈ b.queue slot) (hy : y ∈ b.queue slot) (htime : (b.task x).runAt = (b.task y).runAt) :
    b.position x < b.position y ↔ latest insertions x < latest insertions y := by
  have hkeys := List.pairwise_iff_getElem.1 (hturn.orderedBy h slot)
  obtain ⟨i, hi, rfl⟩ := List.getElem_of_mem hx
  obtain ⟨j, hj, rfl⟩ := List.getElem_of_mem hy
  have hlatest {i j : Nat} (hi : i < (b.queue slot).length) (hj : j < (b.queue slot).length) (hij : i < j)
      (htime : (b.task (b.queue slot)[i]).runAt = (b.task (b.queue slot)[j]).runAt) :
      latest insertions (b.queue slot)[i] < latest insertions (b.queue slot)[j] := by
    have hkey := (h.keyBy_lt_iff (List.getElem_mem hi) (List.getElem_mem hj)).1 (hkeys i j hi hj hij)
    omega
  rw [h.position_getElem hi, h.position_getElem hj]
  rcases Nat.lt_trichotomy i j with hij | rfl | hij
  · exact iff_of_true hij (hlatest hi hj hij htime)
  · simp only [Nat.lt_irrefl]
  · have := hlatest hj hi hij htime.symm
    exact iff_of_false (by omega) (by omega)

/-- Where the ready queues are in the order of run time as well, all queues are in the order of their positions. -/
theorem Kept.orderedBy_position (h : b.Kept)
    (hready : ∀ p, (b.queue ⟨p, .ready⟩).Pairwise fun x y => (b.task x).runAt ≤ (b.task y).runAt) :
    b.OrderedBy b.position := by
  intro slot
  have htime : (b.queue slot).Pairwise fun x y => (b.task x).runAt ≤ (b.task y).runAt := by
    obtain ⟨p, _ | _⟩ := slot
    · exact hready p
    · exact h.in_order p
  rw [List.pairwise_iff_getElem] at htime ⊢
  intro i j hi hj hij
  rw [h.keyBy_lt_iff (List.getElem_mem hi) (List.getElem_mem hj), h.position_getElem hi, h.position_getElem hj]
  have := htime i j hi hj hij
  omega

/-! ### The candidates of the queue sets -/

section Candidates

variable (h : b.Kept) (horder : b.OrderedBy b.position)
include h horder

theorem isFirst_of_peekDue (hpeek : (b.queueSet p).peekDue b.tasks now = some id) : b.IsFirst now id := by
  intro j hj hp hne
  rw [(eligible_of_peekDue h hpeek).2] at hp
  exact keyBy_lt_of_peekDue h horder hpeek hj hp hne

/-- Where anything of a priority is eligible, its set has a candidate, which is not later. -/
theorem exists_peekDue {j : TaskId} (hj : b.Eligible now j) :
    ∃ id, (b.queueSet (b.task j).priority).peekDue b.tasks now = some id ∧ (b.task id).runAt ≤ (b.task j).runAt := by
  cases hpeek : (b.queueSet (b.task j).priority).peekDue b.tasks now with
  | none => exact absurd rfl ((peekDue_eq_none_iff h).1 hpeek j hj)
  | some id =>
    refine ⟨id, rfl, ?_⟩
    by_cases hne : j = id
    · rw [hne]
    · have := keyBy_lt_iff.1 (keyBy_lt_of_peekDue h horder hpeek hj rfl hne)
      omega

/-- High work goes ahead of low work only if it became due in time. -/
theorem runAt_le_of_nextDue_high (hnext : b.nextDue now (some wait) = some id) (hid : (b.task id).priority = .high)
    {l : TaskId} (hl : b.Eligible now l) (hlow : (b.task l).priority = .low) :
    (b.task id).runAt ≤ Time.plus (b.task l).runAt wait := by
  obtain ⟨c, hc, hle⟩ := exists_peekDue h horder hl
  rw [hlow] at hc
  have hne : c ≠ id := by
    rintro rfl
    rw [(eligible_of_peekDue h hc).2] at hid
    cases hid
  have hthreshold : ¬Time.plus (b.task c).runAt wait < (b.task id).runAt := by
    intro hlt
    simp only [queueSet] at hc
    unfold nextDue at hnext
    rw [hc] at hnext
    cases hh : b.high.peekDue b.tasks now with
    | none =>
      rw [hh] at hnext
      exact hne (Option.some.inj hnext)
    | some x =>
      simp only [hh] at hnext
      split at hnext
      · exact hne (Option.some.inj hnext)
      · next hnot =>
        obtain rfl := Option.some.inj hnext
        exact hnot hlt
  have hmono := Time.plus_mono wait hle
  omega

/-- Low work goes ahead of high work only if all of that became due too late. -/
theorem lt_runAt_of_nextDue_low (hnext : b.nextDue now (some wait) = some id) (hid : (b.task id).priority = .low)
    {j : TaskId} (hj : b.Eligible now j) (hhigh : (b.task j).priority = .high) :
    Time.plus (b.task id).runAt wait < (b.task j).runAt := by
  obtain ⟨c, hc, hle⟩ := exists_peekDue h horder hj
  rw [hhigh] at hc
  exact ((peekDue_of_nextDue_low h hnext hid).2 c hc).trans_le hle

end Candidates

/-- With a threshold for low work, nothing is selected exactly when nothing is eligible; whatever is selected is the
first of its priority; starvable work is selected only when nothing else is eligible, high work only if it became due
not later than the threshold allows after every eligible low task, and low work only if every eligible high task became
due later than that.  Without a threshold the task is selected that is taken out next. -/
theorem nextDue_selects (h : b.Kept)
    (hready : ∀ p, (b.queue ⟨p, .ready⟩).Pairwise fun x y => (b.task x).runAt ≤ (b.task y).runAt) (now wait : Nat) :
    (b.nextDue now (some wait) = none ↔ ∀ id, ¬b.Eligible now id) ∧
    (∀ id, b.nextDue now (some wait) = some id → b.Eligible now id ∧ b.IsFirst now id ∧
      ((b.task id).priority = .starvable → ∀ j, b.Eligible now j → (b.task j).priority = .starvable) ∧
      ((b.task id).priority = .high → ∀ l, b.Eligible now l → (b.task l).priority = .low →
        (b.task id).runAt ≤ Time.plus (b.task l).runAt wait) ∧
      ((b.task id).priority = .low → ∀ j, b.Eligible now j → (b.task j).priority = .high →
        Time.plus (b.task id).runAt wait < (b.task j).runAt)) ∧
    b.popDue now = (b.nextDue now none).map fun id => (id, b.unlink id (b.task id).home) := by
  have horder := h.orderedBy_position hready
  refine ⟨nextDue_eq_none_iff h _, fun id hnext => ?_, popDue_eq_nextDue h now⟩
  obtain ⟨p, hpeek⟩ := peekDue_of_nextDue hnext
  exact ⟨eligible_of_nextDue h hnext, isFirst_of_peekDue h horder hpeek,
    fun hid _ hj => priority_of_nextDue h hnext hid hj,
    fun hid _ hl hlow => runAt_le_of_nextDue_high h horder hnext hid hl hlow,
    fun hid _ hj hhigh => lt_runAt_of_nextDue_low h horder hnext hid hj hhigh⟩

/-- A low task that was due at 0, and two high ones that became due at 10 and at 12, one of them delayed. -/
private def overtaken : Backlog :=
  (((empty.enlist 0 ⟨.zero, .oneTime, some .low, none⟩ .high).enlist 2 ⟨.ofMillis 10, .oneTime, none, none⟩ .high).enlist
    10 ⟨.zero, .oneTime, none, none⟩ .high)

private theorem accounted_overtaken : ∃ requests, overtaken.Accounted [⟨2⟩, ⟨1⟩, ⟨0⟩] requests .high 10 :=
  ⟨_, (((Accounted.empty .high 0).enlist (Nat.le_refl 0) _).enlist (Nat.zero_le 2) _).enlist (by decide) _⟩

/-- With a threshold of 9 the low task goes first, with one of 10 the ready high task, ahead of the delayed one. -/
theorem nextDue_selects_overtaken :
    overtaken.Kept ∧ overtaken.nextDue 20 (some 9) = some ⟨0⟩ ∧ overtaken.nextDue 20 (some 10) = some ⟨2⟩ ∧
    (∀ j, overtaken.Eligible 20 j → (overtaken.task j).priority = .high →
      Time.plus (overtaken.task ⟨0⟩).runAt 9 < (overtaken.task j).runAt) ∧
    overtaken.IsFirst 20 ⟨2⟩ ∧
    ∀ l, overtaken.Eligible 20 l → (overtaken.task l).priority = .low →
      (overtaken.task ⟨2⟩).runAt ≤ Time.plus (overtaken.task l).runAt 10 := by
  obtain ⟨requests, haccounted⟩ := accounted_overtaken
  have hkept := haccounted.tidy.toKept
  have hready (p : Priority) := (haccounted.inTurn.ready p).imp fun {x y} hxy => hxy.1
  have hlow : overtaken.nextDue 20 (some 9) = some ⟨0⟩ := by cbv
  have hhigh : overtaken.nextDue 20 (some 10) = some ⟨2⟩ := by cbv
  have hlate := (nextDue_selects hkept hready 20 9).2.1 ⟨0⟩ hlow
  have hearly := (nextDue_selects hkept hready 20 10).2.1 ⟨2⟩ hhigh
  exact ⟨hkept, hlow, hhigh, hlate.2.2.2.2 (by cbv), hearly.2.1, hearly.2.2.2.1 (by cbv)⟩

end TaskScheduling.Backlog
