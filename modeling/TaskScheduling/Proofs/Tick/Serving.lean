import Mathlib
import TaskScheduling.Proofs.Tick.Undisturbed

/-!
# Serving what is due

What a tick does to its backlog by starting a task and settling it, both at one reading of the time, does not depend on
the tick: `Service.next`.  Repeated, it comes to a backlog in which nothing is due, always the same one after the same
runs (`Service.eq_iterate_of_isOver`), and on the way it leaves alone whatever it has not run (`Service.Spares`).
-/

namespace TaskScheduling

namespace Backlog

variable {b : Backlog} {id : TaskId} {now : Nat}

/-- Taking a task out for a run does not touch the order of the others, as `filter_queue_place` says of queueing. -/
theorem filter_queue_launch (h : b.Kept) {p : TaskId → Bool} (hp : p id = false) (slot : QueueSlot) :
    ((b.launch id).queue slot).filter p = (b.queue slot).filter p := by
  rw [queue_launch]
  split
  · rw [(h.nodup_queue slot).erase_eq_filter, List.filter_filter]
    refine List.filter_congr fun x _ => ?_
    by_cases hx : x = id
    · simp [hx, hp]
    · simp [hx]
  · rfl

/-- Neither does settling it. -/
theorem filter_queue_complete (h : b.Tidy none) (hs : (b.task id).state = .executing) {p : TaskId → Bool}
    (hp : p id = false) (completedAt : Nat) (slot : QueueSlot) :
    ((b.complete id completedAt).1.queue slot).filter p = (b.queue slot).filter p := by
  have hslot : (b.task id).slot = none := h.slot_eq_none (by simp [hs])
  rcases complete_cases hslot completedAt with ⟨-, hc⟩ | ⟨-, -, hc⟩ | ⟨-, -, hc⟩ <;> rw [hc]
  · rw [queue_transition]
  · have hlt : id.index < b.nextId := h.index_lt (by simp [hs])
    have hreplan := (h.replan (by simp [hs]) hlt completedAt).toKept
    have hkept : ((b.replan id completedAt).transition id .executing .pending).1.Kept :=
      hreplan.transition_of_ne id .pending (by decide)
    rw [requeue, filter_queue_place hkept hp, queue_transition, replan, queue_modify]
  · rw [replan, queue_modify]

end Backlog

/-- Runs, each with the time for which it was planned, and the backlog that they have left. -/
@[ext]
structure Service where
  runs : List (TaskId × Nat)
  backlog : Backlog

namespace Service

variable {s t u : Service} {b : Backlog} {now k m : Nat} {id : TaskId}

/-- One more run, of the next task that is due at `now`, from its start to its end at that time. -/
def next (now : Nat) (s : Service) : Service :=
  match s.backlog.nextDue now none with
  | some id => ⟨s.runs ++ [(id, (s.backlog.task id).runAt)], ((s.backlog.launch id).complete id now).1⟩
  | none => s

/-- The tasks that have been run. -/
def ran (s : Service) : List TaskId := s.runs.map Prod.fst

/-- Whether nothing is due any more. -/
def IsOver (s : Service) (now : Nat) : Prop := s.backlog.nextDue now none = none

theorem next_of_some (hnext : s.backlog.nextDue now none = some id) :
    s.next now = ⟨s.runs ++ [(id, (s.backlog.task id).runAt)], ((s.backlog.launch id).complete id now).1⟩ := by
  simp only [next, hnext]

theorem backlog_next (hnext : s.backlog.nextDue now none = some id) :
    (s.next now).backlog = ((s.backlog.launch id).complete id now).1 := by rw [next_of_some hnext]

theorem IsOver.next_eq (h : s.IsOver now) : s.next now = s := by
  rw [IsOver] at h
  simp only [next, h]

theorem runs_isPrefix_next (now : Nat) (s : Service) : s.runs <+: (s.next now).runs := by
  unfold next
  split
  · exact List.prefix_append _ _
  · exact List.prefix_rfl

theorem runs_isPrefix_iterate (now k : Nat) (s : Service) : s.runs <+: ((next now)^[k] s).runs := by
  induction k with
  | zero => exact List.prefix_rfl
  | succ k ih =>
    rw [Function.iterate_succ_apply']
    exact ih.trans (runs_isPrefix_next now _)

/-- Wherever it has got to, there is one backlog at which it comes to its end. -/
theorem eq_iterate_of_isOver (hover : ((next now)^[m] s).IsOver now) (k : Nat) :
    (next now)^[m] ((next now)^[k] s) = (next now)^[m] s := by
  rw [← Function.iterate_add_apply, Nat.add_comm, Function.iterate_add_apply]
  exact Function.iterate_fixed hover.next_eq k

/-- What has not been run is what it was in `b`, and stands in the order in which it stood there. -/
structure Spares (b : Backlog) (s : Service) : Prop where
  task_eq (j : TaskId) : j ∉ s.ran → s.backlog.task j = b.task j
  queue_eq (slot : QueueSlot) :
    (s.backlog.queue slot).filter (· ∉ s.ran) = (b.queue slot).filter (· ∉ s.ran)

theorem Spares.refl (s : Service) : s.Spares s.backlog := ⟨fun _ _ => rfl, fun _ => rfl⟩

/-- What a run keeps. -/
structure Sound (s : Service) : Prop where
  tidy : s.backlog.Tidy none
  isValid_kind (id : TaskId) : (s.backlog.task id).kind.isValid = true

theorem Sound.next (h : s.Sound) (now : Nat) : (s.next now).Sound := by
  cases hnext : s.backlog.nextDue now none with
  | none => rwa [IsOver.next_eq hnext]
  | some id =>
    have hpending := h.tidy.state_of_nextDue hnext
    have hlaunch := h.tidy.launch hpending
    have hexecuting := Backlog.Accounted.state_launch hpending
    have hslot := Backlog.Accounted.slot_launch hpending
    have hlt : id.index < (s.backlog.launch id).nextId := hlaunch.index_lt (by simp [hexecuting])
    have htidy := hlaunch.complete (by simp [hexecuting]) hlt now
    rw [← backlog_next hnext] at htidy
    refine ⟨htidy, fun j => ?_⟩
    have hkind : ((s.next now).backlog.task j).kind = (s.backlog.task j).kind := by
      rw [backlog_next hnext]
      by_cases hj : j = id
      · have hagenda := Backlog.agenda_complete hslot now
        simp only [Task.agenda, Prod.mk.injEq] at hagenda
        rw [hj, hagenda.1, Backlog.Accounted.task_launch hpending, if_pos rfl]
      · rw [Backlog.task_complete_of_ne hslot hj, Backlog.Accounted.task_launch hpending, if_neg hj]
    rw [hkind]
    exact h.isValid_kind j

theorem Spares.next (h : s.Spares b) (hs : s.Sound) (now : Nat) : (s.next now).Spares b := by
  cases hnext : s.backlog.nextDue now none with
  | none => rwa [IsOver.next_eq hnext]
  | some id =>
    have hpending := hs.tidy.state_of_nextDue hnext
    have hran : (s.next now).ran = s.ran ++ [id] := by
      rw [next_of_some hnext, ran, List.map_append]
      rfl
    refine ⟨fun j hj => ?_, fun slot => ?_⟩
    · rw [hran, List.mem_append, List.mem_singleton, not_or] at hj
      rw [backlog_next hnext, Backlog.task_complete_of_ne (Backlog.Accounted.slot_launch hpending) hj.2,
        Backlog.Accounted.task_launch hpending, if_neg hj.2, h.task_eq j hj.1]
    · have hid : decide (id ∉ s.ran ++ [id]) = false := by simp
      have hmore (queue : List TaskId) : queue.filter (fun j => decide (j ∉ s.ran ++ [id])) =
          (queue.filter fun j => decide (j ∉ s.ran)).filter fun j => decide (j ≠ id) := by
        rw [List.filter_filter]
        exact List.filter_congr fun x _ => by simp [not_or, and_comm]
      rw [backlog_next hnext, hran,
        Backlog.filter_queue_complete (hs.tidy.launch hpending) (Backlog.Accounted.state_launch hpending) hid,
        Backlog.filter_queue_launch hs.tidy.toKept hid, hmore, h.queue_eq, ← hmore]

theorem Sound.iterate (h : s.Sound) (now k : Nat) : ((Service.next now)^[k] s).Sound := by
  induction k with
  | zero => exact h
  | succ k ih =>
    rw [Function.iterate_succ_apply']
    exact ih.next now

theorem Spares.iterate (h : s.Spares b) (hs : s.Sound) (now k : Nat) : ((Service.next now)^[k] s).Spares b := by
  induction k with
  | zero => exact h
  | succ k ih =>
    rw [Function.iterate_succ_apply']
    exact ih.next (hs.iterate now k) now

/-! ### The end -/

/-- Each run is one less to come. -/
theorem Sound.runsDue_next (h : s.Sound) (hnow : now < Time.limit) (hnext : s.backlog.nextDue now none = some id) :
    (s.next now).backlog.runsDue now + 1 = s.backlog.runsDue now := by
  have hpending := h.tidy.state_of_nextDue hnext
  have hslot := Backlog.Accounted.slot_launch hpending
  have hkept := h.tidy.toKept
  have hdue := (hkept.eligible_iff.1 (Backlog.eligible_of_nextDue hkept hnext)).2
  have hself : ((s.next now).backlog.task id).runsDue now + 1 = (s.backlog.task id).runsDue now := by
    have htask : (s.backlog.launch id).task id =
        { s.backlog.task id with slot := none, state := .executing, runs := (s.backlog.task id).runs + 1 } := by
      rw [Backlog.Accounted.task_launch hpending, if_pos rfl]
    rw [backlog_next hnext, Session.runsDue_complete (h.tidy.launch hpending) (htask ▸ h.isValid_kind id) hnow
      (Backlog.Accounted.state_launch hpending) (Nat.le_refl now), htask,
      ← Task.runsAfter_succ (h.isValid_kind id) hnow hpending (hkept.isRecurring_of_immediate id) hdue]
    rfl
  have hothers (j : TaskId) (hj : j ≠ id) :
      ((s.next now).backlog.task j).runsDue now = (s.backlog.task j).runsDue now := by
    rw [backlog_next hnext, Backlog.task_complete_of_ne hslot hj, Backlog.Accounted.task_launch hpending, if_neg hj]
  rw [Backlog.runsDue, Backlog.runsDue, backlog_next hnext, Backlog.nextId_complete hslot, Backlog.nextId_launch,
    ← backlog_next hnext]
  exact Session.sum_of_start (hkept.index_lt (by simp [hpending])) hself hothers

/-- Before the last representable time a service comes to an end. -/
theorem exists_isOver (h : s.Sound) (hnow : now < Time.limit) : ∃ m, ((next now)^[m] s).IsOver now := by
  -- by induction on the number of runs to come
  obtain ⟨n, hn⟩ : ∃ n, n = s.backlog.runsDue now := ⟨_, rfl⟩
  induction n generalizing s with
  | zero =>
    refine ⟨0, ?_⟩
    cases hnext : s.backlog.nextDue now none with
    | none => exact hnext
    | some id =>
      have := h.runsDue_next hnow hnext
      omega
  | succ n ih =>
    cases hnext : s.backlog.nextDue now none with
    | none => exact ⟨0, hnext⟩
    | some id =>
      obtain ⟨m, hm⟩ := ih (h.next now) (by have := h.runsDue_next hnow hnext; omega)
      exact ⟨m + 1, by rwa [Function.iterate_succ_apply]⟩

end Service

end TaskScheduling
