import Mathlib
import TaskScheduling.Proofs.Tick.Session

/-!
# Bookkeeping of a tick scheduler

Throughout a session, whatever callers, actions and the source of time do, the queues hold the pending tasks and no
others, each once and where it belongs, in the order in which they are to be served (`Backlog.WellQueued`).  So the
check of the scheduler finds nothing, and nothing is ever refused a place in a queue.
-/

namespace TaskScheduling

/-- What the queues of a backlog hold, told by the states of the tasks, the submissions and the insertions so far. -/
structure Backlog.WellQueued (b : Backlog) (insertions : List TaskId) (requests : List Request)
    (defaultPriority : Priority) : Prop where
  /-- A task is pending exactly when it is once in one queue and in no other, and names that queue. -/
  pending_iff (id : TaskId) : (b.task id).state = .pending ↔
    ∃ slot, (b.task id).slot = some slot ∧ ∀ other, (b.queue other).count id = if other = slot then 1 else 0
  not_queued (id : TaskId) : (b.task id).state ≠ .pending → (b.task id).slot = none ∧ ∀ slot, id ∉ b.queue slot
  /-- The priority of a task is the one that it was submitted with, and decides about its queue together with what was
  submitted. -/
  request_of_mem (p : Priority) (kind : QueueKind) (id : TaskId) : id ∈ b.queue ⟨p, kind⟩ →
    ∃ r, requests[id.index]? = some r ∧ (b.task id).priority = p ∧ r.options.priority.getD defaultPriority = p ∧
      (kind = .ready ↔ r.kind = .oneTime ∧ r.delay.isZero = true)
  /-- A ready queue is in the order of insertion. -/
  ready_eq (p : Priority) : b.queue ⟨p, .ready⟩ = (turns insertions).filter (· ∈ b.queue ⟨p, .ready⟩)
  /-- A future queue is sorted by run time, and in the order of the latest insertion among equal run times. -/
  future_eq (p : Priority) : b.queue ⟨p, .future⟩ =
    ((turns insertions).filter (· ∈ b.queue ⟨p, .future⟩)).mergeSort fun x y => (b.task x).runAt ≤ (b.task y).runAt
  defect?_eq_none : b.defect? = none

namespace Backlog

variable {b : Backlog} {insertions : List TaskId} {requests : List Request} {defaultPriority : Priority}
  {latestTime : Nat}

private theorem Accounted.pending_iff (h : b.Accounted insertions requests defaultPriority latestTime) (id : TaskId) :
    (b.task id).state = .pending ↔
      ∃ slot, (b.task id).slot = some slot ∧ ∀ other, (b.queue other).count id = if other = slot then 1 else 0 := by
  constructor
  · intro hs
    have hslot := h.tidy.slot_eq_some hs
    refine ⟨_, hslot, fun other => ?_⟩
    rw [h.tidy.count_queue, hslot]
    simp only [Option.some.injEq, eq_comm]
  · rintro ⟨slot, hslot, -⟩
    exact h.tidy.state_of_slot hslot

private theorem Accounted.request_of_mem (h : b.Accounted insertions requests defaultPriority latestTime)
    {p : Priority} {kind : QueueKind} {id : TaskId} (hid : id ∈ b.queue ⟨p, kind⟩) :
    ∃ r, requests[id.index]? = some r ∧ (b.task id).priority = p ∧ r.options.priority.getD defaultPriority = p ∧
      (kind = .ready ↔ r.kind = .oneTime ∧ r.delay.isZero = true) := by
  have hhome := h.tidy.task_home_of_mem hid
  have hslot := h.tidy.mem_queue_iff.1 hid
  have hpending := h.tidy.state_of_slot hslot
  have hlt : id.index < b.nextId := h.tidy.index_lt (by simp [hpending])
  obtain ⟨r, hr, hident⟩ := h.exists_request hlt
  have hpriority : (b.task id).priority = p := congrArg QueueSlot.priority hhome
  have hkind : (b.task id).queueKind = kind := congrArg QueueSlot.kind hhome
  simp only [Task.identity, Request.identity, Prod.mk.injEq] at hident
  obtain ⟨-, hp, -, hi, -⟩ := hident
  refine ⟨r, hr, hpriority, hp.symm.trans hpriority, ?_⟩
  rw [← hkind, Task.queueKind, hi]
  cases hk : r.kind <;> simp [TaskKind.isRecurring]

theorem Accounted.wellQueued (h : b.Accounted insertions requests defaultPriority latestTime) :
    b.WellQueued insertions requests defaultPriority where
  pending_iff := h.pending_iff
  not_queued id hs := by
    have hslot := h.tidy.slot_eq_none hs
    refine ⟨hslot, fun slot hid => ?_⟩
    rw [h.tidy.mem_queue_iff, hslot] at hid
    cases hid
  request_of_mem _ _ _ hid := h.request_of_mem hid
  ready_eq := h.inTurn.queue_ready_eq
  future_eq := h.inTurn.queue_future_eq
  defect?_eq_none := h.tidy.toKept.defect?_eq_none

end Backlog

namespace Session

/-- What a caller may rely on at any moment of a session. -/
structure InOrder (w : Session) : Prop where
  wellQueued : w.scheduler.backlog.WellQueued w.insertions w.requests w.scheduler.defaultPriority
  /-- Nothing that is submitted is refused a place in a queue. -/
  submit_ne_fault (r : Request) (fault : Fault) :
    (w.scheduler.submit r.delay r.kind r.options).2 ≠ .error (.fault fault)
  /-- Nor is what comes back from a run. -/
  complete_ne_fault (now ran : Nat) (id : TaskId) : w.tick = .running now ran id →
    ∀ completedAt fault, (w.scheduler.backlog.complete id completedAt).2 ≠ .error fault
  /-- A tick called by an action breaks off, and changes nothing. -/
  step_entering (now ran : Nat) (id : TaskId) : w.tick = .running now ran id →
    Tick.entering.step w.scheduler = (w.scheduler, .ended (.error (.fault .nestedTick)))
  tick_ne_fault (fault : Fault) : w.tick ≠ .ended (.error (.fault fault))

variable {w : Session}

/-- A submission breaks off for no other reason than an invalid period. -/
private theorem submit_ne_fault (s : TickScheduler) (r : Request) (fault : Fault) :
    (s.submit r.delay r.kind r.options).2 ≠ .error (.fault fault) := by
  intro hsubmit
  have haccept : (s.accept r.delay r.kind r.options).2 = .error (.fault fault) := by
    unfold TickScheduler.submit at hsubmit
    rcases haccept : s.accept r.delay r.kind r.options with ⟨t, result⟩
    rw [haccept] at hsubmit
    cases result with
    | ok id => cases hsubmit
    | error trouble => exact hsubmit
  obtain ⟨-, htrouble⟩ := TickScheduler.accept_error_iff.1 haccept
  cases htrouble

/-- Throughout every session, between any two calls and at the start and the end of every action, all is in order. -/
theorem Reachable.inOrder (h : w.Reachable) : w.InOrder where
  wellQueued := h.sound.accounted.wellQueued
  submit_ne_fault := submit_ne_fault w.scheduler
  complete_ne_fault now ran id htick completedAt := by
    have hfits := h.sound.fits
    rw [htick] at hfits
    obtain ⟨-, htaken, hlt⟩ := hfits
    exact (h.sound.accounted.complete htaken hlt completedAt).2
  step_entering _ _ _ htick := h.sound.step_entering htick
  tick_ne_fault fault htick := by
    have hfits := h.sound.fits
    rw [htick] at hfits
    exact hfits fault rfl

/-- The action of a recurring task cancels its own task and submits another one, while it holds the clock. -/
private def selfCancelled : Session :=
  ((((start true (.start (.manual 7)) .low).call (.submit ⟨.zero, .recurring (.ofMillis 10) .fixedDelay, none, none⟩)
    |>.enter.proceed.proceed.proceed).call .hold).call (.cancel ⟨0⟩)).call (.submit ⟨.zero, .oneTime, none, none⟩)

private theorem reachable_selfCancelled : selfCancelled.Reachable := by
  have hstart := Reachable.start true (.start (.manual 7)) .low
  have hrecurring := hstart.step (.call (.submit ⟨.zero, .recurring (.ofMillis 10) .fixedDelay, none, none⟩) rfl)
  have htick := (hrecurring.step (.enter (.ok 0) rfl)).step (.proceed rfl)
  have hrunning := (htick.step (.proceed rfl)).step (.proceed rfl)
  have hheld := hrunning.step (.call .hold (by cbv))
  have hcancelled := hheld.step (.call (.cancel ⟨0⟩) (by cbv))
  exact hcancelled.step (.call (.submit ⟨.zero, .oneTime, none, none⟩) (by cbv))

theorem inOrder_selfCancelled : selfCancelled.Reachable ∧ selfCancelled.tick = .running 7 0 ⟨0⟩ ∧
    selfCancelled.scheduler.backlog.queue ⟨.low, .ready⟩ = [⟨1⟩] ∧ selfCancelled.InOrder :=
  ⟨reachable_selfCancelled, by cbv, by cbv, reachable_selfCancelled.inOrder⟩

end Session

end TaskScheduling
