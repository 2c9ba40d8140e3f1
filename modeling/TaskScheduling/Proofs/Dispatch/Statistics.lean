import TaskScheduling.Proofs.Dispatch.Serial
import TaskScheduling.Proofs.Dispatch.Stranding

/-!
# The statistics of a scheduler are exact

Between two operations the counters and the gauge of the queues agree with what has happened to the tasks
(`Serial.Accurate`).  Once everybody has gone and the queues are empty, the tasks that were accepted and not cancelled
are those that were to run once and did.

Main statement: `Serial.Reachable.statistics_accurate`.
-/

namespace TaskScheduling

namespace Backlog

theorem size_eq_length_queued (b : Backlog) : b.size = b.queued.length := by
  simp only [size, QueueSet.size, queued, QueueSet.ids, List.length_append]

end Backlog

namespace Serial

/-- Whether the statistics agree with what has happened. -/
structure Accurate (v : Serial) : Prop where
  accepted_nodup : v.accepted.Nodup
  /-- What was not accepted has never run and waits nowhere. -/
  status_eq (id : TaskId) : id ∉ v.accepted → (v.system.backlog.task id).status = (false, .cancelled, 0)
  submitted_eq : v.system.scheduler.snapshot.submitted = v.accepted.length
  cancelled_eq : v.system.scheduler.snapshot.cancelled =
    v.accepted.countP fun id => (v.system.backlog.task id).state = .cancelled
  executed_eq : v.system.scheduler.snapshot.executed = v.ended.length
  finite_inProgress : v.system.inProgress.Finite
  runs_eq : v.system.scheduler.snapshot.executed + v.system.inProgress.ncard =
    (v.accepted.map fun id => (v.system.backlog.task id).runs).sum
  failed_eq : v.system.scheduler.snapshot.failed = v.ended.countP (·.2)
  queued_eq : v.system.scheduler.snapshot.queued =
    v.accepted.countP fun id => (v.system.backlog.task id).state = .pending
  /-- Of the accepted tasks those that were not cancelled have run, and of these each that was to run once has. -/
  terminated : v.system.scheduler.isTerminated = true → v.system.backlog.queued = [] →
    v.system.scheduler.snapshot.submitted = v.system.scheduler.snapshot.cancelled +
      v.accepted.countP (fun id => !(v.system.backlog.task id).isRecurring && 0 < (v.system.backlog.task id).runs) ∧
    ∀ id, (v.system.backlog.task id).isRecurring = false → 0 < (v.system.backlog.task id).runs →
      (v.system.backlog.task id).runs = 1

variable {v : Serial}

/-- The queues hold the accepted tasks that are pending. -/
private theorem Reachable.size_eq (h : v.Reachable) : v.system.backlog.size =
    v.accepted.countP fun id => (v.system.backlog.task id).state = .pending := by
  have htidy := h.sound.tidy
  have hperm : v.system.backlog.queued.Perm
      (v.accepted.filter fun id => (v.system.backlog.task id).state = .pending) := by
    refine (List.perm_ext_iff_of_nodup htidy.toKept.nodup_queued (h.exact.accepted_nodup.filter _)).2 fun id => ?_
    have hmem (hpending : (v.system.backlog.task id).state = .pending) : id ∈ v.accepted :=
      h.exact.mem_accepted (.inl (show (v.system.backlog.task id).state ≠ .cancelled by simp [hpending]))
    rw [htidy.toKept.mem_queued_iff, htidy.isSome_slot_iff, List.mem_filter, decide_eq_true_eq]
    exact ⟨fun hpending => ⟨hmem hpending.1, hpending.1⟩, fun hpending => ⟨hpending.2, nofun⟩⟩
  rw [Backlog.size_eq_length_queued, hperm.length_eq, List.countP_eq_length_filter]

/-- Where everybody has gone and nothing is queued, every task is done or cancelled. -/
private theorem Reachable.settled (h : v.Reachable) (hterminated : v.system.scheduler.isTerminated = true)
    (hqueued : v.system.backlog.queued = []) (id : TaskId) :
    (v.system.backlog.task id).state = .done ∨ (v.system.backlog.task id).state = .cancelled := by
  have hsound := h.sound.reachable.sound
  obtain ⟨l, hl⟩ := hsound.located id
  match l, hl with
  | none, hl => exact hl.suits.1
  | some (.queue slot), hl =>
    have hslot := (hl.finds.slot_eq_iff slot).2 rfl
    have hmem : id ∈ v.system.backlog.queued := hsound.kept.mem_queued_iff.2 (by rw [hslot]; rfl)
    rw [hqueued] at hmem
    cases hmem
  | some (.held who stage), hl =>
    have hcount := hl.finds.count_held who stage
    rw [if_pos rfl] at hcount
    obtain ⟨i, hi⟩ := (h.sound.reachable.hasEnded hterminated).exists_client
      (List.count_pos_iff.1 (hcount ▸ Nat.one_pos))
    rw [Client.held_of_isFree (h.sound.isFree i)] at hi
    cases hi

/-- A task that is to run once has not run when it is cancelled. -/
private theorem Reachable.runs_eq_zero (h : v.Reachable) {id : TaskId}
    (hr : (v.system.backlog.task id).isRecurring = false) (hs : (v.system.backlog.task id).state = .cancelled) :
    (v.system.backlog.task id).runs = 0 := by
  obtain ⟨c, hc, hplays⟩ := h.sound.reachable.plays
  have hfair := (hc.fair id).runs_eq_zero
  rw [hplays.backlog_eq] at hfair
  exact hfair hr (.inr hs)

/-- The statistics of a scheduler are exact. -/
theorem Reachable.statistics_accurate (h : v.Reachable) : v.Accurate := by
  have hexact := h.exact
  refine ⟨hexact.accepted_nodup, hexact.status_eq, hexact.submitted_eq, hexact.cancelled_eq, hexact.executed_eq,
    hexact.finite, hexact.runs_eq, hexact.failed_eq, h.size_eq, fun hterminated hqueued => ?_⟩
  have hran (id : TaskId) : (v.system.backlog.task id).state ≠ .cancelled ↔
      (v.system.backlog.task id).isRecurring = false ∧ 0 < (v.system.backlog.task id).runs := by
    rcases h.settled hterminated hqueued id with hs | hs
    · obtain ⟨hr, hruns⟩ := hexact.once_of_done id hs
      have hr : (v.system.backlog.task id).isRecurring = false := hr
      have hruns : (v.system.backlog.task id).runs = 1 := hruns
      simp [hs, hr, hruns]
    · have hzero (hr : (v.system.backlog.task id).isRecurring = false) := h.runs_eq_zero hr hs
      simpa [hs] using hzero
  refine ⟨?_, fun id hr hruns => ?_⟩
  · have hlength := v.accepted.length_eq_countP_add_countP fun id => (v.system.backlog.task id).state = .cancelled
    have hcount : v.accepted.countP (fun id => ¬decide ((v.system.backlog.task id).state = .cancelled)) =
        v.accepted.countP fun id =>
          !(v.system.backlog.task id).isRecurring && 0 < (v.system.backlog.task id).runs := by
      refine List.countP_congr fun id _ => ?_
      simpa using hran id
    rw [hcount] at hlength
    exact hexact.submitted_eq.trans (hlength.trans (congrArg (· + _) hexact.cancelled_eq.symm))
  · rcases h.settled hterminated hqueued id with hs | hs
    · exact (hexact.once_of_done id hs).2
    · rw [h.runs_eq_zero hr hs] at hruns
      cases hruns

/-- A task that is to run once panics, and a recurring one is cancelled at the end of its first run, since there has
been a shutdown meanwhile.  Then everybody leaves. -/
private def closingMoves : List Move := List.flatten
  [[.submit 0 ⟨.zero, .oneTime, none, none⟩, .submit 0 ⟨.zero, .recurring (.ofMillis 10) .fixedRate, none, none⟩,
    .iterate], .replicate 6 (.work 0 (some (.text "boom"))), [.iterate, .work 0 none, .work 0 none,
    .shutDown 1 .drainPending, .work 0 none, .iterate, .work 0 none, .work 0 none]]

private def closing : Serial :=
  closingMoves.foldl play (.start (.start (.manual 0)) 1 .zero (.plain "w") .bare .empty .high 0)

theorem accurate_closing : ∃ v : Serial, v.Reachable ∧ v.Accurate ∧ v.system.scheduler.isTerminated = true ∧
    v.system.backlog.queued = [] ∧ v.accepted = [⟨1⟩, ⟨0⟩] ∧ v.ended = [(⟨1⟩, false), (⟨0⟩, true)] ∧
    v.system.scheduler.stats = ⟨2, 2, 1, 1⟩ := by
  have hreachable : closing.Reachable :=
    (Reachable.start (.start (.manual 0)) 1 .zero (.plain "w") .bare .empty .high 0).follow closingMoves
  exact ⟨closing, hreachable, hreachable.statistics_accurate, by decide +kernel, by decide +kernel, by decide +kernel,
    by decide +kernel, by decide +kernel⟩

end Serial

end TaskScheduling
