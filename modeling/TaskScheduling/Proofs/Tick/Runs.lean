import TaskScheduling.Proofs.Tick.Session

/-!
# The runs of one task

One step of a session leaves the runs of a task alone, or starts the next one, or ends the one in progress and plans the
next: `Step.deals`.  What concerns the run time of a task follows from these three cases.

* `Reachable.exists_firstRunAt`: every task was submitted, and with it a time for its first run.
* `FirstRunAt.onSchedule`: a task at a fixed rate is planned from that time on and from nothing else.
-/

namespace TaskScheduling

/-- How a task recurs, when it is to run next, and how often it has run. -/
def Task.agenda (t : Task) : TaskKind × Nat × Nat := (t.kind, t.runAt, t.runs)

namespace Backlog

theorem agenda_transition (b : Backlog) (id : TaskId) (source target : TaskState) (j : TaskId) :
    ((b.transition id source target).1.task j).agenda = (b.task j).agenda := by
  rw [task_transition_eq]
  split <;> rfl

theorem agenda_unlink (b : Backlog) (id : TaskId) (slot : QueueSlot) (j : TaskId) :
    ((b.unlink id slot).task j).agenda = (b.task j).agenda := by
  rw [task_unlink]
  split <;> rfl

theorem agenda_place (b : Backlog) (id j : TaskId) : ((b.place id).task j).agenda = (b.task j).agenda := by
  rw [task_place]
  split <;> rfl

theorem agenda_remove (b : Backlog) (id j : TaskId) : ((b.remove id).1.task j).agenda = (b.task j).agenda := by
  by_cases hnamed : ∃ slot, (b.task id).slot = some slot ∧ id ∈ b.queue slot
  · obtain ⟨slot, hslot, hmem⟩ := hnamed
    rw [remove_eq_unlink hslot hmem, agenda_unlink]
  · rw [remove_eq_self fun slot hslot hmem => hnamed ⟨slot, hslot, hmem⟩]

theorem agenda_cancel (b : Backlog) (id j : TaskId) : ((b.cancel id).1.task j).agenda = (b.task j).agenda := by
  cases hs : (b.task id).state with
  | pending => rw [cancel_of_pending hs, agenda_remove, agenda_transition]
  | executing =>
    cases hr : (b.task id).isRecurring with
    | true => rw [cancel_of_executing_recurring hs hr, agenda_transition]
    | false => rw [cancel_of_executing_once hs hr]
  | done => rw [cancel_of_settled (.inl hs)]
  | cancelled => rw [cancel_of_settled (.inr hs)]

theorem agenda_clear (b : Backlog) (scope : Scope) (j : TaskId) :
    ((b.clear scope).1.task j).agenda = (b.task j).agenda := by
  have htask : (b.clear scope).1.task j = ((b.drain scope).2.markCancelled (b.drain scope).1).1.task j := rfl
  rw [htask, task_markCancelled, drain, task_takeOutAll]
  by_cases hdrained : j ∈ (b.takeOutAll scope scope.queues).1
  · simp only [hdrained, true_and, ↓reduceIte]
    split <;> rfl
  · simp only [hdrained, false_and, ↓reduceIte]

/-- After its run a task has the same agenda as before, or a new run time if it recurs. -/
theorem agenda_complete {b : Backlog} {id : TaskId} (hslot : (b.task id).slot = none) (completedAt : Nat) :
    ((b.complete id completedAt).1.task id).agenda =
      ((b.task id).kind, (b.task id).nextRunAt completedAt, (b.task id).runs) := by
  rcases complete_cases hslot completedAt with ⟨hr, hc⟩ | ⟨-, -, hc⟩ | ⟨-, -, hc⟩ <;> rw [hc]
  · have honce : (b.task id).nextRunAt completedAt = (b.task id).runAt := by
      rw [Task.nextRunAt]
      cases hk : (b.task id).kind with
      | oneTime => rfl
      | recurring period mode => simp [Task.isRecurring, TaskKind.isRecurring, hk] at hr
    rw [agenda_transition, honce, Task.agenda]
  · rw [requeue, agenda_place, agenda_transition, task_replan]
    rfl
  · rw [task_replan]
    rfl

theorem IsTaken.slot_eq_none {b : Backlog} {id : TaskId} (htaken : b.IsTaken id) (h : b.Tidy none) :
    (b.task id).slot = none :=
  h.slot_eq_none (by rcases htaken with hs | ⟨hs, -⟩ <;> simp [hs])

end Backlog

namespace Session

variable {w w' : Session} {id : TaskId}

/-- Whether the action of a task is running. -/
def IsRunning (w : Session) (id : TaskId) : Prop := ∃ now ran, w.tick = .running now ran id

theorem not_isRunning_of_tick {tick : Tick} (htick : w.tick = tick) (h : ∀ now ran, tick ≠ .running now ran id) :
    ¬w.IsRunning id := fun ⟨now, ran, hrunning⟩ => h now ran (htick.symm.trans hrunning)

theorem not_isRunning_of_not_isOpen (h : w.tick.isOpen = false) (id : TaskId) : ¬w.IsRunning id := by
  refine not_isRunning_of_tick rfl fun now ran htick => ?_
  rw [htick] at h
  cases h

/-- What a step does to the runs of a task. -/
inductive Deals (w w' : Session) (id : TaskId) : Prop where
  | spares : (w'.scheduler.backlog.task id).agenda = (w.scheduler.backlog.task id).agenda →
      (w'.IsRunning id ↔ w.IsRunning id) → Deals w w' id
  | starts : ¬w.IsRunning id → w'.IsRunning id →
      (w'.scheduler.backlog.task id).agenda =
        ((w.scheduler.backlog.task id).kind, (w.scheduler.backlog.task id).runAt,
          (w.scheduler.backlog.task id).runs + 1) → Deals w w' id
  | ends : w.IsRunning id → ¬w'.IsRunning id →
      (w'.scheduler.backlog.task id).agenda =
        ((w.scheduler.backlog.task id).kind, (w.scheduler.backlog.task id).nextRunAt w.scheduler.clock.now.1,
          (w.scheduler.backlog.task id).runs) → Deals w w' id

theorem Deals.kind_eq (h : w.Deals w' id) :
    (w'.scheduler.backlog.task id).kind = (w.scheduler.backlog.task id).kind := by
  rcases h with ⟨hagenda, -⟩ | ⟨-, -, hagenda⟩ | ⟨-, -, hagenda⟩ <;>
    simp only [Task.agenda, Prod.mk.injEq] at hagenda <;> exact hagenda.1

theorem agenda_call (w : Session) (c : Call) (hid : id.index < w.scheduler.backlog.nextId) :
    ((w.call c).scheduler.backlog.task id).agenda = (w.scheduler.backlog.task id).agenda := by
  cases c with
  | submit r =>
    cases hvalid : r.kind.isValid with
    | false => rw [call_submit_of_invalid hvalid]
    | true =>
      have hne : id ≠ ⟨w.scheduler.backlog.nextId⟩ := by
        rintro rfl
        exact Nat.lt_irrefl _ hid
      rw [call_submit_of_valid hvalid]
      show ((w.scheduler.backlog.enlist _ r _).task id).agenda = _
      rw [Backlog.enlist, Backlog.agenda_place, Backlog.Accounted.task_enroll, if_neg hne]
  | cancel j => exact Backlog.agenda_cancel _ j id
  | clear => exact Backlog.agenda_clear _ .everything id
  | _ => rfl

theorem Sound.isTaken (h : w.Sound) (hrunning : w.IsRunning id) : w.scheduler.backlog.IsTaken id := by
  obtain ⟨now, ran, htick⟩ := hrunning
  have hfits := h.fits
  rw [htick] at hfits
  exact hfits.2.1

/-- The end of an action leads to the choice of the next task, or with a panic to the end of the tick. -/
theorem Sound.finish_eq (h : w.Sound) {now ran : Nat} (htick : w.tick = .running now ran id) (thread : Option String)
    (outcome : Option Panic) :
    (w.finish thread outcome).scheduler.backlog =
        (w.scheduler.backlog.complete id w.scheduler.clock.now.1).1 ∧
      (w.finish thread outcome).tick = match outcome with
        | none => .picking now (ran + 1)
        | some panic => .ended (.error (.error (.taskFailed (.ofPanic thread id panic)))) := by
  have hfits := h.fits
  rw [htick] at hfits
  have hfault := (h.accounted.complete hfits.2.1 hfits.2.2 w.scheduler.clock.now.1).2
  simp only [Session.finish, htick, Tick.finish]
  cases hresult : (w.scheduler.backlog.complete id w.scheduler.clock.now.1).2 with
  | error fault => exact absurd hresult (hfault fault)
  | ok requeued => cases outcome <;> exact ⟨rfl, rfl⟩

private theorem Sound.deals_finish (h : w.Sound) (thread : Option String) (outcome : Option Panic) (id : TaskId) :
    w.Deals (w.finish thread outcome) id := by
  cases htick : w.tick with
  | running now ran j =>
    obtain ⟨hbacklog, hafter⟩ := h.finish_eq htick thread outcome
    have hrunning : w.IsRunning j := ⟨now, ran, htick⟩
    have hslot := (h.isTaken hrunning).slot_eq_none h.accounted.tidy
    have hnot (i : TaskId) : ¬(w.finish thread outcome).IsRunning i := by
      refine not_isRunning_of_tick hafter ?_
      cases outcome <;> simp
    by_cases hid : id = j
    · subst hid
      refine .ends hrunning (hnot id) ?_
      rw [hbacklog, Backlog.agenda_complete hslot]
    · refine .spares ?_ (iff_of_false (hnot id) ?_)
      · rw [hbacklog, Backlog.task_complete_of_ne hslot hid]
      · rintro ⟨now', ran', hi⟩
        rw [htick] at hi
        cases hi
        exact hid rfl
  | _ =>
    have hsame : w.finish thread outcome = w := by simp only [Session.finish, htick]
    exact .spares (by rw [hsame]) (by rw [hsame])

private theorem Sound.deals_proceed (h : w.Sound) (hopen : w.tick.isOpen = false) (id : TaskId) :
    w.Deals w.proceed id := by
  have hbefore := not_isRunning_of_not_isOpen hopen id
  rcases h.proceed_cases hopen with ⟨now, ran, j, -, hnext, hw⟩ | ⟨now, ran, -, -, hw⟩ | ⟨s, t, hidle, hw⟩ <;> rw [hw]
  · have hlaunch := Backlog.Accounted.task_launch (h.state_of_nextDue hnext) id
    by_cases hid : id = j
    · subst hid
      refine .starts hbefore ⟨now, ran, rfl⟩ ?_
      rw [hlaunch, if_pos rfl]
      rfl
    · refine .spares (by rw [hlaunch, if_neg hid]) (iff_of_false ?_ hbefore)
      rintro ⟨now', ran', hi⟩
      cases hi
      exact hid rfl
  · exact .spares rfl (iff_of_false (not_isRunning_of_tick rfl (by simp)) hbefore)
  · exact .spares (by rw [hidle.backlog_eq]) (iff_of_false
      (not_isRunning_of_tick rfl fun now ran => hidle.ne_running now ran id) hbefore)

theorem Step.deals (hstep : w.Step w') (h : w.Sound) (hid : id.index < w.scheduler.backlog.nextId) :
    w.Deals w' id := by
  cases hstep with
  | call c _ => exact .spares (agenda_call w c hid) (by simp only [IsRunning, tick_call])
  | pass t => exact .spares rfl Iff.rfl
  | enter result htick =>
    exact .spares rfl (iff_of_false (not_isRunning_of_not_isOpen rfl id) (not_isRunning_of_tick htick (by simp)))
  | nested now ran j htick => rw [h.nested htick]; exact .spares rfl Iff.rfl
  | proceed hopen => exact h.deals_proceed hopen id
  | finish thread outcome => exact h.deals_finish thread outcome id
  | wake =>
    cases htick : w.tick with
    | waiting waiting =>
      have hw : w.wake = { w with scheduler := (waiting.wake w.scheduler).1, tick := .waiting (waiting.wake w.scheduler).2 } := by
        simp only [Session.wake, htick]
      have hbacklog : (waiting.wake w.scheduler).1.backlog = w.scheduler.backlog := by cases waiting <;> rfl
      rw [hw]
      exact .spares (by rw [hbacklog]) (iff_of_false (not_isRunning_of_tick rfl (by simp))
        (not_isRunning_of_tick htick (by simp)))
    | _ =>
      have hsame : w.wake = w := by simp only [Session.wake, htick]
      rw [hsame]
      exact .spares rfl Iff.rfl

/-! ### Submissions -/

/-- A submission is accepted or leaves no trace among the requests, and nothing else counts as one. -/
theorem Step.requests_cases (hstep : w.Step w') :
    w'.requests = w.requests ∨ ∃ r, w.tick.isOpen = true ∧ r.kind.isValid = true ∧ w' = w.call (.submit r) ∧
      w'.requests = w.requests ++ [r] := by
  cases hstep with
  | call c hopen =>
    cases c with
    | submit r =>
      cases hvalid : r.kind.isValid with
      | false =>
        left
        rw [call_submit_of_invalid hvalid]
      | true =>
        refine .inr ⟨r, hopen, hvalid, rfl, ?_⟩
        rw [call_submit_of_valid hvalid]
    | _ => exact .inl rfl
  | proceed _ =>
    left
    unfold Session.proceed
    split <;> rfl
  | finish thread outcome =>
    left
    unfold Session.finish
    split <;> rfl
  | wake =>
    left
    unfold Session.wake
    split <;> rfl
  | _ => exact .inl rfl

theorem Step.nextId_le (hstep : w.Step w') (h : w.Sound) :
    w.scheduler.backlog.nextId ≤ w'.scheduler.backlog.nextId := by
  rw [h.accounted.nextId_eq, (h.step hstep).accounted.nextId_eq]
  rcases hstep.requests_cases with hrequests | ⟨r, -, -, -, hrequests⟩ <;> rw [hrequests]
  rw [List.length_append]
  exact Nat.le_add_right _ _

theorem Reachable.isValid_of_mem (h : w.Reachable) : ∀ r ∈ w.requests, r.kind.isValid = true := by
  induction h with
  | start blocking clock defaultPriority => exact fun r hr => absurd hr List.not_mem_nil
  | step _ hstep ih =>
    rcases hstep.requests_cases with hrequests | ⟨r, -, hvalid, -, hrequests⟩ <;> rw [hrequests]
    · exact ih
    · intro q hq
      rcases List.mem_append.1 hq with hq | hq
      · exact ih q hq
      · rwa [List.mem_singleton.1 hq]

/-- No task has a period below one millisecond. -/
theorem Reachable.isValid_kind (h : w.Reachable) (id : TaskId) : (w.scheduler.backlog.task id).kind.isValid = true := by
  by_cases hid : id.index < w.scheduler.backlog.nextId
  · obtain ⟨r, hr, hident⟩ := h.sound.accounted.exists_request hid
    simp only [Task.identity, Request.identity, Prod.mk.injEq] at hident
    rw [hident.2.2.1]
    exact h.isValid_of_mem r (List.mem_of_getElem? hr)
  · rw [h.sound.accounted.tidy.task_eq_absent id (Nat.not_lt.1 hid)]
    rfl

/-- In a run that has led to `w`, the task `id` was submitted, to run first at `first`. -/
def FirstRunAt (w : Session) (id : TaskId) (first : Nat) : Prop :=
  ∃ (v : Session) (r : Request), v.Reachable ∧ v.tick.isOpen = true ∧ (v.scheduler.submit r.delay r.kind r.options).2 = .ok id ∧
    first = Time.plus v.scheduler.clock.hold.cached r.delay.millis ∧
    Relation.ReflTransGen Step (v.call (.submit r)) w

theorem snd_submit_of_valid (s : TickScheduler) {r : Request} (hvalid : r.kind.isValid = true) :
    (s.submit r.delay r.kind r.options).2 = .ok ⟨s.backlog.nextId⟩ := by
  rw [TickScheduler.submit_of_valid hvalid]

theorem isValid_of_submit {s : TickScheduler} {r : Request}
    (hsubmit : (s.submit r.delay r.kind r.options).2 = .ok id) : r.kind.isValid = true := by
  cases hvalid : r.kind.isValid with
  | true => rfl
  | false =>
    simp only [TickScheduler.submit, TickScheduler.accept_of_invalid hvalid] at hsubmit
    cases hsubmit

/-- Every task that there is was submitted. -/
theorem Reachable.exists_firstRunAt (h : w.Reachable) (hid : id.index < w.scheduler.backlog.nextId) :
    ∃ first, w.FirstRunAt id first := by
  induction h with
  | start blocking clock defaultPriority => exact absurd hid (Nat.not_lt_zero _)
  | @step v w hv hstep ih =>
    by_cases hold : id.index < v.scheduler.backlog.nextId
    · obtain ⟨first, u, r, hu, hopen, hsubmit, hfirst, hrun⟩ := ih hold
      exact ⟨first, u, r, hu, hopen, hsubmit, hfirst, hrun.tail hstep⟩
    · rw [(hv.step hstep).sound.accounted.nextId_eq] at hid
      rw [hv.sound.accounted.nextId_eq] at hold
      rcases hstep.requests_cases with hrequests | ⟨r, hopen, hvalid, rfl, hrequests⟩
      · rw [hrequests] at hid
        exact absurd hid hold
      · rw [hrequests, List.length_append, List.length_singleton] at hid
        have hnew : id = ⟨v.scheduler.backlog.nextId⟩ := by
          rw [← Table.index_injective, hv.sound.accounted.nextId_eq]
          show id.index = v.requests.length
          omega
        refine ⟨_, v, r, hv, hopen, ?_, rfl, .refl⟩
        rw [hnew]
        exact snd_submit_of_valid v.scheduler hvalid

/-! ### Fixed rates -/

/-- A task at a fixed rate is planned for the time `first` and one period more for each of its runs; for the run in
progress, the next one is not planned yet. -/
def OnSchedule (w : Session) (id : TaskId) (first : Nat) : Prop :=
  ∀ period, (w.scheduler.backlog.task id).kind = .recurring period .fixedRate →
    ∃ n, (w.scheduler.backlog.task id).runAt = min (first + period.millis * n) Time.limit ∧
      ((w.scheduler.backlog.task id).runs = n ∧ ¬w.IsRunning id ∨
        (w.scheduler.backlog.task id).runs = n + 1 ∧ w.IsRunning id)

theorem OnSchedule.of_deals {first : Nat} (h : w.OnSchedule id first) (hdeals : w.Deals w' id) :
    w'.OnSchedule id first := by
  intro period hkind
  cases hdeals with
  | spares hagenda hrunning =>
    simp only [Task.agenda, Prod.mk.injEq] at hagenda
    obtain ⟨hk, ht, hn⟩ := hagenda
    rw [ht, hn, hrunning]
    exact h period (hk ▸ hkind)
  | starts hbefore hafter hagenda =>
    simp only [Task.agenda, Prod.mk.injEq] at hagenda
    obtain ⟨hk, ht, hn⟩ := hagenda
    obtain ⟨n, hrunAt, ⟨hruns, -⟩ | ⟨-, hrunning⟩⟩ := h period (hk ▸ hkind)
    · exact ⟨n, ht.trans hrunAt, .inr ⟨by rw [hn, hruns], hafter⟩⟩
    · exact absurd hrunning hbefore
  | ends hbefore hafter hagenda =>
    simp only [Task.agenda, Prod.mk.injEq] at hagenda
    obtain ⟨hk, ht, hn⟩ := hagenda
    rw [hk] at hkind
    obtain ⟨n, hrunAt, ⟨-, hrunning⟩ | ⟨hruns, -⟩⟩ := h period hkind
    · exact absurd hbefore hrunning
    · refine ⟨n + 1, ?_, .inl ⟨hn.trans hruns, hafter⟩⟩
      have hnext : (w.scheduler.backlog.task id).nextRunAt w.scheduler.clock.now.1 =
          Time.plus (min (first + period.millis * n) Time.limit) period.millis := by
        simp only [Task.nextRunAt, hkind, hrunAt]
      have hplus : Time.plus (min (first + period.millis * n) Time.limit) period.millis =
          Time.plus first (period.millis * n + period.millis) := Time.plus_plus first _ _
      rw [ht, hnext, hplus, Nat.mul_succ]
      rfl

private theorem OnSchedule.of_submit {v : Session} {r : Request} (hv : v.Reachable)
    (hsubmit : (v.scheduler.submit r.delay r.kind r.options).2 = .ok id) :
    (v.call (.submit r)).OnSchedule id (Time.plus v.scheduler.clock.hold.cached r.delay.millis) := by
  have hvalid := isValid_of_submit hsubmit
  rw [snd_submit_of_valid v.scheduler hvalid] at hsubmit
  obtain rfl := Except.ok.inj hsubmit
  have htask : ((v.call (.submit r)).scheduler.backlog.task ⟨v.scheduler.backlog.nextId⟩).agenda =
      (r.kind, Time.plus v.scheduler.clock.hold.cached r.delay.millis, 0) := by
    rw [call_submit_of_valid hvalid]
    show ((v.scheduler.backlog.enlist _ r _).task _).agenda = _
    rw [Backlog.enlist, Backlog.agenda_place, Backlog.Accounted.task_enroll, if_pos rfl]
    rfl
  simp only [Task.agenda, Prod.mk.injEq] at htask
  obtain ⟨-, hrunAt, hruns⟩ := htask
  intro period _
  refine ⟨0, ?_, .inl ⟨hruns, ?_⟩⟩
  · rw [hrunAt, Nat.mul_zero, Nat.add_zero, Nat.min_eq_left (Time.plus_le_limit _ _)]
  · -- the task that is running was there before
    rintro ⟨now, ran, htick⟩
    rw [tick_call] at htick
    have hfits := hv.sound.fits
    rw [htick] at hfits
    exact Nat.lt_irrefl _ hfits.2.2

theorem FirstRunAt.onSchedule {first : Nat} (h : w.FirstRunAt id first) : w.OnSchedule id first := by
  obtain ⟨v, r, hv, hopen, hsubmit, rfl, hrun⟩ := h
  have hstart : (v.call (.submit r)).Reachable := hv.step (.call (.submit r) hopen)
  have hid : id.index < (v.call (.submit r)).scheduler.backlog.nextId := by
    have hvalid := isValid_of_submit hsubmit
    rw [snd_submit_of_valid v.scheduler hvalid] at hsubmit
    obtain rfl := Except.ok.inj hsubmit
    rw [call_submit_of_valid hvalid]
    show _ < (v.scheduler.backlog.enlist _ r _).nextId
    rw [Backlog.Accounted.nextId_enlist]
    exact Nat.lt_succ_self _
  suffices hall : w.Reachable ∧ id.index < w.scheduler.backlog.nextId ∧
      w.OnSchedule id (Time.plus v.scheduler.clock.hold.cached r.delay.millis) from hall.2.2
  induction hrun with
  | refl => exact ⟨hstart, hid, .of_submit hv hsubmit⟩
  | tail _ hstep ih =>
    obtain ⟨hreachable, hlt, hschedule⟩ := ih
    exact ⟨hreachable.step hstep, hlt.trans_le (hstep.nextId_le hreachable.sound),
      hschedule.of_deals (hstep.deals hreachable.sound hlt)⟩

end Session

end TaskScheduling
