import TaskScheduling.Proofs.Backlog.Verdict
import TaskScheduling.Proofs.Dispatch.Contending
import TaskScheduling.Proofs.Dispatch.Turns

/-!
# What a rejected submission leaves behind

A submission that reports a shutdown has built nothing, has not entered its task, or has found it cancelled
(`System.Withheld`).  The action of a task that is to run once has not been started then, and never is.  A recurring task
may have run meanwhile; it is not claimed for another run.

Main statement: `System.Reachable.withholds`.
-/

namespace TaskScheduling

open Relation

namespace Submission

/-- The task that has been entered. -/
def entered? : Submission → Option TaskId
  | rechecking id | withdrawing id _ | examining id | counting id | waking id | ended (.ok id) => some id
  | _ => none

/-- The number that the task has got. -/
def number? : Submission → Option TaskId
  | preparing task | inserting task => some task.id
  | m => m.entered?

end Submission

def Client.entered? : Client → Option TaskId
  | submitting _ m => m.entered?
  | _ => none

/-- Only the submission that enters a task has entered it. -/
theorem Client.entered?_step {s : PooledScheduler} {c : Client} {id : TaskId} (h : (c.step s).2.entered? = some id) :
    c.entered? = some id ∨ ∃ r t, c = submitting r (.inserting t) ∧ t.id = id := by
  cases c with
  | submitting r m =>
    cases m with
    | checking =>
      simp only [step, Submission.step] at h
      split at h <;> cases h
    | building =>
      simp only [step, Submission.step] at h
      split at h <;> cases h
    | preparing task =>
      simp only [step, Submission.step] at h
      split at h <;> cases h
    | inserting task =>
      simp only [step, Submission.step] at h
      split at h
      · exact .inr ⟨r, task, rfl, Option.some.inj h⟩
      · cases h
    | rechecking j =>
      simp only [step, Submission.step] at h
      split at h <;> exact .inl h
    | withdrawing j c =>
      cases c with
      | ended claimed =>
        simp only [step, Submission.step] at h
        split at h
        · cases h
        · exact .inl h
      | _ => exact .inl h
    | examining j =>
      simp only [step, Submission.step] at h
      split at h
      · cases h
      · exact .inl h
    | _ => exact .inl h
  | cancelling id c => cases c <;> cases h
  | _ => cases h

/-- What a submission builds is of the kind that was asked for. -/
theorem Submission.isRecurring_of_draft?_step {s : PooledScheduler} {r : Request} {m : Submission} {t : Task}
    (h : (m.step s r).2.draft? = some t) : m.draft? = some t ∨ t.isRecurring = r.kind.isRecurring := by
  cases m with
  | building =>
    simp only [step] at h
    split at h
    · cases h
      exact .inr rfl
    · cases h
  | preparing task =>
    simp only [step] at h
    split at h
    · exact .inl h
    · cases h
  | checking | inserting _ | rechecking _ | examining _ =>
    simp only [step] at h
    split at h <;> cases h
  | withdrawing id c =>
    cases c with
    | ended claimed => cases claimed <;> cases h
    | _ => cases h
  | _ => cases h

/-- A client that is submitting a task after its step was submitting it before. -/
theorem Client.of_step_eq_submitting {s : PooledScheduler} {c : Client} {r : Request} {m : Submission}
    (h : (c.step s).2 = submitting r m) : ∃ before, c = submitting r before ∧ (before.step s r).2 = m := by
  cases c with
  | submitting q before =>
    cases h
    exact ⟨before, rfl, rfl⟩
  | cancelling id k => cases k <;> cases h
  | _ => cases h

namespace System

/-- What holds from now on of a task that was submitted in vain, be it a recurring one or not. -/
structure Withheld (s : System) (id : TaskId) (recurring : Bool) : Prop where
  state_eq (s' : System) : ReflTransGen Step s s' → (s'.backlog.task id).state = .cancelled
  /-- If it is to run once, it has not been run, and is not. -/
  runs_eq_zero (s' : System) : ReflTransGen Step s s' → recurring = false → (s'.backlog.task id).runs = 0
  /-- If it recurs, a run that was claimed before may still begin, and no other. -/
  runs_eq (s' : System) : ReflTransGen Step s s' →
    (s'.backlog.task id).runs = (s.backlog.task id).runs ∨
      (s'.backlog.task id).runs = (s.backlog.task id).runs + 1 ∧ recurring = true ∧ ∃ who, id ∈ s.held who .claimed

variable {s s' : System} {id : TaskId}

/-- Whoever is to run a task holds it. -/
theorem mem_held_of_actor_eq {who : Party} (h : s.actor who = .holding id) : id ∈ s.held who .claimed := by
  cases who with
  | client i =>
    simp only [actor] at h
    cases hclient : s.clients i with
    | submitting r m =>
      rw [hclient] at h
      cases m <;> cases h
    | shutting m =>
      rw [hclient] at h
      cases m <;> cases h
    | _ =>
      rw [hclient] at h
      cases h
  | dispatcher =>
    simp only [actor, held] at h ⊢
    cases hd : s.dispatcher with
    | none =>
      rw [hd] at h
      cases h
    | some d =>
      rw [hd] at h
      cases d <;> cases h <;> simp [Dispatcher.held, Holding.only]
  | worker k =>
    simp only [actor, held] at h ⊢
    cases htask : s.pool.task? k with
    | none =>
      rw [htask] at h
      cases h
    | some j =>
      rw [htask] at h
      cases h
      simp [Holding.only]
  | thread k =>
    simp only [actor, held] at h ⊢
    cases ht : s.threads k with
    | none =>
      rw [ht] at h
      cases h
    | some x =>
      rw [ht] at h
      cases x with
      | acting phase =>
        cases phase with
        | working j =>
          cases h
          simp [WorkerThread.held, Holding.only]
        | _ => cases h
      | executing j e =>
        cases e with
        | starting =>
          cases h
          simp [WorkerThread.held, Execution.held, Holding.only]
        | _ => cases h

/-- A task that has been entered and cancelled is withheld. -/
theorem Reachable.withheld_of_cancelled (h : s.Reachable) (hborn : s.Born id)
    (hstate : (s.backlog.task id).state = .cancelled) : s.Withheld id (s.backlog.task id).isRecurring := by
  obtain ⟨c, hc, hplays⟩ := h.plays
  have hstays {s' : System} (hrun : ReflTransGen Step s s') := (h.sound.run hrun).stays id hborn
  have hcancelled {s' : System} (hrun : ReflTransGen Step s s') := (hstays hrun).cancelled_of_cancelled hstate
  have hzero {s' : System} (hrun : ReflTransGen Step s s') (hr : (s.backlog.task id).isRecurring = false) :
      (s'.backlog.task id).runs = 0 := by
    obtain ⟨c', hrun', hplays'⟩ := hplays.run h.sound hrun
    have hr' := (Task.isRecurring_eq_of_identity (hstays hrun).identity_eq).trans hr
    rw [← hplays'.backlog_eq] at hr' ⊢
    refine ((hc.run hrun').fair id).runs_eq_zero hr' (.inr ?_)
    rw [hplays'.backlog_eq]
    exact hcancelled hrun
  refine ⟨fun s' => hcancelled, fun s' => hzero, fun s' hrun => ?_⟩
  cases hr : (s.backlog.task id).isRecurring with
  | false => exact .inl ((hzero hrun hr).trans (hzero .refl hr).symm)
  | true =>
    obtain ⟨c', hrun', hplays'⟩ := hplays.run h.sound hrun
    rw [← hplays.backlog_eq] at hstate hr ⊢
    rw [← hplays'.backlog_eq]
    -- only a task that has been entered recurs
    have hentered : id ∈ c.entered := by
      by_contra hnot
      cases hr.symm.trans (Task.status_eq_iff.1 ((hc.fair id).status_eq hnot)).1
    have hfinal := hc.final_run hentered hstate hrun'
    rw [(hc.fair id).runs_eq, ((hc.run hrun').fair id).runs_eq]
    refine hfinal.count_invoked.imp And.left fun hlast => ⟨hlast.1, rfl, ?_⟩
    obtain ⟨who, hwho⟩ := hlast.2.1
    exact ⟨who, mem_held_of_actor_eq ((hplays.actors_eq who).symm.trans hwho)⟩

/-- What a submission is about is of the kind that was asked for. -/
structure Submits (s : System) (r : Request) (m : Submission) : Prop where
  draft (t : Task) : m.draft? = some t → t.isRecurring = r.kind.isRecurring
  entered (id : TaskId) : m.entered? = some id → s.Born id ∧ (s.backlog.task id).isRecurring = r.kind.isRecurring

/-- The submission goes on. -/
private theorem Submits.stepClient {i : Nat} {r : Request} {m : Submission} (h : s.Submits r m) (hs : s.Sound)
    (hclient : s.clients i = .submitting r m) : (s.stepClient i).Submits r (m.step s.scheduler r).2 := by
  have hleads := hs.step (.client i)
  have hself : ((s.clients i).step s.scheduler).2 = .submitting r (m.step s.scheduler r).2 := by rw [hclient]; rfl
  refine ⟨fun t ht => (Submission.isRecurring_of_draft?_step ht).elim (h.draft t) fun hnew => hnew, fun id hid => ?_⟩
  have hid' : ((s.clients i).step s.scheduler).2.entered? = some id := by rw [hself]; exact hid
  rcases Client.entered?_step hid' with hbefore | ⟨q, t, hinserting, rfl⟩
  · rw [hclient] at hbefore
    obtain ⟨hborn, hr⟩ := h.entered id hbefore
    exact ⟨hleads.born id hborn, (Task.isRecurring_eq_of_identity (hleads.stays id hborn).identity_eq).trans hr⟩
  · have htask := hs.task_of_inserting hinserting
    obtain rfl : .inserting t = m := (Client.submitting.inj (hinserting.symm.trans hclient)).2
    refine ⟨hleads.sound.born_of_state ?_, ?_⟩
    · rw [htask, (hs.isNew i t (by rw [hclient]; rfl)).state_eq]
      decide
    · rw [htask]
      exact h.draft t rfl

theorem Reachable.submits (h : s.Reachable) {i : Nat} {r : Request} {m : Submission}
    (hclient : s.clients i = .submitting r m) : s.Submits r m := by
  induction h generalizing r m with
  | start => cases hclient
  | @step w w' hw hstep ih =>
    have hleads := hw.sound.step hstep
    -- whoever has not taken a step is about the same task
    have hsame (hbefore : w.clients i = .submitting r m) : w'.Submits r m := by
      refine ⟨(ih hbefore).draft, fun id hid => ?_⟩
      obtain ⟨hborn, hr⟩ := (ih hbefore).entered id hid
      exact ⟨hleads.born id hborn, (Task.isRecurring_eq_of_identity (hleads.stays id hborn).identity_eq).trans hr⟩
    have hcalled {j : Nat} {c : Client} (hafter : (w.withClient j c).clients i = .submitting r m) :
        w.clients i = .submitting r m ∨ c = .submitting r m := by
      by_cases hj : i = j
      · subst hj
        rw [show (w.withClient i c).clients i = c from Function.update_self i _ w.clients] at hafter
        exact .inr hafter
      · rw [show (w.withClient j c).clients i = w.clients i from Function.update_of_ne hj _ w.clients] at hafter
        exact .inl hafter
    cases hstep with
    | submit j q _ =>
      rcases hcalled hclient with hbefore | hnew
      · exact hsame hbefore
      · cases hnew
        exact ⟨fun _ ht => (by cases ht), fun _ hid => (by cases hid)⟩
    | cancel j id _ => exact hsame ((hcalled hclient).resolve_right (by simp))
    | shutDown j mode _ => exact hsame ((hcalled hclient).resolve_right (by simp))
    | client j =>
      by_cases hj : i = j
      · subst hj
        rw [clients_stepClient_self] at hclient
        obtain ⟨before, hbefore, rfl⟩ := Client.of_step_eq_submitting hclient
        exact (ih hbefore).stepClient hw.sound hbefore
      · rw [show (w.stepClient j).clients i = w.clients i from Function.update_of_ne hj _ w.clients] at hclient
        exact hsame hclient
    | _ => exact hsame hclient

/-- A task that is not run at all need not be one that is to run once. -/
theorem Withheld.of_once (h : s.Withheld id false) (recurring : Bool) : s.Withheld id recurring where
  state_eq := h.state_eq
  runs_eq_zero s' hrun _ := h.runs_eq_zero s' hrun rfl
  runs_eq s' hrun := .inl ((h.runs_eq_zero s' hrun rfl).trans (h.runs_eq_zero s .refl rfl).symm)

/-- A submission that is given up before it has entered its task enters nothing. -/
private theorem Reachable.withheld_of_preparing (h : s.Reachable) {i : Nat} {r : Request} {t : Task}
    (hclient : s.clients i = .submitting r (.preparing t)) {result : Except Trouble TaskId}
    (hended : (s.stepClient i).clients i = .submitting r (.ended result)) : (s.stepClient i).Withheld t.id false := by
  have hstep : Step s (s.stepClient i) := .client i
  have hmem : t.id ∈ s.held (.client i) .unborn := by
    simp [held, hclient, Client.held, Submission.held, Holding.only]
  obtain ⟨l, hl⟩ := h.sound.located t.id
  obtain rfl := hl.eq_held hmem
  have habsent : s.backlog.task t.id = .absent := hl.suits
  have hbacklog : (s.stepClient i).backlog = s.backlog := by
    have hensured := s.scheduler.backlog_ensureDispatcher
    rw [backlog_stepClient, hclient]
    simp only [Client.step, Submission.step]
    rcases hens : s.scheduler.ensureDispatcher with ⟨u, trouble | _⟩ <;> rw [hens] at hensured <;> exact hensured
  have hborn : (s.stepClient i).Born t.id := by
    refine ⟨by rw [hbacklog]; exact hl.index_lt (by simp), fun who hwho => ?_⟩
    -- only this submission had it in hand
    by_cases hself : who = .client i
    · subst hself
      simp only [held, hended, Client.held, Submission.held] at hwho
      cases hwho
    · rw [Sound.held_stepClient_of_ne s i hself] at hwho
      have heq := hl.eq_held hwho
      simp only [Option.some.injEq, Place.held.injEq] at heq
      exact hself heq.1.symm
  have hwithheld := (h.step hstep).withheld_of_cancelled hborn (by rw [hbacklog, habsent]; rfl)
  rwa [hbacklog, habsent] at hwithheld

/-- A submission reports a shutdown in one of four ways. -/
private theorem Reachable.rejection_cases (h : s.Reachable) {i : Nat} {r : Request} {m : Submission}
    (hclient : s.clients i = .submitting r m) (hgoing : ∀ result, m ≠ .ended result)
    (hrejected : (s.stepClient i).clients i = .submitting r (.ended (.error (.error .shutdown)))) :
    m = .checking ∨ (∃ t, m = .preparing t) ∨
      ∃ id, m.entered? = some id ∧ (s.backlog.task id).state = .cancelled ∧ (s.stepClient i).backlog = s.backlog := by
  rw [clients_stepClient_self] at hrejected
  rw [backlog_stepClient]
  rw [hclient] at hrejected ⊢
  replace hrejected : (m.step s.scheduler r).2 = .ended (.error (.error .shutdown)) := by
    simpa only [Client.step, Client.submitting.injEq, true_and] using hrejected
  cases m with
  | checking => exact .inl rfl
  | preparing t => exact .inr (.inl ⟨t, rfl⟩)
  | building =>
    simp only [Submission.step] at hrejected
    split at hrejected <;> cases hrejected
  | inserting t =>
    simp only [Submission.step] at hrejected
    split at hrejected <;> cases hrejected
  | rechecking id =>
    simp only [Submission.step] at hrejected
    split at hrejected <;> cases hrejected
  | withdrawing id k =>
    cases k with
    | ended claimed =>
      cases claimed with
      | false => cases hrejected
      | true =>
        -- the submission has cancelled the task itself
        obtain ⟨c, hc, hplays⟩ := h.plays
        have hclaims : id ∈ (c.actors (.client i)).claims := by
          rw [hplays.actors_eq]
          simp [actor, hclient, Client.actor, Submission.actor, Actor.claims]
        have hcancelled := ((hc.fair id).of_isClaimed (.inr ⟨_, hclaims⟩)).2
        exact .inr (.inr ⟨id, rfl, by rwa [← hplays.backlog_eq], rfl⟩)
    | _ => cases hrejected
  | examining id =>
    simp only [Submission.step] at hrejected
    split at hrejected
    · exact .inr (.inr ⟨id, rfl, ‹_›, rfl⟩)
    · cases hrejected
  | ended result => exact absurd rfl (hgoing result)
  | _ => cases hrejected

/-- A submission that reports a shutdown leaves nothing behind that is still to be done: its task is withheld. -/
theorem Reachable.withholds (h : s.Reachable) {i : Nat} {r : Request} {m : Submission}
    (hclient : s.clients i = .submitting r m) (hgoing : ∀ result, m ≠ .ended result)
    (hrejected : (s.stepClient i).clients i = .submitting r (.ended (.error (.error .shutdown)))) :
    (m = .checking ∧ (s.stepClient i).backlog = s.backlog) ∨
      ∃ id, m.number? = some id ∧ (s.stepClient i).Withheld id r.kind.isRecurring := by
  have hstep : Step s (s.stepClient i) := .client i
  rcases h.rejection_cases hclient hgoing hrejected with rfl | ⟨t, rfl⟩ | ⟨id, hentered, hstate, hbacklog⟩
  · left
    refine ⟨rfl, ?_⟩
    rw [backlog_stepClient, hclient]
    rfl
  · exact .inr ⟨t.id, rfl, (h.withheld_of_preparing hclient hrejected).of_once _⟩
  · obtain ⟨hborn, hr⟩ := (h.submits hclient).entered id hentered
    have hnumber : m.number? = some id := by cases m <;> first | exact hentered | cases hentered
    have hwithheld := (h.step hstep).withheld_of_cancelled ((h.sound.step hstep).born id hborn)
      (by rw [hbacklog]; exact hstate)
    rw [hbacklog, hr] at hwithheld
    exact .inr ⟨id, hnumber, hwithheld⟩

/-! ### A recurring task that has begun its first run when its submission is rejected -/

private def hourly : Request := ⟨.zero, .recurring (.ofMillis 3600000) .fixedRate, none, none⟩

/-- The task has been queued, dispatched and started; then a shutdown is requested, and the submission, which sees it,
cancels its task. -/
private def rejectingTurns : List Turn := List.flatten
  [.submit 0 hourly :: .replicate 4 (.client 0), .replicate 11 .dispatcher, .replicate 2 (.worker 0),
    [.shutDown 1 .discardPending, .client 1], .replicate 3 (.client 0)]

private def rejecting : System :=
  (System.start (.start (.manual 0)) 1 .zero (.plain "w") .bare .empty .high 0).follow rejectingTurns

/-- The submission is rejected, although the action has been started; it is not started again. -/
theorem withholds_started : rejecting.Reachable ∧
    rejecting.clients 0 = .submitting hourly (.withdrawing ⟨0⟩ (.ended true)) ∧
    (rejecting.stepClient 0).clients 0 = .submitting hourly (.ended (.error (.error .shutdown))) ∧
    ((rejecting.stepClient 0).backlog.task ⟨0⟩).runs = 1 ∧
    ∀ s', ReflTransGen Step (rejecting.stepClient 0) s' →
      (s'.backlog.task ⟨0⟩).state = .cancelled ∧ (s'.backlog.task ⟨0⟩).runs = 1 := by
  have hreachable : rejecting.Reachable :=
    (Reachable.start (.start (.manual 0)) 1 .zero (.plain "w") .bare .empty .high 0).follow rejectingTurns
  have hclient : rejecting.clients 0 = .submitting hourly (.withdrawing ⟨0⟩ (.ended true)) := by cbv
  have hrejected : (rejecting.stepClient 0).clients 0 = .submitting hourly (.ended (.error (.error .shutdown))) := by cbv
  have hruns : ((rejecting.stepClient 0).backlog.task ⟨0⟩).runs = 1 := by cbv
  have hthread : (rejecting.stepClient 0).threads 0 = some (.executing ⟨0⟩ .running) := by decide +kernel
  refine ⟨hreachable, hclient, hrejected, hruns, fun s' hrun => ?_⟩
  rcases hreachable.withholds hclient (by simp) hrejected with ⟨hchecking, -⟩ | ⟨id, hid, hwithheld⟩
  · cases hchecking
  · obtain rfl : ⟨0⟩ = id := Option.some.inj hid
    refine ⟨hwithheld.state_eq s' hrun, ?_⟩
    rcases hwithheld.runs_eq s' hrun with hsame | ⟨-, -, who, hwho⟩
    · rw [hsame, hruns]
    -- the run that was claimed has begun
    · obtain ⟨l, hl⟩ := (hreachable.step (.client 0)).sound.located ⟨0⟩
      have hmem : ⟨0⟩ ∈ (rejecting.stepClient 0).held (.thread 0) .started := by
        simp [held, hthread, WorkerThread.held, Execution.held, Holding.only]
      have heq := (hl.eq_held hwho).symm.trans (hl.eq_held hmem)
      simp at heq

end System

end TaskScheduling
