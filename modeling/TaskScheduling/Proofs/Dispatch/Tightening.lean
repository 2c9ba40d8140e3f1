import TaskScheduling.Proofs.Dispatch.Serial

/-!
# Shutdowns only tighten

Once a shutdown has been requested the mode never becomes less strict, nothing is accepted any more, and nothing gets
into a queue: recurring tasks are not queued again, and what waits there stays in order until it is dispatched, or
cancelled by a caller or by a stricter request (`Serial.Tightens`).  What the requests answer is what they have
cancelled, and no task is answered twice.

Main statement: `Serial.Reachable.tightens`.
-/

namespace TaskScheduling

/-! ### Backlogs that nothing gets into -/

namespace Backlog

/-- Between `b` and `c` nothing has got into a queue, and nothing has become pending. -/
structure Fades (b c : Backlog) : Prop where
  queue_sublist (slot : QueueSlot) : (c.queue slot).Sublist (b.queue slot)
  isRecurring_eq (id : TaskId) : (c.task id).isRecurring = (b.task id).isRecurring
  pending (id : TaskId) : (c.task id).state = .pending → (b.task id).state = .pending

namespace Fades

variable {b c d : Backlog}

theorem refl (b : Backlog) : b.Fades b := ⟨fun _ => List.Sublist.refl _, fun _ => rfl, fun _ h => h⟩

theorem trans (h : b.Fades c) (h' : c.Fades d) : b.Fades d where
  queue_sublist slot := (h'.queue_sublist slot).trans (h.queue_sublist slot)
  isRecurring_eq id := (h'.isRecurring_eq id).trans (h.isRecurring_eq id)
  pending id hid := h.pending id (h'.pending id hid)

theorem of_thins (h : b.Thins c) : b.Fades c where
  queue_sublist := h.queue_sublist
  isRecurring_eq id := Task.isRecurring_eq_of_identity (h.identity_eq id)
  pending id hid := by
    rcases h.state_eq id with hs | ⟨hs, -⟩
    · exact hs ▸ hid
    · rw [hs] at hid
      cases hid

theorem transition (b : Backlog) (id : TaskId) (source : TaskState) {target : TaskState} (htarget : target ≠ .pending) :
    b.Fades (b.transition id source target).1 where
  queue_sublist slot := by
    rw [queue_transition]
  isRecurring_eq := fun j => Task.isRecurring_eq_of_identity (identity_transition b id source target j)
  pending j hj := by
    rw [task_transition] at hj
    split at hj
    · exact absurd hj htarget
    · exact hj

theorem takeUp (b : Backlog) (id : TaskId) : b.Fades (b.takeUp id) :=
  (of_thins (.unlink b id _)).trans (.transition _ id .pending (by decide))

theorem countRun (b : Backlog) (id : TaskId) : b.Fades (b.modify id Task.countRun) where
  queue_sublist slot := by
    rw [queue_modify]
  isRecurring_eq j := by
    rw [task_modify]
    split <;> rfl
  pending j hj := by
    rw [task_modify] at hj
    split at hj <;> exact hj

end Fades

end Backlog

theorem Scope.takes_congr {t u : Task} (h : t.isRecurring = u.isRecurring) (scope : Scope) :
    scope.takes t = scope.takes u := by
  cases scope with
  | everything => rfl
  | recurring => exact h

/-- The stricter of two modes is the new one, unless everything was to be discarded before. -/
theorem ShutdownMode.joined_cases (old : Option ShutdownMode) (mode : ShutdownMode) :
    old = some .discardPending ∧ joined old mode = .discardPending ∨ joined old mode = mode := by
  rcases old with _ | _ | _
  · exact .inr rfl
  · exact .inr rfl
  · exact .inl ⟨rfl, rfl⟩

/-! ### Operations after a shutdown -/

/-- The mode that an operation requests. -/
def Operation.mode? : Operation → Option ShutdownMode
  | shutDown _ mode => some mode
  | shutDownNow _ => some .discardPending
  | _ => none

/-- Why a task may leave its queue after a shutdown, and the state that it comes to. -/
inductive Operation.Releases (id : TaskId) : Operation → TaskState → Prop where
  | dispatched : Releases id .iterate .executing
  | cancelled (i : Nat) : Releases id (.cancel i id) .cancelled
  | discarded (i : Nat) : Releases id (.shutDown i .discardPending) .cancelled
  | discardedNow (i : Nat) : Releases id (.shutDownNow i) .cancelled

namespace Serial

variable {v v' w : Serial} {op : Operation}

/-- Only a request changes the mode, and joins its own. -/
theorem Step.shutdown_eq (hstep : v.Step op v') (h : v.Sound) : v'.system.scheduler.shutdown =
    op.mode?.elim v.system.scheduler.shutdown fun mode => some (.joined v.system.scheduler.shutdown mode) := by
  cases hstep with
  | submit i r =>
    have hsubmits := v.system.scheduler.submits_submit r
    show (v.system.scheduler.submit r).1.shutdown = v.system.scheduler.shutdown
    generalize v.system.scheduler.submit r = x at hsubmits
    cases hsubmits with
    | refused _ => rfl
    | failed t trouble _ _ _ _ _ hshutdown => exact hshutdown
    | accepted t now _ _ _ hshutdown => exact hshutdown
  | cancel i id => exact v.system.scheduler.shutdown_cancel id
  | shutDown i mode => exact v.system.scheduler.shutdown_shutdownWith mode
  | shutDownNow i => exact v.system.scheduler.shutdown_shutdownWith .discardPending
  | iterate now n hend => exact (System.iterates_goOn h.reachable h.tidy h.isResting now hend).shutdown_eq
  | begin k id name hk => rfl
  | conclude k id name outcome hk =>
    obtain ⟨s, t, hconclude, -, hshutdown, -, hsettles⟩ := h.exists_settles name outcome hk
    rw [hconclude]
    exact hsettles.shutdown_eq.trans hshutdown
  | adjust s hadjusts => exact hadjusts.leaves.shutdown_eq

theorem Step.strictness_le (hstep : v.Step op v') (h : v.Sound) :
    ShutdownMode.strictness v.system.scheduler.shutdown ≤ ShutdownMode.strictness v'.system.scheduler.shutdown := by
  rw [hstep.shutdown_eq h]
  cases op.mode? with
  | none => exact Nat.le_refl _
  | some mode => exact v.system.scheduler.raise_ge mode

/-- Whether no task is pending that the shutdown has condemned. -/
def Swept (v : Serial) : Prop := ∀ mode, v.system.scheduler.shutdown = some mode →
  ∀ id, (v.system.backlog.task id).state = .pending → mode.scope.takes (v.system.backlog.task id) = false

/-- A sweep has nothing left to clear away. -/
private theorem Swept.sweep_eq_nil (h : v.Swept) (hs : v.Sound) : v.system.scheduler.sweep.2 = [] := by
  rw [List.eq_nil_iff_forall_not_mem]
  intro id hid
  unfold PooledScheduler.sweep at hid
  split at hid
  · next mode hmode =>
    obtain ⟨hpending, htakes⟩ := (Backlog.mem_clear_iff hs.tidy).1 hid
    rw [h mode hmode id hpending] at htakes
    cases htakes
  · cases hid

/-- After a shutdown nothing gets into a queue, whatever is done. -/
theorem Step.fades (hstep : v.Step op v') (h : v.Sound) (hshutdown : v.system.scheduler.isShutdown = true) :
    v.system.backlog.Fades v'.system.backlog := by
  cases hstep with
  | submit i r =>
    have hsubmits := v.system.scheduler.submits_submit r
    show v.system.backlog.Fades (v.system.scheduler.submit r).1.backlog
    generalize v.system.scheduler.submit r = x at hsubmits
    cases hsubmits with
    | refused _ => exact .refl _
    | failed t trouble hnot _ _ _ _ _ =>
      rw [hshutdown] at hnot
      cases hnot
    | accepted t now hnot _ _ _ =>
      rw [hshutdown] at hnot
      cases hnot
  | cancel i id =>
    simp only [withSystem, System.backlog_cancel]
    exact .of_thins (.cancel _ id)
  | shutDown i mode =>
    simp only [Serial.shutDown, System.backlog_shutDown]
    exact .of_thins (.clear _ mode.scope)
  | shutDownNow i =>
    simp only [Serial.shutDownNow, System.backlog_shutDownNow]
    exact .of_thins (.clear _ .everything)
  | iterate now n hend =>
    have hsweep : v.system.backlog.Fades v.system.scheduler.sweep.1 := .of_thins h.cancels_sweep.thins
    show v.system.backlog.Fades (v.system.goOn now n).scheduler.backlog
    rcases (System.iterates_goOn h.reachable h.tidy h.isResting now hend).cases with
      ⟨hbacklog, -⟩ | hsweeps | ⟨id, htakes⟩
    · exact (show (v.system.goOn now n).scheduler.backlog = v.system.backlog from hbacklog) ▸ .refl _
    · exact hsweeps.backlog_eq ▸ hsweep
    · exact htakes.backlog_eq ▸ hsweep.trans (.takeUp _ id)
  | begin k id name hk => exact .countRun _ id
  | conclude k id name outcome hk =>
    obtain ⟨s, t, hconclude, hbacklog, hmode, -, hsettles⟩ := h.exists_settles name outcome hk
    have hcases := hsettles.cases
    have hs : s.isShutdown = true := by
      rw [PooledScheduler.isShutdown, hmode]
      exact hshutdown
    rw [hbacklog, hs] at hcases
    rw [hconclude]
    show v.system.backlog.Fades t.backlog
    rcases hcases with ⟨hr, -, hstate, hb, -⟩ | ⟨-, -, -, hb, -⟩ | ⟨hr, ⟨completedAt, hb⟩, -⟩ <;> rw [hb]
    · exact .of_thins (.transition _ id fun _ => .inr ⟨rfl, hr⟩)
    · exact .refl _
    · rw [Bool.and_true] at hr
      rw [Backlog.complete_once hr completedAt]
      exact .transition _ id .executing (by decide)
  | adjust s hadjusts =>
    show v.system.backlog.Fades s.backlog
    rw [hadjusts.leaves.backlog_eq]
    exact .refl _

/-- After a shutdown a pending task remains so, unless it is released. -/
theorem Step.releases (hstep : v.Step op v') (h : v.Sound) (hswept : v.Swept)
    (hshutdown : v.system.scheduler.isShutdown = true) {id : TaskId} (hs : (v.system.backlog.task id).state = .pending)
    (hs' : (v'.system.backlog.task id).state ≠ .pending) : op.Releases id (v'.system.backlog.task id).state := by
  obtain ⟨mode', hmode⟩ := Option.isSome_iff_exists.1 hshutdown
  have hspared := hswept mode' hmode id hs
  cases hstep with
  | submit i r =>
    have hsubmits := v.system.scheduler.submits_submit r
    have hs' : ((v.system.scheduler.submit r).1.backlog.task id).state ≠ .pending := hs'
    generalize v.system.scheduler.submit r = x at hsubmits hs'
    cases hsubmits with
    | refused _ => exact absurd hs hs'
    | failed t trouble hnot _ _ _ _ _ =>
      rw [hshutdown] at hnot
      cases hnot
    | accepted t now hnot _ _ _ =>
      rw [hshutdown] at hnot
      cases hnot
  | cancel i j =>
    simp only [withSystem, System.backlog_cancel] at hs' ⊢
    obtain ⟨hmem, hstate⟩ := (Backlog.Cancels.cancel v.system.backlog j).of_pending hs hs'
    have hid : id = j := by
      split at hmem
      · exact List.mem_singleton.1 hmem
      · cases hmem
    subst hid
    exact hstate ▸ .cancelled i
  | shutDown i mode =>
    simp only [Serial.shutDown, System.backlog_shutDown] at hs' ⊢
    obtain ⟨hmem, hstate⟩ := (Backlog.Cancels.clear h.tidy mode.scope).of_pending hs hs'
    have htakes := ((Backlog.mem_clear_iff h.tidy).1 hmem).2
    cases mode with
    | drainPending =>
      -- what a request to drain would take has been cleared away before
      cases mode' with
      | drainPending => exact Bool.noConfusion (htakes.symm.trans hspared)
      | discardPending => cases hspared
    | discardPending => exact hstate ▸ .discarded i
  | shutDownNow i =>
    simp only [Serial.shutDownNow, System.backlog_shutDownNow] at hs' ⊢
    exact ((Backlog.Cancels.clear h.tidy .everything).of_pending hs hs').2 ▸ .discardedNow i
  | iterate now n hend =>
    have hsweep := h.cancels_sweep
    rw [hswept.sweep_eq_nil h] at hsweep
    have hs' : ((v.system.goOn now n).scheduler.backlog.task id).state ≠ .pending := hs'
    rcases (System.iterates_goOn h.reachable h.tidy h.isResting now hend).cases with
      ⟨hbacklog, -⟩ | hsweeps | ⟨j, htakes⟩
    · rw [show (v.system.goOn now n).scheduler.backlog = v.system.backlog from hbacklog] at hs'
      exact absurd hs hs'
    · rw [hsweeps.backlog_eq] at hs'
      cases (hsweep.of_pending hs hs').1
    · show Operation.Releases id .iterate ((v.system.goOn now n).scheduler.backlog.task id).state
      have hstatus := (Backlog.Brings.takeUp htakes.pending).status_eq id
      rw [htakes.backlog_eq] at hs' ⊢
      split at hstatus
      · rw [(Task.status_eq_iff.1 hstatus).2.1]
        exact .dispatched
      · rw [(Task.status_eq_iff.1 hstatus).2.1] at hs'
        cases (hsweep.of_pending hs hs').1
  | begin k j name hk =>
    have hruns := h.reachable.runs hk rfl rfl
    exact absurd ((Backlog.Brings.modify v.system.backlog j Task.countRun).pending hruns.state_ne_pending hs) hs'
  | conclude k j name outcome hk =>
    have hruns := h.reachable.runs hk rfl rfl
    obtain ⟨s, t, hconclude, hbacklog, -, -, hsettles⟩ := h.exists_settles name outcome hk
    have hcases := hsettles.cases
    rw [hbacklog] at hcases
    rw [hconclude] at hs'
    have hs' : (t.backlog.task id).state ≠ .pending := hs'
    rcases hcases with ⟨-, -, hstate, hb, -⟩ | ⟨-, -, -, hb, -⟩ | ⟨-, ⟨completedAt, hb⟩, -⟩ <;> rw [hb] at hs'
    · exact absurd ((Backlog.Brings.transition hstate .cancelled).pending hruns.state_ne_pending hs) hs'
    · exact absurd hs hs'
    · obtain ⟨state, hbrings, -⟩ := Backlog.Brings.complete hruns.slot_eq completedAt
      exact absurd (hbrings.pending hruns.state_ne_pending hs) hs'
  | adjust s hadjusts =>
    have hs' : (s.backlog.task id).state ≠ .pending := hs'
    rw [hadjusts.leaves.backlog_eq] at hs'
    exact absurd hs hs'

/-- A request clears away what it condemns. -/
private theorem Swept.request (h : v.Swept) (hs : v.Sound) {mode : ShutdownMode}
    (hmode : v'.system.scheduler.shutdown = some (.joined v.system.scheduler.shutdown mode))
    (hbacklog : v'.system.backlog = (v.system.backlog.clear mode.scope).1) : v'.Swept := by
  intro mode' hmode' id hid
  rw [hmode, Option.some.injEq] at hmode'
  have hcancels := Backlog.Cancels.clear hs.tidy mode.scope
  rw [hbacklog, Scope.takes_congr (Task.isRecurring_eq_of_identity (hcancels.thins.identity_eq id))]
  rw [hbacklog, hcancels.state_eq] at hid
  split at hid
  · cases hid
  · next hnot =>
    rw [Backlog.mem_clear_iff hs.tidy, not_and] at hnot
    have hspared := Bool.eq_false_iff.2 (hnot hid)
    rcases ShutdownMode.joined_cases v.system.scheduler.shutdown mode with ⟨hold, -⟩ | hjoined
    · cases h .discardPending hold id hid
    · rw [← hmode', hjoined]
      exact hspared

private theorem Swept.step (h : v.Swept) (hs : v.Sound) (hstep : v.Step op v') : v'.Swept := by
  have hmode := hstep.shutdown_eq hs
  -- an operation that requests nothing brings nothing into the queues
  have hother (hnone : op.mode? = none) : v'.Swept := by
    rw [hnone] at hmode
    intro mode hmode' id hid
    rw [hmode] at hmode'
    have hshutdown : v.system.scheduler.isShutdown = true := Option.isSome_iff_exists.2 ⟨mode, hmode'⟩
    have hfades := hstep.fades hs hshutdown
    rw [Scope.takes_congr (hfades.isRecurring_eq id)]
    exact h mode hmode' id (hfades.pending id hid)
  cases hstep with
  | shutDown i mode => exact h.request hs hmode (v.system.backlog_shutDown i mode)
  | shutDownNow i => exact h.request hs hmode (v.system.backlog_shutDownNow i)
  | _ => exact hother rfl

theorem Reachable.swept (h : v.Reachable) : v.Swept := by
  induction h with
  | start clock maxSize keepAlive factory router sink defaultPriority lowWait => exact fun _ hmode => by cases hmode
  | step hreachable hstep ih => exact ih.step hreachable.sound hstep

/-! ### What the requests answer -/

/-- Whether the requests have answered nobody twice, and only tasks that they have cancelled. -/
structure Answered (v : Serial) : Prop where
  nodup : v.answers.flatten.Nodup
  cancelled (id : TaskId) : id ∈ v.answers.flatten →
    id ∈ v.accepted ∧ (v.system.backlog.task id).state = .cancelled

/-- A request answers tasks that were pending and are cancelled now. -/
private theorem Answered.request (h : v.Answered) (hv : v.Reachable) (hstep : v.Step op v') {mode : ShutdownMode}
    (hbacklog : v'.system.backlog = (v.system.backlog.clear mode.scope).1) (haccepted : v'.accepted = v.accepted)
    (hanswers : v'.answers = (v.system.scheduler.shutdownWith mode).2 :: v.answers) : v'.Answered := by
  have htidy := hv.sound.tidy
  have hcancels := Backlog.Cancels.clear htidy mode.scope
  have hanswer : (v.system.scheduler.shutdownWith mode).2 = (v.system.backlog.clear mode.scope).2 := rfl
  rw [hanswer] at hanswers
  refine ⟨?_, fun id hid => ?_⟩
  · rw [hanswers, List.flatten_cons]
    refine hcancels.nodup.append h.nodup fun id hid hid' => ?_
    have hpending := ((Backlog.mem_clear_iff htidy).1 hid).1
    rw [(h.cancelled id hid').2] at hpending
    cases hpending
  · rw [hanswers, List.flatten_cons, List.mem_append] at hid
    rcases hid with hid | hid
    · have hpending := ((Backlog.mem_clear_iff htidy).1 hid).1
      rw [haccepted, hbacklog, hcancels.state_eq, if_pos hid]
      exact ⟨hv.exact.mem_accepted (.inl fun hcancelled => by cases hpending.symm.trans hcancelled), rfl⟩
    · obtain ⟨hmem, hstate⟩ := h.cancelled id hid
      exact hv.exact.cancelled_run (hv.sound.step hstep).ledger hmem hstate

private theorem Answered.step (h : v.Answered) (hv : v.Reachable) (hstep : v.Step op v') : v'.Answered := by
  have hother (hanswers : v'.answers = v.answers) : v'.Answered := by
    refine ⟨hanswers ▸ h.nodup, fun id hid => ?_⟩
    obtain ⟨hmem, hstate⟩ := h.cancelled id (hanswers ▸ hid)
    exact hv.exact.cancelled_run (hv.sound.step hstep).ledger hmem hstate
  cases hstep with
  | shutDown i mode => exact h.request hv (.shutDown i mode) (v.system.backlog_shutDown i mode) rfl rfl
  | shutDownNow i =>
    have hbacklog : (v.shutDownNow i).system.backlog = (v.system.backlog.clear ShutdownMode.discardPending.scope).1 :=
      v.system.backlog_shutDownNow i
    exact h.request hv (.shutDownNow i) hbacklog rfl rfl
  | _ => exact hother rfl

theorem Reachable.answered (h : v.Reachable) : v.Answered := by
  induction h with
  | start clock maxSize keepAlive factory router sink defaultPriority lowWait =>
    exact ⟨List.nodup_nil, fun id hid => by cases hid⟩
  | step hreachable hstep ih => exact ih.step hreachable hstep

/-! ### Runs -/

/-- Some operation leads from one to the other. -/
def Then (v v' : Serial) : Prop := ∃ op, v.Step op v'

theorem Reachable.run (h : v.Reachable) (hrun : Relation.ReflTransGen Then v w) : w.Reachable := by
  induction hrun with
  | refl => exact h
  | tail _ hnext ih =>
    obtain ⟨op, hstep⟩ := hnext
    exact ih.step hstep

theorem Reachable.strictness_le (h : v.Reachable) (hrun : Relation.ReflTransGen Then v w) :
    ShutdownMode.strictness v.system.scheduler.shutdown ≤ ShutdownMode.strictness w.system.scheduler.shutdown := by
  induction hrun with
  | refl => exact Nat.le_refl _
  | tail hrun hnext ih =>
    obtain ⟨op, hstep⟩ := hnext
    exact ih.trans (hstep.strictness_le (h.run hrun).sound)

theorem Reachable.isShutdown_run (h : v.Reachable) (hrun : Relation.ReflTransGen Then v w)
    (hshutdown : v.system.scheduler.isShutdown = true) : w.system.scheduler.isShutdown = true := by
  have hle := h.strictness_le hrun
  unfold PooledScheduler.isShutdown at hshutdown ⊢
  rcases hv : v.system.scheduler.shutdown with _ | _ | _ <;> rcases hw : w.system.scheduler.shutdown with _ | _ | _ <;>
    simp_all [ShutdownMode.strictness]

theorem Reachable.fades (h : v.Reachable) (hrun : Relation.ReflTransGen Then v w)
    (hshutdown : v.system.scheduler.isShutdown = true) : v.system.backlog.Fades w.system.backlog := by
  induction hrun with
  | refl => exact .refl _
  | tail hrun hnext ih =>
    obtain ⟨op, hstep⟩ := hnext
    exact ih.trans (hstep.fades (h.run hrun).sound (h.isShutdown_run hrun hshutdown))

/-- What holds at `w` when the run has come from `v`. -/
structure Tightens (v w : Serial) : Prop where
  strictness_le :
    ShutdownMode.strictness v.system.scheduler.shutdown ≤ ShutdownMode.strictness w.system.scheduler.shutdown
  /-- After a shutdown a submission is refused, and does nothing. -/
  submit_eq (r : Request) : v.system.scheduler.isShutdown = true →
    w.system.scheduler.submit r = (w.system.scheduler, .error (.error .shutdown))
  once_of_queued (id : TaskId) : v.system.scheduler.isShutdown = true → id ∈ w.system.backlog.queued →
    (w.system.backlog.task id).isRecurring = false
  queued_eq_nil : v.system.scheduler.shutdown = some .discardPending → w.system.backlog.queued = []
  queue_sublist (slot : QueueSlot) : v.system.scheduler.isShutdown = true →
    (w.system.backlog.queue slot).Sublist (v.system.backlog.queue slot)
  releases (op : Operation) (w' : Serial) (id : TaskId) : v.system.scheduler.isShutdown = true → w.Step op w' →
    id ∈ w.system.backlog.queued → id ∉ w'.system.backlog.queued →
    op.Releases id (w'.system.backlog.task id).state
  /-- What a request does not cover stays in order. -/
  queue_shutDown (i : Nat) (mode : ShutdownMode) (slot : QueueSlot) : (w.shutDown i mode).system.backlog.queue slot =
    (w.system.backlog.queue slot).filter fun id => !mode.scope.takes (w.system.backlog.task id)
  mem_answer_iff (mode : ShutdownMode) (id : TaskId) : id ∈ (w.system.scheduler.shutdownWith mode).2 ↔
    (w.system.backlog.task id).state = .pending ∧ mode.scope.takes (w.system.backlog.task id) = true
  nodup_answers : w.answers.flatten.Nodup
  cancelled_of_answered (id : TaskId) : id ∈ w.answers.flatten → (w.system.backlog.task id).state = .cancelled

private theorem Sound.mem_queued_iff (h : v.Sound) {id : TaskId} :
    id ∈ v.system.backlog.queued ↔ (v.system.backlog.task id).state = .pending := by
  rw [h.tidy.toKept.mem_queued_iff, h.tidy.isSome_slot_iff]
  exact and_iff_left nofun

/-- A shutdown only ever tightens. -/
theorem Reachable.tightens (h : v.Reachable) (hrun : Relation.ReflTransGen Then v w) : v.Tightens w := by
  have hw := h.run hrun
  have hsound := hw.sound
  have hshutdown (hv : v.system.scheduler.isShutdown = true) := h.isShutdown_run hrun hv
  refine ⟨h.strictness_le hrun, fun r hv => ?_, fun id hv hid => ?_, fun hv => ?_,
    fun slot hv => (h.fades hrun hv).queue_sublist slot, fun op w' id hv hstep hid hid' => ?_, fun i mode slot => ?_,
    fun mode id => Backlog.mem_clear_iff hsound.tidy, hw.answered.nodup, fun id hid => (hw.answered.cancelled id hid).2⟩
  · have hsubmits := w.system.scheduler.submits_submit r
    generalize w.system.scheduler.submit r = x at hsubmits
    cases hsubmits with
    | refused _ => rfl
    | failed t trouble hnot _ _ _ _ _ => exact Bool.noConfusion ((hshutdown hv).symm.trans hnot)
    | accepted t now hnot _ _ _ => exact Bool.noConfusion ((hshutdown hv).symm.trans hnot)
  · obtain ⟨mode, hmode⟩ := Option.isSome_iff_exists.1 (hshutdown hv)
    have hspared := hw.swept mode hmode id (hsound.mem_queued_iff.1 hid)
    cases mode with
    | drainPending => exact hspared
    | discardPending => cases hspared
  · have hle := h.strictness_le hrun
    have hmode : w.system.scheduler.shutdown = some .discardPending := by
      rw [hv] at hle
      rcases hshut : w.system.scheduler.shutdown with _ | _ | _ <;> rw [hshut] at hle
      · exact absurd hle (by decide)
      · exact absurd hle (by decide)
    rw [List.eq_nil_iff_forall_not_mem]
    intro id hid
    cases hw.swept .discardPending hmode id (hsound.mem_queued_iff.1 hid)
  · have hs := hsound.mem_queued_iff.1 hid
    exact hstep.releases hsound hw.swept (hshutdown hv) hs fun hs' =>
      hid' ((hsound.step hstep).sound.mem_queued_iff.2 hs')
  · rw [Serial.shutDown, System.backlog_shutDown]
    exact Backlog.queue_clear hsound.tidy mode.scope slot

/-- One task is running when a first request leaves another that is to run once, and cancels a recurring one; then a
second request cancels what was left. -/
private def tighteningMoves : List Move :=
  [.submit 0 ⟨.zero, .oneTime, none, none⟩, .submit 0 ⟨.zero, .recurring (.ofMillis 10) .fixedRate, none, none⟩,
    .submit 0 ⟨.ofMillis 5, .oneTime, none, none⟩, .iterate, .work 0 none, .work 0 none]

private def beforeRequests : Serial :=
  tighteningMoves.foldl play (.start (.start (.manual 0)) 1 .zero (.plain "w") .bare .empty .high 0)

theorem tightens_twice : ∃ v w : Serial, v.Reachable ∧ Relation.ReflTransGen Then v w ∧ v.Tightens w ∧
    v.system.scheduler.shutdown = some .drainPending ∧ v.system.backlog.queued = [⟨2⟩] ∧
    w.system.scheduler.shutdown = some .discardPending ∧ w.answers = [[⟨2⟩], [⟨1⟩]] := by
  have hbefore : beforeRequests.Reachable :=
    (Reachable.start (.start (.manual 0)) 1 .zero (.plain "w") .bare .empty .high 0).follow tighteningMoves
  have hv := hbefore.step (.shutDown 0 .drainPending)
  have hrun : Relation.ReflTransGen Then (beforeRequests.shutDown 0 .drainPending)
      ((beforeRequests.shutDown 0 .drainPending).shutDown 1 .discardPending) := .single ⟨_, .shutDown 1 .discardPending⟩
  exact ⟨_, _, hv, hrun, hv.tightens hrun, by decide +kernel, by decide +kernel, by decide +kernel, by decide +kernel⟩

end Serial

end TaskScheduling
