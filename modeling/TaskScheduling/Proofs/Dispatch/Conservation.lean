import Mathlib
import TaskScheduling.Proofs.Dispatch.Whereabouts

/-!
# Nothing is lost, doubled or run twice

`System.InOnePlace` collects what follows from knowing where each task is: a task that is neither done nor cancelled is
in exactly one place, no worker that has a task is given another or leaves the pool, and an action that is to run once
is not begun twice.

Main statement: every system that comes about satisfies it (`System.Reachable.inOnePlace`).
-/

namespace TaskScheduling

open Holding Backlog

namespace WorkerThread

theorem held_eq_nothing {t : WorkerThread} (h : t.isBusy = false) : t.held = nothing := by
  cases t with
  | executing id e => cases h
  | acting phase =>
    cases phase with
    | working id => cases h
    | _ => rfl

end WorkerThread

namespace System

structure InOnePlace (s : System) : Prop where
  /-- Every task that is neither done nor cancelled is in one place, there once, and nowhere else. -/
  exists_place (id : TaskId) : (s.backlog.task id).state ≠ .done → (s.backlog.task id).state ≠ .cancelled →
    ∃ place : Place Party, place.stage ≠ .unborn ∧
      ∀ other, (s.tasksAt other).count id = if other = place then 1 else 0
  /-- No task at all is in two places. -/
  place_eq (id : TaskId) (place other : Place Party) : id ∈ s.tasksAt place → id ∈ s.tasksAt other → place = other
  /-- What is at a place is what it must be like there. -/
  suits (id : TaskId) (place : Place Party) :
    id ∈ s.tasksAt place → Stage.Suits (some place.stage) (s.backlog.task id)
  /-- A worker is given a task only when it has none. -/
  spare_of_handing (id : TaskId) (k : Nat) :
    s.dispatcher = some (.handing id k) → s.held (.worker k) = nothing ∧ s.held (.thread k) = nothing
  /-- Somebody is there to take a task that was given. -/
  manned (id : TaskId) (k : Nat) : id ∈ s.held (.worker k) .claimed →
    s.pool.isRegistered k = true ∧ ∃ t, s.threads k = some t ∧ t ≠ .acting .exited
  /-- No worker leaves the pool with a task. -/
  spare_of_leaving (s' : System) (k : Nat) : Step s s' → s.pool.isRegistered k = true →
    s'.pool.isRegistered k = false → s.held (.worker k) = nothing ∧ s.held (.thread k) = nothing
  runs_le (id : TaskId) : (s.backlog.task id).isRecurring = false → (s.backlog.task id).runs ≤ 1
  /-- Once the action of a one-time task has begun, nobody begins it again. -/
  once (id : TaskId) (k : Nat) (name : Option String) : s.threads k = some (.executing id .starting) →
    (s.backlog.task id).isRecurring = false →
      ∀ s', Relation.ReflTransGen Step (s.stepExecution k id .starting name) s' →
        ∀ j, s'.threads j ≠ some (.executing id .starting)

namespace At

variable {s : System} {id : TaskId} {l : Option (Place Party)}

theorem count_tasksAt (hkept : s.backlog.Kept) (h : s.At id l) (place : Place Party) :
    (s.tasksAt place).count id = if l = some place then 1 else 0 := by
  cases place with
  | queue slot =>
    simp only [tasksAt]
    rw [hkept.count_queue]
    simp only [h.finds.slot_eq_iff]
  | held who stage => exact h.finds.count_held who stage

theorem eq_of_mem (hkept : s.backlog.Kept) (h : s.At id l) {place : Place Party} (hmem : id ∈ s.tasksAt place) :
    l = some place := by
  have hcount := h.count_tasksAt hkept place
  have hpos := List.count_pos_iff.2 hmem
  split at hcount
  · assumption
  · omega

end At

namespace Sound

variable {s s' : System}

protected theorem start (clock : Clock) (maxSize : Nat) (keepAlive : Duration) (factory : ThreadFactory)
    (router : FailureRouter) (sink : Sink) (defaultPriority : Priority) (lowWait : Nat) :
    (start clock maxSize keepAlive factory router sink defaultPriority lowWait).Sound where
  kept := Kept.empty
  staffed := (Reachable.start clock maxSize keepAlive factory router sink defaultPriority lowWait).isStaffed
  located id := by
    have habsent : Backlog.empty.task id = .absent := Table.get_empty id
    refine ⟨none, ⟨fun slot => ?_, fun who stage => ?_⟩, ?_, fun hne => absurd rfl hne⟩
    · show (Backlog.empty.task id).slot = some slot ↔ _
      rw [habsent]
      simp [Task.absent]
    · cases who <;> simp [held, System.start, pool, PooledScheduler.start, Pool.start, Pool.task?, Pool.worker?,
        Client.held, only_nil, nothing]
    · show Stage.Suits none (Backlog.empty.task id)
      rw [habsent]
      exact ⟨.inr rfl, fun _ => Nat.zero_le 1⟩
  isNew i t ht := by cases ht
  pursued id hid := by
    rcases hid with ⟨i, hi⟩ | ⟨k, completedAt, hk⟩
    · cases hi
    · cases hk
  born k id e ht := by cases ht

/-- A whole run keeps the invariant, and undoes nothing. -/
theorem run (h : s.Sound) (hrun : Relation.ReflTransGen Step s s') : s.Leads s' := by
  induction hrun with
  | refl => exact ⟨h, fun _ hid => hid, fun id _ => .refl _⟩
  | tail _ hstep ih =>
    have hnext := ih.sound.step hstep
    exact ⟨hnext.sound, fun id hid => hnext.born id (ih.born id hid), fun id hid =>
      (ih.stays id hid).trans (hnext.stays id (ih.born id hid))⟩

end Sound

theorem Reachable.sound {s : System} (h : Reachable s) : s.Sound := by
  induction h with
  | start clock maxSize keepAlive factory router sink defaultPriority lowWait => exact Sound.start ..
  | step _ hstep ih => exact (ih.step hstep).sound

/-! ### Workers that leave -/

/-- Only a worker that could not be started is taken out of the pool by the dispatcher. -/
private theorem isRegistered_step {s : PooledScheduler} {d : Dispatcher} {k : Nat} (hreg : s.pool.isRegistered k = true)
    (hd : d.awaits k = 0) : (d.step s).1.pool.isRegistered k = true := by
  rcases d.pool_step_cases s with hknows | ⟨id, rfl, hpool⟩ | ⟨id, j, rfl, hpool⟩ | ⟨id, j, rfl, hpool⟩
  · rw [hknows.isRegistered_eq, hreg]
  · rw [hpool, Pool.isRegistered_register, hreg, Bool.true_or]
  · have hj : k ≠ j := by
      rintro rfl
      simp [Dispatcher.awaits] at hd
    rw [hpool, Pool.isRegistered_removeWorker, hreg, decide_eq_true hj, Bool.true_and]
  · rw [hpool, Pool.isRegistered_hand, hreg]

namespace Sound

variable {s s' : System} {k : Nat}

/-- A worker that plays another part has no task. -/
private theorem held_eq_nothing (h : s.Sound) (hpart : 0 < s.reserves k + s.awaits k) :
    s.held (.worker k) = nothing ∧ s.held (.thread k) = nothing := by
  have hk := h.staffed k
  have htask := hk.task?_eq_none (.inl (by omega))
  refine ⟨by simp only [held, htask, Option.toList_none, only_nil], ?_⟩
  have hroles := hk.roles_le
  simp only [held]
  cases ht : s.threads k with
  | none => rfl
  | some t =>
    refine WorkerThread.held_eq_nothing (Bool.eq_false_iff.2 fun hbusy => ?_)
    simp only [ht, Option.any_some, hbusy, ↓reduceIte] at hroles
    omega

private theorem spare_of_stepWorker (h : s.Sound) {j now : Nat} {phase : WorkerPhase}
    (ht : s.threads k = some (.acting phase)) (hreg : s.pool.isRegistered j = true)
    (hleft : (s.stepWorker k phase now).pool.isRegistered j = false) :
    s.held (.worker j) = nothing ∧ s.held (.thread j) = nothing := by
  have hmoves := phase.moves_step s.pool k now
  rw [pool_stepWorker] at hleft
  generalize (phase.step s.pool k now).1 = q at hmoves hleft
  generalize (phase.step s.pool k now).2 = next at hmoves
  cases hmoves with
  | take idleSince id _ =>
    rw [Pool.isRegistered_takeTask, hreg] at hleft
    cases hleft
  | giveBack => cases hreg.symm.trans hleft
  | depart _ hdepart =>
    have hj : j = k := by
      rw [Pool.isRegistered_removeWorker, hreg, Bool.true_and, decide_eq_false_iff_not, not_not] at hleft
      exact hleft
    subst hj
    simp only [held, ht, h.staffed.task?_eq_none_of_depart ht hdepart, Option.toList_none, only_nil, Option.elim_some]
    refine ⟨trivial, ?_⟩
    rcases hdepart with rfl | ⟨⟨idleSince, rfl⟩, -⟩ <;> rfl
  | goOn _ _ _ hknows =>
    rw [hknows.isRegistered_eq, hreg] at hleft
    cases hleft

theorem spare_of_leaving (h : s.Sound) (hstep : Step s s') (hreg : s.pool.isRegistered k = true)
    (hleft : s'.pool.isRegistered k = false) : s.held (.worker k) = nothing ∧ s.held (.thread k) = nothing := by
  have hstays (hsame : s'.pool.isRegistered k = s.pool.isRegistered k) :
      s.held (.worker k) = nothing ∧ s.held (.thread k) = nothing := by
    rw [hsame, hreg] at hleft
    cases hleft
  cases hstep with
  | client i =>
    refine hstays ?_
    rcases (s.clients i).pool_step s.scheduler with hpool | hpool
    · exact congrArg (Pool.isRegistered · k) hpool
    · exact (congrArg (Pool.isRegistered · k) hpool).trans ((Pool.Knows.stop s.pool).isRegistered_eq k)
  | dispatcher d now hd =>
    by_cases hawaits : d.awaits k = 0
    · exact hstays ((isRegistered_step (s := s.scheduler) hreg hawaits).trans hreg.symm)
    -- a worker that the dispatcher is about to start has no task
    · refine h.held_eq_nothing ?_
      simp only [awaits, hd, Option.elim_some]
      omega
  | worker j phase now ht => exact h.spare_of_stepWorker ht hreg hleft
  | execution j id e name ht => exact hstays (congrArg (Pool.isRegistered · k) (e.pool_step s.scheduler id name))
  | setMaxPoolSize n =>
    have hpool := congrArg (Pool.isRegistered · k) (s.scheduler.pool_setMaxPoolSize n)
    exact hstays (hpool.trans ((Pool.Knows.setMaxSize s.pool n).isRegistered_eq k))
  | setLowWait d => exact hstays (congrArg (Pool.isRegistered · k) (s.scheduler.pool_setLowWait d))
  | interruptAll => exact hstays ((Pool.Knows.interruptAll s.pool).isRegistered_eq k)
  | _ => exact hstays rfl

/-! ### Actions that run once -/

theorem runs_le (h : s.Sound) {id : TaskId} (hr : (s.backlog.task id).isRecurring = false) :
    (s.backlog.task id).runs ≤ 1 := by
  obtain ⟨l, hl⟩ := h.located id
  exact hl.suits.runs_le hr

/-- An action that is about to begin has not been run yet, if it is to run once. -/
private theorem runs_eq_zero (h : s.Sound) {id : TaskId} (ht : s.threads k = some (.executing id .starting))
    (hr : (s.backlog.task id).isRecurring = false) : (s.backlog.task id).runs = 0 := by
  obtain ⟨l, hl⟩ := h.located id
  have hmem : id ∈ s.held (.thread k) .claimed := by simp [held, ht, WorkerThread.held, Execution.held, only]
  have hsuits := hl.suits
  rw [hl.eq_held hmem] at hsuits
  exact hsuits.2 hr

theorem once (h : s.Sound) {id : TaskId} (ht : s.threads k = some (.executing id .starting))
    (hr : (s.backlog.task id).isRecurring = false) (name : Option String)
    (hrun : Relation.ReflTransGen Step (s.stepExecution k id .starting name) s') (j : Nat) :
    s'.threads j ≠ some (.executing id .starting) := by
  intro hj
  have hstep := h.step (.execution k id .starting name ht)
  have hlater := hstep.sound.run hrun
  have hborn := h.born k id .starting ht
  have hcounted : ((s.stepExecution k id .starting name).backlog.task id).runs = (s.backlog.task id).runs + 1 := by
    have hbacklog : (s.stepExecution k id .starting name).backlog = s.backlog.modify id Task.countRun := rfl
    rw [hbacklog, task_modify, if_pos rfl]
    rfl
  -- the run is counted, and the count is never taken back
  have hle := (hlater.stays id (hstep.born id hborn)).runs_le
  have hr' : (s'.backlog.task id).isRecurring = false := by
    have hident := ((hstep.stays id hborn).trans (hlater.stays id (hstep.born id hborn))).identity_eq
    rw [Task.isRecurring_eq_of_identity hident, hr]
  have hzero := hlater.sound.runs_eq_zero hj hr'
  omega

end Sound

/-- Whatever the clients ask for, and in whatever order the steps come, each task is in one place. -/
theorem Reachable.inOnePlace {s : System} (h : Reachable s) : s.InOnePlace := by
  have hsound := h.sound
  have hunique {id : TaskId} {place : Place Party} (hmem : id ∈ s.tasksAt place) : s.At id (some place) := by
    obtain ⟨l, hl⟩ := hsound.located id
    rwa [hl.eq_of_mem hsound.kept hmem] at hl
  refine ⟨?_, ?_, ?_, ?_, ?_, ?_, ?_, ?_⟩
  · intro id hdone hcancelled
    obtain ⟨l, hl⟩ := hsound.located id
    cases l with
    -- only a settled task is nowhere
    | none => exact (hl.suits.1.elim hdone hcancelled).elim
    | some place =>
      refine ⟨place, fun hstage => ?_, fun other => ?_⟩
      · have hsuits : Stage.Suits (some place.stage) (s.backlog.task id) := hl.suits
        rw [hstage] at hsuits
        exact hcancelled (by rw [show s.backlog.task id = .absent from hsuits]; rfl)
      · rw [hl.count_tasksAt hsound.kept]
        simp only [Option.some.injEq, eq_comm]
  · intro id place other hplace hother
    exact Option.some.inj ((hunique hplace).eq_of_mem hsound.kept hother)
  · intro id place hmem
    exact (hunique hmem).suits
  · intro id k hd
    refine hsound.held_eq_nothing ?_
    simp only [reserves, hd, Option.elim_some, Dispatcher.reserves, ↓reduceIte]
    omega
  · intro id k hmem
    have hk := hsound.staffed k
    have htask : (s.pool.task? k).isSome = true := by
      have hgiven : s.pool.task? k = some id := by simpa [held, only] using hmem
      rw [hgiven]
      rfl
    have hreg : s.pool.isRegistered k = true := by
      by_contra hreg
      rw [Pool.task?_eq_none_of_not_isRegistered (Bool.eq_false_iff.2 hreg)] at htask
      cases htask
    obtain ⟨t, ht⟩ := Option.isSome_iff_exists.1 (hk.isSome_thread (.inr htask))
    exact ⟨hreg, t, ht, (hk.isRegistered_iff t ht).1 hreg⟩
  · intro s' k hstep hreg hleft
    exact hsound.spare_of_leaving hstep hreg hleft
  · intro id hr
    exact hsound.runs_le hr
  · intro id k name ht hr s' hrun j
    exact hsound.once ht hr name hrun j

/-- The dispatcher goes on, if it has been started. -/
private def dispatch (s : System) : System := s.dispatcher.elim s fun d => s.stepDispatcher d 0

private theorem Reachable.dispatch {s : System} (h : Reachable s) : Reachable s.dispatch := by
  unfold System.dispatch
  cases hd : s.dispatcher with
  | none => exact h
  | some d => exact h.step (.dispatcher d 0 hd)

/-- A client has queued a task, which has started the dispatcher. -/
private def submitted : System :=
  (stepClient · 0)^[4]
    ((start (.start (.manual 0)) 1 .zero (.plain "w") .bare .empty .high 0).withClient 0
      (.submitting ⟨.zero, .oneTime, none, none⟩ .checking))

/-- The dispatcher has started a worker and given it the task. -/
private def handed : System := dispatch^[11] submitted

private def taken : System := handed.stepWorker 0 (.fetching 0) 0

private theorem reachable_taken : Reachable taken := by
  have hstart := Reachable.start (.start (.manual 0)) 1 .zero (.plain "w") .bare .empty .high 0
  have hcalled := hstart.step (.submit 0 ⟨.zero, .oneTime, none, none⟩ rfl)
  have hsubmitted : Reachable submitted := Function.Iterate.rec Reachable hcalled (fun _ h => h.step (.client 0)) 4
  have hhanded : Reachable handed := Function.Iterate.rec Reachable hsubmitted (fun _ h => h.dispatch) 11
  exact hhanded.step (.worker 0 (.fetching 0) 0 (by cbv))

/-- A worker has taken the only task and is about to run it. -/
theorem inOnePlace_taken : Reachable taken ∧ taken.threads 0 = some (.executing ⟨0⟩ .starting) ∧
    (∀ other, (taken.tasksAt other).count ⟨0⟩ = if other = .held (.thread 0) .claimed then 1 else 0) ∧
    ∀ s', Relation.ReflTransGen Step (taken.stepExecution 0 ⟨0⟩ .starting none) s' →
      ∀ j, s'.threads j ≠ some (.executing ⟨0⟩ .starting) := by
  have hplaces := reachable_taken.inOnePlace
  have hthread : taken.threads 0 = some (.executing ⟨0⟩ .starting) := by cbv
  have hstate : (taken.backlog.task ⟨0⟩).state = .executing := by cbv
  obtain ⟨place, -, hcount⟩ := hplaces.exists_place ⟨0⟩ (by simp [hstate]) (by simp [hstate])
  have hplace : .held (.thread 0) .claimed = place := by
    have hhere : (taken.tasksAt (.held (.thread 0) .claimed)).count ⟨0⟩ = 1 := by cbv
    rw [hcount] at hhere
    split at hhere
    · assumption
    · cases hhere
  rw [hplace]
  exact ⟨reachable_taken, hthread, hcount, hplaces.once ⟨0⟩ 0 none hthread (by cbv)⟩

end System

end TaskScheduling
