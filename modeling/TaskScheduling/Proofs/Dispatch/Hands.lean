import TaskScheduling.Proofs.Dispatch.Custody
import TaskScheduling.Proofs.Dispatch.System

/-!
# What each party has in its hands

For each phase of a clearance, an execution, the dispatcher and so on, `held` says which tasks the party has in its
hands, and the theorems called `passes_step` that each of its steps is a fair one.  Only building a task and handing one
to a worker are left out: the first brings a new task about, and the second concerns two parties.
-/

namespace TaskScheduling

open Holding

namespace Backlog

/-- Whether the tasks in hand are in no queue. -/
def Frees (b : Backlog) (h : Holding) : Prop :=
  ∀ stage, ∀ id ∈ h stage, (b.task id).slot = none ∧ id.index < b.nextId

theorem Frees.of_only {b : Backlog} {stage : Stage} {id : TaskId} (h : b.Frees (only stage [id])) :
    (b.task id).slot = none ∧ id.index < b.nextId := h stage id (by simp [only])

namespace Passes

variable {b : Backlog} {id : TaskId}

/-- Taking a cancelled task out of its queue, if it is in one. -/
theorem remove (hb : b.Kept) (hstate : (b.task id).state = .cancelled) : b.Passes (b.remove id).1 nothing nothing := by
  cases hslot : (b.task id).slot with
  | none =>
    rw [remove_of_slot_none hslot]
    exact refl hb nothing
  | some slot =>
    rw [remove_eq_unlink hslot (hb.mem_queue_iff.2 hslot)]
    exact withdraw hb hslot hstate

private theorem task_transition_of_ne {source target : TaskState} (j : TaskId) (hj : j ≠ id) :
    (b.transition id source target).1.task j = b.task j := by
  rw [task_transition_eq, if_neg fun hc => hj hc.1]

/-- A change of state that comes about, for a task in hand. -/
theorem carry_transition {c : Backlog} {source target : TaskState} {stage stage' : Stage} (hb : b.Kept)
    (hmoved : b.transition id source target = (c, true)) (hsource : source ≠ .cancelled) (hborn : stage' ≠ .unborn)
    (hsuits : ∀ t : Task, t.state = source → Stage.Suits (some stage) t →
      Stage.Suits (some stage') { t with state := target }) :
    b.Passes c (only stage [id]) (only stage' [id]) := by
  obtain ⟨hstate, rfl⟩ := transition_eq_true hmoved
  have htask : (b.transition id source target).1.task id = { b.task id with state := target } := by
    rw [task_transition_eq, if_pos ⟨rfl, hstate⟩]
  refine carry (hb.transition_of_ne id target hsource) (nextId_transition b id source target) task_transition_of_ne
    (slot_transition b id source target id) hborn ?_ ?_
  · rw [htask]
    exact hsuits _ hstate
  · rw [htask]
    exact .of_state_ne (by rwa [hstate]) target

/-- A change that moves the task nowhere, for a task in hand. -/
theorem carry_modify {stage stage' : Stage} {f : Task → Task} (hb : b.Kept) (hfree : b.Frees (only stage [id]))
    (hslot : (f (b.task id)).slot = (b.task id).slot) (hident : (f (b.task id)).identity = (b.task id).identity)
    (hstate : (f (b.task id)).state = (b.task id).state) (hruns : (b.task id).runs ≤ (f (b.task id)).runs)
    (hborn : stage' ≠ .unborn)
    (hsuits : Stage.Suits (some stage) (b.task id) → Stage.Suits (some stage') (f (b.task id))) :
    b.Passes (b.modify id f) (only stage [id]) (only stage' [id]) := by
  obtain ⟨hnone, hid⟩ := hfree.of_only
  have htask : (b.modify id f).task id = f (b.task id) := by rw [task_modify, if_pos rfl]
  refine carry (hb.modify hid hslot hident (by simp [hnone])) (nextId_modify b id f) ?_ (by rw [htask, hslot]) hborn
    ?_ ?_
  · intro j hj
    rw [task_modify, if_neg hj]
  · rw [htask]
    exact hsuits
  · rw [htask]
    exact ⟨hident, hruns, fun hcancelled => hstate.trans hcancelled⟩

/-- A change of state that does not come about, since the task has been cancelled: the party lets go of it. -/
theorem drop_transition {c : Backlog} {source target : TaskState} {stage : Stage} (hb : b.Kept)
    (hmoved : b.transition id source target = (c, false))
    (hsuits : ∀ t : Task, Stage.Suits (some stage) t → t.state = source ∨ t.state = .cancelled) :
    b.Passes c (only stage [id]) nothing := by
  obtain ⟨hstate, rfl⟩ := transition_eq_false hmoved
  rw [← only_nil stage]
  refine drop hb rfl (fun _ _ => rfl) rfl (fun h => ?_) (.refl _)
  exact h.of_cancelled ((hsuits _ h).resolve_left hstate)

/-- A change of state after which the party lets go of the task. -/
theorem settle {source target : TaskState} {stage : Stage} {rest : List TaskId} (hb : b.Kept)
    (hsource : source ≠ .cancelled)
    (hsuits : ∀ t : Task, Stage.Suits (some stage) t → t.state = source ∨ t.state = .cancelled)
    (hsettled : ∀ t : Task, Stage.Suits (some stage) t → Stage.Suits none { t with state := target }) :
    b.Passes (b.transition id source target).1 (only stage (id :: rest)) (only stage rest) := by
  refine drop (hb.transition_of_ne id target hsource) (nextId_transition b id source target) task_transition_of_ne
    (slot_transition b id source target id) ?_ ?_
  · intro h
    rw [task_transition_eq]
    split
    · exact hsettled _ h
    · next hstate => exact h.of_cancelled ((hsuits _ h).resolve_left fun hs => hstate ⟨rfl, hs⟩)
  · rw [task_transition_eq]
    split
    · next hc => exact .of_state_ne (by rwa [hc.2]) target
    · exact .refl _

/-- A task in hand is put back into its queue. -/
theorem place (hb : b.Kept) (hfree : b.Frees (only .waiting [id])) :
    b.Passes (b.place id) (only .waiting [id]) nothing := by
  obtain ⟨hslot, hid⟩ := hfree.of_only
  have htask : (b.place id).task id = { b.task id with slot := some (b.task id).home } := by
    rw [task_place, if_pos rfl]
  refine lodge (hb.place hid hslot) (nextId_place b id) ?_ (by rw [htask]) ?_ ?_
  · intro j hj
    rw [task_place, if_neg hj]
  · intro hsuits
    rw [htask]
    exact hsuits
  · intro _
    rw [htask]
    exact .move _ _

end Passes

end Backlog

open Backlog

/-! ### Cancellations and clearances -/

theorem Cancellation.step_claiming_fst (b : Backlog) (id : TaskId) (seen : TaskState) :
    ((claiming seen).step b id).1 = (b.transition id seen .cancelled).1 := by
  simp only [step]
  rcases b.transition id seen .cancelled with ⟨c, _ | _⟩ <;> rfl

/-- A cancellation has nothing in its hands. -/
theorem Cancellation.passes_step {b : Backlog} (hb : b.Kept) (id : TaskId) {c : Cancellation}
    (hc : c = .unlinking → (b.task id).state = .cancelled) : b.Passes (c.step b id).1 nothing nothing := by
  cases c with
  | looking => exact Passes.refl hb nothing
  | claiming seen =>
    rw [step_claiming_fst]
    exact Passes.mark hb nothing id seen
  | unlinking => exact Passes.remove hb (hc rfl)
  | ended claimed => exact Passes.refl hb nothing

namespace Clearance

/-- The tasks that have been taken out of the queues and are still to be marked. -/
def drained : Clearance → List TaskId
  | draining _ drained => drained
  | marking left _ => left
  | ended _ => []

theorem step_marking_fst (scope : Scope) (b : Backlog) (id : TaskId) (left claimed : List TaskId) :
    ((marking (id :: left) claimed).step scope b).1 = (b.transition id .pending .cancelled).1 := by
  simp only [step]
  rcases b.transition id .pending .cancelled with ⟨c, _ | _⟩ <;> rfl

theorem drained_step_marking (scope : Scope) (b : Backlog) (id : TaskId) (left claimed : List TaskId) :
    ((marking (id :: left) claimed).step scope b).2.drained = left := by
  simp only [step]
  rcases b.transition id .pending .cancelled with ⟨c, _ | _⟩ <;> rfl

theorem passes_step {b : Backlog} (hb : b.Kept) (scope : Scope) (c : Clearance) :
    b.Passes (c.step scope b).1 (only .waiting c.drained) (only .waiting (c.step scope b).2.drained) := by
  cases c with
  | draining left drained =>
    cases left with
    | nil => exact Passes.refl hb _
    | cons slot left => exact Passes.takeOut hb scope slot drained
  | marking left claimed =>
    cases left with
    | nil => exact Passes.refl hb _
    | cons id left =>
      rw [step_marking_fst, drained_step_marking]
      exact Passes.settle hb (by decide) (fun t ht => ht.1) fun t ht => ⟨.inr rfl, fun hr => by
        rw [show t.runs = 0 from ht.2 hr]
        exact Nat.zero_le 1⟩
  | ended claimed => exact Passes.refl hb _

end Clearance

/-- Only a task that has just been cancelled is taken out of its queue. -/
theorem Cancellation.of_step_eq_unlinking {b : Backlog} {id : TaskId} {c : Cancellation}
    (h : (c.step b id).2 = .unlinking) :
    (b.task id).state = .pending ∧ ((c.step b id).1.task id).state = .cancelled := by
  cases c with
  | looking =>
    simp only [step, look] at h
    cases hstate : (b.task id).state <;> rw [hstate] at h
    · cases h
    · dsimp only at h
      split at h <;> cases h
    · cases h
    · cases h
  | claiming seen =>
    simp only [step] at h ⊢
    rcases hmoved : b.transition id seen .cancelled with ⟨c, _ | _⟩ <;> rw [hmoved] at h
    · cases h
    · obtain ⟨hstate, rfl⟩ := transition_eq_true hmoved
      dsimp only at h ⊢
      split at h
      · next hseen =>
        subst hseen
        refine ⟨hstate, ?_⟩
        rw [task_transition_eq, if_pos ⟨rfl, hstate⟩]
      · cases h
  | unlinking => cases h
  | ended claimed => cases h

/-! ### Executions -/

namespace Completion

def held (id : TaskId) : Completion → Holding
  | settling => only .started [id]
  | returning => only .planned [id]
  | inserting => only .waiting [id]
  | _ => nothing

theorem passes_step {b : Backlog} (hb : b.Kept) {id : TaskId} {c : Completion} (hfree : b.Frees (c.held id))
    (hc : c = .withdrawing → (b.task id).state = .cancelled) (completedAt : Nat) :
    b.Passes (c.step b id completedAt).1 (c.held id) ((c.step b id completedAt).2.held id) := by
  cases c with
  | settling =>
    cases hr : (b.task id).isRecurring with
    | true =>
      have hstep : settling.step b id completedAt =
          (b.modify id fun t => { t with runAt := t.nextRunAt completedAt }, returning) := by
        simp only [step, hr, ↓reduceIte]
      rw [hstep]
      exact Passes.carry_modify hb hfree rfl rfl rfl (Nat.le_refl _) (by decide) fun ht => ⟨ht.1, hr⟩
    | false =>
      have hstep : settling.step b id completedAt = ((b.transition id .executing .done).1, ended false) := by
        simp only [step, hr, Bool.false_eq_true, ↓reduceIte]
      have hnothing : (ended false).held id = only .started [] := (only_nil .started).symm
      rw [hstep, hnothing]
      exact Passes.settle hb (by decide) (fun t ht => ht.1) fun t ht => ⟨.inl rfl, fun hr => Nat.le_of_eq (ht.2 hr)⟩
  | returning =>
    simp only [step]
    rcases hmoved : b.transition id .executing .pending with ⟨c, _ | _⟩
    · exact Passes.drop_transition hb hmoved fun t ht => ht.1
    -- only a recurring task is returned
    · refine Passes.carry_transition hb hmoved (by decide) (by decide) fun t hstate ht => ⟨.inl rfl, fun hr => ?_⟩
      exact absurd (hr.symm.trans ht.2) (by decide)
  | inserting =>
    have hslot : (b.task id).slot = none := hfree.of_only.1
    simp only [step, add_eq_ok hslot]
    exact Passes.place hb hfree
  | rechecking =>
    simp only [step]
    split <;> exact Passes.refl hb nothing
  | withdrawing => exact Passes.remove hb (hc rfl)
  | ended requeued => exact Passes.refl hb nothing
  | faulted fault => exact Passes.refl hb nothing

end Completion

namespace Execution

def held (id : TaskId) : Execution → Holding
  | starting => only .claimed [id]
  | running => only .started [id]
  | failing _ => only .started [id]
  | routing _ => only .started [id]
  | counting _ => only .started [id]
  | settling => only .started [id]
  | dropping => only .started [id]
  | stamping => only .started [id]
  | completing _ c => c.held id
  | _ => nothing

theorem passes_step {s : PooledScheduler} (hb : s.backlog.Kept) {id : TaskId} {e : Execution}
    (hfree : s.backlog.Frees (e.held id))
    (he : ∀ completedAt, e = completing completedAt .withdrawing → (s.backlog.task id).state = .cancelled)
    (thread : Option String) :
    s.backlog.Passes (e.step s id thread).1.backlog (e.held id) ((e.step s id thread).2.held id) := by
  cases e with
  | starting =>
    exact Passes.carry_modify hb hfree rfl rfl rfl (Nat.le_succ _) (by decide) fun ht =>
      ⟨ht.1, fun hr => congrArg (· + 1) (ht.2 hr)⟩
  | running => exact Passes.refl hb _
  | failing panic => exact Passes.refl hb _
  | routing failure => exact Passes.refl hb _
  | counting delivery => exact Passes.refl hb _
  | settling =>
    simp only [step]
    split <;> exact Passes.refl hb _
  | dropping =>
    simp only [step]
    rcases hmoved : s.backlog.transition id .executing .cancelled with ⟨c, _ | _⟩
    · exact Passes.drop_transition hb hmoved fun t ht => ht.1
    · obtain ⟨-, rfl⟩ := transition_eq_true hmoved
      have hnothing : (recording).held id = only .started [] := (only_nil .started).symm
      dsimp only
      rw [hnothing]
      exact Passes.settle hb (by decide) (fun t ht => ht.1) fun t ht => ⟨.inr rfl, fun hr => Nat.le_of_eq (ht.2 hr)⟩
  | recording => exact Passes.refl hb nothing
  | stamping => exact Passes.refl hb _
  | completing completedAt c =>
    have hpass := Completion.passes_step hb (c := c) hfree (fun hc => he completedAt (by rw [hc])) completedAt
    cases c with
    | ended requeued => cases requeued <;> exact Passes.refl hb nothing
    | faulted fault => exact Passes.refl hb nothing
    | _ => exact hpass
  | waking =>
    simp only [step, PooledScheduler.backlog_wakeDispatcher]
    exact Passes.refl hb nothing
  | ended => exact Passes.refl hb nothing
  | faulted fault => exact Passes.refl hb nothing

/-- A task is withdrawn only after it was seen to be cancelled. -/
theorem of_step_eq_withdrawing {s : PooledScheduler} {id : TaskId} {e : Execution} {thread : Option String}
    {completedAt : Nat} (h : (e.step s id thread).2 = completing completedAt .withdrawing) :
    ((e.step s id thread).1.backlog.task id).state = .cancelled := by
  cases e with
  | settling =>
    simp only [step] at h
    split at h <;> cases h
  | dropping =>
    simp only [step] at h
    split at h <;> cases h
  | completing _ c =>
    cases c with
    | settling | returning | inserting =>
      simp only [step, Completion.step] at h
      split at h <;> cases h
    | rechecking =>
      simp only [step, Completion.step] at h ⊢
      split at h
      · assumption
      · cases h
    | ended requeued => cases requeued <;> cases h
    | _ => cases h
  | _ => cases h

end Execution

/-! ### The dispatcher -/

namespace Dispatcher

def held : Dispatcher → Holding
  | sweeping _ c => only .waiting c.drained
  | claiming id _ => only .waiting [id]
  | handing id _ => only .claimed [id]
  | restoring id => only .claimed [id]
  | reinserting id => only .waiting [id]
  | _ => nothing

/-- Whether the dispatcher is about to give a worker a task. -/
def isHanding : Dispatcher → Bool
  | handing _ _ => true
  | _ => false

theorem passes_step {s : PooledScheduler} (hb : s.backlog.Kept) {d : Dispatcher} (hd : d.isHanding = false)
    (hfree : s.backlog.Frees d.held) : s.backlog.Passes (d.step s).1.backlog d.held (d.step s).2.held := by
  have hnothing : only .waiting [] = nothing := only_nil _
  cases d with
  | checking =>
    simp only [step]
    split
    · simp only [held, Clearance.begin, Clearance.drained, hnothing]
      exact Passes.refl hb nothing
    · exact Passes.refl hb nothing
  | sweeping scope c =>
    have hpass := Clearance.passes_step hb scope c
    cases c with
    | ended discarded =>
      simp only [held, Clearance.drained, hnothing]
      exact Passes.refl hb nothing
    | _ => exact hpass
  | counting discarded => exact Passes.refl hb nothing
  | leaveTaking =>
    simp only [step]
    split <;> exact Passes.refl hb nothing
  | picking =>
    simp only [step]
    split <;> exact Passes.refl hb nothing
  | acquiring id now lowWait =>
    simp only [step]
    split <;> exact Passes.refl hb nothing
  | consulting id now deadline => exact Passes.refl hb nothing
  | registering id => exact Passes.refl hb nothing
  | spawning id worker =>
    simp only [step]
    split <;> exact Passes.refl hb nothing
  | spawned id worker thread => exact Passes.refl hb nothing
  | unlinking id worker =>
    simp only [step]
    cases hslot : (s.backlog.task id).slot with
    | none =>
      rw [remove_of_slot_none hslot]
      exact Passes.refl hb nothing
    | some slot =>
      rw [remove_eq_unlink hslot (hb.mem_queue_iff.2 hslot)]
      exact Passes.take hb hslot
  | claiming id worker =>
    simp only [step]
    rcases hmoved : s.backlog.begin id with ⟨c, _ | _⟩
    · exact Passes.drop_transition hb hmoved fun t ht => ht.1
    · exact Passes.carry_transition hb hmoved (by decide) (by decide) fun t _ ht => ⟨.inl rfl, ht.2⟩
  | handing id worker => cases hd
  | restoring id =>
    simp only [step]
    rcases hmoved : s.backlog.transition id .executing .pending with ⟨c, _ | _⟩
    · exact Passes.drop_transition hb hmoved fun t ht => ht.1
    · exact Passes.carry_transition hb hmoved (by decide) (by decide) fun t _ ht => ⟨.inl rfl, ht.2⟩
  | reinserting id =>
    have hslot : (s.backlog.task id).slot = none := hfree.of_only.1
    simp only [step, add_eq_ok hslot]
    exact Passes.place hb hfree
  | releasing worker => exact Passes.refl hb nothing
  | parked until? reason =>
    simp only [step]
    split
    · exact Passes.refl hb nothing
    · split <;> exact Passes.refl hb nothing
  | stopping => exact Passes.refl hb nothing
  | leaving => exact Passes.refl hb nothing
  | exited => exact Passes.refl hb nothing
  | faulted fault => exact Passes.refl hb nothing

end Dispatcher

/-! ### Clients -/

/-- What a task is like that has been built and not been queued yet. -/
structure Task.IsNew (t : Task) : Prop where
  slot_eq : t.slot = none
  state_eq : t.state = .pending
  runs_eq : t.runs = 0
  isRecurring_of_immediate : t.immediate = true → t.isRecurring = false

theorem Backlog.isNew_build (b : Backlog) (now : Nat) (delay : Duration) (kind : TaskKind) (p : Priority)
    (handler : Option FailureHandler) : (b.build now delay kind p handler).1.IsNew where
  slot_eq := rfl
  state_eq := rfl
  runs_eq := rfl
  isRecurring_of_immediate hi := by
    obtain ⟨hkind, -⟩ := (Task.immediate_build_iff ..).1 hi
    simp [build, Task.build, Task.isRecurring, hkind, TaskKind.isRecurring]

namespace Submission

def held : Submission → Holding
  | preparing task => only .unborn [task.id]
  | inserting task => only .unborn [task.id]
  | _ => nothing

/-- The task that is to be queued. -/
def draft? : Submission → Option Task
  | preparing task => some task
  | inserting task => some task
  | _ => none

/-- The task that is to leave its queue since it has been cancelled. -/
def pursued? : Submission → Option TaskId
  | withdrawing id .unlinking => some id
  | _ => none

theorem passes_step {s : PooledScheduler} (hb : s.backlog.Kept) {m : Submission} (hm : m ≠ building)
    (hfree : s.backlog.Frees m.held) (hdraft : ∀ t, m.draft? = some t → t.IsNew)
    (hpursued : ∀ id, m.pursued? = some id → (s.backlog.task id).state = .cancelled) (r : Request) :
    s.backlog.Passes (m.step s r).1.backlog m.held (m.step s r).2.held := by
  cases m with
  | checking =>
    simp only [step]
    split <;> exact Passes.refl hb nothing
  | building => exact absurd rfl hm
  | preparing task =>
    have hbacklog := s.backlog_ensureDispatcher
    simp only [step]
    rcases hens : s.ensureDispatcher with ⟨s', trouble | _⟩ <;> rw [hens] at hbacklog
    · have hsame : s'.backlog = s.backlog := hbacklog
      have hnothing : (ended (.error trouble)).held = only .unborn [] := (only_nil .unborn).symm
      simp only [hsame, hnothing]
      refine Passes.drop hb rfl (fun _ _ => rfl) rfl (fun ht => ?_) (.refl _)
      -- without a dispatcher the task is given up before it is entered
      exact ht.of_cancelled (by rw [show s.backlog.task task.id = .absent from ht]; rfl)
    · have hsame : s'.backlog = s.backlog := hbacklog
      simp only [hsame]
      exact Passes.refl hb _
  | inserting task =>
    have hnew := hdraft task rfl
    obtain ⟨hslot, hid⟩ := hfree.of_only
    have hentered : (s.backlog.enter task).task task.id = task := by rw [task_enter, if_pos rfl]
    have hnone : ((s.backlog.enter task).task task.id).slot = none := by rw [hentered, hnew.slot_eq]
    have hplaced : ((s.backlog.enter task).place task.id).task task.id = { task with slot := some task.home } := by
      rw [task_place, if_pos rfl, hentered]
    have hkept := hb.enter hid hnew.slot_eq hnew.isRecurring_of_immediate hslot
    simp only [step, add_eq_ok hnone]
    refine Passes.lodge (hkept.place hid hnone) (nextId_place _ _) ?_ (by rw [hplaced]) ?_ fun hborn => absurd rfl hborn
    · intro j hj
      rw [task_place, if_neg hj, task_enter, if_neg hj]
    · intro _
      rw [hplaced]
      exact ⟨.inl hnew.state_eq, fun _ => hnew.runs_eq⟩
  | rechecking id =>
    simp only [step]
    split <;> exact Passes.refl hb nothing
  | withdrawing id c =>
    have hpass := Cancellation.passes_step hb id (c := c) (fun hc => hpursued id (by rw [hc]; rfl))
    cases c with
    | ended claimed => cases claimed <;> exact Passes.refl hb nothing
    | _ => exact hpass
  | examining id =>
    simp only [step]
    split <;> exact Passes.refl hb nothing
  | counting id => exact Passes.refl hb nothing
  | waking id =>
    simp only [step, PooledScheduler.backlog_wakeDispatcher]
    exact Passes.refl hb nothing
  | ended result => exact Passes.refl hb nothing

/-- A new draft is a task that was just built. -/
theorem draft?_step {s : PooledScheduler} {r : Request} {m : Submission} {t : Task}
    (h : (m.step s r).2.draft? = some t) : m.draft? = some t ∨ t.IsNew := by
  cases m with
  | building =>
    simp only [step] at h
    split at h
    · cases h
      exact .inr (isNew_build ..)
    · cases h
  | preparing task =>
    simp only [step] at h
    split at h
    · exact .inl h
    · cases h
  | checking | inserting _ | rechecking _ | examining _ =>
    simp only [step] at h
    split at h <;> cases h
  | withdrawing id c =>
    cases c with
    | ended claimed => cases claimed <;> cases h
    | _ => cases h
  | _ => cases h

private theorem step_withdrawing {s : PooledScheduler} {r : Request} {id : TaskId} {c : Cancellation}
    (hc : ∀ claimed, c ≠ .ended claimed) : (withdrawing id c).step s r =
      ({ s with backlog := (c.step s.backlog id).1 }, withdrawing id (c.step s.backlog id).2) := by
  cases c with
  | ended claimed => exact absurd rfl (hc claimed)
  | _ => rfl

private theorem of_pursued?_withdrawing {j id : TaskId} {c : Cancellation}
    (h : (withdrawing j c).pursued? = some id) : j = id ∧ c = .unlinking := by
  cases c with
  | unlinking => exact ⟨Option.some.inj h, rfl⟩
  | _ => cases h

/-- Whoever comes to pursue a task has just cancelled it. -/
theorem pursued?_step {s : PooledScheduler} {r : Request} {m : Submission} {id : TaskId}
    (h : (m.step s r).2.pursued? = some id) :
    (s.backlog.task id).state = .pending ∧ ((m.step s r).1.backlog.task id).state = .cancelled := by
  cases m with
  | checking | building | preparing _ | inserting _ | rechecking _ | examining _ =>
    simp only [step] at h
    split at h <;> cases h
  | withdrawing j c =>
    by_cases hc : ∃ claimed, c = .ended claimed
    · obtain ⟨claimed, rfl⟩ := hc
      cases claimed <;> cases h
    · rw [step_withdrawing fun claimed hclaimed => hc ⟨claimed, hclaimed⟩] at h ⊢
      obtain ⟨rfl, hunlinking⟩ := of_pursued?_withdrawing h
      exact Cancellation.of_step_eq_unlinking hunlinking
  | _ => cases h

end Submission

namespace Shutdown

def held : Shutdown → Holding
  | clearing _ c => only .waiting c.drained
  | _ => nothing

theorem passes_step {s : PooledScheduler} (hb : s.backlog.Kept) (m : Shutdown) :
    s.backlog.Passes (m.step s).1.backlog m.held (m.step s).2.held := by
  have hnothing : only .waiting [] = nothing := only_nil _
  cases m with
  | raising mode =>
    simp only [step, held, Clearance.begin, Clearance.drained, hnothing]
    exact Passes.refl hb nothing
  | clearing scope c =>
    have hpass := Clearance.passes_step hb scope c
    cases c with
    | ended discarded =>
      simp only [step, held, Clearance.drained, hnothing]
      exact Passes.refl hb nothing
    | _ => exact hpass
  | counting discarded => exact Passes.refl hb nothing
  | waking discarded =>
    simp only [step, PooledScheduler.passOnShutdown]
    split
    · rw [PooledScheduler.backlog_wakeDispatcher]
      exact Passes.refl hb nothing
    · exact Passes.refl hb nothing
  | ended discarded => exact Passes.refl hb nothing

end Shutdown

namespace Client

def held : Client → Holding
  | submitting _ m => m.held
  | shutting m => m.held
  | _ => nothing

/-- Whether the client is about to bring a new task about. -/
def isBuilding : Client → Bool
  | submitting _ .building => true
  | _ => false

def draft? : Client → Option Task
  | submitting _ m => m.draft?
  | _ => none

def pursued? : Client → Option TaskId
  | submitting _ m => m.pursued?
  | cancelling id .unlinking => some id
  | _ => none

theorem passes_step {s : PooledScheduler} (hb : s.backlog.Kept) {c : Client} (hc : c.isBuilding = false)
    (hfree : s.backlog.Frees c.held) (hdraft : ∀ t, c.draft? = some t → t.IsNew)
    (hpursued : ∀ id, c.pursued? = some id → (s.backlog.task id).state = .cancelled) :
    s.backlog.Passes (c.step s).1.backlog c.held (c.step s).2.held := by
  cases c with
  | resting => exact Passes.refl hb nothing
  | submitting r m =>
    refine m.passes_step hb (fun hm => ?_) hfree hdraft hpursued r
    rw [hm] at hc
    cases hc
  | cancelling id c =>
    have hpass := Cancellation.passes_step hb id (c := c) (fun hc => hpursued id (by rw [hc]; rfl))
    cases c with
    | ended claimed => cases claimed <;> exact Passes.refl hb nothing
    | _ => exact hpass
  | answered id claimed => exact Passes.refl hb nothing
  | shutting m => exact m.passes_step hb

theorem draft?_step {s : PooledScheduler} {c : Client} {t : Task} (h : (c.step s).2.draft? = some t) :
    c.draft? = some t ∨ t.IsNew := by
  cases c with
  | submitting r m => exact Submission.draft?_step h
  | cancelling id c => cases c <;> cases h
  | _ => cases h

private theorem step_cancelling {s : PooledScheduler} {id : TaskId} {c : Cancellation}
    (hc : ∀ claimed, c ≠ .ended claimed) : (cancelling id c).step s =
      ({ s with backlog := (c.step s.backlog id).1 }, cancelling id (c.step s.backlog id).2) := by
  cases c with
  | ended claimed => exact absurd rfl (hc claimed)
  | _ => rfl

private theorem of_pursued?_cancelling {j id : TaskId} {c : Cancellation}
    (h : (cancelling j c).pursued? = some id) : j = id ∧ c = .unlinking := by
  cases c with
  | unlinking => exact ⟨Option.some.inj h, rfl⟩
  | _ => cases h

theorem pursued?_step {s : PooledScheduler} {c : Client} {id : TaskId} (h : (c.step s).2.pursued? = some id) :
    (s.backlog.task id).state = .pending ∧ ((c.step s).1.backlog.task id).state = .cancelled := by
  cases c with
  | submitting r m => exact Submission.pursued?_step h
  | cancelling j c =>
    by_cases hc : ∃ claimed, c = .ended claimed
    · obtain ⟨claimed, rfl⟩ := hc
      cases h
    -- the cancellation itself goes on
    · rw [step_cancelling fun claimed hclaimed => hc ⟨claimed, hclaimed⟩] at h ⊢
      obtain ⟨rfl, hunlinking⟩ := of_pursued?_cancelling h
      exact Cancellation.of_step_eq_unlinking hunlinking
  | _ => cases h

end Client

/-! ### Workers -/

namespace WorkerThread

def held : WorkerThread → Holding
  | executing id e => e.held id
  | acting (.working id) => only .claimed [id]
  | acting _ => nothing

end WorkerThread

end TaskScheduling
