import TaskScheduling.Proofs.Dispatch.Crew
import TaskScheduling.Proofs.Dispatch.Hands

/-!
# Where the tasks of a system are

Every task that has been queued once, and is neither done nor cancelled, is in exactly one place: in a queue, or in the
hands of a client, the dispatcher, a worker that was given it or the thread of a worker.  `System.Sound` is the
invariant behind it.

Main statement: every step keeps the invariant, and undoes nothing that has happened to a task (`System.Sound.step`).
-/

namespace TaskScheduling

open Holding Backlog

/-- Who may have tasks in hand. -/
inductive Party where
  | client (i : Nat)
  | dispatcher
  /-- A worker that was given a task which it has not taken yet. -/
  | worker (k : Nat)
  /-- The thread of a worker, which executes the task that it has taken. -/
  | thread (k : Nat)
  deriving DecidableEq

/-- A client that may make another call has no task in hand. -/
theorem Client.held_of_isFree {c : Client} (h : c.isFree = true) : c.held = nothing := by
  cases c with
  | submitting r m =>
    cases m with
    | ended result => rfl
    | _ => cases h
  | shutting m =>
    cases m with
    | ended discarded => rfl
    | _ => cases h
  | _ => rfl

namespace System

def held (s : System) : Party → Holding
  | .client i => (s.clients i).held
  | .dispatcher => s.dispatcher.elim nothing Dispatcher.held
  | .worker k => only .claimed (s.pool.task? k).toList
  | .thread k => (s.threads k).elim nothing WorkerThread.held

def tasksAt (s : System) : Place Party → List TaskId
  | .queue slot => s.backlog.queue slot
  | .held who stage => s.held who stage

/-- Whether a task has been entered: it is not one that a submission is still about to enter. -/
def Born (s : System) (id : TaskId) : Prop :=
  id.index < s.backlog.nextId ∧ ∀ who, id ∉ s.held who .unborn

/-- Whether somebody is about to take a cancelled task out of its queue. -/
def Pursues (s : System) (id : TaskId) : Prop :=
  (∃ i, (s.clients i).pursued? = some id) ∨
    ∃ k completedAt, s.threads k = some (.executing id (.completing completedAt .withdrawing))

/-- Whether a task is at `l`, or nowhere, and is what it must be like there. -/
structure At (s : System) (id : TaskId) (l : Option (Place Party)) : Prop where
  finds : s.backlog.Finds s.held id l
  suits : Stage.Suits (l.map Place.stage) (s.backlog.task id)
  index_lt : l ≠ none → id.index < s.backlog.nextId

structure Sound (s : System) : Prop where
  kept : s.backlog.Kept
  staffed : s.IsStaffed
  located (id : TaskId) : ∃ l, s.At id l
  isNew (i : Nat) (t : Task) : (s.clients i).draft? = some t → t.IsNew
  pursued (id : TaskId) : s.Pursues id → (s.backlog.task id).state = .cancelled ∧ s.Born id
  born (k : Nat) (id : TaskId) (e : Execution) : s.threads k = some (.executing id e) → s.Born id

/-- What a step does: it keeps the invariant, and nothing that has happened to a task is undone. -/
structure Leads (s s' : System) : Prop where
  sound : s'.Sound
  born (id : TaskId) : s.Born id → s'.Born id
  stays (id : TaskId) : s.Born id → (s.backlog.task id).Stays (s'.backlog.task id)

namespace At

variable {s : System} {id : TaskId} {l : Option (Place Party)}

theorem eq_held (h : s.At id l) {who : Party} {stage : Stage} (hmem : id ∈ s.held who stage) :
    l = some (.held who stage) := by
  have hcount := h.finds.count_held who stage
  have hpos := List.count_pos_iff.2 hmem
  split at hcount
  · assumption
  · omega

theorem slot_eq_none (h : s.At id l) {who : Party} {stage : Stage} (hmem : id ∈ s.held who stage) :
    (s.backlog.task id).slot = none := by
  obtain rfl := h.eq_held hmem
  cases hslot : (s.backlog.task id).slot with
  | none => rfl
  | some slot => cases (h.finds.slot_eq_iff slot).1 hslot

end At

namespace Sound

variable {s s' : System}

theorem frees (h : s.Sound) (who : Party) : s.backlog.Frees (s.held who) := by
  intro stage id hmem
  obtain ⟨l, hl⟩ := h.located id
  refine ⟨hl.slot_eq_none hmem, hl.index_lt ?_⟩
  rw [hl.eq_held hmem]
  exact nofun

/-- What somebody has in hand has been entered, unless it is about to be. -/
theorem born_of_held (h : s.Sound) {who : Party} {stage : Stage} {id : TaskId} (hmem : id ∈ s.held who stage)
    (hstage : stage ≠ .unborn) : s.Born id := by
  obtain ⟨l, hl⟩ := h.located id
  refine ⟨(h.frees who stage id hmem).2, fun other hother => ?_⟩
  have heq := (hl.eq_held hmem).symm.trans (hl.eq_held hother)
  simp only [Option.some.injEq, Place.held.injEq] at heq
  exact hstage heq.2

/-- Only tasks that have been entered are in a state other than `cancelled`. -/
theorem born_of_state (h : s.Sound) {id : TaskId} (hstate : (s.backlog.task id).state ≠ .cancelled) : s.Born id := by
  refine ⟨h.kept.index_lt hstate, fun who hwho => ?_⟩
  obtain ⟨l, hl⟩ := h.located id
  have hsuits := hl.suits
  rw [hl.eq_held hwho] at hsuits
  rw [show s.backlog.task id = .absent from hsuits] at hstate
  exact hstate rfl

/-- A task that has not been entered looks like one that was never built. -/
theorem eq_absent_or_born (h : s.Sound) (id : TaskId) : s.backlog.task id = .absent ∨ s.Born id := by
  by_cases hborn : s.Born id
  · exact .inr hborn
  · left
    by_cases hlt : id.index < s.backlog.nextId
    · obtain ⟨who, hwho⟩ : ∃ who, id ∈ s.held who .unborn := by
        by_contra hnot
        exact hborn ⟨hlt, fun who hwho => hnot ⟨who, hwho⟩⟩
      obtain ⟨l, hl⟩ := h.located id
      have hsuits := hl.suits
      rw [hl.eq_held hwho] at hsuits
      exact hsuits
    · exact h.kept.task_eq_absent id (Nat.le_of_not_lt hlt)

/-- What any step has to do for the invariant. -/
private theorem of_located (h : s.Sound) (hkept : s'.backlog.Kept) (hstaffed : s'.IsStaffed)
    (hlocated : ∀ id l, s.At id l → ∃ l', s'.At id l') (hnext : s.backlog.nextId ≤ s'.backlog.nextId)
    (hunborn : ∀ who id, id ∈ s'.held who .unborn → id ∈ s.held who .unborn ∨ s.backlog.nextId ≤ id.index)
    (hstays : ∀ id, s.Born id → (s.backlog.task id).Stays (s'.backlog.task id))
    (hnew : ∀ i t, (s'.clients i).draft? = some t → (s.clients i).draft? = some t ∨ t.IsNew)
    (hpursued : ∀ id, s'.Pursues id → s.Pursues id ∨ (s'.backlog.task id).state = .cancelled ∧ s.Born id)
    (hborn : ∀ k id e, s'.threads k = some (.executing id e) → s.Born id) : s.Leads s' := by
  have hborn' (id : TaskId) (hid : s.Born id) : s'.Born id := by
    refine ⟨Nat.lt_of_lt_of_le hid.1 hnext, fun who hwho => ?_⟩
    rcases hunborn who id hwho with hold | hlate
    · exact hid.2 who hold
    · exact absurd hid.1 (Nat.not_lt.2 hlate)
  refine ⟨⟨hkept, hstaffed, fun id => ?_, fun i t ht => ?_, fun id hid => ?_, fun k id e ht => ?_⟩, hborn', hstays⟩
  · obtain ⟨l, hl⟩ := h.located id
    exact hlocated id l hl
  · exact (hnew i t ht).elim (h.isNew i t) fun hnew => hnew
  · rcases hpursued id hid with hold | ⟨hstate, hid⟩
    · obtain ⟨hstate, hid⟩ := h.pursued id hold
      exact ⟨(hstays id hid).cancelled_of_cancelled hstate, hborn' id hid⟩
    · exact ⟨hstate, hborn' id hid⟩
  · exact hborn' id (hborn k id e ht)

/-- A step of one party. -/
private theorem of_passes (h : s.Sound) (a : Party) (hpass : s.backlog.Passes s'.backlog (s.held a) (s'.held a))
    (hothers : ∀ who, who ≠ a → s'.held who = s.held who) (hstaffed : s'.IsStaffed)
    (hnew : ∀ i t, (s'.clients i).draft? = some t → (s.clients i).draft? = some t ∨ t.IsNew)
    (hpursued : ∀ id, s'.Pursues id → s.Pursues id ∨ (s'.backlog.task id).state = .cancelled ∧ s.Born id)
    (hborn : ∀ k id e, s'.threads k = some (.executing id e) → s.Born id) : s.Leads s' := by
  refine h.of_located hpass.kept hstaffed ?_ (Nat.le_of_eq hpass.nextId_eq.symm) ?_ ?_ hnew hpursued hborn
  · intro id l hl
    obtain ⟨l', hfinds, hsuits, hnone⟩ := hpass.exists_finds_of hothers hl.finds hl.suits
    refine ⟨l', hfinds, hsuits, fun hne => ?_⟩
    rw [hpass.nextId_eq]
    exact hl.index_lt fun hl => hne (hnone hl)
  · intro who id hid
    by_cases hwho : who = a
    · subst hwho
      exact .inl (hpass.unborn_subset id hid)
    · rw [hothers who hwho] at hid
      exact .inl hid
  · intro id hid
    exact hpass.stays id (hid.2 a)

/-- A step that moves no task. -/
private theorem of_same (h : s.Sound) (hstaffed : s'.IsStaffed) (hbacklog : s'.backlog = s.backlog)
    (hheld : ∀ who, s'.held who = s.held who)
    (hnew : ∀ i t, (s'.clients i).draft? = some t → (s.clients i).draft? = some t)
    (hpursued : ∀ id, s'.Pursues id → s.Pursues id)
    (hborn : ∀ k id e, s'.threads k = some (.executing id e) → s.Born id) : s.Leads s' := by
  refine h.of_passes .dispatcher ?_ (fun who _ => hheld who) hstaffed (fun i t ht => .inl (hnew i t ht))
    (fun id hid => .inl (hpursued id hid)) hborn
  rw [hbacklog, hheld]
  exact Passes.refl h.kept _

/-- A step in which one party passes a task on to another. -/
private theorem of_transfer (h : s.Sound) (a a' : Party) (stage : Stage) (id : TaskId) (hne : a ≠ a')
    (hstage : stage ≠ .unborn) (hfrom : s.held a = only stage [id]) (hto : s.held a' = nothing)
    (hfrom' : s'.held a = nothing) (hto' : s'.held a' = only stage [id])
    (hothers : ∀ who, who ≠ a → who ≠ a' → s'.held who = s.held who) (hbacklog : s'.backlog = s.backlog)
    (hstaffed : s'.IsStaffed) (hnew : ∀ i t, (s'.clients i).draft? = some t → (s.clients i).draft? = some t)
    (hpursued : ∀ id, s'.Pursues id → s.Pursues id)
    (hborn : ∀ k id e, s'.threads k = some (.executing id e) → s.Born id) : s.Leads s' := by
  refine h.of_located ?_ hstaffed ?_ ?_ ?_ ?_ (fun i t ht => .inl (hnew i t ht)) (fun id hid => .inl (hpursued id hid))
    hborn
  · rw [hbacklog]
    exact h.kept
  · intro j l hl
    obtain ⟨l', hfinds, hstage', hnone⟩ := Passes.exists_finds_transfer hne hfrom hto hfrom' hto' hothers hl.finds
    refine ⟨l', by rwa [hbacklog], ?_, fun hl' => ?_⟩
    · rw [hbacklog, hstage']
      exact hl.suits
    · rw [hbacklog]
      exact hl.index_lt fun hl => hl' (hnone hl)
  · simp only [hbacklog, Nat.le_refl]
  · intro who j hj
    by_cases hwho : who = a'
    · subst hwho
      rw [hto'] at hj
      simp [only, Ne.symm hstage] at hj
    · by_cases hwho' : who = a
      · subst hwho'
        rw [hfrom'] at hj
        cases hj
      · rw [hothers who hwho' hwho] at hj
        exact .inl hj
  · intro j _
    rw [hbacklog]
    exact .refl _

/-! ### Clients -/

/-- A client makes a call. -/
private theorem withClient (h : s.Sound) {i : Nat} {c : Client} (hfree : (s.clients i).isFree = true)
    (hheld : c.held = nothing) (hdraft : c.draft? = none) (hpursued : c.pursued? = none) :
    s.Leads (s.withClient i c) := by
  have hother {j : Nat} (hj : j ≠ i) : (s.withClient i c).clients j = s.clients j :=
    Function.update_of_ne hj _ s.clients
  have hself : (s.withClient i c).clients i = c := Function.update_self i _ s.clients
  refine h.of_same h.staffed rfl ?_ ?_ ?_ h.born
  · intro who
    cases who with
    | client j =>
      by_cases hj : j = i
      · subst hj
        simp only [held, hself, hheld, Client.held_of_isFree hfree]
      · simp only [held, hother hj]
    | _ => rfl
  · intro j t ht
    by_cases hj : j = i
    · subst hj
      rw [hself, hdraft] at ht
      cases ht
    · rwa [hother hj] at ht
  · rintro id (⟨j, hid⟩ | hid)
    · by_cases hj : j = i
      · subst hj
        rw [hself, hpursued] at hid
        cases hid
      · exact .inl ⟨j, by rwa [hother hj] at hid⟩
    · exact .inr hid

/-- A client has nothing to do with the tasks that workers were given. -/
theorem task?_stepClient (s : System) (i k : Nat) : (s.stepClient i).pool.task? k = s.pool.task? k := by
  have hpool : (s.stepClient i).pool = ((s.clients i).step s.scheduler).1.pool := rfl
  rw [hpool]
  rcases (s.clients i).pool_step s.scheduler with hsame | hstop
  · rw [hsame]
    rfl
  · rw [hstop]
    exact (Pool.Knows.stop _).task?_eq k

/-- A client that goes on changes nothing about what others have in hand. -/
theorem held_stepClient_of_ne (s : System) (i : Nat) {who : Party} (hwho : who ≠ .client i) :
    (s.stepClient i).held who = s.held who := by
  cases who with
  | client j =>
    have hj : j ≠ i := fun hj => hwho (by rw [hj])
    have hclient : (s.stepClient i).clients j = s.clients j := Function.update_of_ne hj _ s.clients
    simp only [held, hclient]
  | dispatcher =>
    simp only [held, System.stepClient]
    cases s.dispatcher with
    | some d => rfl
    | none => cases ((s.clients i).step s.scheduler).1.dispatcher.thread <;> rfl
  | worker k => simp only [held, task?_stepClient]
  | thread k => rfl

/-- A submission that enters its task queues it. -/
theorem step_of_inserting (h : s.Sound) {i : Nat} {r : Request} {t : Task}
    (hclient : s.clients i = .submitting r (.inserting t)) : (s.clients i).step s.scheduler =
      ({ s.scheduler with backlog := (s.backlog.enter t).place t.id }, .submitting r (.rechecking t.id)) := by
  have hentered : (s.backlog.enter t).task t.id = t := by rw [task_enter, if_pos rfl]
  have hslot : ((s.backlog.enter t).task t.id).slot = none := by
    rw [hentered, (h.isNew i t (by rw [hclient]; rfl)).slot_eq]
  rw [hclient, Client.step, Submission.step]
  simp only [show s.scheduler.backlog = s.backlog from rfl, add_eq_ok hslot]

theorem task_of_inserting (h : s.Sound) {i : Nat} {r : Request} {t : Task}
    (hclient : s.clients i = .submitting r (.inserting t)) :
    (s.stepClient i).backlog.task t.id = { t with slot := some t.home } := by
  have hbacklog : (s.stepClient i).backlog = (s.backlog.enter t).place t.id :=
    congrArg (·.1.backlog) (h.step_of_inserting hclient)
  rw [hbacklog, task_place, if_pos rfl, task_enter, if_pos rfl]

private theorem exists_of_isBuilding {c : Client} (h : c.isBuilding = true) : ∃ r, c = .submitting r .building := by
  cases c with
  | submitting r m =>
    cases m with
    | building => exact ⟨r, rfl⟩
    | _ => cases h
  | _ => cases h

/-- A new task comes about. -/
private theorem bear (h : s.Sound) {i : Nat} {r : Request} (hclient : s.clients i = .submitting r .building)
    (hstaffed : (s.stepClient i).IsStaffed)
    (hnew : ∀ j t, ((s.stepClient i).clients j).draft? = some t → (s.clients j).draft? = some t ∨ t.IsNew)
    (hpursued : ∀ id, (s.stepClient i).Pursues id →
      s.Pursues id ∨ ((s.stepClient i).backlog.task id).state = .cancelled ∧ s.Born id) : s.Leads (s.stepClient i) := by
  have hself := s.clients_stepClient_self i
  have hbacklog := s.backlog_stepClient i
  have hothers := fun who (hwho : who ≠ Party.client i) => held_stepClient_of_ne s i hwho
  have hempty : s.held (.client i) = nothing := by simp only [held, hclient, Client.held, Submission.held]
  cases hvalid : r.kind.isValid with
  | false =>
    -- nothing is built
    have hstep : ((s.clients i).step s.scheduler).1.backlog = s.backlog ∧
        ((s.clients i).step s.scheduler).2.held = nothing := by
      rw [hclient]
      simp only [Client.step, Submission.step, hvalid, Bool.false_eq_true, ↓reduceIte]
      exact ⟨rfl, rfl⟩
    refine h.of_passes (.client i) ?_ hothers hstaffed hnew hpursued h.born
    have hafter : (s.stepClient i).held (.client i) = nothing := by simp only [held, hself, hstep.2]
    rw [hbacklog, hstep.1, hempty, hafter]
    exact Passes.refl h.kept nothing
  | true =>
    have hstep : ((s.clients i).step s.scheduler).1.backlog = { s.backlog with nextId := s.backlog.nextId + 1 } ∧
        ((s.clients i).step s.scheduler).2.held = only .unborn [⟨s.backlog.nextId⟩] := by
      rw [hclient]
      simp only [Client.step, Submission.step, hvalid, ↓reduceIte]
      exact ⟨rfl, rfl⟩
    rw [← hbacklog, ← hself] at hstep
    have hafter : (s.stepClient i).held (.client i) = only .unborn [⟨s.backlog.nextId⟩] := hstep.2
    have htask (id : TaskId) : (s.stepClient i).backlog.task id = s.backlog.task id := by
      rw [hstep.1]
      rfl
    have hnext : (s.stepClient i).backlog.nextId = s.backlog.nextId + 1 := by rw [hstep.1]
    obtain ⟨hborn, hold⟩ := Passes.finds_bear hempty hafter hothers htask
    refine h.of_located ?_ hstaffed ?_ (by omega) ?_ ?_ hnew hpursued h.born
    · rw [hstep.1]
      exact h.kept.build 0 r.delay r.kind .high none
    · intro id l hl
      by_cases hid : id = ⟨s.backlog.nextId⟩
      -- its number has not been used, so it was nowhere
      · subst hid
        have hnone : l = none := by
          by_contra hne
          exact absurd (hl.index_lt hne) (Nat.lt_irrefl _)
        subst hnone
        refine ⟨_, hborn hl.finds, ?_, fun _ => ?_⟩
        · rw [htask]
          exact h.kept.task_eq_absent _ (Nat.le_refl _)
        · rw [hnext]
          exact Nat.lt_succ_self _
      · refine ⟨l, hold id hid l hl.finds, ?_, fun hne => ?_⟩
        · rw [htask]
          exact hl.suits
        · rw [hnext]
          exact Nat.lt_succ_of_lt (hl.index_lt hne)
    · intro who id hid
      by_cases hwho : who = .client i
      · subst hwho
        rw [hafter] at hid
        have hid : id = ⟨s.backlog.nextId⟩ := by simpa [only] using hid
        exact .inr (by simp only [hid, Nat.le_refl])
      · rw [hothers who hwho] at hid
        exact .inl hid
    · intro id _
      rw [htask]
      exact .refl _

private theorem stepClient (h : s.Sound) (i : Nat) : s.Leads (s.stepClient i) := by
  have hstaffed := h.staffed.stepClient i
  have hself := s.clients_stepClient_self i
  have hother {j : Nat} (hj : j ≠ i) : (s.stepClient i).clients j = s.clients j := Function.update_of_ne hj _ s.clients
  have hheld (c : Client) (hc : s.clients i = c) : s.held (.client i) = c.held := by simp only [held, hc]
  have hnew : ∀ j t, ((s.stepClient i).clients j).draft? = some t → (s.clients j).draft? = some t ∨ t.IsNew := by
    intro j t ht
    by_cases hj : j = i
    · subst hj
      rw [hself] at ht
      exact Client.draft?_step ht
    · rw [hother hj] at ht
      exact .inl ht
  have hpursued : ∀ id, (s.stepClient i).Pursues id →
      s.Pursues id ∨ ((s.stepClient i).backlog.task id).state = .cancelled ∧ s.Born id := by
    rintro id (⟨j, hid⟩ | hid)
    · by_cases hj : j = i
      · subst hj
        rw [hself] at hid
        -- whoever comes to pursue a task has cancelled it in this very step
        obtain ⟨hpending, hcancelled⟩ := Client.pursued?_step hid
        refine .inr ⟨hcancelled, h.born_of_state ?_⟩
        rw [show (s.backlog.task id).state = .pending from hpending]
        decide
      · exact .inl (.inl ⟨j, by rwa [hother hj] at hid⟩)
    · exact .inl (.inr hid)
  cases hbuilding : (s.clients i).isBuilding with
  | false =>
    refine h.of_passes (.client i) ?_ (fun who hwho => held_stepClient_of_ne s i hwho) hstaffed hnew hpursued h.born
    have hpass := Client.passes_step (s := s.scheduler) h.kept hbuilding (h.frees (.client i)) (h.isNew i)
      fun id hid => (h.pursued id (.inl ⟨i, hid⟩)).1
    simp only [held, hself]
    exact hpass
  | true =>
    obtain ⟨r, hclient⟩ := exists_of_isBuilding hbuilding
    exact h.bear hclient hstaffed hnew hpursued

/-! ### The dispatcher -/

/-- Only handing over concerns the tasks that workers were given. -/
private theorem task?_step {s : PooledScheduler} {d : Dispatcher} (hd : d.isHanding = false)
    (hawaited : ∀ k, 0 < d.awaits k → s.pool.task? k = none) (k : Nat) :
    (d.step s).1.pool.task? k = s.pool.task? k := by
  rcases d.pool_step_cases s with hknows | ⟨id, rfl, hpool⟩ | ⟨id, j, rfl, hpool⟩ | ⟨id, j, rfl, -⟩
  · exact hknows.task?_eq k
  · rw [hpool, Pool.task?_register]
  · rw [hpool, Pool.task?_removeWorker]
    split
    · next hj => rw [hj, hawaited j (by simp [Dispatcher.awaits])]
    · rfl
  · cases hd

/-- A thread that the dispatcher starts has nothing to execute yet. -/
theorem threads_of_stepDispatcher {d : Dispatcher} {now k : Nat} {id : TaskId} {e : Execution}
    (ht : (s.stepDispatcher d now).threads k = some (.executing id e)) : s.threads k = some (.executing id e) := by
  simp only [System.stepDispatcher] at ht
  cases hd : (d.step s.scheduler).2 with
  | spawned _ j _ =>
    rw [hd] at ht
    by_cases hj : k = j
    · subst hj
      simp only [startThread, Function.update_self] at ht
      cases ht
    · simpa only [startThread, Function.update_of_ne hj] using ht
  | _ =>
    rw [hd] at ht
    exact ht

/-- A worker that the dispatcher is about to start has no thread and no task. -/
private theorem awaited (h : s.Sound) {d : Dispatcher} (hd : s.dispatcher = some d) {k : Nat} (hpos : 0 < d.awaits k) :
    s.threads k = none ∧ s.pool.task? k = none := by
  have hk := h.staffed k
  simp only [awaits, hd, Option.elim_some] at hk
  exact ⟨(hk.awaited hpos).1, hk.task?_eq_none (.inl (by omega))⟩

theorem task?_stepDispatcher (h : s.Sound) {d : Dispatcher} (hd : s.dispatcher = some d)
    (hhanding : d.isHanding = false) (now k : Nat) : (s.stepDispatcher d now).pool.task? k = s.pool.task? k :=
  task?_step (s := s.scheduler) hhanding (fun _ hk => (h.awaited hd hk).2) k

/-- The thread that the dispatcher starts, if it starts one, is a new one. -/
theorem threads_stepDispatcher_cases (h : s.Sound) {d : Dispatcher} (hd : s.dispatcher = some d) (now k : Nat) :
    (s.stepDispatcher d now).threads k = s.threads k ∨
      s.threads k = none ∧ (s.stepDispatcher d now).threads k = some (.acting (.fetching now)) := by
  simp only [System.stepDispatcher]
  cases hnext : (d.step s.scheduler).2 with
  | spawned id j thread =>
    by_cases hj : k = j
    · subst hj
      have hnone := (h.awaited hd (by rw [Dispatcher.awaits_of_step_eq_spawned hnext]; exact Nat.one_pos)).1
      exact .inr ⟨hnone, Function.update_self ..⟩
    · exact .inl (Function.update_of_ne hj _ _)
  | _ => exact .inl rfl

private theorem held_stepDispatcher_of_ne (h : s.Sound) {d : Dispatcher} (hd : s.dispatcher = some d)
    (hhanding : d.isHanding = false) (now : Nat) {who : Party} (hwho : who ≠ .dispatcher) :
    (s.stepDispatcher d now).held who = s.held who := by
  cases who with
  | client i => rfl
  | dispatcher => exact absurd rfl hwho
  | worker k => simp only [held, h.task?_stepDispatcher hd hhanding]
  | thread k =>
    simp only [held]
    rcases h.threads_stepDispatcher_cases hd now k with hsame | ⟨hnone, hstarted⟩
    · rw [hsame]
    · rw [hnone, hstarted]
      rfl

/-- The dispatcher gives a worker its task, or keeps it if the worker has left. -/
private theorem handOver (h : s.Sound) {id : TaskId} {k : Nat} (hd : s.dispatcher = some (.handing id k)) (now : Nat) :
    s.Leads (s.stepDispatcher (.handing id k) now) := by
  have hstaffed := h.staffed.stepDispatcher hd now
  have hheld : s.held .dispatcher = only .claimed [id] := by simp only [held, hd, Option.elim_some, Dispatcher.held]
  have hspare : s.pool.task? k = none := by
    refine (h.staffed k).task?_eq_none (.inl ?_)
    simp only [reserves, hd, Option.elim_some, Dispatcher.reserves, ↓reduceIte]
    omega
  have hsnd : (s.scheduler.pool.hand k id).2 = s.scheduler.pool.isRegistered k := s.pool.hand_snd k id
  have htask (j : Nat) := s.pool.task?_hand k id j
  rcases hhand : s.scheduler.pool.hand k id with ⟨p, given⟩
  rw [show s.pool.hand k id = (p, given) from hhand] at htask
  rw [hhand] at hsnd
  cases given with
  | false =>
    -- the worker has left, and the dispatcher keeps the task
    have hstep : s.stepDispatcher (.handing id k) now =
        { s with scheduler := { s.scheduler with pool := p }, dispatcher := some (.restoring id) } := by
      simp only [System.stepDispatcher, Dispatcher.step, hhand]
      rfl
    rw [hstep] at hstaffed ⊢
    refine h.of_same hstaffed rfl (fun who => ?_) (fun i t ht => ht) (fun id hid => hid) h.born
    cases who with
    | client i => rfl
    | dispatcher => rw [hheld]; rfl
    | worker j =>
      simp only [held]
      rw [show s.pool.isRegistered k = false from hsnd.symm] at htask
      rw [show pool _ = p from rfl, htask, if_neg (by simp)]
    | thread j => rfl
  | true =>
    have hstep : s.stepDispatcher (.handing id k) now =
        { s with scheduler := { s.scheduler with pool := p }, dispatcher := some .checking } := by
      simp only [System.stepDispatcher, Dispatcher.step, hhand]
      rfl
    rw [show s.pool.isRegistered k = true from hsnd.symm] at htask
    rw [hstep] at hstaffed ⊢
    refine h.of_transfer .dispatcher (.worker k) .claimed id (by simp) (by simp) hheld
      ?_ rfl ?_ (fun who hwho hwho' => ?_) rfl hstaffed (fun i t ht => ht) (fun id hid => hid) h.born
    · simp only [held, hspare, Option.toList_none, only_nil]
    · simp only [held]
      rw [show pool _ = p from rfl, htask, if_pos ⟨rfl, rfl⟩]
      rfl
    · cases who with
      | client i => rfl
      | dispatcher => exact absurd rfl hwho
      | worker j =>
        have hj : j ≠ k := fun hj => hwho' (by rw [hj])
        simp only [held]
        rw [show pool _ = p from rfl, htask, if_neg (by simp [hj])]
      | thread j => rfl

private theorem stepDispatcher (h : s.Sound) {d : Dispatcher} (hd : s.dispatcher = some d) (now : Nat) :
    s.Leads (s.stepDispatcher d now) := by
  have hstaffed := h.staffed.stepDispatcher hd now
  have hheld : s.held .dispatcher = d.held := by simp only [held, hd, Option.elim_some]
  have hpursued : ∀ id, (s.stepDispatcher d now).Pursues id → s.Pursues id := by
    rintro id (hclient | ⟨k, completedAt, ht⟩)
    · exact .inl hclient
    · exact .inr ⟨k, completedAt, threads_of_stepDispatcher ht⟩
  cases hhanding : d.isHanding with
  | false =>
    refine h.of_passes .dispatcher ?_ (fun who hwho => held_stepDispatcher_of_ne h hd hhanding now hwho) hstaffed
      (fun i t ht => .inl ht) (fun id hid => .inl (hpursued id hid)) fun k id e ht =>
        h.born k id e (threads_of_stepDispatcher ht)
    have hfree := h.frees .dispatcher
    rw [hheld] at hfree ⊢
    exact Dispatcher.passes_step (s := s.scheduler) h.kept hhanding hfree
  | true =>
    cases d with
    | handing id k => exact h.handOver hd now
    | _ => cases hhanding

/-- The dispatcher goes over to a phase in which it has nothing in its hands, from one in which it had nothing. -/
private theorem withDispatcher (h : s.Sound) {d : Dispatcher} (hd : s.dispatcher = some d) (hheld : d.held = nothing)
    {next : Dispatcher} (hnext : next.held = nothing) (hstaffed : (s.withDispatcher next).IsStaffed) :
    s.Leads (s.withDispatcher next) := by
  refine h.of_same hstaffed rfl (fun who => ?_) (fun i t ht => ht) (fun id hid => hid) h.born
  cases who with
  | dispatcher => simp only [held, System.withDispatcher, hd, Option.elim_some, hheld, hnext]
  | _ => rfl

/-! ### The workers -/

/-- Whoever pursues a task after one thread has gone on did so before, unless it is this thread. -/
private theorem pursues_of_thread {k : Nat} {y : WorkerThread} {id : TaskId} (hclients : s'.clients = s.clients)
    (hthreads : s'.threads = Function.update s.threads k (some y)) (hid : s'.Pursues id) :
    s.Pursues id ∨ ∃ completedAt, y = .executing id (.completing completedAt .withdrawing) := by
  rcases hid with ⟨i, hi⟩ | ⟨j, completedAt, hj⟩
  · exact .inl (.inl ⟨i, by rwa [hclients] at hi⟩)
  · by_cases hjk : j = k
    · subst hjk
      rw [hthreads, Function.update_self, Option.some.injEq] at hj
      exact .inr ⟨completedAt, hj⟩
    · rw [hthreads, Function.update_of_ne hjk] at hj
      exact .inl (.inr ⟨j, completedAt, hj⟩)

/-- What the threads execute after one of them has gone on has been entered, if this holds of the one. -/
private theorem born_of_thread (h : s.Sound) {k : Nat} {y : WorkerThread}
    (hthreads : s'.threads = Function.update s.threads k (some y)) (hy : ∀ id e, y = .executing id e → s.Born id)
    (j : Nat) (id : TaskId) (e : Execution) (hj : s'.threads j = some (.executing id e)) : s.Born id := by
  by_cases hjk : j = k
  · subst hjk
    rw [hthreads, Function.update_self, Option.some.injEq] at hj
    exact hy id e hj
  · rw [hthreads, Function.update_of_ne hjk] at hj
    exact h.born j id e hj

/-- One thread goes on with the same tasks in its hands. -/
private theorem act (h : s.Sound) {k : Nat} {x : WorkerThread} (y : WorkerThread) (ht : s.threads k = some x)
    (hheld : y.held = x.held)
    (hpursued : ∀ id completedAt, y ≠ .executing id (.completing completedAt .withdrawing))
    (hborn : ∀ id e, y = .executing id e → s.Born id) (hbacklog : s'.backlog = s.backlog)
    (hclients : s'.clients = s.clients) (hdispatcher : s'.dispatcher = s.dispatcher)
    (htask : ∀ j, s'.pool.task? j = s.pool.task? j) (hthreads : s'.threads = Function.update s.threads k (some y))
    (hstaffed : s'.IsStaffed) : s.Leads s' := by
  refine h.of_same hstaffed hbacklog (fun who => ?_) (fun i t ht => by rwa [hclients] at ht) ?_ ?_
  · cases who with
    | client i => simp only [held, hclients]
    | dispatcher => simp only [held, hdispatcher]
    | worker j => simp only [held, htask]
    | thread j =>
      by_cases hj : j = k
      · subst hj
        simp only [held, hthreads, Function.update_self, ht, Option.elim_some, hheld]
      · simp only [held, hthreads, Function.update_of_ne hj]
  · intro id hid
    rcases pursues_of_thread hclients hthreads hid with hold | ⟨completedAt, hy⟩
    · exact hold
    · exact absurd hy (hpursued id completedAt)
  · exact h.born_of_thread hthreads hborn

/-- A worker takes the task that it was given. -/
private theorem take (h : s.Sound) {k now : Nat} {phase : WorkerPhase} {id : TaskId}
    (ht : s.threads k = some (.acting phase)) (hphase : (WorkerThread.acting phase).held = nothing)
    (htask : s.pool.task? k = some id) (hpool : (s.stepWorker k phase now).pool = (s.pool.takeTask k).1)
    (hthreads : (s.stepWorker k phase now).threads = Function.update s.threads k (some (.executing id .starting))) :
    s.Leads (s.stepWorker k phase now) := by
  have hheld : s.held (.worker k) = only .claimed [id] := by
    simp only [held, htask]
    rfl
  have hafter (j : Nat) : (s.stepWorker k phase now).pool.task? j = if j = k then none else s.pool.task? j := by
    rw [hpool]
    exact s.pool.task?_takeTask k j
  -- both belong to the same worker, so that the thread had nothing
  refine h.of_transfer (.worker k) (.thread k) .claimed id (by simp) (by simp) hheld ?_ ?_ ?_ (fun who hwho hwho' => ?_)
    (backlog_stepWorker s k phase now) (h.staffed.stepWorker ht now) (fun i t ht => ht) ?_ ?_
  · simp only [held, ht]
    exact hphase
  · simp only [held, hafter, ↓reduceIte, Option.toList_none, only_nil]
  · simp only [held, hthreads, Function.update_self]
    rfl
  · cases who with
    | client i => rfl
    | dispatcher => rfl
    | worker j =>
      have hj : j ≠ k := fun hj => hwho (by rw [hj])
      simp only [held, hafter, if_neg hj]
    | thread j =>
      have hj : j ≠ k := fun hj => hwho' (by rw [hj])
      simp only [held, hthreads, Function.update_of_ne hj]
  · intro j hj
    have hclients : (s.stepWorker k phase now).clients = s.clients := rfl
    rcases pursues_of_thread hclients hthreads hj with hold | ⟨completedAt, hy⟩
    · exact hold
    · cases hy
  · refine h.born_of_thread hthreads fun j e hj => ?_
    cases hj
    have hmem : id ∈ s.held (.worker k) .claimed := by simp [hheld, only]
    exact h.born_of_held hmem (by simp)

/-- A worker goes on with no other task than before. -/
private theorem act_worker (h : s.Sound) {k now : Nat} {phase next : WorkerPhase}
    (ht : s.threads k = some (.acting phase)) (htask : ∀ j, (s.stepWorker k phase now).pool.task? j = s.pool.task? j)
    (hthreads : (s.stepWorker k phase now).threads = Function.update s.threads k (some (.ofPhase next)))
    (hsame : ∀ id, next = .working id ↔ phase = .working id) : s.Leads (s.stepWorker k phase now) := by
  refine h.act (.ofPhase next) ht ?_ ?_ ?_ (backlog_stepWorker s k phase now) rfl rfl htask hthreads
    (h.staffed.stepWorker ht now)
  · cases phase with
    | working id => rw [(hsame id).2 rfl]; rfl
    | _ =>
      cases next with
      | working id => cases (hsame id).1 rfl
      | _ => rfl
  · intro id completedAt hy
    cases next <;> cases hy
  · intro id e hy
    cases next with
    | working j =>
      cases hy
      have hmem : id ∈ s.held (.thread k) .claimed := by
        simp [held, ht, (hsame id).1 rfl, WorkerThread.held, only]
      exact h.born_of_held hmem (by simp)
    | _ => cases hy

private theorem stepWorker (h : s.Sound) {k : Nat} {phase : WorkerPhase} (ht : s.threads k = some (.acting phase))
    (now : Nat) : s.Leads (s.stepWorker k phase now) := by
  have hpool := s.pool_stepWorker k phase now
  have hthreads := s.threads_stepWorker k phase now
  have hmoves := phase.moves_step s.pool k now
  generalize (phase.step s.pool k now).1 = q at hmoves hpool
  generalize (phase.step s.pool k now).2 = next at hmoves hthreads
  cases hmoves with
  | take idleSince id htask => exact h.take ht rfl htask hpool hthreads
  | giveBack => exact h.act_worker ht (fun j => by rw [hpool]; rfl) hthreads (by simp)
  | depart _ hdepart =>
    have hnone := h.staffed.task?_eq_none_of_depart ht hdepart
    refine h.act_worker ht (fun j => ?_) hthreads fun id => ?_
    · rw [hpool, Pool.task?_removeWorker]
      split
      · next hj => rw [hj, hnone]
      · rfl
    · rcases hdepart with rfl | ⟨⟨idleSince, rfl⟩, -⟩ <;> simp
  | goOn _ _ _ hknows _ _ _ hsame =>
    exact h.act_worker ht (fun j => by rw [hpool]; exact hknows.task?_eq j) hthreads hsame

theorem held_ofExecution (id : TaskId) (e : Execution) : (WorkerThread.ofExecution id e).held = e.held id := by
  cases e <;> rfl

/-- A worker goes on with the execution of its task. -/
private theorem stepExecution (h : s.Sound) {k : Nat} {id : TaskId} {e : Execution}
    (ht : s.threads k = some (.executing id e)) (name : Option String) : s.Leads (s.stepExecution k id e name) := by
  have hself : (s.stepExecution k id e name).threads k =
      some (.ofExecution id (e.step s.scheduler id name).2) := Function.update_self k _ s.threads
  have hother {j : Nat} (hj : j ≠ k) : (s.stepExecution k id e name).threads j = s.threads j :=
    Function.update_of_ne hj _ s.threads
  have hpool : (s.stepExecution k id e name).pool = s.pool := e.pool_step s.scheduler id name
  have hheld : s.held (.thread k) = e.held id := by
    simp only [held, ht]
    rfl
  have hafter : (s.stepExecution k id e name).held (.thread k) = (e.step s.scheduler id name).2.held id := by
    simp only [held, hself]
    exact held_ofExecution id _
  refine h.of_passes (.thread k) ?_ (fun who hwho => ?_) (h.staffed.stepExecution ht name) (fun i t ht => .inl ht) ?_ ?_
  · have hfree := h.frees (.thread k)
    rw [hheld] at hfree ⊢
    rw [hafter]
    refine Execution.passes_step (s := s.scheduler) h.kept hfree (fun completedAt he => ?_) name
    exact (h.pursued id (.inr ⟨k, completedAt, by rw [ht, he]⟩)).1
  · cases who with
    | client i => rfl
    | dispatcher => rfl
    | worker j => simp only [held, hpool]
    | thread j =>
      have hj : j ≠ k := fun hj => hwho (by rw [hj])
      simp only [held, hother hj]
  · intro j hj
    have hclients : (s.stepExecution k id e name).clients = s.clients := rfl
    rcases pursues_of_thread hclients rfl hj with hold | ⟨completedAt, hy⟩
    · exact .inl hold
    · have hnext : j = id ∧ (e.step s.scheduler id name).2 = .completing completedAt .withdrawing := by
        cases hstep : (e.step s.scheduler id name).2 <;> rw [hstep] at hy <;> cases hy
        exact ⟨rfl, rfl⟩
      rw [hnext.1]
      -- the execution has just seen that its task was cancelled
      exact .inr ⟨Execution.of_step_eq_withdrawing hnext.2, h.born k id e ht⟩
  · refine h.born_of_thread rfl fun j f hj => ?_
    have hnext : j = id := by
      cases hstep : (e.step s.scheduler id name).2 <;> rw [hstep] at hj <;> cases hj <;> rfl
    rw [hnext]
    exact h.born k id e ht

private theorem withScheduler (h : s.Sound) {scheduler : PooledScheduler} (hbacklog : scheduler.backlog = s.backlog)
    (hknows : s.pool.Knows scheduler.pool) (hidle : scheduler.pool.idle = s.pool.idle) :
    s.Leads (s.withScheduler scheduler) := by
  refine h.of_same (h.staffed.withScheduler hknows hidle) hbacklog (fun who => ?_) (fun i t ht => ht)
    (fun id hid => hid) h.born
  cases who with
  | worker k =>
    simp only [held]
    rw [show (s.withScheduler scheduler).pool = scheduler.pool from rfl, hknows.task?_eq]
  | _ => rfl

/-- Every step keeps the invariant. -/
theorem step (h : s.Sound) (hstep : Step s s') : s.Leads s' := by
  have hstaffed := h.staffed.step hstep
  cases hstep with
  | submit i r hfree => exact h.withClient hfree rfl rfl rfl
  | cancel i id hfree => exact h.withClient hfree rfl rfl rfl
  | shutDown i mode hfree => exact h.withClient hfree rfl rfl rfl
  | client i => exact h.stepClient i
  | dispatcher d now hd => exact h.stepDispatcher hd now
  | pick id now lowWait hd => exact h.withDispatcher hd rfl rfl hstaffed
  | miss until? hd => exact h.withDispatcher hd rfl rfl hstaffed
  | leave hd _ => exact h.withDispatcher hd rfl rfl hstaffed
  | rouse until? reason hd => exact h.withDispatcher hd rfl rfl hstaffed
  | worker k phase now ht => exact h.stepWorker ht now
  | rouseWorker k idleSince until? ht =>
    exact h.act (.acting (.fetching idleSince)) ht rfl nofun nofun rfl rfl rfl (fun _ => rfl) rfl hstaffed
  | execution k id e name ht => exact h.stepExecution ht name
  | finish k id outcome ht =>
    have hnext : (Execution.running.finish outcome).held id = only .started [id] ∧
        ∀ completedAt, Execution.running.finish outcome ≠ .completing completedAt .withdrawing := by
      cases outcome <;> exact ⟨rfl, nofun⟩
    refine h.act (.executing id (Execution.running.finish outcome)) ht hnext.1 (fun j completedAt hj => ?_)
      (fun j e hj => ?_) rfl rfl rfl (fun _ => rfl) rfl hstaffed
    · exact hnext.2 completedAt (WorkerThread.executing.inj hj).2
    · obtain rfl := (WorkerThread.executing.inj hj).1
      exact h.born k id _ ht
  | setMaxPoolSize n =>
    have hpool := s.scheduler.pool_setMaxPoolSize n
    refine h.withScheduler (PooledScheduler.backlog_wakeDispatcher _) ?_ (by rw [hpool]; rfl)
    rw [hpool]
    exact Pool.Knows.setMaxSize _ n
  | setKeepAlive d => exact h.withScheduler rfl ⟨fun _ => rfl, fun _ => rfl, rfl⟩ rfl
  | setLowWait d =>
    have hpool := s.scheduler.pool_setLowWait d
    refine h.withScheduler (PooledScheduler.backlog_wakeDispatcher _) ?_ (by rw [hpool]; rfl)
    rw [hpool]
    exact Pool.Knows.refl _
  | interruptAll => exact h.withScheduler rfl (Pool.Knows.interruptAll _) rfl
  | tell clock => exact h.withScheduler rfl (Pool.Knows.refl _) rfl

end Sound

end System

end TaskScheduling
