import TaskScheduling.Proofs.Backlog.Kept

/-!
# Who has which task

Besides the queues there are parties that have tasks in their hands: a client that has drained them, the dispatcher
that hands one over, a worker that runs one.  `Backlog.Finds` says where a task is, seen by some of these parties, and
`Stage.Suits` what the task must be like there.

`Backlog.Passes` says what a single step of one party may do: it may move tasks between the queues and its own hands,
or be done with them, and of tasks that are in neither it may do no more than cancel them.  The rest of this module
shows so for each kind of step: `Passes.mark`, `Passes.take`, `Passes.carry`, `Passes.lodge`, `Passes.drop`,
`Passes.withdraw` and `Passes.takeOut`.
-/

namespace TaskScheduling

/-- How far a task in somebody's hands has got. -/
inductive Stage where
  /-- It has been built, and is not entered yet. -/
  | unborn
  /-- It waits for its run. -/
  | waiting
  /-- It has been claimed for a run, which has not begun. -/
  | claimed
  /-- Its run has begun. -/
  | started
  /-- It has run, and its next run is planned. -/
  | planned
  deriving DecidableEq, Repr

namespace Stage

/-- What a task is like at a stage, or where nobody has anything more to do with it.  It may have been cancelled
anywhere. -/
def Suits : Option Stage → Task → Prop
  | none, t => (t.state = .done ∨ t.state = .cancelled) ∧ (t.isRecurring = false → t.runs ≤ 1)
  | some unborn, t => t = .absent
  | some waiting, t => (t.state = .pending ∨ t.state = .cancelled) ∧ (t.isRecurring = false → t.runs = 0)
  | some claimed, t => (t.state = .executing ∨ t.state = .cancelled) ∧ (t.isRecurring = false → t.runs = 0)
  | some started, t => (t.state = .executing ∨ t.state = .cancelled) ∧ (t.isRecurring = false → t.runs = 1)
  | some planned, t => (t.state = .executing ∨ t.state = .cancelled) ∧ t.isRecurring = true

theorem Suits.cancel {stage : Option Stage} {t : Task} (h : Suits stage t) :
    Suits stage { t with state := .cancelled } := by
  rcases stage with _ | _ | _ | _ | _ | _
  · exact ⟨.inr rfl, h.2⟩
  · have habsent : t = .absent := h
    rw [habsent]
    rfl
  all_goals exact ⟨.inr rfl, h.2⟩

/-- A task that is to run once has not run more often anywhere. -/
theorem Suits.runs_le {stage : Option Stage} {t : Task} (h : Suits stage t) (hr : t.isRecurring = false) :
    t.runs ≤ 1 := by
  rcases stage with _ | _ | _ | _ | _ | _
  · exact h.2 hr
  · have habsent : t = .absent := h
    rw [habsent]
    exact Nat.zero_le _
  · rw [h.2 hr]
    exact Nat.zero_le 1
  · rw [h.2 hr]
    exact Nat.zero_le 1
  · exact Nat.le_of_eq (h.2 hr)
  · rw [h.2] at hr
    cases hr

/-- A cancelled task may be left alone anywhere. -/
theorem Suits.of_cancelled {stage : Option Stage} {t : Task} (h : Suits stage t) (hstate : t.state = .cancelled) :
    Suits none t := ⟨.inr hstate, h.runs_le⟩

end Stage

/-- What becomes of a task that has been entered: it remains the same task, and nothing that has happened to it is
undone. -/
structure Task.Stays (t u : Task) : Prop where
  identity_eq : u.identity = t.identity
  runs_le : t.runs ≤ u.runs
  cancelled_of_cancelled : t.state = .cancelled → u.state = .cancelled

namespace Task.Stays

variable {t u v : Task}

theorem refl (t : Task) : t.Stays t := ⟨rfl, Nat.le_refl _, fun hstate => hstate⟩

theorem trans (h : t.Stays u) (h' : u.Stays v) : t.Stays v where
  identity_eq := h'.identity_eq.trans h.identity_eq
  runs_le := Nat.le_trans h.runs_le h'.runs_le
  cancelled_of_cancelled hstate := h'.cancelled_of_cancelled (h.cancelled_of_cancelled hstate)

/-- A task that is not cancelled may change its state. -/
theorem of_state_ne (h : t.state ≠ .cancelled) (target : TaskState) : t.Stays { t with state := target } :=
  ⟨rfl, Nat.le_refl _, fun hstate => absurd hstate h⟩

theorem cancel (t : Task) : t.Stays { t with state := .cancelled } := ⟨rfl, Nat.le_refl _, fun _ => rfl⟩

theorem move (t : Task) (slot? : Option QueueSlot) : t.Stays { t with slot := slot? } :=
  ⟨rfl, Nat.le_refl _, fun hstate => hstate⟩

end Task.Stays

/-- Where a task may be: in a queue, or with one of several parties. -/
inductive Place (α : Type) where
  | queue (slot : QueueSlot)
  | held (who : α) (stage : Stage)
  deriving DecidableEq

namespace Place

variable {α : Type}

def stage : Place α → Stage
  | queue _ => .waiting
  | held _ stage => stage

/-- The place that a single party means, among several. -/
def ofOwn (a : α) : Place Unit → Place α
  | queue slot => queue slot
  | held _ stage => held a stage

theorem stage_ofOwn (a : α) (place : Place Unit) : (place.ofOwn a).stage = place.stage := by cases place <;> rfl

theorem ofOwn_eq_queue_iff {a : α} {place : Place Unit} {slot : QueueSlot} :
    place.ofOwn a = queue slot ↔ place = queue slot := by
  cases place <;> simp [ofOwn]

theorem ofOwn_eq_held_iff {a : α} {place : Place Unit} {who : α} {stage : Stage} :
    place.ofOwn a = held who stage ↔ who = a ∧ place = held () stage := by
  cases place <;> simp [ofOwn, eq_comm (a := a)]

end Place

/-- The tasks in the hands of a party, by stage. -/
abbrev Holding : Type := Stage → List TaskId

namespace Holding

def nothing : Holding := fun _ => []

def only (stage : Stage) (ids : List TaskId) : Holding := fun s => if s = stage then ids else []

theorem count_only (stage s : Stage) (ids : List TaskId) (id : TaskId) :
    (only stage ids s).count id = if s = stage then ids.count id else 0 := by
  unfold only
  split <;> rfl

theorem only_nil (stage : Stage) : only stage [] = nothing := by
  funext s
  unfold only
  split <;> rfl

end Holding

namespace Backlog

/-- Whether a task is at the place `l`, or at none at all, and there only once. -/
structure Finds {α : Type} [DecidableEq α] (b : Backlog) (held : α → Holding) (id : TaskId) (l : Option (Place α)) :
    Prop where
  slot_eq_iff (slot : QueueSlot) : (b.task id).slot = some slot ↔ l = some (.queue slot)
  count_held (who : α) (stage : Stage) : (held who stage).count id = if l = some (.held who stage) then 1 else 0

/-- What a step from `b` to `c` does to a task that the party finds at `l` before and at `l'` afterwards: a task that it
does not find it can only cancel. -/
structure Follows (b c : Backlog) (id : TaskId) (l l' : Option (Place Unit)) : Prop where
  of_none : l = none →
    l' = none ∧ (c.task id = b.task id ∨ c.task id = { b.task id with state := .cancelled })
  of_some : l ≠ none → Stage.Suits (l'.map Place.stage) (c.task id)

/-- Whether from `b` to `c` a party that had the tasks `h` in its hands, and then `h'`, has taken a fair step. -/
structure Passes (b c : Backlog) (h h' : Holding) : Prop where
  kept : c.Kept
  nextId_eq : c.nextId = b.nextId
  exists_finds (id : TaskId) (l : Option (Place Unit)) : b.Finds (fun _ : Unit => h) id l →
    (l ≠ none → Stage.Suits (l.map Place.stage) (b.task id)) →
      ∃ l', c.Finds (fun _ : Unit => h') id l' ∧ b.Follows c id l l'
  /-- A task that is still to be entered is not meant. -/
  stays (id : TaskId) : id ∉ h .unborn → (b.task id).Stays (c.task id)
  unborn_subset (id : TaskId) : id ∈ h' .unborn → id ∈ h .unborn

theorem Follows.of_suits {b c : Backlog} {id : TaskId} {place : Place Unit} {l' : Option (Place Unit)}
    (h : Stage.Suits (l'.map Place.stage) (c.task id)) : b.Follows c id (some place) l' :=
  ⟨nofun, fun _ => h⟩

namespace Passes

open Holding

variable {b c : Backlog} {h h' : Holding} {id : TaskId}

/-- A step that concerns one task only. -/
theorem of_one (id : TaskId) (hkept : c.Kept) (hnext : c.nextId = b.nextId)
    (hothers : ∀ j, j ≠ id → c.task j = b.task j)
    (hheld : ∀ j, j ≠ id → ∀ s, (h' s).count j = (h s).count j)
    (hid : ∀ l, b.Finds (fun _ : Unit => h) id l → (l ≠ none → Stage.Suits (l.map Place.stage) (b.task id)) →
      ∃ l', c.Finds (fun _ : Unit => h') id l' ∧ b.Follows c id l l')
    (hstays : id ∉ h .unborn → (b.task id).Stays (c.task id))
    (hunborn : ∀ j, j ∈ h' .unborn → j ∈ h .unborn) : b.Passes c h h' where
  kept := hkept
  nextId_eq := hnext
  exists_finds j l hl hsuits := by
    by_cases hj : j = id
    · subst hj
      exact hid l hl hsuits
    -- another task stays where it is
    · refine ⟨l, ⟨fun slot => ?_, fun who stage => ?_⟩, ⟨fun hnone => ⟨hnone, .inl (hothers j hj)⟩, ?_⟩⟩
      · rw [hothers j hj]
        exact hl.slot_eq_iff slot
      · rw [hheld j hj]
        exact hl.count_held who stage
      · rw [hothers j hj]
        exact hsuits
  stays j hborn := by
    by_cases hj : j = id
    · subst hj
      exact hstays hborn
    · rw [hothers j hj]
      exact .refl _
  unborn_subset := hunborn

theorem refl (hb : b.Kept) (h : Holding) : b.Passes b h h where
  kept := hb
  nextId_eq := rfl
  exists_finds _ l hl hsuits := ⟨l, hl, ⟨fun hnone => ⟨hnone, .inl rfl⟩, hsuits⟩⟩
  stays _ _ := .refl _
  unborn_subset _ hid := hid

/-- What a party has in its hands is there and in no queue. -/
private theorem eq_held {stage : Stage} {rest : List TaskId} {l : Option (Place Unit)}
    (hl : b.Finds (fun _ : Unit => only stage (id :: rest)) id l) :
    l = some (.held () stage) ∧ (b.task id).slot = none ∧ id ∉ rest := by
  have hcount := hl.count_held () stage
  rw [count_only, if_pos rfl, List.count_cons_self] at hcount
  split at hcount
  · next hheld =>
    refine ⟨hheld, ?_, List.count_eq_zero.1 (by omega)⟩
    cases hslot : (b.task id).slot with
    | none => rfl
    | some slot =>
      have hqueue := (hl.slot_eq_iff slot).1 hslot
      rw [hheld] at hqueue
      cases hqueue
  · omega

private theorem count_only_of_ne {j : TaskId} (hj : j ≠ id) (stage s : Stage) (rest : List TaskId) :
    (only stage (id :: rest) s).count j = (only stage rest s).count j := by
  rw [count_only, count_only, List.count_cons_of_ne (Ne.symm hj)]

/-- Cancelling a task, wherever it is. -/
theorem mark (hb : b.Kept) (h : Holding) (id : TaskId) (seen : TaskState) :
    b.Passes (b.transition id seen .cancelled).1 h h := by
  have hfollows : (b.transition id seen .cancelled).1.task id = b.task id ∨
      (b.transition id seen .cancelled).1.task id = { b.task id with state := .cancelled } := by
    rw [task_transition_eq]
    split
    · exact .inr rfl
    · exact .inl rfl
  refine of_one id (hb.cancelled id seen) (nextId_transition b id seen .cancelled) ?_ (fun _ _ _ => rfl) ?_ ?_
    fun _ hj => hj
  · intro j hj
    rw [task_transition_eq, if_neg fun hc => hj hc.1]
  · intro l hl hsuits
    refine ⟨l, ⟨fun slot => ?_, hl.count_held⟩, ⟨fun hnone => ⟨hnone, hfollows⟩, fun hsome => ?_⟩⟩
    · rw [slot_transition]
      exact hl.slot_eq_iff slot
    · rcases hfollows with hsame | hmarked
      · rw [hsame]
        exact hsuits hsome
      · rw [hmarked]
        exact (hsuits hsome).cancel
  · intro _
    rcases hfollows with hsame | hmarked
    · rw [hsame]
      exact .refl _
    · rw [hmarked]
      exact .cancel _

/-- A task in hand gets further. -/
theorem carry {stage stage' : Stage} (hkept : c.Kept) (hnext : c.nextId = b.nextId)
    (hothers : ∀ j, j ≠ id → c.task j = b.task j) (hslot : (c.task id).slot = (b.task id).slot)
    (hborn : stage' ≠ .unborn) (hsuits : Stage.Suits (some stage) (b.task id) → Stage.Suits (some stage') (c.task id))
    (hstays : (b.task id).Stays (c.task id)) :
    b.Passes c (only stage [id]) (only stage' [id]) := by
  refine of_one id hkept hnext hothers ?_ ?_ (fun _ => hstays) ?_
  · intro j hj s
    rw [count_only_of_ne hj, count_only_of_ne hj, only_nil, only_nil]
  · intro l hl hbefore
    obtain ⟨rfl, hnone, -⟩ := eq_held hl
    refine ⟨some (.held () stage'), ⟨fun slot => ?_, fun who s => ?_⟩, .of_suits (hsuits (hbefore (by simp)))⟩
    · simp [hslot, hnone]
    · rw [count_only, List.count_singleton_self]
      simp [eq_comm]
  · intro j hj
    simp [only, Ne.symm hborn] at hj

/-- A party is done with one of the tasks in its hands. -/
theorem drop {stage : Stage} {rest : List TaskId} (hkept : c.Kept) (hnext : c.nextId = b.nextId)
    (hothers : ∀ j, j ≠ id → c.task j = b.task j) (hslot : (c.task id).slot = (b.task id).slot)
    (hsuits : Stage.Suits (some stage) (b.task id) → Stage.Suits none (c.task id))
    (hstays : (b.task id).Stays (c.task id)) :
    b.Passes c (only stage (id :: rest)) (only stage rest) := by
  refine of_one id hkept hnext hothers ?_ ?_ (fun _ => hstays) ?_
  · intro j hj s
    rw [count_only_of_ne hj]
  · intro l hl hbefore
    obtain ⟨rfl, hnone, hrest⟩ := eq_held hl
    refine ⟨none, ⟨fun slot => ?_, fun who s => ?_⟩, .of_suits (hsuits (hbefore (by simp)))⟩
    · simp [hslot, hnone]
    · rw [count_only, List.count_eq_zero.2 hrest]
      simp
  · intro j hj
    by_cases hstage : Stage.unborn = stage
    · simp only [only, if_pos hstage] at hj ⊢
      exact List.mem_cons_of_mem id hj
    · simp [only, hstage] at hj

/-- A task in hand is put into a queue. -/
theorem lodge {stage : Stage} {slot : QueueSlot} (hkept : c.Kept) (hnext : c.nextId = b.nextId)
    (hothers : ∀ j, j ≠ id → c.task j = b.task j) (hslot : (c.task id).slot = some slot)
    (hsuits : Stage.Suits (some stage) (b.task id) → Stage.Suits (some .waiting) (c.task id))
    (hstays : stage ≠ .unborn → (b.task id).Stays (c.task id)) :
    b.Passes c (only stage [id]) nothing := by
  refine of_one id hkept hnext hothers ?_ ?_ ?_ ?_
  · intro j hj s
    rw [count_only_of_ne hj, only_nil]
  · intro l hl hbefore
    obtain ⟨rfl, -, -⟩ := eq_held hl
    refine ⟨some (.queue slot), ⟨fun other => ?_, fun who s => ?_⟩, .of_suits (hsuits (hbefore (by simp)))⟩
    · simp [hslot]
    · simp [nothing]
  · intro hmem
    exact hstays fun hstage => hmem (by simp [only, hstage])
  · intro j hj
    cases hj

/-- A queued task is taken into hand. -/
theorem take {slot : QueueSlot} (hb : b.Kept) (hslot : (b.task id).slot = some slot) :
    b.Passes (b.unlink id slot) nothing (only .waiting [id]) := by
  have htask : (b.unlink id slot).task id = { b.task id with slot := none } := by rw [task_unlink, if_pos rfl]
  refine of_one id (hb.unlink hslot) (nextId_unlink b id slot) ?_ ?_ ?_ ?_ ?_
  · intro j hj
    rw [task_unlink, if_neg hj]
  · intro j hj s
    rw [count_only_of_ne hj, only_nil]
  · intro l hl hbefore
    obtain rfl := (hl.slot_eq_iff slot).1 hslot
    have hsuits := hbefore (by simp)
    refine ⟨some (.held () .waiting), ⟨fun other => ?_, fun who s => ?_⟩, .of_suits ?_⟩
    · simp [htask]
    · rw [count_only, List.count_singleton_self]
      simp [eq_comm]
    · rw [htask]
      exact hsuits
  · intro _
    rw [htask]
    exact .move _ none
  · intro j hj
    cases hj

/-- A cancelled task leaves its queue. -/
theorem withdraw {slot : QueueSlot} (hb : b.Kept) (hslot : (b.task id).slot = some slot)
    (hstate : (b.task id).state = .cancelled) : b.Passes (b.unlink id slot) nothing nothing := by
  have htask : (b.unlink id slot).task id = { b.task id with slot := none } := by rw [task_unlink, if_pos rfl]
  refine of_one id (hb.unlink hslot) (nextId_unlink b id slot) ?_ (fun _ _ _ => rfl) ?_ ?_ fun _ hj => hj
  · intro j hj
    rw [task_unlink, if_neg hj]
  · intro l hl hbefore
    obtain rfl := (hl.slot_eq_iff slot).1 hslot
    have hsuits := (hbefore (by simp)).of_cancelled hstate
    refine ⟨none, ⟨fun other => ?_, fun who s => ?_⟩, .of_suits ?_⟩
    · simp [htask]
    · simp [nothing]
    · rw [htask]
      exact hsuits
  · intro _
    rw [htask]
    exact .move _ none

/-- The tasks in scope of one queue are taken into hand. -/
theorem takeOut (hb : b.Kept) (scope : Scope) (slot : QueueSlot) (drained : List TaskId) :
    b.Passes (b.takeOut scope slot).2 (only .waiting drained)
      (only .waiting (drained ++ (b.takeOut scope slot).1)) where
  kept := hb.takeOut scope slot
  nextId_eq := nextId_takeOut b scope slot
  exists_finds id l hl hsuits := by
    have hcount (s : Stage) : (only .waiting (drained ++ (b.takeOut scope slot).1) s).count id =
        (only .waiting drained s).count id + if s = .waiting then (b.takeOut scope slot).1.count id else 0 := by
      rw [count_only, count_only, List.count_append]
      split <;> rfl
    by_cases htaken : id ∈ (b.takeOut scope slot).1
    -- it was in this queue, and there only once
    · have hslot := (hb.mem_takeOut_iff.1 htaken).1
      obtain rfl := (hl.slot_eq_iff _).1 hslot
      have hwaiting := hsuits (by simp)
      have htask : (b.takeOut scope slot).2.task id = { b.task id with slot := none } := by
        rw [task_takeOut, if_pos htaken]
      have honce : (b.takeOut scope slot).1.count id = 1 := by
        have hnodup : (b.takeOut scope slot).1.Nodup := by
          rw [takeOut_fst]
          exact (hb.nodup_queue _).sublist List.filter_sublist
        rw [hnodup.count, if_pos htaken]
      refine ⟨some (.held () .waiting), ⟨fun other => ?_, fun who s => ?_⟩, .of_suits ?_⟩
      · simp [htask]
      · rw [hcount, hl.count_held who s, honce]
        simp [eq_comm]
      · rw [htask]
        exact hwaiting
    · have htask : (b.takeOut scope slot).2.task id = b.task id := by rw [task_takeOut, if_neg htaken]
      refine ⟨l, ⟨fun other => ?_, fun who s => ?_⟩, ⟨fun hnone => ⟨hnone, .inl htask⟩, ?_⟩⟩
      · rw [htask]
        exact hl.slot_eq_iff other
      · rw [hcount, hl.count_held who s, List.count_eq_zero.2 htaken]
        simp
      · rw [htask]
        exact hsuits
  stays id _ := by
    rw [task_takeOut]
    split
    · exact .move _ none
    · exact .refl _
  unborn_subset id hid := by cases hid

/-! ### Several parties -/

section Parties

variable {α : Type} [DecidableEq α] {held held' : α → Holding} {a : α}

/-- A party finds what is in its reach. -/
private theorem finds_own {l : Option (Place α)} (hl : b.Finds held id l) {place : Option (Place Unit)}
    (hqueue : ∀ slot, place = some (.queue slot) ↔ l = some (.queue slot))
    (hheld : ∀ stage, place = some (.held () stage) ↔ l = some (.held a stage)) :
    b.Finds (fun _ : Unit => held a) id place where
  slot_eq_iff slot := by rw [hl.slot_eq_iff, hqueue]
  count_held _ stage := by
    rw [hl.count_held]
    simp only [hheld]

/-- What one party finds is found among all, if none of the others has it. -/
private theorem finds_all {place : Option (Place Unit)} (hplace : c.Finds (fun _ : Unit => held a) id place)
    (hothers : ∀ who, who ≠ a → ∀ stage, (held who stage).count id = 0) :
    c.Finds held id (place.map (Place.ofOwn a)) where
  slot_eq_iff slot := by
    rw [hplace.slot_eq_iff]
    simp [Place.ofOwn_eq_queue_iff]
  count_held who stage := by
    by_cases hwho : who = a
    · subst hwho
      rw [hplace.count_held () stage]
      simp [Place.ofOwn_eq_held_iff]
    · rw [hothers who hwho]
      simp [Place.ofOwn_eq_held_iff, hwho]

/-- A step of one party among several: whatever is with the others stays there. -/
theorem exists_finds_of (hpass : b.Passes c (held a) (held' a)) (hothers : ∀ who, who ≠ a → held' who = held who)
    {l : Option (Place α)} (hl : b.Finds held id l) (hsuits : Stage.Suits (l.map Place.stage) (b.task id)) :
    ∃ l', c.Finds held' id l' ∧ Stage.Suits (l'.map Place.stage) (c.task id) ∧ (l = none → l' = none) := by
  -- the party sees the queues and its own hands
  by_cases hreach : ∃ place : Place Unit, l = some (place.ofOwn a)
  · obtain ⟨place, rfl⟩ := hreach
    have hown : b.Finds (fun _ : Unit => held a) id (some place) :=
      finds_own hl (by simp [Place.ofOwn_eq_queue_iff]) (by simp [Place.ofOwn_eq_held_iff])
    obtain ⟨place', hplace', hfollows⟩ := hpass.exists_finds id _ hown (by
      simpa [Place.stage_ofOwn] using hsuits)
    refine ⟨place'.map (Place.ofOwn a), finds_all hplace' fun who hwho stage => ?_, ?_, nofun⟩
    · rw [hothers who hwho, hl.count_held, if_neg (by simp [Place.ofOwn_eq_held_iff, hwho])]
    · have hstage : (place'.map (Place.ofOwn a)).map Place.stage = place'.map Place.stage := by
        cases place' with
        | none => rfl
        | some place' => simp [Place.stage_ofOwn]
      rw [hstage]
      exact hfollows.of_some (by simp)
  · -- the task is with another party, or nowhere
    have hqueue (slot : QueueSlot) : l ≠ some (.queue slot) := fun h => hreach ⟨.queue slot, h⟩
    have hheld (stage : Stage) : l ≠ some (.held a stage) := fun h => hreach ⟨.held () stage, h⟩
    obtain ⟨place', hplace', hfollows⟩ := hpass.exists_finds id none
      (finds_own hl (by simp [hqueue]) (by simp [hheld])) (fun h => absurd rfl h)
    obtain ⟨rfl, htask⟩ := hfollows.of_none rfl
    refine ⟨l, ⟨fun slot => ?_, fun who stage => ?_⟩, ?_, fun h => h⟩
    · rw [hplace'.slot_eq_iff]
      simp [hqueue]
    · by_cases hwho : who = a
      · subst hwho
        rw [hplace'.count_held () stage]
        simp [hheld]
      · rw [hothers who hwho]
        exact hl.count_held who stage
    · rcases htask with hsame | hmarked
      · rw [hsame]
        exact hsuits
      · rw [hmarked]
        exact hsuits.cancel

/-- One party passes the only task in its hands on to another, which has none. -/
theorem exists_finds_transfer {a' : α} {stage : Stage} (hne : a ≠ a') (hfrom : held a = only stage [id])
    (hto : held a' = nothing) (hfrom' : held' a = nothing) (hto' : held' a' = only stage [id])
    (hothers : ∀ who, who ≠ a → who ≠ a' → held' who = held who) {j : TaskId} {l : Option (Place α)}
    (hl : b.Finds held j l) :
    ∃ l', b.Finds held' j l' ∧ l'.map Place.stage = l.map Place.stage ∧ (l = none → l' = none) := by
  by_cases hj : j = id
  · subst hj
    have hheld : l = some (.held a stage) := by
      have hcount := hl.count_held a stage
      rw [hfrom, count_only, if_pos rfl, List.count_singleton_self] at hcount
      split at hcount
      · assumption
      · cases hcount
    subst hheld
    -- from now on it is with `a'`
    refine ⟨some (.held a' stage), ⟨fun slot => ?_, fun who s => ?_⟩, rfl, nofun⟩
    · rw [hl.slot_eq_iff]
      simp
    · by_cases hwho : who = a'
      · subst hwho
        rw [hto', count_only, List.count_singleton_self]
        simp [eq_comm]
      · by_cases hwho' : who = a
        · subst hwho'
          rw [hfrom']
          simp [nothing, Ne.symm hwho]
        · rw [hothers who hwho' hwho, hl.count_held]
          simp [Ne.symm hwho, Ne.symm hwho']
  · have hcount (s : Stage) : (only stage [id] s).count j = 0 := by
      rw [count_only_of_ne hj, only_nil]
      rfl
    refine ⟨l, ⟨hl.slot_eq_iff, fun who s => ?_⟩, rfl, fun h => h⟩
    rw [← hl.count_held]
    by_cases hwho : who = a'
    · subst hwho
      rw [hto, hto', hcount]
      rfl
    · by_cases hwho' : who = a
      · subst hwho'
        rw [hfrom, hfrom', hcount]
        rfl
      · rw [hothers who hwho' hwho]

/-- A party takes a new task into its empty hands. -/
theorem finds_bear {stage : Stage} (hbefore : held a = nothing) (hafter : held' a = only stage [id])
    (hothers : ∀ who, who ≠ a → held' who = held who) (htask : ∀ j, c.task j = b.task j) :
    (b.Finds held id none → c.Finds held' id (some (.held a stage))) ∧
      ∀ j, j ≠ id → ∀ l, b.Finds held j l → c.Finds held' j l := by
  constructor
  · intro hl
    refine ⟨fun slot => ?_, fun who s => ?_⟩
    · rw [htask, hl.slot_eq_iff]
      simp
    · by_cases hwho : who = a
      · subst hwho
        rw [hafter, count_only, List.count_singleton_self]
        simp [eq_comm]
      · rw [hothers who hwho, hl.count_held]
        simp [Ne.symm hwho]
  · intro j hj l hl
    refine ⟨fun slot => ?_, fun who s => ?_⟩
    · rw [htask, hl.slot_eq_iff]
    · rw [← hl.count_held]
      by_cases hwho : who = a
      · subst hwho
        rw [hbefore, hafter, count_only_of_ne hj, only_nil]
      · rw [hothers who hwho]

end Parties

end Passes

end Backlog

end TaskScheduling
