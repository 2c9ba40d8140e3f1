import TaskScheduling.Proofs.Backlog.Fairness

/-!
# Cancellations decide once

Whoever cancels a task, and whoever else acts on it meanwhile: at most one cancellation reports that it has cancelled the
task, and what it reports is final.  Only a run that somebody had claimed before may still begin then, and only of a
recurring task.  A cancellation that reports that it has not cancelled the task has seen a reason for it.

Main statement: `Contest.Reachable.decides`.
-/

namespace TaskScheduling

open Actor Relation

namespace Contest

variable {α : Type} {c c' c'' : Contest α} {x : α} {a : Actor} {b : Backlog} {ds : List Deed} {id : TaskId}

/-- Whether somebody has cancelled the task, in a call that has answered or in one that has not answered yet. -/
def IsClaimed (c : Contest α) (id : TaskId) : Prop := id ∈ c.claims ∨ ∃ x, id ∈ (c.actors x).claims

/-- Whether somebody has claimed the task for a run that has not begun. -/
def IsHeld (c : Contest α) (id : TaskId) : Prop := ∃ x, c.actors x = .holding id

/-- What becomes of a task that has been cancelled. -/
structure Final (id : TaskId) (c c' : Contest α) : Prop where
  mem_entered : id ∈ c'.entered
  state_eq : (c'.backlog.task id).state = .cancelled
  /-- No run of it is claimed. -/
  count_begun : c'.deeds.count (.begun id) = c.deeds.count (.begun id)
  /-- No run of it begins, except for one that was claimed before. -/
  count_invoked : c'.deeds.count (.invoked id) = c.deeds.count (.invoked id) ∧ (c'.IsHeld id → c.IsHeld id) ∨
    c'.deeds.count (.invoked id) = c.deeds.count (.invoked id) + 1 ∧ c.IsHeld id ∧ ¬ c'.IsHeld id

namespace Final

theorem refl (hentered : id ∈ c.entered) (hstate : (c.backlog.task id).state = .cancelled) : Final id c c :=
  ⟨hentered, hstate, rfl, .inl ⟨rfl, fun hheld => hheld⟩⟩

theorem trans (h : Final id c c') (h' : Final id c' c'') : Final id c c'' := by
  refine ⟨h'.mem_entered, h'.state_eq, h'.count_begun.trans h.count_begun, ?_⟩
  rcases h.count_invoked with ⟨hcount, hheld⟩ | ⟨hcount, hheld, hfree⟩ <;>
    rcases h'.count_invoked with ⟨hcount', hheld'⟩ | ⟨hcount', hheld', hfree'⟩
  · exact .inl ⟨hcount'.trans hcount, fun hlate => hheld (hheld' hlate)⟩
  · exact .inr ⟨by rw [hcount', hcount], hheld hheld', hfree'⟩
  · exact .inr ⟨hcount'.trans hcount, hheld, fun hlate => hfree (hheld' hlate)⟩
  · exact absurd hheld' hfree

/-- A step that leaves a cancelled task alone. -/
private theorem of_same (hentered : id ∈ c'.entered) (hstate : (c'.backlog.task id).state = .cancelled)
    (hbegun : c'.deeds.count (.begun id) = c.deeds.count (.begun id))
    (hinvoked : c'.deeds.count (.invoked id) = c.deeds.count (.invoked id)) (hheld : c'.IsHeld id → c.IsHeld id) :
    Final id c c' := ⟨hentered, hstate, hbegun, .inl ⟨hinvoked, hheld⟩⟩

end Final

variable [DecidableEq α]

/-- A step during which the actor remains in a cancellation of the task. -/
def StepDuring (x : α) (id : TaskId) (c c' : Contest α) : Prop :=
  c.Step c' ∧ ∃ k, c'.actors x = .cancelling id k

/-- What a cancellation decides. -/
structure Decides (c : Contest α) (id : TaskId) : Prop where
  /-- At most one cancellation reports that it has cancelled the task. -/
  count_claims_le : c.claims.count id ≤ 1
  /-- Nor does another one find that it has cancelled the task. -/
  claims_eq (x y : α) : id ∈ (c.actors x).claims → id ∉ c.claims ∧ (id ∈ (c.actors y).claims → x = y)
  /-- Once one has, the task is cancelled for ever; only a run that was claimed before may begin. -/
  final (c' : Contest α) : c.IsClaimed id → ReflTransGen Step c c' →
    (c'.backlog.task id).state = .cancelled ∧ c'.deeds.count (.begun id) = c.deeds.count (.begun id) ∧
      (c'.deeds.count (.invoked id) = c.deeds.count (.invoked id) ∨
        c'.deeds.count (.invoked id) = c.deeds.count (.invoked id) + 1 ∧ c.IsHeld id ∧
          (c.backlog.task id).isRecurring = true)
  /-- A task that runs once is not cancelled any more when its action has been started. -/
  not_isClaimed (c' : Contest α) : (c.backlog.task id).isRecurring = false → .invoked id ∈ c.deeds →
    ReflTransGen Step c c' → ¬ c'.IsClaimed id
  /-- A cancellation that reports the contrary has found the task settled, or claimed for its only run. -/
  exists_refusal (x : α) (c' : Contest α) : c.actors x = .cancelling id .looking →
    ReflTransGen (StepDuring x id) c c' → c'.actors x = .cancelling id (.ended false) →
      ∃ u, ReflTransGen (StepDuring x id) c u ∧ ReflTransGen (StepDuring x id) u c' ∧
        ((u.backlog.task id).state = .done ∨ (u.backlog.task id).state = .cancelled ∨
          (u.backlog.task id).state = .executing ∧ (u.backlog.task id).isRecurring = false)

/-! ### Who has cancelled a task -/

private theorem ClaimedBy.eq_some_none {who : Option (Option α)} (h : c.ClaimedBy id who) (hmem : id ∈ c.claims) :
    who = some none := by
  have hcount := h.count_claims
  have hpos := List.count_pos_iff.2 hmem
  split at hcount
  · assumption
  · omega

private theorem ClaimedBy.eq_some_some {who : Option (Option α)} (h : c.ClaimedBy id who)
    (hmem : id ∈ (c.actors x).claims) : who = some (some x) := by
  have hcount := h.count_actor x
  have hpos := List.count_pos_iff.2 hmem
  split at hcount
  · assumption
  · omega

theorem Fair.of_isClaimed (h : c.Fair id) (hclaimed : c.IsClaimed id) :
    id ∈ c.entered ∧ (c.backlog.task id).state = .cancelled := by
  obtain ⟨who, hwho⟩ := h.exists_claimed
  refine hwho.cancelled fun hnone => ?_
  rcases hclaimed with hmem | ⟨x, hmem⟩
  · cases hnone.symm.trans (hwho.eq_some_none hmem)
  · cases hnone.symm.trans (hwho.eq_some_some hmem)

/-! ### What becomes of a cancelled task -/

/-- What an actor does to a cancelled task. -/
private theorem Fair.final_act (h : c.Fair id) (hentered : id ∈ c.entered)
    (hstate : (c.backlog.task id).state = .cancelled) (haffects : (c.actors x).Affects c.backlog id a b ds) :
    Final id c (c.act x a b ds) := by
  have hdeeds : (c.act x a b ds).deeds = ds ++ c.deeds := rfl
  cases haffects with
  | spares hstatus _ hholding _ hbegun hinvoked =>
    refine .of_same hentered ((Task.status_eq_iff.1 hstatus).2.1.trans hstate) ?_ ?_ ?_
    · rw [hdeeds, List.count_append, List.count_eq_zero.2 hbegun, Nat.zero_add]
    · rw [hdeeds, List.count_append, List.count_eq_zero.2 hinvoked, Nat.zero_add]
    · rintro ⟨y, hy⟩
      rw [actors_act] at hy
      split at hy
      · exact ⟨x, hholding hy⟩
      · exact ⟨y, hy⟩
  | cancels hwas =>
    rw [hstate] at hwas
    rcases hwas with hwrong | ⟨hwrong, -⟩ <;> cases hwrong
  | begins hpending => cases hstate.symm.trans hpending
  | invokes hstatus hfrom hto hds =>
    -- this is the only run that was claimed
    refine ⟨hentered, (Task.status_eq_iff.1 hstatus).2.1.trans hstate, ?_, .inr ⟨?_, ⟨x, hfrom⟩, ?_⟩⟩
    · rw [hdeeds, hds, List.singleton_append, List.count_cons_of_ne (by simp)]
    · rw [hdeeds, hds, List.singleton_append, List.count_cons_self]
    · rintro ⟨y, hy⟩
      rw [actors_act] at hy
      split at hy
      · cases hto.symm.trans hy
      · next hne => exact hne (h.active_eq y x (by rw [hy]; rfl) (by rw [hfrom]; rfl))
  | returns hexecuting => cases hstate.symm.trans hexecuting
  | finishes hexecuting => cases hstate.symm.trans hexecuting

/-- A cancelled task remains cancelled. -/
theorem IsFair.final_step (h : c.IsFair) (hstep : c.Step c') (hentered : id ∈ c.entered)
    (hstate : (c.backlog.task id).state = .cancelled) : Final id c c' := by
  cases hstep with
  | act x a b ds hacts => exact (h.fair id).final_act hentered hstate (hacts.affects (h.knows x) id)
  | pass x y j hx hy =>
    refine .of_same hentered hstate rfl rfl ?_
    rintro ⟨z, hz⟩
    rw [actors_pass] at hz
    split at hz
    · exact ⟨x, hx.trans hz⟩
    · split at hz
      · cases hz
      · exact ⟨z, hz⟩
  | number => exact .of_same hentered hstate rfl rfl fun hheld => hheld
  | enter t b hnew _ _ hadd =>
    have hid : id ≠ t.id := by
      rintro rfl
      exact hnew hentered
    have hstatus := Backlog.status_add hadd id
    rw [Backlog.task_enter, if_neg hid] at hstatus
    exact .of_same (List.mem_cons_of_mem _ hentered) ((Task.status_eq_iff.1 hstatus).2.1.trans hstate) rfl rfl
      fun hheld => hheld

theorem Reachable.final_run (h : c.Reachable) (hentered : id ∈ c.entered)
    (hstate : (c.backlog.task id).state = .cancelled) (hrun : ReflTransGen Step c c') : Final id c c' := by
  induction hrun with
  | refl => exact .refl hentered hstate
  | tail hrun hstep ih => exact ih.trans ((h.run hrun).isFair.final_step hstep ih.mem_entered ih.state_eq)

/-! ### What is written down stays -/

theorem Step.count_le (hstep : c.Step c') (d : Deed) : c.deeds.count d ≤ c'.deeds.count d := by
  cases hstep with
  | act x a b ds _ =>
    rw [show (c.act x a b ds).deeds = ds ++ c.deeds from rfl, List.count_append]
    exact Nat.le_add_left _ _
  | _ => exact Nat.le_refl _

theorem count_le_of_run (hrun : ReflTransGen Step c c') (d : Deed) : c.deeds.count d ≤ c'.deeds.count d := by
  induction hrun with
  | refl => exact Nat.le_refl _
  | tail _ hstep ih => exact Nat.le_trans ih (hstep.count_le d)

theorem Reachable.isRecurring_eq_of_run (h : c.Reachable) (hrun : ReflTransGen Step c c') (hentered : id ∈ c.entered) :
    id ∈ c'.entered ∧ (c'.backlog.task id).isRecurring = (c.backlog.task id).isRecurring := by
  induction hrun with
  | refl => exact ⟨hentered, rfl⟩
  | tail hrun hstep ih =>
    obtain ⟨hthen, hsame⟩ := (h.run hrun).isFair.isRecurring_eq_of_step hstep ih.1
    exact ⟨hthen, hsame.trans ih.2⟩

/-! ### Cancellations that refuse -/

/-- A cancellation refuses only when it looks at the task. -/
private theorem of_step_eq_refused {c : Cancellation} (h : (c.step b id).2 = .ended false)
    (hc : ∀ claimed, c ≠ .ended claimed) :
    (b.task id).state = .done ∨ (b.task id).state = .cancelled ∨
      (b.task id).state = .executing ∧ (b.task id).isRecurring = false := by
  cases c with
  | looking =>
    simp only [Cancellation.step, Cancellation.look] at h
    split at h
    · cases h
    · next hexecuting =>
      split at h
      · cases h
      · next hr => exact .inr (.inr ⟨hexecuting, Bool.eq_false_iff.2 hr⟩)
    · exact .inl ‹_›
    · exact .inr (.inl ‹_›)
  | claiming seen =>
    simp only [Cancellation.step] at h
    split at h
    · dsimp only at h
      split at h <;> cases h
    · cases h
  | unlinking => cases h
  | ended claimed => exact absurd rfl (hc claimed)

/-- An actor that is in a cancellation after a step was in it before, or has just called for it. -/
private theorem Step.refused_cases {k : Cancellation} (hstep : c.Step c') (hbefore : c.actors x = .cancelling id k)
    (hafter : c'.actors x = .cancelling id (.ended false)) :
    c.actors x = .cancelling id (.ended false) ∨ (c.backlog.task id).state = .done ∨
      (c.backlog.task id).state = .cancelled ∨
        (c.backlog.task id).state = .executing ∧ (c.backlog.task id).isRecurring = false := by
  cases hstep with
  | act y a b ds hacts =>
    rw [actors_act] at hafter
    split at hafter
    · next heq =>
      subst heq
      subst hafter
      rw [hbefore] at hacts
      generalize hnext : cancelling id (.ended false) = next at hacts
      cases hacts with
      | cancel _ _ hk => exact .inr (of_step_eq_refused (Actor.cancelling.inj hnext).2.symm hk)
      | answer _ _ => cases hnext
    · exact .inl hafter
  | pass y z j hy hz =>
    rw [actors_pass] at hafter
    split at hafter
    · cases hafter
    · split at hafter
      · cases hafter
      · exact .inl hafter
  | _ => exact .inl hafter

theorem exists_refusal (hbefore : c.actors x = .cancelling id .looking)
    (hrun : ReflTransGen (StepDuring x id) c c') (hafter : c'.actors x = .cancelling id (.ended false)) :
    ∃ u, ReflTransGen (StepDuring x id) c u ∧ ReflTransGen (StepDuring x id) u c' ∧
      ((u.backlog.task id).state = .done ∨ (u.backlog.task id).state = .cancelled ∨
        (u.backlog.task id).state = .executing ∧ (u.backlog.task id).isRecurring = false) := by
  induction hrun with
  | refl => cases hbefore.symm.trans hafter
  | @tail c₁ c₂ hrun hstep ih =>
    obtain ⟨k, hk⟩ : ∃ k, c₁.actors x = .cancelling id k := by
      rcases hrun.cases_tail with rfl | ⟨c₀, -, hlast⟩
      · exact ⟨.looking, hbefore⟩
      · exact hlast.2
    rcases hstep.1.refused_cases hk hafter with hthen | hreason
    · obtain ⟨u, hu, hu', hreason⟩ := ih hthen
      exact ⟨u, hu, hu'.tail hstep, hreason⟩
    · exact ⟨c₁, hrun, .single hstep, hreason⟩

/-- A cancellation is decided once, and the decision is final. -/
theorem Reachable.decides (h : c.Reachable) (id : TaskId) : c.Decides id where
  count_claims_le := by
    obtain ⟨who, hwho⟩ := (h.fair id).exists_claimed
    rw [hwho.count_claims]
    split <;> omega
  claims_eq x y hx := by
    obtain ⟨who, hwho⟩ := (h.fair id).exists_claimed
    obtain rfl := hwho.eq_some_some hx
    refine ⟨fun hmem => ?_, fun hy => ?_⟩
    · cases hwho.eq_some_none hmem
    · exact Option.some.inj (Option.some.inj (hwho.eq_some_some hy))
  final c' hclaimed hrun := by
    obtain ⟨hentered, hstate⟩ := (h.fair id).of_isClaimed hclaimed
    have hfinal := h.final_run hentered hstate hrun
    refine ⟨hfinal.state_eq, hfinal.count_begun, hfinal.count_invoked.imp And.left fun hlast => ?_⟩
    obtain ⟨x, hx⟩ := hlast.2.1
    refine ⟨hlast.1, ⟨x, hx⟩, ?_⟩
    -- a task that is to run once is not cancelled while it is claimed for its run
    rcases (h.fair id).state_of_active x (by rw [hx]; rfl) with hexecuting | ⟨-, hr⟩
    · cases hstate.symm.trans hexecuting
    · exact hr
  not_isClaimed c' hr hinvoked hrun hclaimed := by
    have hpos := List.count_pos_iff.2 hinvoked
    have hruns := (h.fair id).runs_eq
    have hentered : id ∈ c.entered := by
      by_contra hnot
      have hzero := (Task.status_eq_iff.1 ((h.fair id).status_eq hnot)).2.2
      omega
    have hfair := (h.run hrun).fair id
    have hr' := (h.isRecurring_eq_of_run hrun hentered).2.trans hr
    have hzero := hfair.runs_eq_zero hr' (.inr (hfair.of_isClaimed hclaimed).2)
    have hgrown := count_le_of_run hrun (.invoked id)
    have hruns' := hfair.runs_eq
    omega
  exists_refusal x c' hbefore hrun hafter := exists_refusal hbefore hrun hafter

/-! ### Two cancellations of a task that has been claimed for a run -/

private def take (c : Contest α) (x : α) (id : TaskId) : Contest α :=
  c.act x (.claiming id) (c.backlog.remove id).1 []

private def begin (c : Contest α) (x : α) (id : TaskId) : Contest α :=
  c.act x (.holding id) (c.backlog.begin id).1 [.begun id]

private def invoke (c : Contest α) (x : α) (id : TaskId) : Contest α :=
  c.act x (.running id) (c.backlog.modify id Task.countRun) [.invoked id]

private def call (c : Contest α) (x : α) (id : TaskId) : Contest α := c.act x (.cancelling id .looking) c.backlog []

private def goOn (c : Contest α) (x : α) (id : TaskId) (k : Cancellation) : Contest α :=
  c.act x (.cancelling id (k.step c.backlog id).2) (k.step c.backlog id).1 []

section Steps

variable (c : Contest α) (x : α) (id : TaskId)

private theorem step_take (hx : c.actors x = .idle) (hfound : (c.backlog.remove id).2 = true) :
    c.Step (c.take x id) := .act x _ _ _ (hx ▸ .take id _ (Prod.ext rfl hfound))

private theorem step_begin (hx : c.actors x = .claiming id) (hbegun : (c.backlog.begin id).2 = true) :
    c.Step (c.begin x id) := .act x _ _ _ (hx ▸ .begin id _ (Prod.ext rfl hbegun))

private theorem step_invoke (hx : c.actors x = .holding id) : c.Step (c.invoke x id) :=
  .act x _ _ _ (hx ▸ .invoke id)

private theorem step_call (hx : c.actors x = .idle) : c.Step (c.call x id) := .act x _ _ _ (hx ▸ .call id)

private theorem step_goOn (k : Cancellation) (hx : c.actors x = .cancelling id k)
    (hk : ∀ claimed, k ≠ .ended claimed) : c.Step (c.goOn x id k) := .act x _ _ _ (hx ▸ .cancel id k hk)

end Steps

/-- Two tasks have been queued, a recurring one and one that is to run once. -/
private def queued : Contest Nat :=
  let b := (Backlog.empty.enter (.build ⟨0⟩ .high (.recurring (.ofMillis 10) .fixedRate) .zero 0 none)).place ⟨0⟩
  { start with
    backlog := (b.enter (.build ⟨1⟩ .high .oneTime .zero 0 none)).place ⟨1⟩
    entered := [⟨1⟩, ⟨0⟩] }

private theorem reachable_queued : queued.Reachable :=
  (Reachable.start.step (.enter (.build ⟨0⟩ .high (.recurring (.ofMillis 10) .fixedRate) .zero 0 none) _ nofun rfl rfl
    (Backlog.add_eq_ok rfl))).step
      (.enter (.build ⟨1⟩ .high .oneTime .zero 0 none) _ (by decide) rfl rfl (Backlog.add_eq_ok rfl))

/-- Both have been claimed for a run, and that of the second one has begun. -/
private def held : Contest Nat := ((((queued.take 0 ⟨0⟩).begin 0 ⟨0⟩).take 1 ⟨1⟩).begin 1 ⟨1⟩).invoke 1 ⟨1⟩

private theorem reachable_held : held.Reachable := by
  have htaken := reachable_queued.step (step_take _ 0 ⟨0⟩ rfl (by decide +kernel))
  have hbegun := htaken.step (step_begin _ 0 ⟨0⟩ rfl (by decide +kernel))
  have htaken' := hbegun.step (step_take _ 1 ⟨1⟩ rfl (by decide +kernel))
  have hbegun' := htaken'.step (step_begin _ 1 ⟨1⟩ rfl (by decide +kernel))
  exact hbegun'.step (step_invoke _ 1 ⟨1⟩ rfl)

/-- Somebody has cancelled the first one, and somebody else is about to look at it. -/
private def cancelled : Contest Nat :=
  (((held.call 2 ⟨0⟩).goOn 2 ⟨0⟩ .looking).goOn 2 ⟨0⟩ (.claiming .executing)).call 3 ⟨0⟩

private theorem reachable_cancelled : cancelled.Reachable := by
  have hlooking := reachable_held.step (step_call _ 2 ⟨0⟩ rfl)
  have hclaiming := hlooking.step (step_goOn _ 2 ⟨0⟩ .looking rfl nofun)
  have hended := hclaiming.step (step_goOn _ 2 ⟨0⟩ (.claiming .executing) (by decide +kernel) nofun)
  exact hended.step (step_call _ 3 ⟨0⟩ rfl)

/-- The second cancellation has been refused. -/
private def refused : Contest Nat := cancelled.goOn 3 ⟨0⟩ .looking

/-- The run that was claimed before begins all the same. -/
private def invoked : Contest Nat := refused.invoke 0 ⟨0⟩

/-- One cancellation has claimed the task and the other one has not, whereupon the run begins; a task that runs once is
not cancelled any more when it has begun. -/
theorem decides_cancelledWhileHeld : cancelled.Reachable ∧ cancelled.IsClaimed ⟨0⟩ ∧ cancelled.IsHeld ⟨0⟩ ∧
    ReflTransGen Step cancelled invoked ∧ (invoked.backlog.task ⟨0⟩).state = .cancelled ∧
    invoked.deeds.count (.begun ⟨0⟩) = 1 ∧ invoked.deeds.count (.invoked ⟨0⟩) = 1 ∧ ¬ invoked.IsClaimed ⟨1⟩ ∧
    refused.actors 3 = .cancelling ⟨0⟩ (.ended false) ∧
    ∃ u, ReflTransGen (StepDuring 3 ⟨0⟩) cancelled u ∧ ReflTransGen (StepDuring 3 ⟨0⟩) u refused ∧
      (u.backlog.task ⟨0⟩).state ≠ .pending := by
  have hclaimed : cancelled.IsClaimed ⟨0⟩ := .inr ⟨2, by decide +kernel⟩
  have hheld : cancelled.IsHeld ⟨0⟩ := ⟨0, by decide +kernel⟩
  have hrefusal : cancelled.Step refused := step_goOn _ 3 ⟨0⟩ .looking rfl nofun
  have hrun : ReflTransGen Step cancelled invoked :=
    .tail (.single hrefusal) (step_invoke _ 0 ⟨0⟩ (by decide +kernel))
  have hended : refused.actors 3 = .cancelling ⟨0⟩ (.ended false) := by decide +kernel
  obtain ⟨hstate, hbegun, hinvoked⟩ := (reachable_cancelled.decides ⟨0⟩).final invoked hclaimed hrun
  obtain ⟨u, hu, hu', hreason⟩ := (reachable_cancelled.decides ⟨0⟩).exists_refusal 3 refused rfl
    (.single ⟨hrefusal, _, hended⟩) hended
  refine ⟨reachable_cancelled, hclaimed, hheld, hrun, hstate, hbegun.trans (by decide +kernel), by decide +kernel,
    (reachable_cancelled.decides ⟨1⟩).not_isClaimed invoked (by decide +kernel) (by decide +kernel) hrun, hended, u, hu,
    hu', fun hpending => ?_⟩
  rw [hpending] at hreason
  rcases hreason with hwrong | hwrong | ⟨hwrong, -⟩ <;> cases hwrong

end Contest

end TaskScheduling
