import TaskScheduling.Proofs.Backlog.Contest

/-!
# Contests are fair

In every contest at most one actor at a time has claimed a task for a run, at most one has ever cancelled it, and a task
that is to run once has not been run when it is pending or cancelled (`Contest.Fair`).

Main statement: `Contest.Reachable.fair`.
-/

namespace TaskScheduling

open Actor

namespace Contest

variable {α : Type} [DecidableEq α]

/-- Whether somebody has cancelled the task, and who: an actor that has not answered yet, or one that has. -/
structure ClaimedBy (c : Contest α) (id : TaskId) (who : Option (Option α)) : Prop where
  count_claims : c.claims.count id = if who = some none then 1 else 0
  count_actor (x : α) : (c.actors x).claims.count id = if who = some (some x) then 1 else 0
  cancelled : who ≠ none → id ∈ c.entered ∧ (c.backlog.task id).state = .cancelled

structure Fair (c : Contest α) (id : TaskId) : Prop where
  /-- At most one actor has claimed the task for a run. -/
  active_eq (x y : α) : (c.actors x).active? = some id → (c.actors y).active? = some id → x = y
  state_of_active (x : α) : (c.actors x).active? = some id →
    (c.backlog.task id).state = .executing ∨
      (c.backlog.task id).state = .cancelled ∧ (c.backlog.task id).isRecurring = true
  runs_of_holding (x : α) : c.actors x = .holding id → (c.backlog.task id).isRecurring = false →
    (c.backlog.task id).runs = 0
  runs_eq_zero : (c.backlog.task id).isRecurring = false →
    ((c.backlog.task id).state = .pending ∨ (c.backlog.task id).state = .cancelled) → (c.backlog.task id).runs = 0
  status_eq : id ∉ c.entered → (c.backlog.task id).status = (false, .cancelled, 0)
  exists_claimed : ∃ who, c.ClaimedBy id who
  runs_eq : (c.backlog.task id).runs = c.deeds.count (.invoked id)

variable {c c' : Contest α} {x : α} {a : Actor} {b : Backlog} {ds : List Deed} {id : TaskId}

theorem actors_act (c : Contest α) (x : α) (a : Actor) (b : Backlog) (ds : List Deed) (y : α) :
    (c.act x a b ds).actors y = if y = x then a else c.actors y := Function.update_apply ..

theorem actors_pass (c : Contest α) (x y : α) (id : TaskId) (z : α) :
    (c.pass x y id).actors z = if z = y then .holding id else if z = x then .idle else c.actors z := by
  simp only [pass, Function.update_apply]

theorem claims_act (c : Contest α) (x : α) (a : Actor) (b : Backlog) (ds : List Deed) :
    (c.act x a b ds).claims = ds.flatMap Deed.claims ++ c.claims := List.flatMap_append

/-! ### Who has cancelled a task -/

namespace ClaimedBy

variable {who : Option (Option α)}

/-- An actor that answers passes on what it has claimed. -/
private theorem act (h : c.ClaimedBy id who)
    (hcount : a.claims.count id + (ds.flatMap Deed.claims).count id = (c.actors x).claims.count id)
    (hstate : (c.backlog.task id).state = .cancelled → (b.task id).state = .cancelled) :
    ∃ who', (c.act x a b ds).ClaimedBy id who' := by
  have hdeeds := h.count_claims
  have hactor := h.count_actor x
  by_cases hanswers : (ds.flatMap Deed.claims).count id = 0
  · refine ⟨who, ?_, fun y => ?_, fun hwho => ⟨(h.cancelled hwho).1, hstate (h.cancelled hwho).2⟩⟩
    · rw [claims_act, List.count_append, hanswers, Nat.zero_add, hdeeds]
    · rw [actors_act]
      split
      · next hy =>
        subst hy
        omega
      · exact h.count_actor y
  · have hwho : who = some (some x) := by
      by_contra hwho
      rw [if_neg hwho] at hactor
      omega
    subst hwho
    simp only [Option.some.injEq, reduceCtorEq, ↓reduceIte] at hdeeds hactor
    obtain ⟨hentered, hcancelled⟩ := h.cancelled nofun
    refine ⟨some none, ?_, fun y => ?_, fun _ => ⟨hentered, hstate hcancelled⟩⟩
    · rw [claims_act, List.count_append, if_pos rfl]
      omega
    · have hcount' := h.count_actor y
      simp only [Option.some.injEq, reduceCtorEq, ↓reduceIte] at hcount' ⊢
      rw [actors_act]
      split
      · omega
      · next hy => rw [hcount', if_neg (Ne.symm hy)]

/-- Only a task that nobody has cancelled is claimed. -/
private theorem claim (h : c.ClaimedBy id who) (hstate : (c.backlog.task id).state ≠ .cancelled)
    (hcount : a.claims.count id + (ds.flatMap Deed.claims).count id = (c.actors x).claims.count id + 1)
    (hentered : id ∈ c.entered) (hcancelled : (b.task id).state = .cancelled) :
    ∃ who', (c.act x a b ds).ClaimedBy id who' := by
  have hwho : who = none := by
    by_contra hwho
    exact hstate (h.cancelled hwho).2
  subst hwho
  have hdeeds : c.claims.count id = 0 := h.count_claims
  have hactor (y : α) : (c.actors y).claims.count id = 0 := h.count_actor y
  have hx := hactor x
  by_cases hanswers : (ds.flatMap Deed.claims).count id = 0
  · refine ⟨some (some x), ?_, fun y => ?_, fun _ => ⟨hentered, hcancelled⟩⟩
    · simp only [Option.some.injEq, reduceCtorEq, ↓reduceIte]
      rw [claims_act, List.count_append]
      omega
    · simp only [Option.some.injEq]
      rw [actors_act]
      split
      · next hy =>
        rw [if_pos hy.symm]
        omega
      · next hy => rw [hactor y, if_neg (Ne.symm hy)]
  · refine ⟨some none, ?_, fun y => ?_, fun _ => ⟨hentered, hcancelled⟩⟩
    · rw [claims_act, List.count_append, if_pos rfl]
      omega
    · simp only [Option.some.injEq, reduceCtorEq, ↓reduceIte]
      rw [actors_act]
      split
      · omega
      · exact hactor y

end ClaimedBy

/-! ### The steps of the actors -/

namespace Fair

/-- An active task has been entered. -/
theorem mem_entered (h : c.Fair id) (hstate : (c.backlog.task id).state ≠ .cancelled) : id ∈ c.entered := by
  by_contra hnot
  exact hstate (Task.status_eq_iff.1 (h.status_eq hnot)).2.1

/-- Nobody has claimed a task that is pending. -/
theorem active_ne_of_pending (h : c.Fair id) (hstate : (c.backlog.task id).state = .pending) (y : α) :
    (c.actors y).active? ≠ some id := by
  intro hy
  rcases h.state_of_active y hy with hexecuting | ⟨hcancelled, -⟩
  · cases hstate.symm.trans hexecuting
  · cases hstate.symm.trans hcancelled

/-- A step in which nobody claims the task for a run. -/
private theorem of_act (h : c.Fair id) (hactive : a.active? = some id → (c.actors x).active? = some id)
    (hholding : a = .holding id → c.actors x = .holding id)
    (hstate : ∀ y, (c.actors y).active? = some id → ((c.act x a b ds).actors y).active? = some id →
      (b.task id).state = .executing ∨ (b.task id).state = .cancelled ∧ (b.task id).isRecurring = true)
    (hruns : (b.task id).isRecurring = false →
      ((b.task id).state = .pending ∨ (b.task id).state = .cancelled) → (b.task id).runs = 0)
    (hrecurring : (b.task id).isRecurring = (c.backlog.task id).isRecurring)
    (hheld : ∀ y, c.actors y = .holding id → (c.act x a b ds).actors y = .holding id →
      (b.task id).runs = (c.backlog.task id).runs)
    (habsent : id ∉ c.entered → (b.task id).status = (false, .cancelled, 0))
    (hclaimed : ∃ who, (c.act x a b ds).ClaimedBy id who)
    (hcount : (b.task id).runs = (c.backlog.task id).runs + ds.count (.invoked id)) : (c.act x a b ds).Fair id := by
  have hactive' {y : α} (hy : ((c.act x a b ds).actors y).active? = some id) : (c.actors y).active? = some id := by
    rw [actors_act] at hy
    split at hy
    · next heq =>
      rw [heq]
      exact hactive hy
    · exact hy
  have hholding' {y : α} (hy : (c.act x a b ds).actors y = .holding id) : c.actors y = .holding id := by
    rw [actors_act] at hy
    split at hy
    · next heq =>
      rw [heq]
      exact hholding hy
    · exact hy
  refine ⟨fun y z hy hz => h.active_eq y z (hactive' hy) (hactive' hz), fun y hy => hstate y (hactive' hy) hy,
    fun y hy hr => ?_, hruns, habsent, hclaimed, ?_⟩
  · have hwas := hholding' hy
    exact (hheld y hwas hy).trans (h.runs_of_holding y hwas (hrecurring ▸ hr))
  · have hdeeds : (c.act x a b ds).deeds = ds ++ c.deeds := rfl
    have hbacklog : (c.act x a b ds).backlog = b := rfl
    rw [hbacklog, hdeeds, List.count_append, hcount, h.runs_eq, Nat.add_comm]

/-- An actor lets go of the task that it had claimed for a run. -/
private theorem release {state : TaskState} (h : c.Fair id) (hexecuting : (c.backlog.task id).state = .executing)
    (hstatus : (b.task id).status = ((c.backlog.task id).isRecurring, state, (c.backlog.task id).runs))
    (hfrom : (c.actors x).active? = some id) (hto : a.active? = none)
    (hruns : (c.backlog.task id).isRecurring = false → state = .pending ∨ state = .cancelled →
      (c.backlog.task id).runs = 0)
    (hbefore : (c.actors x).claims = []) (hafter : a.claims = []) : (c.act x a b []).Fair id := by
  obtain ⟨who, hwho⟩ := h.exists_claimed
  obtain ⟨hrecurring, hstate, hsame⟩ := Task.status_eq_iff.1 hstatus
  refine h.of_act (fun hactive => ?_) (fun hholding => ?_) (fun y hy hy' => ?_) (fun hr hsettled => ?_) hrecurring
    (fun _ _ _ => hsame) (fun hnot => ?_) (hwho.act ?_ fun hcancelled => ?_) hsame
  · rwa [hto] at hactive
  · rw [hholding] at hto
    cases hto
  -- nobody else had claimed it
  · obtain rfl := h.active_eq y x hy hfrom
    rw [actors_act, if_pos rfl, hto] at hy'
    cases hy'
  · rw [hrecurring] at hr
    rw [hstate] at hsettled
    exact hsame.trans (hruns hr hsettled)
  · exact absurd (h.mem_entered (by rw [hexecuting]; decide)) hnot
  · rw [hbefore, hafter]
    rfl
  · cases hexecuting.symm.trans hcancelled

theorem act (h : c.Fair id) (haffects : (c.actors x).Affects c.backlog id a b ds) : (c.act x a b ds).Fair id := by
  obtain ⟨who, hwho⟩ := h.exists_claimed
  cases haffects with
  | spares hstatus hactive hholding hclaims _ hinvoked =>
    obtain ⟨hrecurring, hstate, hruns⟩ := Task.status_eq_iff.1 hstatus
    refine h.of_act hactive hholding (fun y hy _ => ?_) ?_ hrecurring (fun _ _ _ => hruns) ?_ ?_ ?_
    · rw [hstate, hrecurring]
      exact h.state_of_active y hy
    · rw [hstate, hrecurring, hruns]
      exact h.runs_eq_zero
    · rw [hstatus]
      exact h.status_eq
    · exact hwho.act hclaims fun hcancelled => hstate.trans hcancelled
    · rw [hruns, List.count_eq_zero.2 hinvoked, Nat.add_zero]
  | cancels hwas hstatus hactive hholding hclaims _ hinvoked =>
    obtain ⟨hrecurring, hstate, hruns⟩ := Task.status_eq_iff.1 hstatus
    have hne : (c.backlog.task id).state ≠ .cancelled := by
      rcases hwas with hpending | ⟨hexecuting, -⟩ <;> simp [*]
    refine h.of_act hactive hholding (fun y hy _ => ?_) (fun hr _ => ?_) hrecurring (fun _ _ _ => hruns)
      (fun hnot => absurd (h.mem_entered hne) hnot) (hwho.claim hne hclaims (h.mem_entered hne) hstate) ?_
    · refine .inr ⟨hstate, hrecurring.trans ?_⟩
      exact hwas.elim (fun hpending => absurd hy (h.active_ne_of_pending hpending y)) And.right
    · rw [hrecurring] at hr
      rw [hruns]
      refine h.runs_eq_zero hr (hwas.imp_right fun hexecuting => ?_)
      rw [hr] at hexecuting
      cases hexecuting.2
    · rw [hruns, List.count_eq_zero.2 hinvoked, Nat.add_zero]
  | begins hpending hstatus hfrom hto hds =>
    obtain ⟨hrecurring, hstate, hruns⟩ := Task.status_eq_iff.1 hstatus
    -- nobody had claimed it, so that it is the one who does
    have hself {y : α} (hy : ((c.act x a b ds).actors y).active? = some id) : y = x := by
      by_contra hne
      rw [actors_act, if_neg hne] at hy
      exact h.active_ne_of_pending hpending y hy
    have hclaims : a.claims.count id + (ds.flatMap Deed.claims).count id = (c.actors x).claims.count id := by
      rw [hfrom, hto, hds]
      rfl
    refine ⟨fun y z hy hz => (hself hy).trans (hself hz).symm, fun _ _ => .inl hstate, fun _ _ hr => ?_,
      fun _ hsettled => ?_, fun hnot => ?_, hwho.act hclaims fun hcancelled => ?_, ?_⟩
    · exact hruns.trans (h.runs_eq_zero (hrecurring ▸ hr) (.inl hpending))
    · rw [show ((c.act x a b ds).backlog.task id).state = .executing from hstate] at hsettled
      rcases hsettled with hwrong | hwrong <;> cases hwrong
    · exact absurd (h.mem_entered (by rw [hpending]; decide)) hnot
    · cases hpending.symm.trans hcancelled
    · have hdeeds : (c.act x a b ds).deeds = .begun id :: c.deeds := by rw [hds]; rfl
      rw [hdeeds, List.count_cons_of_ne (by simp)]
      exact hruns.trans h.runs_eq
  | invokes hstatus hfrom hto hds =>
    obtain ⟨hrecurring, hstate, hruns⟩ := Task.status_eq_iff.1 hstatus
    have hactive : (c.actors x).active? = some id := by rw [hfrom]; rfl
    have hwas := h.state_of_active x hactive
    refine h.of_act (fun _ => hactive) (fun hholding => ?_) (fun _ _ _ => ?_) (fun hr hsettled => ?_) hrecurring
      (fun y hy hy' => ?_) (fun hnot => ?_) (hwho.act ?_ fun hcancelled => hstate.trans hcancelled) ?_
    · rw [hto] at hholding
      cases hholding
    · rw [hstate, hrecurring]
      exact hwas
    · rw [hstate] at hsettled
      rw [hrecurring] at hr
      rcases hwas with hexecuting | ⟨-, hr'⟩
      · rw [hexecuting] at hsettled
        rcases hsettled with hwrong | hwrong <;> cases hwrong
      · rw [hr] at hr'
        cases hr'
    -- nobody else holds it
    · obtain rfl := h.active_eq y x (by rw [hy]; rfl) hactive
      rw [actors_act, if_pos rfl, hto] at hy'
      cases hy'
    · obtain ⟨hr, hcancelled, -⟩ := Task.status_eq_iff.1 (h.status_eq hnot)
      rw [hr, hcancelled] at hwas
      rcases hwas with hwrong | ⟨-, hwrong⟩ <;> cases hwrong
    · rw [hfrom, hto, hds]
      rfl
    · rw [hruns, hds, List.count_singleton_self]
  | returns hexecuting hstatus hfrom hto hwho' hbefore hafter hds =>
    subst hds
    refine h.release hexecuting hstatus hfrom hto (fun hr _ => ?_) hbefore hafter
    rcases hwho' with hholding | hr'
    · exact h.runs_of_holding x hholding hr
    · cases hr.symm.trans hr'
  | finishes hexecuting hstatus hfrom hto hbefore hafter hds =>
    subst hds
    refine h.release hexecuting hstatus hfrom hto (fun _ hsettled => ?_) hbefore hafter
    rcases hsettled with hwrong | hwrong <;> cases hwrong

/-! ### The other steps -/

/-- A step in which nothing is done to the task, except that it may pass from one actor to another. -/
private theorem of_same (h : c.Fair id)
    (hactive_eq : ∀ y z, (c'.actors y).active? = some id → (c'.actors z).active? = some id → y = z)
    (hactive : ∀ y, (c'.actors y).active? = some id → ∃ z, (c.actors z).active? = some id)
    (hholding : ∀ y, c'.actors y = .holding id → ∃ z, c.actors z = .holding id)
    (hclaims : ∀ y, (c'.actors y).claims = (c.actors y).claims)
    (hstatus : (c'.backlog.task id).status = (c.backlog.task id).status) (hentered : id ∈ c'.entered ↔ id ∈ c.entered)
    (hdeeds : c'.deeds = c.deeds) : c'.Fair id := by
  obtain ⟨hrecurring, hstate, hruns⟩ := Task.status_eq_iff.1 hstatus
  obtain ⟨who, hwho⟩ := h.exists_claimed
  refine ⟨hactive_eq, fun y hy => ?_, fun y hy hr => ?_, fun hr hsettled => ?_, fun hnot => ?_,
    ⟨who, ?_, fun y => ?_, fun hne => ?_⟩, ?_⟩
  · obtain ⟨z, hz⟩ := hactive y hy
    rw [hstate, hrecurring]
    exact h.state_of_active z hz
  · obtain ⟨z, hz⟩ := hholding y hy
    rw [hrecurring] at hr
    exact hruns.trans (h.runs_of_holding z hz hr)
  · rw [hrecurring] at hr
    rw [hstate] at hsettled
    exact hruns.trans (h.runs_eq_zero hr hsettled)
  · rw [hstatus]
    exact h.status_eq (mt hentered.2 hnot)
  · rw [claims, hdeeds]
    exact hwho.count_claims
  · rw [hclaims]
    exact hwho.count_actor y
  · exact ⟨hentered.2 (hwho.cancelled hne).1, hstate.trans (hwho.cancelled hne).2⟩
  · rw [hruns, hdeeds]
    exact h.runs_eq

theorem pass (h : c.Fair id) {x y : α} {j : TaskId} (hx : c.actors x = .holding j) (hy : c.actors y = .idle) :
    (c.pass x y j).Fair id := by
  have hne : x ≠ y := by
    rintro rfl
    cases hx.symm.trans hy
  -- what `y` has now is what `x` had
  have hbefore {P : Actor → Prop} (hidle : ¬ P .idle) (z : α) (hz : P ((c.pass x y j).actors z)) :
      P (c.actors (if z = y then x else z)) ∧ z ≠ x := by
    rw [actors_pass] at hz
    split at hz
    · next heq =>
      subst heq
      rw [if_pos rfl, hx]
      exact ⟨hz, Ne.symm hne⟩
    · next hzy =>
      split at hz
      · exact absurd hz hidle
      · next hzx => exact ⟨by rwa [if_neg hzy], hzx⟩
  refine h.of_same (fun z w hz hw => ?_) (fun z hz => ⟨_, (hbefore (P := (·.active? = some id)) nofun z hz).1⟩)
    (fun z hz => ⟨_, (hbefore (P := (· = .holding id)) nofun z hz).1⟩) (fun z => ?_) rfl .rfl rfl
  · obtain ⟨hz, hzx⟩ := hbefore (P := (·.active? = some id)) nofun z hz
    obtain ⟨hw, hwx⟩ := hbefore (P := (·.active? = some id)) nofun w hw
    have heq := h.active_eq _ _ hz hw
    split at heq <;> split at heq
    · next hzy hwy => exact hzy.trans hwy.symm
    · exact absurd heq.symm hwx
    · exact absurd heq hzx
    · exact heq
  · rw [actors_pass]
    split
    · next heq => rw [heq, hy]; rfl
    · split
      · next heq => rw [heq, hx]; rfl
      · rfl

/-- A task is entered that nobody has dealt with. -/
theorem enter (h : c.Fair id) {t : Task} (hnew : t.id ∉ c.entered) (hruns : t.runs = 0)
    (hadd : (c.backlog.enter t).add t.id = .ok b) :
    Fair { c with backlog := b, entered := t.id :: c.entered } id := by
  have hstatus := Backlog.status_add hadd id
  rw [Backlog.task_enter] at hstatus
  by_cases hid : id = t.id
  · subst hid
    obtain ⟨who, hwho⟩ := h.exists_claimed
    obtain ⟨hr, hcancelled, hzero⟩ := Task.status_eq_iff.1 (h.status_eq hnew)
    have hidle (y : α) : (c.actors y).active? ≠ some t.id := by
      intro hy
      have hwas := h.state_of_active y hy
      rw [hr, hcancelled] at hwas
      rcases hwas with hwrong | ⟨-, hwrong⟩ <;> cases hwrong
    have hnone : who = none := by
      by_contra hne
      exact hnew (hwho.cancelled hne).1
    subst hnone
    rw [if_pos rfl] at hstatus
    obtain ⟨-, hstate', hruns'⟩ := Task.status_eq_iff.1 hstatus
    refine ⟨fun y _ hy => absurd hy (hidle y), fun y hy => absurd hy (hidle y), fun _ _ _ => hruns'.trans hruns,
      fun _ _ => hruns'.trans hruns, fun hnot => absurd List.mem_cons_self hnot,
      ⟨none, hwho.count_claims, hwho.count_actor, fun hne => absurd rfl hne⟩, ?_⟩
    exact hruns'.trans (hruns.trans (hzero.symm.trans h.runs_eq))
  · rw [if_neg hid] at hstatus
    exact h.of_same h.active_eq (fun y hy => ⟨y, hy⟩) (fun y hy => ⟨y, hy⟩) (fun _ => rfl) hstatus (by simp [hid]) rfl

end Fair

end Contest

/-! ### What the actors know -/

namespace Actor

variable {b b' : Backlog} {a a' : Actor} {ds : List Deed} {id : TaskId}

theorem Affects.isRecurring_eq (h : Affects b a id a' b' ds) : (b'.task id).isRecurring = (b.task id).isRecurring := by
  cases h with
  | spares hstatus => exact (Task.status_eq_iff.1 hstatus).1
  | cancels _ hstatus => exact (Task.status_eq_iff.1 hstatus).1
  | begins _ hstatus => exact (Task.status_eq_iff.1 hstatus).1
  | invokes hstatus => exact (Task.status_eq_iff.1 hstatus).1
  | returns _ hstatus => exact (Task.status_eq_iff.1 hstatus).1
  | finishes _ hstatus => exact (Task.status_eq_iff.1 hstatus).1

/-- What an actor has found out holds as long as a recurring task remains one. -/
theorem Knows.mono (h : a.Knows b)
    (hkeeps : ∀ id, (b.task id).isRecurring = true → (b'.task id).isRecurring = true) : a.Knows b' := by
  cases a with
  | cancelling id c =>
    cases c with
    | claiming seen => exact h.imp_right fun hseen => ⟨hseen.1, hkeeps id hseen.2⟩
    | _ => exact h
  | dropping id => exact hkeeps id h
  | settling id completedAt c =>
    cases c with
    | returning => exact hkeeps id h
    | _ => exact h
  | _ => exact h

private theorem knows_cancel (b : Backlog) (id : TaskId) (c : Cancellation) :
    (cancelling id (c.step b id).2).Knows (c.step b id).1 := by
  cases c with
  | looking =>
    simp only [Cancellation.step, Cancellation.look]
    cases hstate : (b.task id).state with
    | pending => exact .inl rfl
    | executing =>
      cases hr : (b.task id).isRecurring with
      | true => exact .inr ⟨rfl, hr⟩
      | false => trivial
    | _ => trivial
  | claiming seen =>
    simp only [Cancellation.step]
    rcases b.transition id seen .cancelled with ⟨b', _ | _⟩
    · trivial
    · dsimp only
      split <;> trivial
  | _ => trivial

private theorem knows_complete (b : Backlog) (id : TaskId) (completedAt : Nat) (c : Completion) :
    (settling id completedAt (c.step b id completedAt).2).Knows (c.step b id completedAt).1 := by
  cases c with
  | settling =>
    cases hr : (b.task id).isRecurring with
    | true =>
      simp only [Completion.step, hr, ↓reduceIte, Knows]
      rw [Backlog.task_modify, if_pos rfl]
      exact hr
    | false =>
      simp only [Completion.step, hr, Bool.false_eq_true, ↓reduceIte]
      trivial
  | returning =>
    simp only [Completion.step]
    rcases b.transition id .executing .pending with ⟨b', _ | _⟩ <;> trivial
  | inserting =>
    simp only [Completion.step]
    rcases b.add id with fault | b' <;> trivial
  | rechecking =>
    simp only [Completion.step]
    split <;> trivial
  | _ => trivial

/-- What an actor relies on after a step it has found out in it. -/
theorem Acts.knows (h : Acts b a a' b' ds) : a'.Knows b' := by
  cases h with
  | cancel id c _ => exact knows_cancel b id c
  | complete id completedAt c => exact knows_complete b id completedAt c
  | doom id hr => exact hr
  | _ => trivial

end Actor

namespace Contest

variable {α : Type} [DecidableEq α] {c c' : Contest α} {id : TaskId}

/-- Fair to all tasks, and everybody relies on what holds. -/
structure IsFair (c : Contest α) : Prop where
  fair (id : TaskId) : c.Fair id
  knows (x : α) : (c.actors x).Knows c.backlog

namespace IsFair

/-- A task that has been entered remains so, and does not change its kind. -/
theorem isRecurring_eq_of_step (h : c.IsFair) (hstep : c.Step c') (hentered : id ∈ c.entered) :
    id ∈ c'.entered ∧ (c'.backlog.task id).isRecurring = (c.backlog.task id).isRecurring := by
  cases hstep with
  | act x a b ds hacts => exact ⟨hentered, (hacts.affects (h.knows x) id).isRecurring_eq⟩
  | enter t b hnew _ _ hadd =>
    have hid : id ≠ t.id := by
      rintro rfl
      exact hnew hentered
    have hstatus := Backlog.status_add hadd id
    rw [Backlog.task_enter, if_neg hid] at hstatus
    exact ⟨List.mem_cons_of_mem _ hentered, (Task.status_eq_iff.1 hstatus).1⟩
  | _ => exact ⟨hentered, rfl⟩

private theorem isRecurring_of_step (h : c.IsFair) (hstep : c.Step c') (hr : (c.backlog.task id).isRecurring = true) :
    (c'.backlog.task id).isRecurring = true := by
  refine (h.isRecurring_eq_of_step hstep ?_).2.trans hr
  by_contra hnot
  rw [(Task.status_eq_iff.1 ((h.fair id).status_eq hnot)).1] at hr
  cases hr

theorem step (h : c.IsFair) (hstep : c.Step c') : c'.IsFair := by
  have hkeeps (id : TaskId) (hr : (c.backlog.task id).isRecurring = true) := h.isRecurring_of_step hstep hr
  cases hstep with
  | act x a b ds hacts =>
    refine ⟨fun id => (h.fair id).act (hacts.affects (h.knows x) id), fun y => ?_⟩
    rw [actors_act]
    split
    · exact hacts.knows
    · exact (h.knows y).mono hkeeps
  | pass x y id hx hy =>
    refine ⟨fun id => (h.fair id).pass hx hy, fun z => ?_⟩
    rw [actors_pass]
    split
    · trivial
    · split
      · trivial
      · exact h.knows z
  | number =>
    exact ⟨fun id => (h.fair id).of_same (h.fair id).active_eq (fun y hy => ⟨y, hy⟩) (fun y hy => ⟨y, hy⟩) (fun _ => rfl)
      rfl .rfl rfl, h.knows⟩
  | enter t b hnew _ hruns hadd =>
    exact ⟨fun id => (h.fair id).enter hnew hruns hadd, fun x => (h.knows x).mono hkeeps⟩

end IsFair

theorem Reachable.isFair (h : c.Reachable) : c.IsFair := by
  induction h with
  | start =>
    refine ⟨fun id => ⟨nofun, nofun, nofun, fun _ _ => rfl, fun _ => rfl, ⟨none, rfl, fun _ => rfl, nofun⟩, rfl⟩,
      fun _ => trivial⟩
  | step _ hstep ih => exact ih.step hstep

/-- Every contest is fair to all tasks. -/
theorem Reachable.fair (h : c.Reachable) (id : TaskId) : c.Fair id := h.isFair.fair id

end Contest

end TaskScheduling
