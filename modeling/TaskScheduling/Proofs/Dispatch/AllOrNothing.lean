import Mathlib.Logic.Relation
import TaskScheduling.Proofs.Dispatch.Turns
import TaskScheduling.Proofs.Dispatch.WholeCalls
import TaskScheduling.Proofs.Dispatch.Withdrawal

/-!
# Submissions leave all or nothing

A submission that fails leaves the scheduler as it was, but for the time that the clock remembers and the number that it
may have drawn.  Where others shut the scheduler down meanwhile, it leaves what they alone would have made of it.

* `TickScheduler.allOrNothing`, `PooledScheduler.allOrNothing`: a submission with nothing in between.
* `System.Reachable.exists_underway`: while others shut down, a submission is accepted, or the system is what it would
  be without the submission, but for its task.
* `System.Reachable.leavesNothing`: in the end the task has gone as well.
-/

namespace TaskScheduling

open Backlog PooledScheduler

/-! ### Shutdowns beside a submission -/

namespace System

/-- Some client other than `i` requests a shutdown or goes on with one. -/
inductive Shuts (i : Nat) (s : System) : System → Prop where
  | request (j : Nat) (mode : ShutdownMode) : j ≠ i → (s.clients j).isFree = true →
      Shuts i s (s.withClient j (.shutting (.raising mode)))
  | goOn (j : Nat) (m : Shutdown) : j ≠ i → s.clients j = .shutting m → Shuts i s (s.stepClient j)

/-- The client `i` goes on with its call, or somebody else shuts down. -/
inductive Calls (i : Nat) (s : System) : System → Prop where
  | goOn : Calls i s (s.stepClient i)
  | beside {s' : System} : s.Shuts i s' → Calls i s s'

variable {o s s' t : System} {i j : Nat} {r : Request} {m : Submission} {c : Claim}

theorem Shuts.toStep (h : s.Shuts i s') : s.Step s' := by
  cases h with
  | request j mode _ hfree => exact .shutDown j mode hfree
  | goOn j m _ _ => exact .client j

theorem Calls.toStep (h : s.Calls i s') : s.Step s' := by
  cases h with
  | goOn => exact .client i
  | beside hshuts => exact hshuts.toStep

theorem Shuts.clients_eq (h : s.Shuts i s') : s'.clients i = s.clients i := by
  cases h with
  | request j mode hj _ => exact Function.update_of_ne (Ne.symm hj) _ _
  | goOn j m hj _ => exact Function.update_of_ne (Ne.symm hj) _ _

theorem Reachable.calls (h : s.Reachable) (hrun : Relation.ReflTransGen (Calls i) s s') : s'.Reachable := by
  induction hrun with
  | refl => exact h
  | tail _ hstep ih => exact ih.step hstep.toStep

theorem Reachable.shuts (h : s.Reachable) (hrun : Relation.ReflTransGen (Shuts i) s s') : s'.Reachable :=
  h.calls (Relation.ReflTransGen.mono (fun _ _ => .beside) _ _ hrun)

/-! ### Where a step of a client leads -/

private theorem clients_withClient (s : System) (j : Nat) (call : Client) (k : Nat) :
    (s.withClient j call).clients k = if k = j then call else s.clients k := Function.update_apply ..

private theorem clients_stepClient_of_ne (hj : j ≠ i) : (s.stepClient i).clients j = s.clients j :=
  Function.update_of_ne hj _ s.clients

private theorem scheduler_stepClient_of_submitting (h : s.clients i = .submitting r m) :
    (s.stepClient i).scheduler = (m.step s.scheduler r).1 := by
  rw [stepClient, h]
  rfl

private theorem clients_stepClient_of_submitting (h : s.clients i = .submitting r m) :
    (s.stepClient i).clients i = .submitting r (m.step s.scheduler r).2 := by
  rw [clients_stepClient_self, h, Client.step]

private theorem scheduler_stepClient_of_shutting {m : Shutdown} (h : s.clients j = .shutting m) :
    (s.stepClient j).scheduler = (m.step s.scheduler).1 := by
  rw [stepClient, h]
  rfl

private theorem clients_stepClient_of_shutting {m : Shutdown} (h : s.clients j = .shutting m) (k : Nat) :
    (s.stepClient j).clients k = if k = j then .shutting (m.step s.scheduler).2 else s.clients k := by
  split
  · next hk => rw [hk, clients_stepClient_self, h, Client.step]
  · next hk => exact clients_stepClient_of_ne hk

/-- A client in a shutdown has been there, has just requested it, or has taken a step of it. -/
private theorem Step.shutting_cases {m : Shutdown} (hstep : s.Step s') (hclient : s'.clients j = .shutting m) :
    s.clients j = .shutting m ∨ (∃ mode, m = .raising mode) ∨
      ∃ m', s.clients j = .shutting m' ∧ s' = s.stepClient j := by
  have hcall {k : Nat} {call : Client} (hcl : (s.withClient k call).clients j = .shutting m) :
      s.clients j = .shutting m ∨ call = .shutting m := by
    rw [clients_withClient] at hcl
    split at hcl
    · exact .inr hcl
    · exact .inl hcl
  cases hstep with
  | submit k r _ => exact .inl ((hcall hclient).resolve_right nofun)
  | cancel k id _ => exact .inl ((hcall hclient).resolve_right nofun)
  | shutDown k mode _ => exact (hcall hclient).imp_right fun hm => .inl ⟨mode, (Client.shutting.inj hm).symm⟩
  | client k =>
    by_cases hj : j = k
    · subst hj
      rw [clients_stepClient_self] at hclient
      cases hold : s.clients j with
      | shutting m' => exact .inr (.inr ⟨m', rfl, rfl⟩)
      | cancelling id c =>
        rw [hold] at hclient
        cases c <;> cases hclient
      | _ =>
        rw [hold] at hclient
        cases hclient
    · exact .inl ((clients_stepClient_of_ne hj).symm.trans hclient)
  | _ => exact .inl hclient

/-- Whoever is past the first step of a shutdown has shut the scheduler down. -/
theorem Reachable.raising_or_isShutdown (h : s.Reachable) {m : Shutdown} (hclient : s.clients j = .shutting m) :
    (∃ mode, m = .raising mode) ∨ s.scheduler.isShutdown = true := by
  induction h generalizing m with
  | start => cases hclient
  | @step s s' _ hstep ih =>
    rcases hstep.shutting_cases hclient with hold | hraising | ⟨m', hold, rfl⟩
    · exact (ih hold).imp_right hstep.isShutdown
    · exact .inl hraising
    · rcases ih hold with ⟨mode, rfl⟩ | hshutdown
      · right
        rw [scheduler_stepClient_of_shutting hold]
        rfl
      · exact .inr (hstep.isShutdown hshutdown)

/-- Without a shutdown, the others have changed nothing. -/
theorem Reachable.scheduler_eq_of_shuts (h : s.Reachable) (hrun : Relation.ReflTransGen (Shuts i) s s')
    (hopen : s'.scheduler.isShutdown = false) : s'.scheduler = s.scheduler := by
  induction hrun with
  | refl => rfl
  | @tail t s' hrun hstep ih =>
    have hopen' : t.scheduler.isShutdown = false := by
      by_contra hshutdown
      rw [hstep.toStep.isShutdown (by simpa using hshutdown)] at hopen
      cases hopen
    refine Eq.trans ?_ (ih hopen')
    cases hstep with
    | request j mode _ _ => rfl
    | goOn j m _ hclient =>
      rcases (h.shuts hrun).raising_or_isShutdown hclient with ⟨mode, rfl⟩ | hshutdown
      · rw [scheduler_stepClient_of_shutting hclient] at hopen
        cases hopen
      · rw [hopen'] at hshutdown
        cases hshutdown

/-! ### A submission under way -/

/-- How a submission that has begun in the system `o` and has not been accepted compares to the system `t` that the
shutdowns alone would have made of `o`: they are as far as they would be without the task of the submission, and that
task is counted as cancelled once at most. -/
structure Underway (o : System) (i : Nat) (r : Request) (m : Submission) (c : Claim) (t s : System) : Prop where
  client_eq : s.clients i = .submitting r m
  stands : m.Stands o.scheduler r s.scheduler c
  beside : o.scheduler.Beside t.scheduler c.tally s.scheduler
  others_eq (j : Nat) : j ≠ i → t.clients j = (s.clients j).without o.scheduler.freshId
  count_claimed (j : Nat) : j ≠ i → (s.clients j).claimed.count o.scheduler.freshId = c.share j

namespace Underway

/-- While another client requests a shutdown. -/
private theorem request (h : Underway o i r m c t s) {mode : ShutdownMode} (hj : j ≠ i)
    (hfree : (s.clients j).isFree = true) :
    Underway o i r m c (t.withClient j (.shutting (.raising mode))) (s.withClient j (.shutting (.raising mode))) where
  client_eq := (Function.update_of_ne (Ne.symm hj) _ s.clients).trans h.client_eq
  stands := h.stands
  beside := h.beside
  others_eq k hk := by
    rw [clients_withClient, clients_withClient]
    split
    · rfl
    · exact h.others_eq k hk
  count_claimed k hk := by
    rw [← h.count_claimed k hk, clients_withClient]
    split
    · next hkj =>
      rw [hkj, Client.claimed_of_isFree hfree]
      rfl
    · rfl

/-- While another client goes on with its shutdown. -/
private theorem goOn_beside (h : Underway o i r m c t s) (hs : s.Reachable) {m' : Shutdown} (hj : j ≠ i)
    (hclient : s.clients j = .shutting m') :
    ∃ t' c', Relation.ReflTransGen (Shuts i) t t' ∧ Underway o i r m c' t' (s.stepClient j) := by
  have hfrees : s.backlog.Frees m'.held := by
    have hheld := hs.sound.frees (.client j)
    rwa [held, hclient] at hheld
  obtain ⟨n, hsuffers, hone, hcount⟩ := m'.suffers_step hfrees o.scheduler.freshId
  have hone' : n = 0 ∨ n = 1 ∧ m'.counts o.scheduler.freshId = 0 ∧ c = .nobody := by
    rcases hsuffers.eq_zero_or with hn | ⟨hn, hpending⟩
    · exact .inl hn
    · exact .inr ⟨hn, hone.resolve_left (by omega), h.stands.eq_nobody hpending⟩
  have hshare : (m'.step s.scheduler).2.claimed.count o.scheduler.freshId + m'.counts o.scheduler.freshId =
      c.share j + n := by
    rw [hcount, ← h.count_claimed j hj, hclient]
    rfl
  obtain ⟨c', hshare', hothers, htally, hnobody⟩ := Claim.exists_next hone' hshare
  have hscheduler := scheduler_stepClient_of_shutting hclient
  have hclients := clients_stepClient_of_shutting hclient
  have hstands : m.Stands o.scheduler r (s.stepClient j).scheduler c' := by
    rw [hscheduler]
    exact h.stands.of_suffers (m'.factory_step s.scheduler) (m'.passes_step hs.sound.kept).nextId_eq
      (fun hshutdown => Client.isShutdown_step hshutdown (.shutting m')) hsuffers hnobody
  have hclaimed (k : Nat) (hk : k ≠ i) :
      ((s.stepClient j).clients k).claimed.count o.scheduler.freshId = c'.share k := by
    rw [hclients]
    split
    · next hkj => rw [hkj, ← hshare', Client.claimed]
    · next hkj => rw [hothers k hkj, h.count_claimed k hk]
  -- the shutdowns alone are where they have been, or come as far by the same step
  rcases m'.beside_step h.beside with ⟨hbeside, hwithout⟩ | ⟨hbeside, hwithout⟩
  · refine ⟨t, c', .refl, (hclients i).trans ?_, hstands, ?_, fun k hk => ?_, hclaimed⟩
    · rw [if_neg (Ne.symm hj), h.client_eq]
    · rwa [htally, hscheduler]
    · rw [h.others_eq k hk, hclients]
      split
      · next hkj =>
        rw [hkj, hclient, Client.without, Client.without, hwithout]
      · rfl
  · have hclient' : t.clients j = .shutting (m'.without o.scheduler.freshId) := by
      rw [h.others_eq j hj, hclient, Client.without]
    refine ⟨t.stepClient j, c', .single (.goOn j _ hj hclient'), (hclients i).trans ?_, hstands, ?_, fun k hk => ?_,
      hclaimed⟩
    · rw [if_neg (Ne.symm hj), h.client_eq]
    · rwa [htally, hscheduler, scheduler_stepClient_of_shutting hclient']
    · rw [clients_stepClient_of_shutting hclient', hclients]
      split
      · rw [Client.without, hwithout]
      · exact h.others_eq k hk

/-- While others shut down. -/
theorem shuts (h : Underway o i r m c t s) (hs : s.Reachable) (hstep : s.Shuts i s') :
    ∃ t' c', Relation.ReflTransGen (Shuts i) t t' ∧ Underway o i r m c' t' s' := by
  cases hstep with
  | request j mode hj hfree =>
    have hfree' : (t.clients j).isFree = true := by rw [h.others_eq j hj, Client.isFree_without, hfree]
    exact ⟨_, c, .single (.request j mode hj hfree'), h.request hj hfree⟩
  | goOn j m' hj hclient => exact h.goOn_beside hs hj hclient

/-- While the submission itself goes on. -/
theorem goOn (h : Underway o i r m c t s) (hs : s.Reachable) (ho : o.scheduler.isShutdown = false)
    (hidle : t.scheduler.isShutdown = false → t.scheduler = o.scheduler) :
    (m.step s.scheduler r).2.Succeeds o.scheduler r ∨
      Underway o i r (m.step s.scheduler r).2 c t (s.stepClient i) := by
  have hnew (t : Task) (ht : m.draft? = some t) : t.IsNew := hs.sound.isNew i t (by rw [h.client_eq]; exact ht)
  refine (h.stands.step h.beside ho hidle hs.sound.kept hnew).imp_right fun hgoes => ?_
  have hscheduler := scheduler_stepClient_of_submitting h.client_eq
  refine ⟨clients_stepClient_of_submitting h.client_eq, hscheduler ▸ hgoes.1, hscheduler ▸ hgoes.2, fun j hj => ?_,
    fun j hj => ?_⟩
  · rw [clients_stepClient_of_ne hj]
    exact h.others_eq j hj
  · rw [clients_stepClient_of_ne hj]
    exact h.count_claimed j hj

end Underway

/-- Beginning with the first look at the scheduler. -/
theorem Reachable.underway (h : o.Reachable) (hclient : o.clients i = .submitting r .checking)
    (hopen : o.scheduler.isShutdown = false) : Underway o i r .building .nobody o (o.stepClient i) := by
  have hscheduler : (o.stepClient i).scheduler = o.scheduler := scheduler_stepClient_of_submitting hclient
  have habsent : o.scheduler.backlog.task o.scheduler.freshId = .absent := h.sound.kept.task_eq_absent _ (Nat.le_refl _)
  -- whoever is in a shutdown has not taken a step of it
  have hidle (j : Nat) : (o.clients j).without o.scheduler.freshId = o.clients j ∧ (o.clients j).claimed = [] := by
    cases hj : o.clients j with
    | shutting m =>
      obtain ⟨mode, rfl⟩ := (h.raising_or_isShutdown hj).resolve_right (by simp [hopen])
      exact ⟨rfl, rfl⟩
    | _ => exact ⟨rfl, rfl⟩
  refine ⟨?_, ?_, ?_, fun j hj => ?_, fun j hj => ?_⟩
  · rw [clients_stepClient_of_submitting hclient]
    simp only [Submission.step, hopen, Bool.false_eq_true, ↓reduceIte]
  · rw [hscheduler]
    exact .building rfl rfl habsent rfl
  · rw [hscheduler]
    exact ⟨.of_slot_none h.sound.kept (by rw [habsent]; rfl), rfl, rfl, .inl ⟨rfl, rfl⟩,
      ⟨rfl, rfl, Nat.le_refl _⟩, ⟨rfl, rfl, rfl, rfl⟩⟩
  · rw [clients_stepClient_of_ne hj, (hidle j).1]
  · rw [clients_stepClient_of_ne hj, (hidle j).2]
    rfl

/-- A submission has been accepted, or is under way beside what the shutdowns alone would have made of the system. -/
theorem Reachable.exists_underway (h : o.Reachable) (hclient : o.clients i = .submitting r .checking)
    (hopen : o.scheduler.isShutdown = false) (hrun : Relation.ReflTransGen (Calls i) (o.stepClient i) s) :
    (∃ m, s.clients i = .submitting r m ∧ m.Succeeds o.scheduler r) ∨
      ∃ m c t, Relation.ReflTransGen (Shuts i) o t ∧ Underway o i r m c t s := by
  induction hrun with
  | refl => exact .inr ⟨_, _, o, .refl, h.underway hclient hopen⟩
  | @tail s s' hrun hstep ih =>
    have hs : s.Reachable := (h.step (.client i)).calls hrun
    rcases ih with ⟨m, hm, hsucceeds⟩ | ⟨m, c, t, ht, hunder⟩
    · left
      cases hstep with
      | goOn => exact ⟨_, clients_stepClient_of_submitting hm, hsucceeds.step⟩
      | beside hshuts => exact ⟨m, hshuts.clients_eq.trans hm, hsucceeds⟩
    · cases hstep with
      | goOn =>
        rcases hunder.goOn hs hopen (h.scheduler_eq_of_shuts ht) with hsucceeds | hnext
        · exact .inl ⟨_, clients_stepClient_of_submitting hunder.client_eq, hsucceeds⟩
        · exact .inr ⟨_, c, t, ht, hnext⟩
      | beside hshuts =>
        obtain ⟨t', c', ht', hnext⟩ := hunder.shuts hs hshuts
        exact .inr ⟨m, c', t', ht.trans ht', hnext⟩

/-! ### A submission that finds the scheduler shut down -/

/-- Whether two systems differ at most in a client's call. -/
structure Agrees (i : Nat) (t s : System) : Prop where
  scheduler_eq : s.scheduler = t.scheduler
  clients_eq (j : Nat) : j ≠ i → s.clients j = t.clients j

theorem Agrees.shuts (h : Agrees i t s) (hstep : s.Shuts i s') : ∃ t', t.Shuts i t' ∧ Agrees i t' s' := by
  cases hstep with
  | request j mode hj hfree =>
    rw [h.clients_eq j hj] at hfree
    refine ⟨_, .request j mode hj hfree, h.scheduler_eq, fun k hk => ?_⟩
    rw [clients_withClient, clients_withClient, h.clients_eq k hk]
  | goOn j m hj hclient =>
    have hclient' : t.clients j = .shutting m := (h.clients_eq j hj).symm.trans hclient
    refine ⟨_, .goOn j m hj hclient', ?_, fun k hk => ?_⟩
    · rw [scheduler_stepClient_of_shutting hclient, scheduler_stepClient_of_shutting hclient', h.scheduler_eq]
    · rw [clients_stepClient_of_shutting hclient, clients_stepClient_of_shutting hclient', h.scheduler_eq,
        h.clients_eq k hk]

/-- Shutdowns draw no numbers and start no threads. -/
theorem Reachable.draws_nothing_of_shuts (h : s.Reachable) (hstep : s.Shuts i s') :
    s'.scheduler.factory = s.scheduler.factory ∧ s'.scheduler.backlog.nextId = s.scheduler.backlog.nextId := by
  cases hstep with
  | request j mode _ _ => exact ⟨rfl, rfl⟩
  | goOn j m _ hclient =>
    rw [scheduler_stepClient_of_shutting hclient]
    exact ⟨m.factory_step s.scheduler, (m.passes_step h.sound.kept).nextId_eq⟩

/-- A submission that finds the scheduler shut down ends at once and has done nothing. -/
theorem Reachable.refused (h : o.Reachable) (hclient : o.clients i = .submitting r .checking)
    (hshutdown : o.scheduler.isShutdown = true) (hrun : Relation.ReflTransGen (Calls i) (o.stepClient i) s) :
    s.clients i = .submitting r (.ended (.error (.error .shutdown))) ∧
      s.scheduler.factory = o.scheduler.factory ∧ s.scheduler.backlog.nextId = o.scheduler.backlog.nextId ∧
      ∃ t, Relation.ReflTransGen (Shuts i) o t ∧ Agrees i t s := by
  induction hrun with
  | refl =>
    have hscheduler : (o.stepClient i).scheduler = o.scheduler := scheduler_stepClient_of_submitting hclient
    refine ⟨?_, by rw [hscheduler], by rw [hscheduler], o, .refl, hscheduler, fun j hj => clients_stepClient_of_ne hj⟩
    rw [clients_stepClient_of_submitting hclient]
    simp only [Submission.step, hshutdown, ↓reduceIte]
  | @tail s s' hrun hstep ih =>
    obtain ⟨hended, hfactory, hnext, t, ht, hagrees⟩ := ih
    cases hstep with
    | goOn =>
      have hscheduler : (s.stepClient i).scheduler = s.scheduler := scheduler_stepClient_of_submitting hended
      refine ⟨clients_stepClient_of_submitting hended, by rw [hscheduler, hfactory], by rw [hscheduler, hnext], t, ht,
        hscheduler.trans hagrees.scheduler_eq, fun j hj => ?_⟩
      exact (clients_stepClient_of_ne hj).trans (hagrees.clients_eq j hj)
    | beside hshuts =>
      obtain ⟨t', ht', hagrees'⟩ := hagrees.shuts hshuts
      have hs : s.Reachable := (h.step (.client i)).calls hrun
      obtain ⟨hfactory', hnext'⟩ := hs.draws_nothing_of_shuts hshuts
      exact ⟨hshuts.clients_eq.trans hended, hfactory'.trans hfactory, hnext'.trans hnext, t', ht.tail ht', hagrees'⟩

end System

/-! ### What a submission that has failed leaves -/

namespace PooledScheduler

/-- What a submission leaves that has begun with the scheduler `o` and has failed, where `u` is what the shutdowns alone
would have made of `o`. -/
structure Undone (o u : PooledScheduler) (r : Request) (trouble : Trouble) (s : PooledScheduler) : Prop where
  fails : o.Fails r s trouble
  queue_eq (slot : QueueSlot) : s.backlog.queue slot = u.backlog.queue slot
  task_eq (id : TaskId) : id.index < o.backlog.nextId → s.backlog.task id = u.backlog.task id
  /-- A shutdown may have come across the task before it was withdrawn, and counts it as cancelled then. -/
  stats_eq : s.stats = u.stats ∨ trouble = .error .shutdown ∧ o.isShutdown = false ∧ s.isShutdown = true ∧
    s.stats = (u.countCancelled 1).stats
  shutdown_eq : s.shutdown = u.shutdown
  /-- For want of the dispatcher that the submission has started, the shutdowns alone would have stopped the pool. -/
  staff : s.pool = u.pool ∧ s.dispatcher = u.dispatcher ∨
    o.dispatcher.thread = none ∧ s.dispatcher.thread.isSome = true ∧ s.dispatcher.running = true ∧ s.pool = o.pool
  clock : u.clock.Refreshes s.clock
  settings_eq : s.router = u.router ∧ s.sink = u.sink ∧ s.defaultPriority = u.defaultPriority ∧ s.lowWait = u.lowWait

end PooledScheduler

namespace System

variable {o s t : System} {i : Nat} {r : Request} {c : Claim} {trouble : Trouble}

/-- A submission under way that ends without success has been undone. -/
theorem Underway.undone (h : Underway o i r (.ended (.error trouble)) c t s) (hs : s.Reachable)
    (ho : o.scheduler.isShutdown = false) : o.scheduler.Undone t.scheduler r trouble s.scheduler := by
  obtain ⟨hfails, hgone, hclaim⟩ : o.scheduler.Fails r s.scheduler trouble ∧
      (s.scheduler.backlog.task o.scheduler.freshId).IsGone ∧
      (c = .nobody ∨ trouble = .error .shutdown ∧ s.scheduler.isShutdown = true) := by
    cases h.stands with
    | failed trouble hfails hgone hclaim => exact ⟨hfails, hgone, hclaim⟩
  refine ⟨hfails, h.beside.backlog.queue_eq_of_slot_none hs.sound.kept hgone.slot_eq, fun id hid => ?_, ?_,
    h.beside.shutdown_eq, h.beside.staff, h.beside.clock, h.beside.settings_eq⟩
  · refine (h.beside.backlog.task_eq id ?_).symm
    rintro rfl
    exact Nat.lt_irrefl _ hid
  · have hstats := h.beside.stats_eq
    rcases Nat.le_one_iff_eq_zero_or_eq_one.1 c.tally_le with hzero | hone
    · rw [hzero] at hstats
      exact .inl hstats
    · rw [hone] at hstats
      have hlate : trouble = .error .shutdown ∧ s.scheduler.isShutdown = true := by
        refine hclaim.resolve_left ?_
        rintro rfl
        cases hone
      exact .inr ⟨hlate.1, ho, hlate.2, hstats⟩

/-- Whether a failed submission has left nothing but what the shutdowns of others would have made of the system by
themselves; but for its task, these are as far as they would be. -/
def LeavesNothing (o : System) (i : Nat) (r : Request) (trouble : Trouble) (s : System) : Prop :=
  ∃ t, Relation.ReflTransGen (Shuts i) o t ∧ o.scheduler.Undone t.scheduler r trouble s.scheduler ∧
    ∀ j, j ≠ i → t.clients j = s.clients j ∨ t.clients j = (s.clients j).without o.scheduler.freshId

theorem Reachable.leavesNothing (h : o.Reachable) (hclient : o.clients i = .submitting r .checking)
    (hrun : Relation.ReflTransGen (Calls i) (o.stepClient i) s)
    (hended : s.clients i = .submitting r (.ended (.error trouble))) : o.LeavesNothing i r trouble s := by
  cases hshutdown : o.scheduler.isShutdown with
  | true =>
    obtain ⟨hrefused, hfactory, hnext, t, ht, hagrees⟩ := h.refused hclient hshutdown hrun
    rw [hended] at hrefused
    cases hrefused
    refine ⟨t, ht, ?_, fun j hj => .inl (hagrees.clients_eq j hj).symm⟩
    have hfails := Fails.refused (r := r) hshutdown hfactory hnext
    rw [hagrees.scheduler_eq] at hfails ⊢
    exact ⟨hfails, fun _ => rfl, fun _ _ => rfl, .inl rfl, rfl, .inl ⟨rfl, rfl⟩, ⟨rfl, rfl, Nat.le_refl _⟩,
      ⟨rfl, rfl, rfl, rfl⟩⟩
  | false =>
    rcases h.exists_underway hclient hshutdown hrun with ⟨m, hm, hsucceeds⟩ | ⟨m, c, t, ht, hunder⟩
    · rw [hended] at hm
      cases hm
      cases hsucceeds
    · obtain rfl : m = .ended (.error trouble) := by
        have hm := hunder.client_eq
        rw [hended] at hm
        exact (Client.submitting.inj hm).2.symm
      exact ⟨t, ht, hunder.undone ((h.step (.client i)).calls hrun) hshutdown, fun j hj => .inr (hunder.others_eq j hj)⟩

end System

/-! ### Submissions with nothing in between -/

theorem Clock.refreshes_hold_release (c : Clock) : c.Refreshes c.hold.release where
  source_eq := source_release _
  holds_eq := by rw [holds_release, holds_hold, Nat.add_sub_cancel]
  cached_le := Nat.le_trans c.cached_le_cached_hold c.hold.cached_le_cached_release

/-- Whether a tick scheduler either accepts a submission and queues its task, or does nothing but read its clock. -/
structure TickScheduler.AllOrNothing (s : TickScheduler) (r : Request) : Prop where
  accepts_iff : (∃ id, (s.submit r.delay r.kind r.options).2 = .ok id) ↔ r.kind.isValid = true
  accepted (id : TaskId) : (s.submit r.delay r.kind r.options).2 = .ok id → id = ⟨s.backlog.nextId⟩ ∧
    (s.submit r.delay r.kind r.options).1.backlog = s.backlog.enlist s.clock.hold.cached r s.defaultPriority
  refused (trouble : Trouble) : (s.submit r.delay r.kind r.options).2 = .error trouble →
    trouble = .error .invalidPeriod ∧ s.clock.Refreshes (s.submit r.delay r.kind r.options).1.clock ∧
      (s.submit r.delay r.kind r.options).1 = { s with clock := (s.submit r.delay r.kind r.options).1.clock }

theorem TickScheduler.allOrNothing (s : TickScheduler) (r : Request) : s.AllOrNothing r := by
  cases hvalid : r.kind.isValid with
  | true =>
    have hsubmit := submit_of_valid (s := s) hvalid
    refine ⟨?_, fun id hid => ?_, fun trouble ht => ?_⟩
    · rw [hsubmit, hvalid]
      exact ⟨fun _ => rfl, fun _ => ⟨_, rfl⟩⟩
    · rw [hsubmit] at hid ⊢
      exact ⟨(Except.ok.inj hid).symm, rfl⟩
    · rw [hsubmit] at ht
      cases ht
  | false =>
    have hsubmit : s.submit r.delay r.kind r.options =
        ({ s with clock := s.clock.hold.release }, .error (.error .invalidPeriod)) := by
      rw [submit, accept_of_invalid hvalid]
    refine ⟨?_, fun id hid => ?_, fun trouble ht => ?_⟩
    · rw [hsubmit, hvalid]
      constructor
      · rintro ⟨id, hid⟩
        cases hid
      · intro htrue
        cases htrue
    · rw [hsubmit] at hid
      cases hid
    · rw [hsubmit] at ht ⊢
      exact ⟨(Except.error.inj ht).symm, s.clock.refreshes_hold_release, rfl⟩

namespace PooledScheduler

/-- What a submission with nothing in between is accepted for. -/
structure Accepts (s : PooledScheduler) (r : Request) : Prop where
  isShutdown_eq : s.isShutdown = false
  isValid : r.kind.isValid = true
  staffed : s.dispatcher.thread.isSome = true ∨ ∃ name, s.factory.spawn.2 = .ok name

/-- Whether a pooled scheduler either accepts a submission and queues its task, or does nothing but read its clock, draw
a number and ask its factory for a thread. -/
structure AllOrNothing (s : PooledScheduler) (r : Request) : Prop where
  accepts_iff : (∃ id, (s.submit r).2 = .ok id) ↔ s.Accepts r
  accepted (id : TaskId) : (s.submit r).2 = .ok id →
    id = s.freshId ∧ ∃ now, (s.submit r).1.backlog = s.backlog.enlist now r s.defaultPriority
  refused (trouble : Trouble) : (s.submit r).2 = .error trouble →
    s.Fails r (s.submit r).1 trouble ∧ s.clock.Refreshes (s.submit r).1.clock ∧
      (s.submit r).1 = { s with
        clock := (s.submit r).1.clock
        factory := (s.submit r).1.factory
        backlog := { s.backlog with nextId := (s.submit r).1.backlog.nextId } }

variable {s : PooledScheduler} {r : Request}

private theorem allOrNothing_of_error {t : PooledScheduler} {trouble : Trouble}
    (hsubmit : s.submit r = (t, .error trouble)) (hnot : ¬s.Accepts r) (hfails : s.Fails r t trouble)
    (hclock : s.clock.Refreshes t.clock) (heq : t = { s with
      clock := t.clock
      factory := t.factory
      backlog := { s.backlog with nextId := t.backlog.nextId } }) : s.AllOrNothing r where
  accepts_iff := by
    rw [hsubmit]
    exact ⟨nofun, fun haccepts => absurd haccepts hnot⟩
  accepted id hid := by
    rw [hsubmit] at hid
    cases hid
  refused trouble' ht := by
    rw [hsubmit] at ht ⊢
    cases ht
    exact ⟨hfails, hclock, heq⟩

private theorem allOrNothing_of_staffed {u : PooledScheduler} (haccepts : s.Accepts r)
    (hensure : s.built.ensureDispatcher = (u, .ok ())) : s.AllOrNothing r := by
  have hsubmit := submit_of_staffed haccepts.isShutdown_eq haccepts.isValid hensure
  refine ⟨?_, fun id hid => ?_, fun trouble ht => ?_⟩
  · rw [hsubmit]
    exact ⟨fun _ => haccepts, fun _ => ⟨_, rfl⟩⟩
  · rw [hsubmit] at hid ⊢
    exact ⟨(Except.ok.inj hid).symm, _, backlog_wakeDispatcher _⟩
  · rw [hsubmit] at ht
    cases ht

private theorem allOrNothing_of_valid (hopen : s.isShutdown = false) (hvalid : r.kind.isValid = true) :
    s.AllOrNothing r := by
  by_cases hthread : s.dispatcher.thread.isSome = true
  · exact allOrNothing_of_staffed ⟨hopen, hvalid, .inl hthread⟩ (ensureDispatcher_of_isSome hthread)
  · have hnone : s.dispatcher.thread = none := by simpa using hthread
    rcases hspawn : s.factory.spawn with ⟨factory, trouble | name⟩
    · have hensure := ensureDispatcher_of_spawn_error (s := s.built) hthread hopen hspawn
      refine allOrNothing_of_error (submit_of_unstaffed hopen hvalid hensure) (fun haccepts => ?_)
        (.unstaffed trouble hopen hvalid hnone hspawn rfl) s.clock.refreshes_now rfl
      rcases haccepts.staffed with hsome | ⟨name, hname⟩
      · exact hthread hsome
      · rw [hspawn] at hname
        cases hname
    · exact allOrNothing_of_staffed ⟨hopen, hvalid, .inr ⟨name, by rw [hspawn]⟩⟩
        (ensureDispatcher_of_spawn_ok hthread hopen hspawn)

theorem allOrNothing (s : PooledScheduler) (r : Request) : s.AllOrNothing r := by
  cases hopen : s.isShutdown with
  | true =>
    refine allOrNothing_of_error (submit_of_shutdown hopen r) (fun haccepts => ?_) (.refused hopen rfl rfl)
      ⟨rfl, rfl, Nat.le_refl _⟩ rfl
    have hnot := haccepts.isShutdown_eq
    rw [hopen] at hnot
    cases hnot
  | false =>
    cases hvalid : r.kind.isValid with
    | false =>
      refine allOrNothing_of_error (submit_of_invalid hopen hvalid) (fun haccepts => ?_) (.invalid hopen hvalid rfl rfl)
        s.clock.refreshes_now rfl
      have hnot := haccepts.isValid
      rw [hvalid] at hnot
      cases hnot
    | true => exact allOrNothing_of_valid hopen hvalid

end PooledScheduler

namespace System

variable {o s : System} {i : Nat} {r : Request}

/-- A submission that ends with a number has found the scheduler open, and its kind was valid. -/
theorem Reachable.accepted (h : o.Reachable) (hclient : o.clients i = .submitting r .checking)
    (hrun : Relation.ReflTransGen (Calls i) (o.stepClient i) s) {id : TaskId}
    (hended : s.clients i = .submitting r (.ended (.ok id))) :
    id = o.scheduler.freshId ∧ o.scheduler.isShutdown = false ∧ r.kind.isValid = true := by
  cases hshutdown : o.scheduler.isShutdown with
  | true =>
    have hrefused := (h.refused hclient hshutdown hrun).1
    rw [hended] at hrefused
    cases hrefused
  | false =>
    rcases h.exists_underway hclient hshutdown hrun with ⟨m, hm, hsucceeds⟩ | ⟨m, c, t, -, hunder⟩
    · rw [hended] at hm
      cases hm
      cases hsucceeds with
      | ended hvalid => exact ⟨rfl, rfl, hvalid⟩
    · have hm := hunder.client_eq
      rw [hended] at hm
      cases hm
      cases hunder.stands

/-- Every submission is accepted or leaves nothing, to either scheduler, and also to a pooled one that others shut down
meanwhile. -/
theorem Reachable.submission_all_or_nothing (h : o.Reachable) (tick : TickScheduler) (r : Request) :
    tick.AllOrNothing r ∧ o.scheduler.AllOrNothing r ∧
      ∀ (i : Nat) (s : System), o.clients i = .submitting r .checking →
        Relation.ReflTransGen (Calls i) (o.stepClient i) s →
          (∀ id, s.clients i = .submitting r (.ended (.ok id)) →
            id = o.scheduler.freshId ∧ o.scheduler.isShutdown = false ∧ r.kind.isValid = true) ∧
          ∀ trouble, s.clients i = .submitting r (.ended (.error trouble)) → o.LeavesNothing i r trouble s := by
  refine ⟨tick.allOrNothing r, o.scheduler.allOrNothing r, ?_⟩
  intro i s hclient hrun
  constructor
  · intro id hended
    exact h.accepted hclient hrun hended
  · intro trouble hended
    exact h.leavesNothing hclient hrun hended

private def immediately : Request := ⟨.zero, .oneTime, none, none⟩

private def submitting : System :=
  (System.start (.start (.manual 0)) 1 .zero (.plain "w") .bare .empty .high 0).withClient 0
    (.submitting immediately .checking)

/-- The submission has started the dispatcher and queued its task when a shutdown is requested; it sees that and
withdraws the task. -/
private def overtaken : System :=
  (submitting.stepClient 0).follow
    [.client 0, .client 0, .client 0, .shutDown 1 .discardPending, .client 1,
      .client 0, .client 0, .client 0, .client 0, .client 0]

theorem submission_all_or_nothing_overtaken : submitting.Reachable ∧
    submitting.clients 0 = .submitting immediately .checking ∧
    Relation.ReflTransGen (Calls 0) (submitting.stepClient 0) overtaken ∧
    overtaken.clients 0 = .submitting immediately (.ended (.error (.error .shutdown))) ∧
    overtaken.scheduler.dispatcher.thread = some "w" ∧ overtaken.scheduler.backlog.nextId = 1 ∧
    submitting.LeavesNothing 0 immediately (.error .shutdown) overtaken := by
  have hreachable : submitting.Reachable :=
    (Reachable.start (.start (.manual 0)) 1 .zero (.plain "w") .bare .empty .high 0).step (.submit 0 immediately rfl)
  have hrun : Relation.ReflTransGen (Calls 0) (submitting.stepClient 0) overtaken := by
    have hqueued := ((Relation.ReflTransGen.refl (r := Calls 0) (a := submitting.stepClient 0)).tail .goOn).tail .goOn
      |>.tail .goOn
    have hraised := (hqueued.tail (.beside (.request 1 .discardPending (by decide) rfl))).tail
      (.beside (.goOn 1 (.raising .discardPending) (by decide) rfl))
    exact ((((hraised.tail .goOn).tail .goOn).tail .goOn).tail .goOn).tail .goOn
  have hended : overtaken.clients 0 = .submitting immediately (.ended (.error (.error .shutdown))) := by cbv
  exact ⟨hreachable, rfl, hrun, hended, by decide +kernel, by decide +kernel,
    ((hreachable.submission_all_or_nothing default immediately).2.2 0 overtaken rfl hrun).2 _ hended⟩

end System

end TaskScheduling
