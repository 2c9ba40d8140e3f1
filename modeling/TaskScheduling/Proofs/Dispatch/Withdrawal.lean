import TaskScheduling.Proofs.Backlog.Tidy
import TaskScheduling.Proofs.Dispatch.Erasure

/-!
# The task of a submission that fails

A submission may be refused at once, fail after it has drawn a number, for want of a dispatcher, or withdraw a task that
it has queued already, since a shutdown has been requested meanwhile.  `Submission.Stands` is how things stand with its
task at each of its steps, while nobody but shutdowns interferes.

* `Submission.Stands.of_suffers`: a shutdown that comes across the task keeps it.
* `Submission.Stands.step`: the submission itself keeps it, and changes nothing but its task, until it is accepted.
-/

namespace TaskScheduling

open Backlog PooledScheduler

/-! ### Starting the dispatcher -/

namespace PooledScheduler

variable {s : PooledScheduler} {factory : ThreadFactory}

theorem ensureDispatcher_of_isSome (h : s.dispatcher.thread.isSome = true) : s.ensureDispatcher = (s, .ok ()) :=
  if_pos h

theorem ensureDispatcher_of_shutdown (h : ¬s.dispatcher.thread.isSome = true) (hshutdown : s.isShutdown = true) :
    s.ensureDispatcher = (s, .error (.error .shutdown)) := by
  rw [ensureDispatcher, if_neg h, if_pos hshutdown]

theorem ensureDispatcher_of_spawn_error {trouble : Trouble} (h : ¬s.dispatcher.thread.isSome = true)
    (hopen : s.isShutdown = false) (hspawn : s.factory.spawn = (factory, .error trouble)) :
    s.ensureDispatcher = ({ s with factory := factory }, .error trouble) := by
  rw [ensureDispatcher, if_neg h, if_neg (by simp [hopen]), hspawn]

theorem ensureDispatcher_of_spawn_ok {name : String} (h : ¬s.dispatcher.thread.isSome = true)
    (hopen : s.isShutdown = false) (hspawn : s.factory.spawn = (factory, .ok name)) :
    s.ensureDispatcher = ({ s with factory := factory, dispatcher := ⟨some name, true, false⟩ }, .ok ()) := by
  rw [ensureDispatcher, if_neg h, if_neg (by simp [hopen]), hspawn]

end PooledScheduler

/-! ### Who counts the task -/

/-- Who counts a task that is about to be withdrawn as cancelled. -/
inductive Claim where
  | nobody
  /-- The shutdown of a client, which has cancelled the task and not counted it yet. -/
  | client (j : Nat)
  | counted
  deriving DecidableEq

namespace Claim

/-- How often a client has cancelled the task without having counted it. -/
def share (c : Claim) (j : Nat) : Nat := if c = client j then 1 else 0

/-- How often the task has been counted. -/
def tally : Claim → Nat
  | counted => 1
  | _ => 0

theorem tally_le (c : Claim) : c.tally ≤ 1 := by
  unfold tally
  split <;> decide

/-- What becomes of the claim when a client has cancelled the task `n` times and counted it `k` times. -/
theorem exists_next {c : Claim} {j n k share' : Nat} (hone : n = 0 ∨ n = 1 ∧ k = 0 ∧ c = nobody)
    (hshare : share' + k = c.share j + n) :
    ∃ c', share' = c'.share j ∧ (∀ i, i ≠ j → c'.share i = c.share i) ∧ c'.tally = c.tally + k ∧
      (n = 0 → c = nobody → c' = nobody) := by
  rcases hone with rfl | ⟨rfl, rfl, rfl⟩
  · by_cases hk : k = 0
    · subst hk
      exact ⟨c, hshare, fun _ _ => rfl, rfl, fun _ hc => hc⟩
    -- only who holds the claim can count the task
    · have hclient : c = client j := by
        by_contra hne
        rw [share, if_neg hne] at hshare
        omega
      subst hclient
      rw [share, if_pos rfl] at hshare
      refine ⟨counted, ?_, fun i hi => ?_, ?_, nofun⟩
      · show share' = 0
        omega
      · simp [share, Ne.symm hi]
      · show 1 = 0 + k
        omega
  · refine ⟨client j, ?_, fun i hi => ?_, rfl, nofun⟩
    · rw [share, if_pos rfl]
      exact hshare
    · simp [share, Ne.symm hi]

end Claim

/-! ### How the task of a submission stands -/

/-- Whether a task has been cancelled and is in no queue, like one that was never entered. -/
structure Task.IsGone (t : Task) : Prop where
  state_eq : t.state = .cancelled
  slot_eq : t.slot = none

/-- Whether a task is pending and has not been claimed, or is gone already. -/
def Task.Awaits (t : Task) (c : Claim) : Prop := t.state = .pending ∧ c = .nobody ∨ t.IsGone

namespace PooledScheduler

/-- Whether a submission that has begun with the scheduler `o` has built its task, and whether its factory has at most
started the dispatcher since. -/
structure Draws (o : PooledScheduler) (r : Request) (s : PooledScheduler) : Prop where
  isShutdown_eq : o.isShutdown = false
  isValid : r.kind.isValid = true
  nextId_eq : s.backlog.nextId = o.backlog.nextId + 1
  factory : s.factory = o.factory ∨ o.dispatcher.thread = none ∧ ∃ name, o.factory.spawn = (s.factory, .ok name)

/-- Why a submission that has begun with the scheduler `o` fails, and whether it has drawn a number by then. -/
inductive Fails (o : PooledScheduler) (r : Request) (s : PooledScheduler) : Trouble → Prop where
  /-- The first look at the scheduler has found it shut down. -/
  | refused : o.isShutdown = true → s.factory = o.factory → s.backlog.nextId = o.backlog.nextId →
      Fails o r s (.error .shutdown)
  | invalid : o.isShutdown = false → r.kind.isValid = false → s.factory = o.factory →
      s.backlog.nextId = o.backlog.nextId → Fails o r s (.error .invalidPeriod)
  | unstaffed (trouble : Trouble) : o.isShutdown = false → r.kind.isValid = true → o.dispatcher.thread = none →
      o.factory.spawn = (s.factory, .error trouble) → s.backlog.nextId = o.backlog.nextId + 1 → Fails o r s trouble
  /-- A shutdown has been requested meanwhile. -/
  | overtaken : o.Draws r s → s.isShutdown = true → Fails o r s (.error .shutdown)

end PooledScheduler

namespace Submission

/-- How things stand with the task of a submission that has begun with the scheduler `o`, which was not shut down, and
has not been accepted: nobody has cancelled the task before it is queued, and when it has been withdrawn it is gone. -/
inductive Stands (o : PooledScheduler) (r : Request) (s : PooledScheduler) (c : Claim) : Submission → Prop where
  | building : s.factory = o.factory → s.backlog.nextId = o.backlog.nextId → s.backlog.task o.freshId = .absent →
      c = .nobody → Stands o r s c .building
  | preparing (t : Task) : t.id = o.freshId → o.Draws r s → s.factory = o.factory →
      s.backlog.task o.freshId = .absent → c = .nobody → Stands o r s c (.preparing t)
  | inserting (t : Task) : t.id = o.freshId → o.Draws r s → s.backlog.task o.freshId = .absent → c = .nobody →
      Stands o r s c (.inserting t)
  | rechecking : o.Draws r s → (s.backlog.task o.freshId).Awaits c → Stands o r s c (.rechecking o.freshId)
  /-- The task is pending until the submission or a shutdown cancels it. -/
  | claiming (m : Cancellation) : m = .looking ∨ m = .claiming .pending → o.Draws r s → s.isShutdown = true →
      (s.backlog.task o.freshId).Awaits c → Stands o r s c (.withdrawing o.freshId m)
  | unlinking : o.Draws r s → s.isShutdown = true → (s.backlog.task o.freshId).state = .cancelled →
      Stands o r s c (.withdrawing o.freshId .unlinking)
  | withdrawn (claimed : Bool) : o.Draws r s → s.isShutdown = true → (s.backlog.task o.freshId).IsGone →
      Stands o r s c (.withdrawing o.freshId (.ended claimed))
  | examining : o.Draws r s → s.isShutdown = true → (s.backlog.task o.freshId).IsGone →
      Stands o r s c (.examining o.freshId)
  | failed (trouble : Trouble) : o.Fails r s trouble → (s.backlog.task o.freshId).IsGone →
      c = .nobody ∨ trouble = .error .shutdown ∧ s.isShutdown = true → Stands o r s c (.ended (.error trouble))

/-- Whether a submission that has begun with the scheduler `o` has been accepted. -/
inductive Succeeds (o : PooledScheduler) (r : Request) : Submission → Prop where
  | counting : r.kind.isValid = true → Succeeds o r (.counting o.freshId)
  | waking : r.kind.isValid = true → Succeeds o r (.waking o.freshId)
  | ended : r.kind.isValid = true → Succeeds o r (.ended (.ok o.freshId))

variable {o u s s' : PooledScheduler} {r : Request} {c c' : Claim} {m : Submission} {n : Nat}

theorem Succeeds.step (h : Succeeds o r m) : Succeeds o r (m.step s r).2 := by
  cases h with
  | counting hvalid => exact .waking hvalid
  | waking hvalid => exact .ended hvalid
  | ended hvalid => exact .ended hvalid

namespace Stands

/-! ### While others shut down -/

private theorem isGone_of_suffers {t t' : Task} (h : t.IsGone) (hsuffers : t.Suffers t' n) : t'.IsGone ∧ n = 0 := by
  cases hsuffers with
  | spared => exact ⟨h, rfl⟩
  | taken => exact ⟨⟨h.state_eq, rfl⟩, rfl⟩
  | cancelled hstate _ => exact absurd (hstate.symm.trans h.state_eq) (by decide)

private theorem absent_of_suffers {t : Task} (hsuffers : Task.absent.Suffers t n) : t = .absent ∧ n = 0 := by
  cases hsuffers with
  | spared => exact ⟨rfl, rfl⟩
  | taken => exact ⟨rfl, rfl⟩
  | cancelled hstate _ => exact absurd hstate (by decide)

/-- A pending task has not been cancelled by anybody. -/
theorem eq_nobody (h : Stands o r s c m) (hpending : (s.backlog.task o.freshId).state = .pending) : c = .nobody := by
  have hgone (hg : (s.backlog.task o.freshId).IsGone) : c = .nobody :=
    absurd (hpending.symm.trans hg.state_eq) (by decide)
  cases h with
  | building _ _ _ hc => exact hc
  | preparing t _ _ _ _ hc => exact hc
  | inserting t _ _ _ hc => exact hc
  | rechecking _ hwaits => exact hwaits.elim And.right hgone
  | claiming m _ _ _ hwaits => exact hwaits.elim And.right hgone
  | unlinking _ _ hstate => exact absurd (hpending.symm.trans hstate) (by decide)
  | withdrawn claimed _ _ hg => exact hgone hg
  | examining _ _ hg => exact hgone hg
  | failed trouble _ hg _ => exact hgone hg

/-- A shutdown may cancel the task and take it out of its queue, and does nothing else that concerns the submission. -/
theorem of_suffers (h : Stands o r s c m) (hfactory : s'.factory = s.factory)
    (hnext : s'.backlog.nextId = s.backlog.nextId) (hshutdown : s.isShutdown = true → s'.isShutdown = true)
    (hsuffers : (s.backlog.task o.freshId).Suffers (s'.backlog.task o.freshId) n)
    (hclaim : n = 0 → c = .nobody → c' = .nobody) : Stands o r s' c' m := by
  have hdraws (hd : o.Draws r s) : o.Draws r s' :=
    ⟨hd.isShutdown_eq, hd.isValid, hnext.trans hd.nextId_eq, by rw [hfactory]; exact hd.factory⟩
  have habsent (ht : s.backlog.task o.freshId = .absent) :
      s'.backlog.task o.freshId = .absent ∧ (c = .nobody → c' = .nobody) := by
    rw [ht] at hsuffers
    exact ⟨(absent_of_suffers hsuffers).1, hclaim (absent_of_suffers hsuffers).2⟩
  have hgone (hg : (s.backlog.task o.freshId).IsGone) :
      (s'.backlog.task o.freshId).IsGone ∧ (c = .nobody → c' = .nobody) :=
    ⟨(isGone_of_suffers hg hsuffers).1, hclaim (isGone_of_suffers hg hsuffers).2⟩
  have hwaits (hw : (s.backlog.task o.freshId).Awaits c) : (s'.backlog.task o.freshId).Awaits c' := by
    rcases hw with ⟨hstate, hc⟩ | hg
    · generalize s'.backlog.task o.freshId = t' at hsuffers
      cases hsuffers with
      | spared => exact .inl ⟨hstate, hclaim rfl hc⟩
      | taken => exact .inl ⟨hstate, hclaim rfl hc⟩
      | cancelled _ hslot => exact .inr ⟨rfl, hslot⟩
    · exact .inr (hgone hg).1
  cases h with
  | building hf hn ht hc => exact .building (hfactory.trans hf) (hnext.trans hn) (habsent ht).1 ((habsent ht).2 hc)
  | preparing t hid hd hf ht hc =>
    exact .preparing t hid (hdraws hd) (hfactory.trans hf) (habsent ht).1 ((habsent ht).2 hc)
  | inserting t hid hd ht hc => exact .inserting t hid (hdraws hd) (habsent ht).1 ((habsent ht).2 hc)
  | rechecking hd hw => exact .rechecking (hdraws hd) (hwaits hw)
  | claiming m hm hd hs hw => exact .claiming m hm (hdraws hd) (hshutdown hs) (hwaits hw)
  | unlinking hd hs hstate =>
    refine .unlinking (hdraws hd) (hshutdown hs) ?_
    generalize s'.backlog.task o.freshId = t' at hsuffers
    cases hsuffers with
    | spared => exact hstate
    | taken => exact hstate
    | cancelled _ _ => rfl
  | withdrawn claimed hd hs hg => exact .withdrawn claimed (hdraws hd) (hshutdown hs) (hgone hg).1
  | examining hd hs hg => exact .examining (hdraws hd) (hshutdown hs) (hgone hg).1
  | failed trouble hf hg hc =>
    refine .failed trouble ?_ (hgone hg).1 (hc.imp (hgone hg).2 fun hlate => ⟨hlate.1, hshutdown hlate.2⟩)
    cases hf with
    | refused ho hf hn => exact .refused ho (hfactory.trans hf) (hnext.trans hn)
    | invalid ho hv hf hn => exact .invalid ho hv (hfactory.trans hf) (hnext.trans hn)
    | unstaffed trouble ho hv ht hspawn hn => exact .unstaffed trouble ho hv ht (hfactory ▸ hspawn) (hnext.trans hn)
    | overtaken hd hs => exact .overtaken (hdraws hd) (hshutdown hs)

/-! ### While the submission goes on -/

/-- What a step that goes on with the submission has to show. -/
private def Goes (o u : PooledScheduler) (r : Request) (c : Claim) (x : PooledScheduler × Submission) : Prop :=
  Stands o r x.1 c x.2 ∧ Beside o u c.tally x.1

private theorem goes_building (hbeside : Beside o u c.tally s) (ho : o.isShutdown = false)
    (hfactory : s.factory = o.factory) (hnext : s.backlog.nextId = o.backlog.nextId)
    (habsent : s.backlog.task o.freshId = .absent) (hc : c = .nobody) :
    Goes o u r c (Submission.building.step s r) := by
  have hclock : u.clock.Refreshes s.clock.now.2 := hbeside.clock.trans s.clock.refreshes_now
  simp only [Submission.step]
  split
  · next hvalid =>
    have hid : TaskId.mk s.backlog.nextId = o.freshId := by rw [hnext]; rfl
    refine ⟨.preparing _ hid ⟨ho, hvalid, congrArg (· + 1) hnext, .inl hfactory⟩ hfactory habsent hc, ?_⟩
    refine ⟨hbeside.backlog.of_others (fun _ _ => rfl) ?_, hbeside.stats_eq, hbeside.shutdown_eq, hbeside.staff,
      hclock, hbeside.settings_eq⟩
    rintro ⟨p, k⟩
    cases p <;> rfl
  · next hvalid =>
    refine ⟨.failed _ (.invalid ho (by simpa using hvalid) hfactory hnext) (habsent ▸ ⟨rfl, rfl⟩) (.inl hc), ?_⟩
    exact ⟨hbeside.backlog, hbeside.stats_eq, hbeside.shutdown_eq, hbeside.staff, hclock, hbeside.settings_eq⟩

private theorem goes_preparing {t : Task} (hbeside : Beside o u c.tally s) (ho : o.isShutdown = false)
    (hidle : u.isShutdown = false → u = o) (hid : t.id = o.freshId) (hdraws : o.Draws r s)
    (hfactory : s.factory = o.factory) (habsent : s.backlog.task o.freshId = .absent) (hc : c = .nobody) :
    Goes o u r c ((Submission.preparing t).step s r) := by
  have hgone : (s.backlog.task o.freshId).IsGone := habsent ▸ ⟨rfl, rfl⟩
  by_cases hthread : s.dispatcher.thread.isSome = true
  · simp only [Submission.step, ensureDispatcher_of_isSome hthread]
    exact ⟨.inserting t hid hdraws habsent hc, hbeside⟩
  · cases hshutdown : s.isShutdown with
    | true =>
      simp only [Submission.step, ensureDispatcher_of_shutdown hthread hshutdown]
      exact ⟨.failed _ (.overtaken hdraws hshutdown) hgone (.inl hc), hbeside⟩
    | false =>
      -- the shutdowns have done nothing yet, so that there has been no dispatcher from the beginning
      have hu : u = o := hidle (by rw [isShutdown, ← hbeside.shutdown_eq]; exact hshutdown)
      obtain ⟨hpool, hdispatcher⟩ : s.pool = o.pool ∧ s.dispatcher = o.dispatcher := by
        rcases hbeside.staff with hsame | ⟨-, hstarted, -⟩
        · rwa [hu] at hsame
        · exact absurd hstarted hthread
      have hnone : o.dispatcher.thread = none := by
        rw [← hdispatcher]
        simpa using hthread
      rcases hspawn : s.factory.spawn with ⟨factory, trouble | name⟩
      · simp only [Submission.step, ensureDispatcher_of_spawn_error hthread hshutdown hspawn]
        refine ⟨.failed _ (.unstaffed trouble ho hdraws.isValid hnone ?_ hdraws.nextId_eq) hgone (.inl hc), ?_⟩
        · rw [← hfactory, hspawn]
        · exact ⟨hbeside.backlog, hbeside.stats_eq, hbeside.shutdown_eq, hbeside.staff, hbeside.clock,
            hbeside.settings_eq⟩
      · simp only [Submission.step, ensureDispatcher_of_spawn_ok hthread hshutdown hspawn]
        have hstarted : o.dispatcher.thread = none ∧ ∃ name, o.factory.spawn = (factory, .ok name) :=
          ⟨hnone, name, by rw [← hfactory, hspawn]⟩
        refine ⟨.inserting t hid ⟨ho, hdraws.isValid, hdraws.nextId_eq, .inr hstarted⟩ habsent hc, ?_⟩
        exact ⟨hbeside.backlog, hbeside.stats_eq, hbeside.shutdown_eq, .inr ⟨hnone, rfl, rfl, hpool⟩, hbeside.clock,
          hbeside.settings_eq⟩

private theorem goes_inserting {t : Task} (hbeside : Beside o u c.tally s) (hkept : s.backlog.Kept) (hnew : t.IsNew)
    (hid : t.id = o.freshId) (hdraws : o.Draws r s) (habsent : s.backlog.task o.freshId = .absent)
    (hc : c = .nobody) : Goes o u r c ((Submission.inserting t).step s r) := by
  have hentered : (s.backlog.enter t).task o.freshId = t := by rw [task_enter, if_pos hid.symm]
  have hadd : (s.backlog.enter t).add o.freshId = .ok ((s.backlog.enter t).place o.freshId) :=
    add_eq_ok (by rw [hentered, hnew.slot_eq])
  have hlt : t.id.index < s.backlog.nextId := by
    rw [hid, hdraws.nextId_eq]
    exact Nat.lt_succ_self _
  have hkept' : (s.backlog.enter t).Kept :=
    hkept.enter hlt hnew.slot_eq hnew.isRecurring_of_immediate (by rw [hid, habsent]; rfl)
  simp only [Submission.step, hid, hadd]
  refine ⟨.rechecking ⟨hdraws.isShutdown_eq, hdraws.isValid, ?_, hdraws.factory⟩ (.inl ⟨?_, hc⟩),
    hbeside.withBacklog ?_⟩
  · rw [nextId_place]
    exact hdraws.nextId_eq
  · rw [state_place, hentered]
    exact hnew.state_eq
  · exact hbeside.backlog.enter_place hid hkept'

private theorem goes_looking (hbeside : Beside o u c.tally s) (hdraws : o.Draws r s) (hshutdown : s.isShutdown = true)
    (hawaits : (s.backlog.task o.freshId).Awaits c) :
    Goes o u r c ((Submission.withdrawing o.freshId .looking).step s r) := by
  simp only [Submission.step, Cancellation.step]
  rcases hawaits with ⟨hstate, hc⟩ | hgone
  · simp only [Cancellation.look, hstate]
    exact ⟨.claiming _ (.inr rfl) hdraws hshutdown (.inl ⟨hstate, hc⟩), hbeside⟩
  · simp only [Cancellation.look, hgone.state_eq]
    exact ⟨.withdrawn false hdraws hshutdown hgone, hbeside⟩

private theorem goes_claiming (hbeside : Beside o u c.tally s) (hdraws : o.Draws r s) (hshutdown : s.isShutdown = true)
    (hawaits : (s.backlog.task o.freshId).Awaits c) :
    Goes o u r c ((Submission.withdrawing o.freshId (.claiming .pending)).step s r) := by
  have hdraws' : Draws o r { s with backlog := (s.backlog.transition o.freshId .pending .cancelled).1 } :=
    ⟨hdraws.isShutdown_eq, hdraws.isValid, (nextId_transition ..).trans hdraws.nextId_eq, hdraws.factory⟩
  simp only [Submission.step, Cancellation.step]
  rcases hawaits with ⟨hstate, hc⟩ | hgone
  · rw [transition_of_state hstate]
    refine ⟨.unlinking hdraws' hshutdown ?_, hbeside.withBacklog (hbeside.backlog.transition_self _ _)⟩
    simp only [task_transition_self hstate]
  · rw [transition_of_state_ne (by rw [hgone.state_eq]; decide)]
    exact ⟨.claiming _ (.inl rfl) hdraws hshutdown (.inr hgone), hbeside⟩

private theorem goes_unlinking (hbeside : Beside o u c.tally s) (hkept : s.backlog.Kept) (hdraws : o.Draws r s)
    (hshutdown : s.isShutdown = true) (hstate : (s.backlog.task o.freshId).state = .cancelled) :
    Goes o u r c ((Submission.withdrawing o.freshId .unlinking).step s r) := by
  have hthins := Thins.remove s.backlog o.freshId
  refine ⟨.withdrawn true ⟨hdraws.isShutdown_eq, hdraws.isValid, ?_, hdraws.factory⟩ hshutdown
    ⟨?_, hkept.slot_remove o.freshId⟩, hbeside.withBacklog (hbeside.backlog.remove hkept)⟩
  · exact hthins.nextId_eq.trans hdraws.nextId_eq
  · exact (hthins.state_eq o.freshId).elim (fun hsame => hsame.trans hstate) And.left

/-- A submission that has not been accepted goes on. -/
theorem step (h : Stands o r s c m) (hbeside : Beside o u c.tally s) (ho : o.isShutdown = false)
    (hidle : u.isShutdown = false → u = o) (hkept : s.backlog.Kept) (hnew : ∀ t, m.draft? = some t → t.IsNew) :
    (m.step s r).2.Succeeds o r ∨ Goes o u r c (m.step s r) := by
  cases h with
  | building hfactory hnext habsent hc => exact .inr (goes_building hbeside ho hfactory hnext habsent hc)
  | preparing t hid hdraws hfactory habsent hc =>
    exact .inr (goes_preparing hbeside ho hidle hid hdraws hfactory habsent hc)
  | inserting t hid hdraws habsent hc =>
    exact .inr (goes_inserting hbeside hkept (hnew t rfl) hid hdraws habsent hc)
  | rechecking hdraws hawaits =>
    simp only [Submission.step]
    split
    · next hshutdown => exact .inr ⟨.claiming .looking (.inl rfl) hdraws hshutdown hawaits, hbeside⟩
    · exact .inl (.counting hdraws.isValid)
  | claiming m hm hdraws hshutdown hawaits =>
    rcases hm with rfl | rfl
    · exact .inr (goes_looking hbeside hdraws hshutdown hawaits)
    · exact .inr (goes_claiming hbeside hdraws hshutdown hawaits)
  | unlinking hdraws hshutdown hstate => exact .inr (goes_unlinking hbeside hkept hdraws hshutdown hstate)
  | withdrawn claimed hdraws hshutdown hgone =>
    cases claimed with
    | true =>
      exact .inr ⟨.failed _ (.overtaken hdraws hshutdown) hgone (.inr ⟨rfl, hshutdown⟩), hbeside⟩
    | false => exact .inr ⟨.examining hdraws hshutdown hgone, hbeside⟩
  | examining hdraws hshutdown hgone =>
    simp only [Submission.step, hgone.state_eq, ↓reduceIte]
    exact .inr ⟨.failed _ (.overtaken hdraws hshutdown) hgone (.inr ⟨rfl, hshutdown⟩), hbeside⟩
  | failed trouble hfails hgone hc => exact .inr ⟨.failed trouble hfails hgone hc, hbeside⟩

end Stands

end Submission

end TaskScheduling
