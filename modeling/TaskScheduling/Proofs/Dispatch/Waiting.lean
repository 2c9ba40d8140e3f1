import TaskScheduling.Proofs.Dispatch.Conservation
import TaskScheduling.Proofs.Dispatch.Parking
import TaskScheduling.Proofs.Dispatch.Phases
import TaskScheduling.Proofs.Dispatch.PoolUse
import TaskScheduling.Proofs.Dispatch.Signals
import TaskScheduling.Proofs.Dispatch.Turns

/-!
# Waiting for a worker

A dispatcher that the pool has answered `wait` parks until it is woken.  Whatever may change that answer wakes it: a
worker that becomes idle says so, and so does whoever changes the bound.  There is one exception (`System.Slips`): a
worker that is told to leave while it is idle, and is given a task before it goes, leaves when it has finished that
task.  Its place is free then, and nobody wakes the dispatcher.

Main statement: `System.Reachable.waits`.
-/

namespace TaskScheduling

namespace Pool

variable {p q : Pool} {priority : Priority}

/-- Whether the pool answers `wait` to a task of this priority, whatever the time is. -/
def Denies (p : Pool) (priority : Priority) : Prop :=
  ∀ dueSince now lowWait, (p.acquire priority dueSince now lowWait).2 = .wait

theorem denies_iff : p.Denies priority ↔
    p.stopping = true ∨ p.idle = [] ∧ (p.canGrow = false ∨ priority = .starvable ∧ p.size ≠ 0) :=
  ⟨fun h => acquire_eq_wait_iff.1 (h 0 0 0), fun h _ _ _ => acquire_eq_wait_iff.2 h⟩

theorem denies_of_acquire {dueSince now lowWait : Nat} (h : (p.acquire priority dueSince now lowWait).2 = .wait) :
    p.Denies priority := denies_iff.2 (acquire_eq_wait_iff.1 h)

/-- What is denied to high work is denied to all. -/
theorem Denies.of_high (h : p.Denies .high) (priority : Priority) : p.Denies priority := by
  refine denies_iff.2 ((denies_iff.1 h).imp_right fun ⟨hidle, hroom⟩ => ⟨hidle, .inl ?_⟩)
  exact hroom.resolve_right fun hstarvable => by cases hstarvable.1

theorem denies_stop (p : Pool) (priority : Priority) : p.stop.Denies priority := denies_iff.2 (.inl rfl)

/-- Both pools have the same to offer. -/
structure LooksLike (p q : Pool) : Prop where
  stopping_eq : q.stopping = p.stopping
  idle_eq : q.idle = p.idle
  size_eq : q.size = p.size
  maxSize_eq : q.maxSize = p.maxSize

theorem LooksLike.refl (p : Pool) : p.LooksLike p := ⟨rfl, rfl, rfl, rfl⟩

theorem Denies.congr (h : p.Denies priority) (hlike : p.LooksLike q) : q.Denies priority := by
  rw [denies_iff] at h ⊢
  rwa [hlike.stopping_eq, hlike.idle_eq, canGrow, hlike.size_eq, hlike.maxSize_eq]

/-- Where there are too many workers, the place of one that leaves is not free. -/
theorem Denies.removeWorker (h : p.Denies priority) {k : Nat} (hexcess : p.stopping = true ∨ p.maxSize < p.size) :
    (p.removeWorker k).Denies priority := by
  rw [denies_iff] at h ⊢
  rcases hexcess with hstopping | hexcess
  · exact .inl hstopping
  · refine h.imp_right fun ⟨hidle, _⟩ => ⟨?_, .inl ?_⟩
    · simp only [Pool.removeWorker, hidle]
      split <;> rfl
    · have hsize : p.size - 1 ≤ (p.removeWorker k).size := by
        simp only [Pool.removeWorker]
        split <;> omega
      have hbound : (p.removeWorker k).maxSize = p.maxSize := rfl
      rw [canGrow, decide_eq_false_iff_not]
      omega

end Pool

/-- A worker that neither gives itself back nor retires leaves the pool with what it has to offer. -/
theorem WorkerPhase.looksLike_step (p : Pool) (k now : Nat) {phase : WorkerPhase} (hreleasing : phase ≠ releasing)
    (hretiring : ∀ idleSince, phase ≠ retiring idleSince) : p.LooksLike (phase.step p k now).1 := by
  cases phase with
  | fetching idleSince =>
    have hlike : p.LooksLike (p.takeTask k).1 := by
      unfold Pool.takeTask
      split <;> exact ⟨rfl, rfl, rfl, rfl⟩
    simp only [step]
    rcases htake : p.takeTask k with ⟨q, _ | id⟩ <;> rw [htake] at hlike <;> exact hlike
  | releasing => exact absurd rfl hreleasing
  | retiring idleSince => exact absurd rfl (hretiring idleSince)
  | deciding idleSince =>
    simp only [step]
    split <;> exact .refl p
  | parked idleSince until? =>
    simp only [step]
    split
    · exact ⟨rfl, rfl, rfl, rfl⟩
    · split <;> exact .refl p
  | finished => exact ⟨rfl, rfl, rfl, rfl⟩
  | _ => exact .refl p

/-- The dispatcher parks for want of a worker when the pool has denied it one. -/
theorem Dispatcher.of_step_eq_parked {s : PooledScheduler} {d : Dispatcher} {until? : Option Nat} {id : TaskId}
    (h : (d.step s).2 = parked until? (.worker id)) :
    d = parked until? (.worker id) ∧ s.dispatcher.woken = false ∨
      (d.step s).1.backlog = s.backlog ∧ (d.step s).1.pool.Denies (s.backlog.task id).priority := by
  have hgoes := d.goes_step s
  generalize d.step s = next at h hgoes ⊢
  cases hgoes with
  | awaitWorker j now lowWait p hacquire =>
    cases h
    have hwait : (s.pool.acquire (s.backlog.task id).priority (s.backlog.task id).runAt now lowWait).2 = .wait := by
      rw [hacquire]
    have hsame : p = s.pool := by
      have hfst := Pool.acquire_fst_of_wait hwait
      rwa [hacquire] at hfst
    rw [hsame]
    exact .inr ⟨rfl, Pool.denies_of_acquire hwait⟩
  | sleep other reason hwoken => exact .inl ⟨h, hwoken⟩
  | _ => cases h

namespace System

variable {s s' : System} {id : TaskId}

/-- The dispatcher is parked because there was no worker for the task, and has not been woken. -/
structure Waits (s : System) (id : TaskId) : Prop where
  parked : ∃ until?, s.dispatcher = some (.parked until? (.worker id))
  woken_eq : s.scheduler.dispatcher.woken = false

/-- Whether the pool still has no worker for the task. -/
def Denied (s : System) (id : TaskId) : Prop := s.pool.Denies (s.backlog.task id).priority

/-- A worker that was told to leave while it was idle leaves after the task that it was given before it went, although
there are not too many workers. -/
def Slips (s s' : System) : Prop :=
  ∃ k now, s.threads k = some (.acting .releasing) ∧ s.pool.isDismissed k = true ∧ s.pool.stopping = false ∧
    s.pool.size ≤ s.pool.maxSize ∧ s' = s.stepWorker k .releasing now

/-- Whether such a worker has left since the dispatcher parked. -/
def Slipped (s : System) (id : TaskId) : Prop :=
  ∃ t t', Reachable t ∧ t.Waits id ∧ t.Slips t' ∧ Relation.ReflTransGen (fun a b => Step a b ∧ b.Waits id) t' s

namespace Denied

/-- The priority of a task never changes, and while it has not been entered it counts as high. -/
theorem mono (h : s.Denied id) (hs : s.Sound) (hstep : Step s s')
    (hpool : ∀ priority, s.pool.Denies priority → s'.pool.Denies priority) : s'.Denied id := by
  have hlead := hs.step hstep
  rcases hs.eq_absent_or_born id with habsent | hborn
  · have hhigh : s.pool.Denies .high := by
      have h' : s.pool.Denies (s.backlog.task id).priority := h
      rwa [habsent] at h'
    exact (hpool _ hhigh).of_high _
  · have hpriority := Task.priority_eq_of_identity (hlead.stays id hborn).identity_eq
    show s'.pool.Denies (s'.backlog.task id).priority
    rw [hpriority]
    exact hpool _ h

end Denied

namespace Waits

/-- A dispatcher that waits has waited before, or it has just been denied a worker. -/
theorem of_step (h : s'.Waits id) (hs : Reachable s) (hstep : Step s s') : s.Waits id ∨ s'.Denied id := by
  obtain ⟨until?, hparked⟩ := h.parked
  cases hs.isRecorded.concerns hstep with
  | tells hsame htells => exact .inl ⟨hsame ▸ h.parked, htells.woken_eq_false h.woken_eq⟩
  | starts i _ hnow _ =>
    rw [hparked] at hnow
    cases hnow
  | goesOn d now hd =>
    have hnext : (d.step s.scheduler).2 = .parked until? (.worker id) := Option.some.inj hparked
    rcases Dispatcher.of_step_eq_parked hnext with ⟨rfl, hwoken⟩ | ⟨hbacklog, hdenies⟩
    · exact .inl ⟨⟨until?, hd⟩, hwoken⟩
    · right
      show (d.step s.scheduler).1.pool.Denies ((d.step s.scheduler).1.backlog.task id).priority
      rw [hbacklog]
      exact hdenies
  | becomes d d' _ hbecomes => cases hbecomes <;> cases hparked

/-- A worker that announces itself wakes the dispatcher. -/
theorem woken_announcing (h : s.Waits id) (hs : Reachable s) (k now : Nat) :
    (s.stepWorker k .announcing now).scheduler.dispatcher.woken = true := by
  obtain ⟨until?, hparked⟩ := h.parked
  refine PooledScheduler.woken_wakeDispatcher ?_
  rw [hs.isRecorded.thread_isSome, hparked]
  rfl

/-- As long as the dispatcher waits, a worker that is about to announce itself still is. -/
theorem announcing_step (h : s.Waits id) (h' : s'.Waits id) (hs : Reachable s) (hstep : Step s s') {k : Nat}
    (ht : s.threads k = some (.acting .announcing)) : s'.threads k = some (.acting .announcing) := by
  rcases hstep.thread_cases hs.isStaffed ht with hstill | ⟨phase, hphase, hmoves⟩ | ⟨_, _, hexecuting, -⟩
  · exact hstill
  · cases hphase
    rcases hmoves with ⟨_, _, hparked⟩ | ⟨now, rfl⟩
    · cases hparked
    · have hwoken := h.woken_announcing hs k now
      rw [h'.woken_eq] at hwoken
      cases hwoken
  · cases hexecuting

/-- A worker that is not busy does not leave the pool while there is nobody idle, unless the pool is stopping. -/
private theorem retire_eq (h : s.Waits id) (hs : Reachable s) {k idleSince : Nat}
    (ht : s.threads k = some (.acting (.retiring idleSince))) (hstopping : s.pool.stopping = false)
    (hidle : s.pool.idle = []) : s.pool.retire k = (s.pool, false) := by
  obtain ⟨until?, hparked⟩ := h.parked
  have htask := hs.isSome_task? ht (by simp) rfl hstopping (by simp [hidle]) (by simp [hparked, Dispatcher.reserved])
  rcases s.pool.retire_cases k with ⟨-, hin | hnone⟩ | heq
  · rw [hidle] at hin
    cases hin
  · rw [hnone] at htask
    cases htask
  · exact heq

/-- What a step of a worker does to a pool that denies a worker. -/
private theorem denied_stepWorker (h : s.Waits id) (hs : Reachable s) (hdenied : s.Denied id) {k : Nat}
    {phase : WorkerPhase} (ht : s.threads k = some (.acting phase)) (now : Nat) :
    (s.stepWorker k phase now).Denied id ∨ (s.stepWorker k phase now).threads k = some (.acting .announcing) ∨
      s.Slips (s.stepWorker k phase now) := by
  have hpool := s.pool_stepWorker k phase now
  have hthreads := s.threads_stepWorker k phase now
  have hmono := hdenied.mono hs.sound (.worker k phase now ht)
  cases phase with
  | releasing =>
    by_cases hexcess : s.pool.stopping = true ∨ s.pool.maxSize < s.pool.size
    · left
      have hrelease : s.pool.release k = (s.pool.removeWorker k, false) := by
        unfold Pool.release
        rw [if_pos (by rcases hexcess with hstopping | hexcess <;> simp [*])]
      refine hmono fun priority hdenies => ?_
      rw [hpool, WorkerPhase.step, hrelease]
      exact hdenies.removeWorker hexcess
    · obtain ⟨hstopping, hroom⟩ := not_or.1 hexcess
      right
      cases hdismissed : s.pool.isDismissed k with
      | true => exact .inr ⟨k, now, ht, hdismissed, Bool.eq_false_iff.2 hstopping, Nat.not_lt.1 hroom, rfl⟩
      | false =>
        left
        have hrelease : s.pool.release k = ({ s.pool with idle := k :: s.pool.idle }, true) := by
          unfold Pool.release
          rw [if_neg (by simp [*])]
        rw [hthreads, WorkerPhase.step, hrelease, Function.update_self]
        rfl
  | retiring idleSince =>
    left
    refine hmono fun priority hdenies => ?_
    rw [hpool]
    cases hstopping : s.pool.stopping with
    | true =>
      simp only [WorkerPhase.step]
      rcases s.pool.retire_cases k with ⟨heq, -⟩ | heq <;> rw [heq]
      · exact hdenies.removeWorker (.inl hstopping)
      · exact hdenies
    | false =>
      obtain ⟨hidle, -⟩ := (Pool.denies_iff.1 hdenied).resolve_left (by rw [hstopping]; exact Bool.false_ne_true)
      rw [WorkerPhase.step, h.retire_eq hs ht hstopping hidle]
      exact hdenies
  | _ =>
    left
    refine hmono fun priority hdenies => hdenies.congr ?_
    rw [hpool]
    exact WorkerPhase.looksLike_step s.pool k now (by simp) (by simp)

/-- As long as nobody wakes the dispatcher, it is denied a worker, unless one of them slips away. -/
theorem denied_step (h : s.Waits id) (h' : s'.Waits id) (hs : Reachable s) (hdenied : s.Denied id)
    (hstep : Step s s') :
    s'.Denied id ∨ (∃ k, s'.threads k = some (.acting .announcing)) ∨ s.Slips s' := by
  obtain ⟨until?, hparked⟩ := h.parked
  have hmono := hdenied.mono hs.sound hstep
  have hsame (hpool : s'.pool = s.pool) : s'.Denied id := hmono fun priority hdenies => hpool ▸ hdenies
  cases hstep with
  | client i =>
    left
    rcases (s.clients i).pool_step s.scheduler with hpool | hpool
    · exact hsame hpool
    · refine hmono fun priority _ => ?_
      rw [show (s.stepClient i).pool = s.pool.stop from hpool]
      exact Pool.denies_stop s.pool priority
  | dispatcher d now hd =>
    obtain rfl := Option.some.inj (hd.symm.trans hparked)
    refine .inl (hsame ?_)
    simp only [System.stepDispatcher, Dispatcher.step]
    split
    · rfl
    · split <;> rfl
  | worker k phase now ht =>
    rcases h.denied_stepWorker hs hdenied ht now with hstill | hannounces | hslips
    · exact .inl hstill
    · exact .inr (.inl ⟨k, hannounces⟩)
    · exact .inr (.inr hslips)
  | execution k j e name _ => exact .inl (hsame (e.pool_step s.scheduler j name))
  | setMaxPoolSize n =>
    have hwoken : (s.scheduler.setMaxPoolSize n).dispatcher.woken = true := by
      refine PooledScheduler.woken_wakeDispatcher ?_
      show s.scheduler.dispatcher.thread.isSome = true
      rw [hs.isRecorded.thread_isSome, hparked]
      rfl
    have hasleep : (s.scheduler.setMaxPoolSize n).dispatcher.woken = false := h'.woken_eq
    rw [hwoken] at hasleep
    cases hasleep
  | setLowWait d => exact .inl (hsame (s.scheduler.pool_setLowWait d))
  | setKeepAlive d => exact .inl (hmono fun priority hdenies => hdenies.congr ⟨rfl, rfl, rfl, rfl⟩)
  | interruptAll => exact .inl (hmono fun priority hdenies => hdenies.congr ⟨rfl, rfl, rfl, rfl⟩)
  | _ => exact .inl (hsame rfl)

/-- A worker that slips away leaves its place to everybody but the starvable tasks of which others take care. -/
theorem denied_iff_of_slips (h : s.Waits id) (hs : Reachable s) (hdenied : s.Denied id) (hslips : s.Slips s') :
    s'.Waits id ∧ (s'.Denied id ↔ (s.backlog.task id).priority = .starvable ∧ s.pool.size ≠ 1) := by
  obtain ⟨k, now, ht, hdismissed, hstopping, hroom, rfl⟩ := hslips
  refine ⟨⟨h.parked, h.woken_eq⟩, ?_⟩
  have hreg : s.pool.isRegistered k = true := ((hs.isStaffed k).isRegistered_iff _ ht).2 (by simp)
  have hrelease : s.pool.release k = (s.pool.removeWorker k, false) := by
    unfold Pool.release
    rw [if_pos (by simp [hdismissed])]
  have hpool : (s.stepWorker k .releasing now).pool = s.pool.removeWorker k := by
    rw [pool_stepWorker, WorkerPhase.step, hrelease]
  obtain ⟨hidle, -⟩ := (Pool.denies_iff.1 hdenied).resolve_left (by rw [hstopping]; exact Bool.false_ne_true)
  have hpos : 0 < s.pool.size := by
    refine Nat.pos_of_ne_zero fun hzero => ?_
    rw [hs.isRegistered_eq_false hzero k] at hreg
    cases hreg
  have hsize : (s.pool.removeWorker k).size = s.pool.size - 1 := by simp only [Pool.removeWorker, hreg, ↓reduceIte]
  have hidle' : (s.pool.removeWorker k).idle = [] := by
    simp only [Pool.removeWorker, hidle]
    split <;> rfl
  have hgrow : (s.pool.removeWorker k).canGrow = true := by
    have hbound : (s.pool.removeWorker k).maxSize = s.pool.maxSize := rfl
    simp only [Pool.canGrow, hsize, hbound, decide_eq_true_eq]
    omega
  have hgoing : (s.pool.removeWorker k).stopping = false := hstopping
  show (s.stepWorker k .releasing now).pool.Denies (s.backlog.task id).priority ↔ _
  rw [hpool, Pool.denies_iff, hgoing, hidle', hgrow, hsize]
  simp only [Bool.false_eq_true, false_or, true_and, Bool.true_eq_false, and_congr_right_iff]
  intro _
  omega

end Waits

/-- While the dispatcher is parked for want of a worker and has not been woken, there is none for the task, or one is
about to announce itself, which will wake it; the one exception is that a worker has slipped away.  That leaves the
dispatcher asleep, with a free place for the task unless it is starvable and there are other workers. -/
theorem Reachable.waits (h : Reachable s) (hw : s.Waits id) :
    (s.Denied id ∨
      (∃ k, s.threads k = some (.acting .announcing) ∧
        ∀ now, (s.stepWorker k .announcing now).scheduler.dispatcher.woken = true) ∨
      s.Slipped id) ∧
    ∀ s', s.Denied id → s.Slips s' →
      s'.Waits id ∧ (s'.Denied id ↔ (s.backlog.task id).priority = .starvable ∧ s.pool.size ≠ 1) := by
  refine ⟨?_, fun s' hdenied hslips => hw.denied_iff_of_slips h hdenied hslips⟩
  induction h with
  | start clock maxSize keepAlive factory router sink defaultPriority lowWait =>
    obtain ⟨until?, hparked⟩ := hw.parked
    cases hparked
  | @step t t' ht hstep ih =>
    have hannounces {k : Nat} (hk : t'.threads k = some (.acting .announcing)) :
        ∃ k, t'.threads k = some (.acting .announcing) ∧
          ∀ now, (t'.stepWorker k .announcing now).scheduler.dispatcher.woken = true :=
      ⟨k, hk, hw.woken_announcing (ht.step hstep) k⟩
    rcases hw.of_step ht hstep with hold | hdenied
    · rcases ih hold with hdenied | ⟨k, hk, -⟩ | ⟨r, r', hr, hrw, hslips, hrun⟩
      · rcases hold.denied_step hw ht hdenied hstep with hstill | ⟨k, hk⟩ | hslips
        · exact .inl hstill
        · exact .inr (.inl (hannounces hk))
        · exact .inr (.inr ⟨t, t', ht, hold, hslips, .refl⟩)
      · exact .inr (.inl (hannounces (hold.announcing_step hw ht hstep hk)))
      · exact .inr (.inr ⟨r, r', hr, hrw, hslips, hrun.tail ⟨hstep, hw⟩⟩)
    · exact .inl hdenied

private def submission : List Turn := .submit 0 ⟨.zero, .oneTime, none, none⟩ :: .replicate 7 (.client 0)

/-- Two workers have a task each.  The second becomes idle, is told to leave because the bound is lowered, and is given
the third task before it has gone.  The bound is raised again, and the dispatcher waits with the fourth task for a
worker while the second is about to finish. -/
private def slipping : System :=
  (start (.start (.manual 0)) 2 .zero (.plain "w") .bare .empty .high 0).follow <| List.flatten
    [submission, .replicate 11 .dispatcher, submission, .replicate 11 .dispatcher, .replicate 11 (.worker 1),
      [.setMaxPoolSize 1], submission, .replicate 8 .dispatcher, [.setMaxPoolSize 2], submission,
      .replicate 11 .dispatcher, .replicate 9 (.worker 1)]

/-- The second worker leaves, and nobody starts another one for the fourth task. -/
theorem waits_slipping : Reachable slipping ∧ slipping.Waits ⟨3⟩ ∧ slipping.Denied ⟨3⟩ ∧
    slipping.Slips (slipping.stepWorker 1 .releasing 0) ∧ (slipping.stepWorker 1 .releasing 0).Waits ⟨3⟩ ∧
    ¬(slipping.stepWorker 1 .releasing 0).Denied ⟨3⟩ := by
  have hreachable : Reachable slipping :=
    (Reachable.start (.start (.manual 0)) 2 .zero (.plain "w") .bare .empty .high 0).follow _
  have hwaits : slipping.Waits ⟨3⟩ := ⟨⟨none, by decide +kernel⟩, by decide +kernel⟩
  have hdenied : slipping.Denied ⟨3⟩ := Pool.denies_iff.2 (by decide +kernel)
  have hslips : slipping.Slips (slipping.stepWorker 1 .releasing 0) :=
    ⟨1, 0, by decide +kernel, by decide +kernel, by decide +kernel, by decide +kernel, rfl⟩
  obtain ⟨hstill, hiff⟩ := (hreachable.waits hwaits).2 _ hdenied hslips
  have hhigh : (slipping.backlog.task ⟨3⟩).priority = .high := by decide +kernel
  refine ⟨hreachable, hwaits, hdenied, hslips, hstill, fun hnow => ?_⟩
  have hstarvable := (hiff.1 hnow).1
  rw [hhigh] at hstarvable
  cases hstarvable

end System

end TaskScheduling
