import TaskScheduling.Proofs.Dispatch.Crew
import TaskScheduling.Proofs.Pool.Accounting

/-!
# How a system uses its pool

The dispatcher and the workers of a system use the pool as its books have it (`PoolUse.Step`): in every system that
comes about there are books for the pool that agree with what the dispatcher and the workers are about
(`System.Reachable.exists_keeps`).  So what is known of the books is known of every system.
-/

namespace TaskScheduling

namespace Dispatcher

/-- The places that the dispatcher was promised and in which it has not entered anybody yet. -/
def promised : Dispatcher → Nat
  | registering _ => 1
  | _ => 0

/-- The workers whose threads the dispatcher is about to start. -/
def starting : Dispatcher → List Nat
  | spawning _ k => [k]
  | _ => []

def reserved : Dispatcher → List Nat
  | spawned _ k _ => [k]
  | unlinking _ k => [k]
  | claiming _ k => [k]
  | handing _ k => [k]
  | releasing k => [k]
  | _ => []

end Dispatcher

namespace System

/-- The books agree with what the dispatcher and the workers are about. -/
structure Keeps (s : System) (u : PoolUse) : Prop where
  reachable : u.Reachable
  pool_eq : u.pool = s.pool
  promised_eq : u.promised = s.dispatcher.elim 0 Dispatcher.promised
  reserved_eq : u.reserved = s.dispatcher.elim [] Dispatcher.reserved
  running_eq (k : Nat) : u.running k = (s.threads k).any WorkerThread.isBusy
  /-- If starting a thread makes the dispatcher fail, its worker is never started. -/
  starting_subset : s.dispatcher.elim [] Dispatcher.starting ⊆ u.starting
  threads_eq_none (k : Nat) : k ∈ u.starting → s.threads k = none

namespace Keeps

variable {s s' : System} {u : PoolUse}

/-- A step that takes no part in the pool. -/
theorem of_same (h : s.Keeps u) (hpool : s'.pool = s.pool)
    (hpromised : s'.dispatcher.elim 0 Dispatcher.promised = s.dispatcher.elim 0 Dispatcher.promised)
    (hreserved : s'.dispatcher.elim [] Dispatcher.reserved = s.dispatcher.elim [] Dispatcher.reserved)
    (hstarting : s'.dispatcher.elim [] Dispatcher.starting ⊆ s.dispatcher.elim [] Dispatcher.starting)
    (hthreads : ∀ k, (s'.threads k).map WorkerThread.isBusy = (s.threads k).map WorkerThread.isBusy) :
    s'.Keeps u where
  reachable := h.reachable
  pool_eq := by rw [hpool, h.pool_eq]
  promised_eq := by rw [hpromised, h.promised_eq]
  reserved_eq := by rw [hreserved, h.reserved_eq]
  running_eq k := by
    rw [h.running_eq]
    have hk := hthreads k
    cases ht : s.threads k <;> cases ht' : s'.threads k <;> simp_all
  starting_subset := List.Subset.trans hstarting h.starting_subset
  threads_eq_none k hk := by
    have hthread := hthreads k
    rw [h.threads_eq_none k hk] at hthread
    simpa using hthread

/-- A step that takes no part in the pool and leaves the dispatcher to what it is about. -/
theorem of_thread (h : s.Keeps u) (hpool : s'.pool = s.pool) (hd : s'.dispatcher = s.dispatcher)
    (hthreads : ∀ k, (s'.threads k).map WorkerThread.isBusy = (s.threads k).map WorkerThread.isBusy) : s'.Keeps u :=
  h.of_same hpool (by rw [hd]) (by rw [hd]) (by rw [hd]; exact List.Subset.refl _) hthreads

/-- The pool is used, but not by the dispatcher or a worker. -/
theorem of_pool (h : s.Keeps u) (hstep : u.Step (u.withPool s'.pool)) (hd : s'.dispatcher = s.dispatcher)
    (hthreads : s'.threads = s.threads) : s'.Keeps (u.withPool s'.pool) where
  reachable := h.reachable.step hstep
  pool_eq := rfl
  promised_eq := by rw [hd]; exact h.promised_eq
  reserved_eq := by rw [hd]; exact h.reserved_eq
  running_eq k := by rw [hthreads]; exact h.running_eq k
  starting_subset := by rw [hd]; exact h.starting_subset
  threads_eq_none k hk := by rw [hthreads]; exact h.threads_eq_none k hk

/-! ### Steps of the dispatcher -/

/-- The dispatcher goes on without using the pool. -/
private theorem of_dispatcher (h : s.Keeps u) {d next : Dispatcher} (hd : s.dispatcher = some d)
    (hd' : s'.dispatcher = some next) (hpool : s'.pool = s.pool) (hthreads : s'.threads = s.threads)
    (hpromised : next.promised = d.promised) (hreserved : next.reserved = d.reserved)
    (hstarting : next.starting ⊆ d.starting) : s'.Keeps u :=
  h.of_same hpool (by rw [hd, hd']; exact hpromised) (by rw [hd, hd']; exact hreserved)
    (by rw [hd, hd']; exact hstarting) fun k => by rw [hthreads]

/-- The dispatcher uses the pool, without starting anybody. -/
private theorem of_use (h : s.Keeps u) {u' : PoolUse} {next : Dispatcher} (hstep : u.Step u')
    (hd' : s'.dispatcher = some next) (hpool : u'.pool = s'.pool) (hthreads : s'.threads = s.threads)
    (hpromised : u'.promised = next.promised) (hreserved : u'.reserved = next.reserved)
    (hrunning : u'.running = u.running) (hstarting : next.starting ⊆ u'.starting)
    (hunstarted : ∀ k ∈ u'.starting, s.threads k = none) : s'.Keeps u' where
  reachable := h.reachable.step hstep
  pool_eq := hpool
  promised_eq := by rw [hd']; exact hpromised
  reserved_eq := by rw [hd']; exact hreserved
  running_eq k := by rw [hrunning, hthreads]; exact h.running_eq k
  starting_subset := by rw [hd']; exact hstarting
  threads_eq_none k hk := by rw [hthreads]; exact hunstarted k hk

/-- The dispatcher asks for a worker. -/
private theorem acquiring (h : s.Keeps u) {id : TaskId} {asked lowWait : Nat}
    (hd : s.dispatcher = some (.acquiring id asked lowWait)) (now : Nat) :
    ∃ u', (s.stepDispatcher (.acquiring id asked lowWait) now).Keeps u' := by
  have hpromised := h.promised_eq
  have hreserved := h.reserved_eq
  rw [hd] at hpromised hreserved
  simp only [Option.elim_some, Dispatcher.promised, Dispatcher.reserved] at hpromised hreserved
  have hstep : u.Step _ := .acquire (s.backlog.task id).priority (s.backlog.task id).runAt asked lowWait
  unfold PoolUse.acquire at hstep
  simp only [System.stepDispatcher, Dispatcher.step]
  rcases hacquire : s.scheduler.pool.acquire (s.scheduler.backlog.task id).priority
    (s.scheduler.backlog.task id).runAt asked lowWait with ⟨p, answer⟩
  rw [h.pool_eq, show s.pool.acquire (s.backlog.task id).priority (s.backlog.task id).runAt asked lowWait = _ from
    hacquire] at hstep
  cases answer with
  | idle k =>
    exact ⟨_, h.of_use hstep rfl rfl rfl hpromised (by rw [hreserved]; rfl) rfl (List.nil_subset _) h.threads_eq_none⟩
  | grow =>
    exact ⟨_, h.of_use hstep rfl rfl rfl (by rw [hpromised]; rfl) hreserved rfl (List.nil_subset _) h.threads_eq_none⟩
  | waitUntil deadline =>
    exact ⟨_, h.of_use hstep rfl rfl rfl hpromised hreserved rfl (List.nil_subset _) h.threads_eq_none⟩
  | wait => exact ⟨_, h.of_use hstep rfl rfl rfl hpromised hreserved rfl (List.nil_subset _) h.threads_eq_none⟩

/-- The dispatcher enters a worker in the place that it was promised. -/
private theorem registering (h : s.Keeps u) (staffed : s.IsStaffed) {id : TaskId}
    (hd : s.dispatcher = some (.registering id)) (now : Nat) :
    ∃ u', (s.stepDispatcher (.registering id) now).Keeps u' := by
  have hpromised := h.promised_eq
  have hreserved := h.reserved_eq
  rw [hd] at hpromised hreserved
  simp only [Option.elim_some, Dispatcher.promised, Dispatcher.reserved] at hpromised hreserved
  refine ⟨u.register, h.of_use (.register (by omega)) rfl ?_ rfl ?_ ?_ rfl ?_ fun k hk => ?_⟩
  · show u.pool.register.1 = s.pool.register.1
    rw [h.pool_eq]
  · show u.promised - 1 = 0
    omega
  · exact hreserved
  · show [s.pool.nextId] ⊆ u.pool.nextId :: u.starting
    rw [h.pool_eq]
    simp
  · rcases List.mem_cons.1 hk with rfl | hk
    -- the number of the new worker is not in use yet
    · cases ht : s.threads u.pool.nextId with
      | none => exact ht
      | some t =>
        have hlt := (staffed u.pool.nextId).lt_nextId (.inr (by rw [ht]; rfl))
        rw [h.pool_eq] at hlt
        exact absurd hlt (Nat.lt_irrefl _)
    · exact h.threads_eq_none k hk

/-- The dispatcher starts the thread of a worker. -/
private theorem spawning (h : s.Keeps u) {id : TaskId} {k : Nat}
    (hd : s.dispatcher = some (.spawning id k)) (now : Nat) :
    ∃ u', (s.stepDispatcher (.spawning id k) now).Keeps u' := by
  have hpromised := h.promised_eq
  have hreserved := h.reserved_eq
  have hstarting := h.starting_subset
  rw [hd] at hpromised hreserved hstarting
  simp only [Option.elim_some, Dispatcher.promised, Dispatcher.reserved, Dispatcher.starting] at *
  have hk : k ∈ u.starting := hstarting (List.mem_singleton_self k)
  have herase (j : Nat) (hj : j ∈ u.starting.erase k) : s.threads j = none :=
    h.threads_eq_none j (List.mem_of_mem_erase hj)
  simp only [System.stepDispatcher, Dispatcher.step]
  rcases s.scheduler.factory.spawn with ⟨factory, (_ | fault) | thread⟩
  · refine ⟨u.decline k, h.of_use (.decline k hk) rfl ?_ rfl hpromised hreserved rfl (List.nil_subset _) herase⟩
    show u.pool.removeWorker k = s.pool.removeWorker k
    rw [h.pool_eq]
  · exact ⟨u, h.of_dispatcher hd rfl rfl rfl rfl rfl (List.nil_subset _)⟩
  · refine ⟨u.enter k, ⟨h.reachable.step (.enter k hk), h.pool_eq, hpromised, ?_, fun j => ?_, List.nil_subset _,
      fun j hj => ?_⟩⟩
    · show k :: u.reserved = [k]
      rw [hreserved]
    · show u.running j = (Function.update s.threads k _ j).any WorkerThread.isBusy
      rw [h.running_eq]
      by_cases hj : j = k
      · rw [hj, Function.update_self, h.threads_eq_none k hk]
        rfl
      · rw [Function.update_of_ne hj]
    · show Function.update s.threads k _ j = none
      -- a worker is entered once
      have hne : j ≠ k := by
        rintro rfl
        have hpos : 0 < (u.starting.erase j).count j := List.count_pos_iff.2 hj
        have hle := (h.reachable.sound.playsPart j).parts_le
        simp only [PoolUse.parts] at hle
        rw [List.count_erase_self] at hpos
        omega
      rw [Function.update_of_ne hne]
      exact herase j hj

/-- The dispatcher gives a worker its task. -/
private theorem handing (h : s.Keeps u) {id : TaskId} {k : Nat} (hd : s.dispatcher = some (.handing id k))
    (now : Nat) : ∃ u', (s.stepDispatcher (.handing id k) now).Keeps u' := by
  have hpromised := h.promised_eq
  have hreserved := h.reserved_eq
  rw [hd] at hpromised hreserved
  simp only [Option.elim_some, Dispatcher.promised, Dispatcher.reserved] at hpromised hreserved
  have hstep : u.Step (u.hand k id) := .hand k id (by rw [hreserved]; exact List.mem_singleton_self k)
  have herased : (u.hand k id).reserved = [] := by simp [PoolUse.hand, hreserved]
  have hpool : (u.hand k id).pool = (s.scheduler.pool.hand k id).1 := by
    show (u.pool.hand k id).1 = (s.pool.hand k id).1
    rw [h.pool_eq]
  simp only [System.stepDispatcher, Dispatcher.step]
  rcases hhand : s.scheduler.pool.hand k id with ⟨p, _ | _⟩ <;> rw [hhand] at hpool
  · exact ⟨_, h.of_use hstep rfl hpool rfl hpromised herased rfl (List.nil_subset _) h.threads_eq_none⟩
  · exact ⟨_, h.of_use hstep rfl hpool rfl hpromised herased rfl (List.nil_subset _) h.threads_eq_none⟩

theorem stepDispatcher (h : s.Keeps u) (staffed : s.IsStaffed) {d : Dispatcher} (hd : s.dispatcher = some d)
    (now : Nat) : ∃ u', (s.stepDispatcher d now).Keeps u' := by
  have hgoes := d.goes_step s.scheduler
  cases d with
  | acquiring id asked lowWait => exact h.acquiring hd now
  | registering id => exact h.registering staffed hd now
  | spawning id k => exact h.spawning hd now
  | handing id k => exact h.handing hd now
  | releasing k =>
    have hpromised := h.promised_eq
    have hreserved := h.reserved_eq
    rw [hd] at hpromised hreserved
    simp only [Option.elim_some, Dispatcher.promised, Dispatcher.reserved] at hpromised hreserved
    have hstep : u.Step (u.releaseUnused k) := .releaseUnused k (by rw [hreserved]; exact List.mem_singleton_self k)
    refine ⟨_, h.of_use hstep rfl ?_ rfl hpromised ?_ rfl (List.nil_subset _) h.threads_eq_none⟩
    · show u.pool.releaseUnused k = s.pool.releaseUnused k
      rw [h.pool_eq]
    · show u.reserved.erase k = []
      simp [hreserved]
  | stopping =>
    have hpromised := h.promised_eq
    have hreserved := h.reserved_eq
    rw [hd] at hpromised hreserved
    refine ⟨_, h.of_use .stop rfl ?_ rfl hpromised hreserved rfl (List.nil_subset _) h.threads_eq_none⟩
    show u.pool.stop = s.pool.stop
    rw [h.pool_eq]
  | _ =>
    -- the pool is left alone
    refine ⟨u, ?_⟩
    simp only [System.stepDispatcher]
    generalize Dispatcher.step s.scheduler _ = next at hgoes ⊢
    cases hgoes <;> exact h.of_dispatcher hd rfl rfl rfl rfl rfl (List.nil_subset _)

/-! ### Steps of a worker -/

/-- A thread goes on. -/
private theorem of_worker (h : s.Keeps u) {u' : PoolUse} (hstep : u.Step u') {k : Nat} {x y : WorkerThread}
    (ht : s.threads k = some x) (hd : s'.dispatcher = s.dispatcher)
    (ht' : s'.threads = Function.update s.threads k (some y)) (hpool : u'.pool = s'.pool)
    (hpromised : u'.promised = u.promised) (hreserved : u'.reserved = u.reserved)
    (hstarting : u'.starting = u.starting) (hrunning : u'.running = Function.update u.running k y.isBusy) :
    s'.Keeps u' where
  reachable := h.reachable.step hstep
  pool_eq := hpool
  promised_eq := by rw [hpromised, hd, h.promised_eq]
  reserved_eq := by rw [hreserved, hd, h.reserved_eq]
  running_eq j := by
    rw [hrunning, ht']
    by_cases hj : j = k
    · rw [hj, Function.update_self, Function.update_self]
      rfl
    · rw [Function.update_of_ne hj, Function.update_of_ne hj, h.running_eq]
  starting_subset := by rw [hd, hstarting]; exact h.starting_subset
  threads_eq_none j hj := by
    rw [hstarting] at hj
    have hnone := h.threads_eq_none j hj
    have hne : j ≠ k := by
      rintro rfl
      rw [ht] at hnone
      cases hnone
    rw [ht', Function.update_of_ne hne, hnone]

theorem running_of_thread (h : s.Keeps u) {k : Nat} {x : WorkerThread} (ht : s.threads k = some x) :
    u.running k = x.isBusy := by
  rw [h.running_eq, ht]
  rfl

/-- A thread goes on without taking a task or giving itself back. -/
private theorem of_act (h : s.Keeps u) {p : Pool} (hstep : u.Step (u.withPool p)) {k : Nat} {x y : WorkerThread}
    (ht : s.threads k = some x) (hd : s'.dispatcher = s.dispatcher)
    (ht' : s'.threads = Function.update s.threads k (some y)) (hpool : p = s'.pool) (hbusy : y.isBusy = x.isBusy) :
    s'.Keeps (u.withPool p) := by
  refine h.of_worker hstep ht hd ht' hpool rfl rfl rfl ?_
  rw [hbusy, ← h.running_of_thread ht, Function.update_eq_self]
  rfl

/-- A thread goes on without using the pool. -/
private theorem of_idling (h : s.Keeps u) {k : Nat} {x y : WorkerThread} (ht : s.threads k = some x)
    (hd : s'.dispatcher = s.dispatcher) (ht' : s'.threads = Function.update s.threads k (some y))
    (hpool : s'.pool = s.pool) (hbusy : y.isBusy = x.isBusy) : s'.Keeps u := by
  refine h.of_thread hpool hd fun j => ?_
  rw [ht']
  by_cases hj : j = k
  · rw [hj, Function.update_self, ht, Option.map_some, Option.map_some, hbusy]
  · rw [Function.update_of_ne hj]

theorem stepWorker (h : s.Keeps u) {k : Nat} {phase : WorkerPhase} (ht : s.threads k = some (.acting phase))
    (now : Nat) : ∃ u', (s.stepWorker k phase now).Keeps u' := by
  have hpool := s.pool_stepWorker k phase now
  have hthreads := s.threads_stepWorker k phase now
  have hrunning := h.running_of_thread ht
  cases phase with
  | fetching idleSince =>
    have hsnd := s.pool.takeTask_snd k
    simp only [WorkerPhase.step] at hpool hthreads
    rcases htake : s.pool.takeTask k with ⟨p, _ | id⟩ <;> rw [htake] at hsnd hpool hthreads
    · have hsame : p = s.pool := by
        have hnone := Pool.takeTask_fst_of_none hsnd.symm
        rwa [htake] at hnone
      exact ⟨u, h.of_idling ht rfl hthreads (hpool.trans hsame) rfl⟩
    · have hstep : u.Step (u.take k) := .take k (by rw [h.pool_eq, ← hsnd]; rfl)
      refine ⟨_, h.of_worker hstep ht rfl hthreads ?_ rfl rfl rfl rfl⟩
      show (u.pool.takeTask k).1 = _
      rw [h.pool_eq, htake, hpool]
  | finished => exact ⟨_, h.of_act (.calm k) ht rfl hthreads (by rw [hpool, h.pool_eq]; rfl) rfl⟩
  | releasing =>
    have hstep : u.Step (u.release k) := .release k hrunning
    have hreleased : (u.release k).pool = (s.pool.release k).1 := by
      show (u.pool.release k).1 = _
      rw [h.pool_eq]
    simp only [WorkerPhase.step] at hpool hthreads
    rcases hrelease : s.pool.release k with ⟨p, _ | _⟩ <;> rw [hrelease] at hpool hthreads hreleased
    all_goals exact ⟨_, h.of_worker hstep ht rfl hthreads (hreleased.trans hpool.symm) rfl rfl rfl rfl⟩
  | retiring idleSince =>
    have hstep : u.Step (u.withPool (u.pool.retire k).1) := by
      refine .retire k (fun hk => ?_) hrunning
      rw [h.threads_eq_none k hk] at ht
      cases ht
    have hretired : (u.pool.retire k).1 = (s.pool.retire k).1 := by rw [h.pool_eq]
    simp only [WorkerPhase.step] at hpool hthreads
    rcases hretire : s.pool.retire k with ⟨p, _ | _⟩ <;> rw [hretire] at hpool hthreads hretired
    all_goals exact ⟨_, h.of_act hstep ht rfl hthreads (hretired.trans hpool.symm) rfl⟩
  | parked idleSince until? =>
    simp only [WorkerPhase.step] at hpool hthreads
    split at hpool
    · next hwoken =>
      rw [if_pos hwoken] at hthreads
      exact ⟨_, h.of_act (.rouse k) ht rfl hthreads (by rw [hpool, h.pool_eq]) rfl⟩
    · next hwoken =>
      rw [if_neg hwoken] at hthreads
      split at hpool
      · next hlate =>
        rw [if_pos hlate] at hthreads
        exact ⟨u, h.of_idling ht rfl hthreads hpool rfl⟩
      · next hlate =>
        rw [if_neg hlate] at hthreads
        exact ⟨u, h.of_idling ht rfl hthreads hpool rfl⟩
  | deciding idleSince =>
    simp only [WorkerPhase.step] at hpool hthreads
    refine ⟨u, ?_⟩
    split at hpool
    · next hleave =>
      rw [if_pos hleave] at hthreads
      exact h.of_idling ht rfl hthreads hpool rfl
    · next hleave =>
      rw [if_neg hleave] at hthreads
      exact h.of_idling ht rfl hthreads hpool rfl
  | _ => exact ⟨u, h.of_idling ht rfl hthreads hpool rfl⟩

/-! ### Steps of all others -/

theorem stepClient (h : s.Keeps u) (i : Nat) : ∃ u', (s.stepClient i).Keeps u' := by
  have hfresh {α : Type} (f : Dispatcher → α) (a : α) (hf : f .checking = a) :
      (s.stepClient i).dispatcher.elim a f = s.dispatcher.elim a f := by
    simp only [System.stepClient]
    cases s.dispatcher with
    | some d => rfl
    | none =>
      cases ((s.clients i).step s.scheduler).1.dispatcher.thread with
      | none => rfl
      | some name => exact hf
  have hpromised := hfresh Dispatcher.promised 0 rfl
  have hreserved := hfresh Dispatcher.reserved [] rfl
  have hstarting := hfresh Dispatcher.starting [] rfl
  rcases (s.clients i).pool_step s.scheduler with hpool | hpool
  · exact ⟨u, h.of_same hpool hpromised hreserved (hstarting ▸ List.Subset.refl _) fun _ => rfl⟩
  · refine ⟨_, h.reachable.step .stop, ?_, ?_, ?_, h.running_eq, ?_, h.threads_eq_none⟩
    · rw [h.pool_eq]
      exact hpool.symm
    · rw [hpromised]
      exact h.promised_eq
    · rw [hreserved]
      exact h.reserved_eq
    · rw [hstarting]
      exact h.starting_subset

theorem stepExecution (h : s.Keeps u) {k : Nat} {id : TaskId} {e : Execution}
    (ht : s.threads k = some (.executing id e)) (name : Option String) : (s.stepExecution k id e name).Keeps u := by
  refine h.of_idling ht rfl rfl (e.pool_step s.scheduler id name) ?_
  cases (e.step s.scheduler id name).2 <;> rfl

/-- Everybody who takes a step keeps to the books. -/
theorem step (h : s.Keeps u) (staffed : s.IsStaffed) (hstep : Step s s') : ∃ u', s'.Keeps u' := by
  cases hstep with
  | submit i r _ => exact ⟨u, h.of_thread rfl rfl fun _ => rfl⟩
  | cancel i id _ => exact ⟨u, h.of_thread rfl rfl fun _ => rfl⟩
  | shutDown i mode _ => exact ⟨u, h.of_thread rfl rfl fun _ => rfl⟩
  | client i => exact h.stepClient i
  | dispatcher d now hd => exact h.stepDispatcher staffed hd now
  | pick id now lowWait hd => exact ⟨u, h.of_dispatcher hd rfl rfl rfl rfl rfl (List.nil_subset _)⟩
  | miss until? hd => exact ⟨u, h.of_dispatcher hd rfl rfl rfl rfl rfl (List.nil_subset _)⟩
  | leave hd _ => exact ⟨u, h.of_dispatcher hd rfl rfl rfl rfl rfl (List.nil_subset _)⟩
  | rouse until? reason hd => exact ⟨u, h.of_dispatcher hd rfl rfl rfl rfl rfl (List.nil_subset _)⟩
  | worker k phase now ht => exact h.stepWorker ht now
  | rouseWorker k idleSince until? ht => exact ⟨u, h.of_idling ht rfl rfl rfl rfl⟩
  | execution k id e name ht => exact ⟨u, h.stepExecution ht name⟩
  | finish k id outcome ht => exact ⟨u, h.of_idling ht rfl rfl rfl rfl⟩
  | setMaxPoolSize n =>
    have hpool : (s.withScheduler (s.scheduler.setMaxPoolSize n)).pool = u.pool.setMaxSize n := by
      rw [h.pool_eq]
      exact s.scheduler.pool_setMaxPoolSize n
    exact ⟨_, h.of_pool (hpool ▸ .setMaxSize n) rfl rfl⟩
  | setKeepAlive d =>
    have hpool : (s.withScheduler (s.scheduler.setKeepAlive d)).pool = u.pool.setKeepAlive d := by
      rw [h.pool_eq]
      rfl
    exact ⟨_, h.of_pool (hpool ▸ .setKeepAlive d) rfl rfl⟩
  | setLowWait d => exact ⟨u, h.of_thread (s.scheduler.pool_setLowWait d) rfl fun _ => rfl⟩
  | interruptAll =>
    have hpool : (s.withScheduler { s.scheduler with pool := s.pool.interruptAll }).pool = u.pool.interruptAll := by
      rw [h.pool_eq]
      rfl
    exact ⟨_, h.of_pool (hpool ▸ .interruptAll) rfl rfl⟩
  | tell clock => exact ⟨u, h.of_thread rfl rfl fun _ => rfl⟩

end Keeps

/-- There are books for the pool of every system that has come about. -/
theorem Reachable.exists_keeps {s : System} (h : Reachable s) : ∃ u, s.Keeps u := by
  induction h with
  | start clock maxSize keepAlive factory router sink defaultPriority lowWait =>
    exact ⟨.start maxSize keepAlive, .start maxSize keepAlive, rfl, rfl, rfl, fun _ => rfl, List.nil_subset _,
      fun _ hk => by cases hk⟩
  | step hreachable hstep ih =>
    obtain ⟨u, hu⟩ := ih
    exact hu.step hreachable.isStaffed hstep

/-- Nobody belongs to a pool of size 0. -/
theorem Reachable.isRegistered_eq_false {s : System} (h : Reachable s) (hsize : s.pool.size = 0) (k : Nat) :
    s.pool.isRegistered k = false := by
  obtain ⟨u, hu⟩ := h.exists_keeps
  by_contra hreg
  rw [Bool.not_eq_false, Pool.isRegistered_iff_mem_roster] at hreg
  have hpos := List.length_pos_of_mem hreg
  have hcount := hu.reachable.sound.sized.size_eq
  rw [hu.pool_eq] at hcount
  omega

/-- A worker of a pool that is not stopping holds a task, unless it is idle, reserved or busy. -/
theorem Reachable.isSome_task? {s : System} (h : Reachable s) {k : Nat} {phase : WorkerPhase}
    (ht : s.threads k = some (.acting phase)) (hphase : phase ≠ .exited) (hbusy : phase.isBusy = false)
    (hstopping : s.pool.stopping = false) (hidle : k ∉ s.pool.idle)
    (hreserved : k ∉ s.dispatcher.elim [] Dispatcher.reserved) : (s.pool.task? k).isSome = true := by
  obtain ⟨u, hu⟩ := h.exists_keeps
  have hreg : s.pool.isRegistered k = true := ((h.isStaffed k).isRegistered_iff _ ht).2 (by simpa using hphase)
  have hstarting : k ∉ u.starting := fun hk => by
    rw [hu.threads_eq_none k hk] at ht
    cases ht
  have hrunning : u.running k = false := (hu.running_of_thread ht).trans hbusy
  have hone := (hu.reachable.sound.playsPart k).parts_eq (hu.pool_eq ▸ hreg) (hu.pool_eq ▸ hstopping)
  rw [PoolUse.parts, hu.pool_eq, List.count_eq_zero.2 hidle, List.count_eq_zero.2 hstarting, hu.reserved_eq,
    List.count_eq_zero.2 hreserved, hrunning] at hone
  simpa using hone

end System

end TaskScheduling
