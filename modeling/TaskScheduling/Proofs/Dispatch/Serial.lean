import TaskScheduling.Proofs.Dispatch.Contending
import TaskScheduling.Proofs.Dispatch.Iteration
import TaskScheduling.Proofs.Dispatch.Ledger
import TaskScheduling.Proofs.Dispatch.WholeCalls

/-!
# Schedulers on which one operation follows the other

`Serial` is a system in which everybody waits until an operation has been carried out: a whole call of a client, an
iteration of the dispatcher, the beginning of a run, its end, or a step that has nothing to do with tasks.  It records
what has been accepted, which runs have ended, and what the shutdowns have answered.

`Serial.Reachable.sound`: between two operations a task is pending exactly when it is queued, and whoever executes a
task is about to begin the run or in the middle of it.
-/

namespace TaskScheduling

namespace System

/-- What concerns the clock, the settings, idle workers, and wake-ups without a reason. -/
inductive Adjusts (s : System) : System → Prop where
  | worker (k : Nat) (phase : WorkerPhase) (now : Nat) :
      s.threads k = some (.acting phase) → Adjusts s (s.stepWorker k phase now)
  | rouseWorker (k idleSince : Nat) (until? : Option Nat) :
      s.threads k = some (.acting (.parked idleSince until?)) →
      Adjusts s (s.withThread k (.acting (.fetching idleSince)))
  | rouse (until? : Option Nat) (reason : ParkReason) :
      s.dispatcher = some (.parked until? reason) → Adjusts s (s.withDispatcher .checking)
  | setMaxPoolSize (n : Nat) : Adjusts s (s.withScheduler (s.scheduler.setMaxPoolSize n))
  | setKeepAlive (d : Duration) : Adjusts s (s.withScheduler (s.scheduler.setKeepAlive d))
  | setLowWait (d : Duration) : Adjusts s (s.withScheduler (s.scheduler.setLowWait d))
  | tell (clock : Clock) : Adjusts s (s.withScheduler { s.scheduler with clock := clock })

/-- The workers that are in the middle of a run. -/
def inProgress (s : System) : Set Nat := {k | ∃ id, s.threads k = some (.executing id .running)}

/-- Whether everybody who executes a task is about to begin the run or in the middle of it. -/
def IsSettled (s : System) : Prop :=
  ∀ k id e, s.threads k = some (.executing id e) → e = .starting ∨ e = .running

variable {s s' : System}

theorem Adjusts.step (h : s.Adjusts s') : s.Step s' := by
  cases h with
  | worker k phase now hk => exact .worker k phase now hk
  | rouseWorker k idleSince until? hk => exact .rouseWorker k idleSince until? hk
  | rouse until? reason hd => exact .rouse until? reason hd
  | setMaxPoolSize n => exact .setMaxPoolSize n
  | setKeepAlive d => exact .setKeepAlive d
  | setLowWait d => exact .setLowWait d
  | tell clock => exact .tell clock

/-- What is left alone where nobody has to do with tasks. -/
structure Leaves (s s' : System) : Prop where
  backlog_eq : s'.backlog = s.backlog
  stats_eq : s'.scheduler.stats = s.scheduler.stats
  shutdown_eq : s'.scheduler.shutdown = s.scheduler.shutdown
  clients_eq : s'.clients = s.clients
  isResting : s.isResting = true → s'.isResting = true
  /-- A thread goes on as it did, or it has not begun a run. -/
  threads_cases (k : Nat) : s'.threads k = s.threads k ∨
    (∀ id, s.threads k ≠ some (.executing id .running)) ∧
      ∀ id e, s'.threads k = some (.executing id e) → e = .starting

theorem Adjusts.leaves (h : s.Adjusts s') : s.Leaves s' := by
  cases h with
  | worker k phase now hk =>
    refine ⟨s.backlog_stepWorker k phase now, ?_, ?_, rfl, fun h => h, fun j => ?_⟩
    · cases phase with
      | announcing => exact s.scheduler.stats_wakeDispatcher
      | _ => rfl
    · cases phase with
      | announcing => exact s.scheduler.shutdown_wakeDispatcher
      | _ => rfl
    · rw [threads_stepWorker]
      by_cases hj : j = k
      · subst hj
        rw [Function.update_self, hk]
        refine .inr ⟨fun id => by simp, fun id e he => ?_⟩
        generalize (phase.step s.pool j now).2 = next at he
        cases next with
        | working task =>
          cases he
          rfl
        | _ => cases he
      · exact .inl (Function.update_of_ne hj ..)
  | rouseWorker k idleSince until? hk =>
    refine ⟨rfl, rfl, rfl, rfl, fun h => h, fun j => ?_⟩
    by_cases hj : j = k
    · subst hj
      rw [hk]
      refine .inr ⟨fun id => by simp, fun id e he => ?_⟩
      have hacting : (s.withThread j (.acting (.fetching idleSince))).threads j =
          some (.acting (.fetching idleSince)) := Function.update_self ..
      rw [hacting] at he
      cases he
    · exact .inl (Function.update_of_ne hj ..)
  | rouse until? reason hd => exact ⟨rfl, rfl, rfl, rfl, fun _ => rfl, fun _ => .inl rfl⟩
  | setMaxPoolSize n =>
    exact ⟨PooledScheduler.backlog_wakeDispatcher _, PooledScheduler.stats_wakeDispatcher _,
      PooledScheduler.shutdown_wakeDispatcher _, rfl, fun h => h, fun _ => .inl rfl⟩
  | setKeepAlive d => exact ⟨rfl, rfl, rfl, rfl, fun h => h, fun _ => .inl rfl⟩
  | setLowWait d =>
    exact ⟨PooledScheduler.backlog_wakeDispatcher _, PooledScheduler.stats_wakeDispatcher _,
      PooledScheduler.shutdown_wakeDispatcher _, rfl, fun h => h, fun _ => .inl rfl⟩
  | tell clock => exact ⟨rfl, rfl, rfl, rfl, fun h => h, fun _ => .inl rfl⟩

/-! ### Who executes a task between two operations -/

/-- What a task is like when a worker is about to begin its run, or in the middle of it. -/
structure Runs (s : System) (id : TaskId) : Prop where
  slot_eq : (s.backlog.task id).slot = none
  index_lt : id.index < s.backlog.nextId
  state_cases : (s.backlog.task id).state = .executing ∨
    (s.backlog.task id).state = .cancelled ∧ (s.backlog.task id).isRecurring = true

theorem Runs.state_ne_pending {id : TaskId} (h : s.Runs id) : (s.backlog.task id).state ≠ .pending := by
  rcases h.state_cases with hs | ⟨hs, -⟩ <;> simp [hs]

/-- Whoever has claimed a task for a run finds it executing, or cancelled meanwhile. -/
theorem Reachable.state_of_active (h : s.Reachable) {k : Nat} {id : TaskId} {e : Execution}
    (hk : s.threads k = some (.executing id e)) (hactor : (e.actor id).active? = some id) :
    (s.backlog.task id).state = .executing ∨
      (s.backlog.task id).state = .cancelled ∧ (s.backlog.task id).isRecurring = true := by
  obtain ⟨c, hc, hplays⟩ := h.plays
  have hactive : (c.actors (.thread k)).active? = some id := by
    rw [hplays.actors_eq]
    simp only [actor, hk, Option.elim_some, WorkerThread.actor, hactor]
  have hstate := (hc.fair id).state_of_active _ hactive
  rwa [hplays.backlog_eq] at hstate

theorem Reachable.runs (h : s.Reachable) {k : Nat} {id : TaskId} {e : Execution}
    (hk : s.threads k = some (.executing id e)) {stage : Stage} (hheld : e.held id = Holding.only stage [id])
    (hactor : (e.actor id).active? = some id) : s.Runs id := by
  have hmem : id ∈ s.held (.thread k) stage := by
    simp only [held, hk, Option.elim_some, WorkerThread.held, hheld, Holding.only, ↓reduceIte, List.mem_singleton]
  obtain ⟨hslot, hlt⟩ := h.sound.frees (.thread k) stage id hmem
  exact ⟨hslot, hlt, h.state_of_active hk hactor⟩

/-- A task that is to run once has been run once when its run has begun. -/
theorem Reachable.runs_eq_one (h : s.Reachable) {k : Nat} {id : TaskId}
    (hk : s.threads k = some (.executing id .running)) (hr : (s.backlog.task id).isRecurring = false) :
    (s.backlog.task id).runs = 1 := by
  have hmem : id ∈ s.held (.thread k) .started := by
    simp only [held, hk, Option.elim_some, WorkerThread.held, Execution.held, Holding.only, ↓reduceIte,
      List.mem_singleton]
  obtain ⟨l, hl⟩ := h.sound.located id
  have hsuits := hl.suits
  rw [hl.eq_held hmem] at hsuits
  exact hsuits.2 hr

end System

/-- An operation that is carried out as a whole. -/
inductive Operation where
  | submit (i : Nat) (r : Request)
  | cancel (i : Nat) (id : TaskId)
  | shutDown (i : Nat) (mode : ShutdownMode)
  | shutDownNow (i : Nat)
  | iterate
  | begin (k : Nat) (id : TaskId)
  | conclude (k : Nat) (id : TaskId) (outcome : Option Panic)
  | adjust

structure Serial where
  system : System
  /-- The tasks whose submissions were accepted, the last one first. -/
  accepted : List TaskId
  /-- The runs that have ended, the last one first, and whether each did with a panic. -/
  ended : List (TaskId × Bool)
  /-- What the shutdowns have answered, the last one first. -/
  answers : List (List TaskId)

namespace Serial

/-- A new scheduler. -/
def start (clock : Clock) (maxSize : Nat) (keepAlive : Duration) (factory : ThreadFactory) (router : FailureRouter)
    (sink : Sink) (defaultPriority : Priority) (lowWait : Nat) : Serial :=
  ⟨.start clock maxSize keepAlive factory router sink defaultPriority lowWait, [], [], []⟩

def withSystem (v : Serial) (s : System) : Serial := { v with system := s }

def submit (v : Serial) (i : Nat) (r : Request) : Serial :=
  { v with
    system := v.system.submit i r
    accepted := match (v.system.scheduler.submit r).2 with
      | .ok id => id :: v.accepted
      | .error _ => v.accepted }

def shutDown (v : Serial) (i : Nat) (mode : ShutdownMode) : Serial :=
  { v with system := v.system.shutDown i mode, answers := (v.system.scheduler.shutdownWith mode).2 :: v.answers }

def shutDownNow (v : Serial) (i : Nat) : Serial :=
  { v with system := v.system.shutDownNow i, answers := v.system.scheduler.shutdownNow.2 :: v.answers }

def conclude (v : Serial) (k : Nat) (id : TaskId) (name : Option String) (outcome : Option Panic) : Serial :=
  { v with system := v.system.conclude k id name outcome, ended := (id, outcome.isSome) :: v.ended }

inductive Step (v : Serial) : Operation → Serial → Prop where
  | submit (i : Nat) (r : Request) : Step v (.submit i r) (v.submit i r)
  | cancel (i : Nat) (id : TaskId) : Step v (.cancel i id) (v.withSystem (v.system.cancel i id))
  | shutDown (i : Nat) (mode : ShutdownMode) : Step v (.shutDown i mode) (v.shutDown i mode)
  | shutDownNow (i : Nat) : Step v (.shutDownNow i) (v.shutDownNow i)
  | iterate (now n : Nat) : (v.system.goOn now n).isResting = true →
      Step v .iterate (v.withSystem (v.system.goOn now n))
  | begin (k : Nat) (id : TaskId) (name : Option String) : v.system.threads k = some (.executing id .starting) →
      Step v (.begin k id) (v.withSystem (v.system.stepExecution k id .starting name))
  /-- The action returns or panics, the failure is routed, and the task is settled. -/
  | conclude (k : Nat) (id : TaskId) (name : Option String) (outcome : Option Panic) :
      v.system.threads k = some (.executing id .running) →
      Step v (.conclude k id outcome) (v.conclude k id name outcome)
  | adjust (s : System) : v.system.Adjusts s → Step v .adjust (v.withSystem s)

inductive Reachable : Serial → Prop where
  | start (clock : Clock) (maxSize : Nat) (keepAlive : Duration) (factory : ThreadFactory) (router : FailureRouter)
      (sink : Sink) (defaultPriority : Priority) (lowWait : Nat) :
      Reachable (start clock maxSize keepAlive factory router sink defaultPriority lowWait)
  | step {v v' : Serial} {op : Operation} : Reachable v → Step v op v' → Reachable v'

def ledger (v : Serial) : Ledger :=
  ⟨v.system.backlog, v.system.scheduler.stats, v.accepted, v.ended, v.system.inProgress⟩

structure Sound (v : Serial) : Prop where
  reachable : v.system.Reachable
  isFree (i : Nat) : (v.system.clients i).isFree = true
  isResting : v.system.isResting = true
  tidy : v.system.backlog.Tidy none
  isSettled : v.system.IsSettled

/-- What a step does: it keeps the invariant, and the ledger goes on. -/
structure Leads (v v' : Serial) : Prop where
  sound : v'.Sound
  ledger : Relation.ReflTransGen Ledger.Step v.ledger v'.ledger

namespace Sound

variable {v v' : Serial}

/-- A whole call of a client, after which it is free again. -/
private theorem withCall (h : v.Sound) {i : Nat} {scheduler : PooledScheduler} {c : Client} (hc : c.isFree = true)
    {accepted : List TaskId} {answers : List (List TaskId)}
    (hreachable : (v.system.withCall i (scheduler, c)).Reachable) (htidy : scheduler.backlog.Tidy none)
    (hledger : Relation.ReflTransGen Ledger.Step v.ledger
      ⟨scheduler.backlog, scheduler.stats, accepted, v.ended, v.system.inProgress⟩) :
    v.Leads ⟨v.system.withCall i (scheduler, c), accepted, v.ended, answers⟩ where
  sound := by
    refine ⟨hreachable, fun j => ?_, ?_, htidy, h.isSettled⟩
    · by_cases hj : j = i
      · subst hj
        exact (congrArg Client.isFree (Function.update_self ..)).trans hc
      · exact (congrArg Client.isFree (Function.update_of_ne hj ..)).trans (h.isFree j)
    · have hresting := h.isResting
      simp only [System.isResting, System.withCall] at hresting ⊢
      cases hd : v.system.dispatcher with
      | some d =>
        rw [hd] at hresting
        exact hresting
      | none => cases scheduler.dispatcher.thread <;> rfl
  ledger := hledger

/-- What a submission makes of the ledger, whatever it answers. -/
private theorem of_submits (h : v.Sound) {r : Request} {x : PooledScheduler × Except Trouble TaskId}
    (hsubmits : v.system.scheduler.Submits r x) :
    x.1.backlog.Tidy none ∧ Relation.ReflTransGen Ledger.Step v.ledger ⟨x.1.backlog, x.1.stats,
      match x.2 with
      | .ok id => id :: v.accepted
      | .error _ => v.accepted, v.ended, v.system.inProgress⟩ := by
  cases hsubmits with
  | refused _ => exact ⟨h.tidy, .refl⟩
  | failed t trouble _ htasks hqueue hnext hstats _ =>
    have htask (id : TaskId) : t.backlog.task id = v.system.backlog.task id := congrArg (Table.get · id) htasks
    have hkept : t.backlog.Kept := h.tidy.toKept.of_same hqueue (fun id => congrArg Task.slot (htask id))
      (fun id => congrArg Task.identity (htask id)) (fun id _ => congrArg Task.runAt (htask id))
      fun id hid => (htask id).trans (h.tidy.task_eq_absent id (hnext.trans hid))
    refine ⟨⟨hkept, fun id => ?_⟩, ?_⟩
    · rw [htask]
      exact h.tidy.isSome_slot_iff id
    · have hbrings := Backlog.Brings.of_same (fun id => congrArg Task.status (htask id)) hnext ⟨0⟩
      have hstep : v.ledger.Step { v.ledger with backlog := t.backlog } := .goOn t.backlog ⟨0⟩ _ .stay hbrings
      rw [hstats]
      exact .single hstep
  | accepted t now _ hbacklog hstats _ =>
    refine ⟨hbacklog ▸ Backlog.Accounted.tidy_enlist h.tidy now r _, ?_⟩
    rw [hstats, hbacklog]
    have hnext := Backlog.Accounted.nextId_enlist v.system.backlog now r v.system.scheduler.defaultPriority
    have hlt : v.system.backlog.nextId < (v.system.backlog.enlist now r v.system.scheduler.defaultPriority).nextId := by
      rw [hnext]
      exact Nat.lt_succ_self _
    exact .single (.accept _ _ hlt (.enlist v.system.backlog now r _))

theorem submit (h : v.Sound) (i : Nat) (r : Request) : v.Leads (v.submit i r) := by
  obtain ⟨htidy, hledger⟩ := h.of_submits (v.system.scheduler.submits_submit r)
  exact h.withCall (by rfl) (h.reachable.submit (h.isFree i) r) htidy hledger

/-- The ledger when tasks have been cancelled, and counted. -/
private theorem cancels {b : Backlog} {ids : List TaskId} (h : v.system.backlog.Cancels b ids) {stats : Stats}
    (hstats : stats = (v.system.scheduler.countCancelled ids.length).stats) :
    v.ledger.Step ⟨b, stats, v.accepted, v.ended, v.system.inProgress⟩ := by
  rw [hstats]
  exact .cancel b ids h

theorem cancel (h : v.Sound) (i : Nat) (id : TaskId) : v.Leads (v.withSystem (v.system.cancel i id)) := by
  have hbacklog := v.system.scheduler.backlog_cancel id
  refine h.withCall (by rfl) (h.reachable.cancel (h.isFree i) id) (hbacklog ▸ h.tidy.cancel id) (.single ?_)
  rw [hbacklog]
  exact cancels (.cancel v.system.backlog id) (v.system.scheduler.stats_cancel id)

theorem shutDown (h : v.Sound) (i : Nat) (mode : ShutdownMode) : v.Leads (v.shutDown i mode) := by
  have hbacklog := v.system.scheduler.backlog_shutdownWith mode
  refine h.withCall (by rfl) (h.reachable.shutDown (h.isFree i) mode) (hbacklog ▸ h.tidy.clear mode.scope) (.single ?_)
  rw [hbacklog]
  exact cancels (.clear h.tidy mode.scope) (v.system.scheduler.stats_shutdownWith mode)

theorem shutDownNow (h : v.Sound) (i : Nat) : v.Leads (v.shutDownNow i) := by
  have hbacklog : v.system.scheduler.shutdownNow.1.backlog = (v.system.backlog.clear .everything).1 :=
    v.system.scheduler.backlog_shutdownWith .discardPending
  refine h.withCall (by rfl) (h.reachable.shutDownNow (h.isFree i)) (hbacklog ▸ h.tidy.clear .everything) (.single ?_)
  rw [hbacklog]
  exact cancels (.clear h.tidy .everything) (v.system.scheduler.stats_shutdownWith .discardPending)

/-! ### Iterations and runs -/

/-- A system in which the same runs are in progress. -/
private theorem inProgress_eq {s s' : System}
    (h : ∀ k id, s'.threads k = some (.executing id .running) ↔ s.threads k = some (.executing id .running)) :
    s'.inProgress = s.inProgress :=
  Set.ext fun k => exists_congr fun id => h k id

/-- What an iteration clears away is cancelled. -/
theorem cancels_sweep (h : v.Sound) :
    v.system.backlog.Cancels v.system.scheduler.sweep.1 v.system.scheduler.sweep.2 := by
  unfold PooledScheduler.sweep
  split
  · exact .clear h.tidy _
  · exact .refl _

theorem iterate (h : v.Sound) {now n : Nat} (hend : (v.system.goOn now n).isResting = true) :
    v.Leads (v.withSystem (v.system.goOn now n)) := by
  have hiterates := System.iterates_goOn h.reachable h.tidy h.isResting now hend
  generalize v.system.goOn now n = t at hiterates hend ⊢
  have hprogress : t.inProgress = v.system.inProgress := by
    refine inProgress_eq fun k id => ?_
    rcases hiterates.threads_cases k with hsame | ⟨hnone, now, hstarted⟩
    · rw [hsame]
    · rw [hnone, hstarted]
      simp
  have hsettled : t.IsSettled := by
    intro k id e hk
    rcases hiterates.threads_cases k with hsame | ⟨-, now, hstarted⟩
    · exact h.isSettled k id e (hsame ▸ hk)
    · rw [hstarted] at hk
      cases hk
  have hswept := PooledScheduler.tidy_sweep h.tidy
  have htidy : t.scheduler.backlog.Tidy none := by
    rcases hiterates.cases with ⟨hbacklog, -⟩ | hsweeps | ⟨id, htakes⟩
    · exact (show t.scheduler.backlog = _ from hbacklog) ▸ h.tidy
    · exact hsweeps.backlog_eq ▸ hswept
    · exact htakes.backlog_eq ▸ hswept.takeUp htakes.pending
  refine ⟨⟨hiterates.reachable, fun i => hiterates.clients_eq ▸ h.isFree i, hend, htidy, hsettled⟩, ?_⟩
  show Relation.ReflTransGen Ledger.Step v.ledger
    ⟨t.scheduler.backlog, t.scheduler.stats, v.accepted, v.ended, t.inProgress⟩
  rw [hprogress]
  rcases hiterates.cases with ⟨hbacklog, hstats⟩ | hsweeps | ⟨id, htakes⟩
  · rw [show t.scheduler.backlog = v.system.backlog from hbacklog, hstats]
    exact .refl
  · rw [hsweeps.backlog_eq]
    exact .single (cancels h.cancels_sweep hsweeps.stats_eq)
  · rw [htakes.backlog_eq]
    exact .tail (.single (cancels h.cancels_sweep htakes.stats_eq))
      (.goOn _ id .executing (.claim htakes.pending) (.takeUp htakes.pending))

/-- What a thread does leaves the others alone. -/
private theorem of_thread (h : v.Sound) {k : Nat} {x : WorkerThread} {s : System}
    (hthreads : s.threads = Function.update v.system.threads k (some x))
    (hx : ∀ id e, x = .executing id e → e = .starting ∨ e = .running) (hreachable : s.Reachable)
    (hclients : s.clients = v.system.clients) (hdispatcher : s.dispatcher = v.system.dispatcher)
    (htidy : s.backlog.Tidy none) {accepted : List TaskId} {ended : List (TaskId × Bool)}
    {answers : List (List TaskId)} : Sound ⟨s, accepted, ended, answers⟩ := by
  refine ⟨hreachable, fun i => hclients ▸ h.isFree i, ?_, htidy, fun j id e hj => ?_⟩
  · show s.dispatcher.all Dispatcher.isResting = true
    rw [hdispatcher]
    exact h.isResting
  · have hj : s.threads j = some (.executing id e) := hj
    rw [hthreads] at hj
    by_cases hjk : j = k
    · subst hjk
      rw [Function.update_self, Option.some.injEq] at hj
      exact hx id e hj
    · rw [Function.update_of_ne hjk] at hj
      exact h.isSettled j id e hj

theorem begin (h : v.Sound) {k : Nat} {id : TaskId} (name : Option String)
    (hk : v.system.threads k = some (.executing id .starting)) :
    v.Leads (v.withSystem (v.system.stepExecution k id .starting name)) := by
  have hruns := h.reachable.runs hk rfl rfl
  have hprogress : (v.system.stepExecution k id .starting name).inProgress = insert k v.system.inProgress := by
    ext j
    simp only [System.inProgress, System.stepExecution, Set.mem_ofPred_eq, Set.mem_insert_iff]
    by_cases hj : j = k
    · subst hj
      simp [Execution.step, WorkerThread.ofExecution]
    · simp [hj]
  have hnot : k ∉ v.system.inProgress := by
    rintro ⟨j, hj⟩
    rw [hk] at hj
    cases hj
  refine ⟨h.of_thread rfl ?_ (h.reachable.step (.execution k id .starting name hk)) rfl rfl
    (h.tidy.countRun hruns.state_ne_pending hruns.index_lt), ?_⟩
  · rintro j e ⟨⟩
    exact .inr rfl
  · show Relation.ReflTransGen Ledger.Step v.ledger
      ⟨v.system.backlog.modify id Task.countRun, v.system.scheduler.stats, v.accepted, v.ended,
        (v.system.stepExecution k id .starting name).inProgress⟩
    rw [hprogress]
    exact .single (.begin _ k id hnot hruns.state_cases (.modify v.system.backlog id Task.countRun))

/-- What the end of a run comes to: it is counted, and then its task is settled. -/
theorem exists_settles (h : v.Sound) {k : Nat} {id : TaskId} (name : Option String) (outcome : Option Panic)
    (hk : v.system.threads k = some (.executing id .running)) : ∃ s t : PooledScheduler,
    v.conclude k id name outcome =
      ⟨v.system.withExecution k id (t, .ended), v.accepted, (id, outcome.isSome) :: v.ended, v.answers⟩ ∧
    s.backlog = v.system.backlog ∧ s.shutdown = v.system.scheduler.shutdown ∧
    s.stats = (v.system.scheduler.countRun outcome.isSome).stats ∧ s.Settles id t := by
  have hslot := (h.reachable.runs hk rfl rfl).slot_eq
  obtain ⟨sink, t, hconclude, hsettles⟩ := PooledScheduler.exists_concludes hslot name outcome
  refine ⟨{ v.system.scheduler.countRun outcome.isSome with sink := sink }, t, ?_, rfl, rfl, rfl, hsettles⟩
  rw [Serial.conclude, System.conclude, hconclude]

theorem conclude (h : v.Sound) {k : Nat} {id : TaskId} (name : Option String) (outcome : Option Panic)
    (hk : v.system.threads k = some (.executing id .running)) : v.Leads (v.conclude k id name outcome) := by
  have hruns := h.reachable.runs hk rfl rfl
  have hreachable := h.reachable.conclude hk name outcome
  obtain ⟨s, t, hconclude, hbacklog, -, hcounted, hsettles⟩ := h.exists_settles name outcome hk
  have hcases := hsettles.cases
  rw [hbacklog] at hcases
  have hsystem : v.system.conclude k id name outcome = v.system.withExecution k id (t, .ended) :=
    congrArg Serial.system hconclude
  rw [hsystem] at hreachable
  rw [hconclude]
  have hprogress : (v.system.withExecution k id (t, .ended)).inProgress = v.system.inProgress \ {k} := by
    ext j
    simp only [System.inProgress, System.withExecution, Set.mem_ofPred_eq, Set.mem_sdiff, Set.mem_singleton_iff]
    by_cases hj : j = k
    · subst hj
      simp [WorkerThread.ofExecution]
    · simp [hj]
  have hfinish : Relation.ReflTransGen Ledger.Step v.ledger
      ⟨v.system.backlog, s.stats, v.accepted, (id, outcome.isSome) :: v.ended, v.system.inProgress \ {k}⟩ := by
    rw [hcounted]
    exact .single (.finish k id outcome.isSome ⟨id, hk⟩)
  -- what the end of the run has made of the task
  have hends : t.backlog.Tidy none ∧ Relation.ReflTransGen Ledger.Step v.ledger
      ⟨t.backlog, t.stats, v.accepted, (id, outcome.isSome) :: v.ended, v.system.inProgress \ {k}⟩ := by
    rcases hcases with ⟨hr, -, hs, hb, hstats⟩ | ⟨-, -, -, hb, hstats⟩ | ⟨-, ⟨completedAt, hb⟩, hstats⟩ <;>
      rw [hb, hstats]
    · have hcancel := Backlog.cancel_of_executing_recurring hs hr
      have hcancels : v.system.backlog.Cancels _ [id] := .transition (.inr ⟨hs, hr⟩)
      have htidy := h.tidy.cancel id
      rw [hs] at hcancels
      rw [hcancel] at htidy
      exact ⟨htidy, hfinish.tail (.cancel _ [id] hcancels)⟩
    · exact ⟨h.tidy, hfinish⟩
    · refine ⟨h.tidy.complete hruns.state_ne_pending hruns.index_lt completedAt, ?_⟩
      obtain ⟨state, hbrings, hstate⟩ := Backlog.Brings.complete hruns.slot_eq completedAt
      refine hfinish.tail (.goOn _ id state ?_ hbrings)
      rcases hstate with rfl | ⟨hs, rfl⟩
      · exact .stay
      · cases hr : (v.system.backlog.task id).isRecurring with
        | true => exact .return hs hr
        | false => exact .finish hs hr (h.reachable.runs_eq_one hk hr)
  refine ⟨h.of_thread rfl (fun j e he => by cases he) hreachable rfl rfl hends.1, ?_⟩
  show Relation.ReflTransGen Ledger.Step v.ledger ⟨t.backlog, t.stats, v.accepted, (id, outcome.isSome) :: v.ended,
    (v.system.withExecution k id (t, .ended)).inProgress⟩
  rw [hprogress]
  exact hends.2

/-! ### Everything else -/

theorem adjust (h : v.Sound) {s : System} (hadjusts : v.system.Adjusts s) : v.Leads (v.withSystem s) := by
  have hleaves := hadjusts.leaves
  have hprogress : s.inProgress = v.system.inProgress := by
    refine inProgress_eq fun k id => ?_
    rcases hleaves.threads_cases k with hsame | ⟨hnot, hstarts⟩
    · rw [hsame]
    · exact ⟨fun hk => (by cases hstarts id .running hk), fun hk => absurd hk (hnot id)⟩
  refine ⟨⟨h.reachable.step hadjusts.step, fun i => hleaves.clients_eq ▸ h.isFree i, hleaves.isResting h.isResting,
    hleaves.backlog_eq ▸ h.tidy, fun k id e hk => ?_⟩, ?_⟩
  · rcases hleaves.threads_cases k with hsame | ⟨-, hstarts⟩
    · exact h.isSettled k id e (hsame ▸ hk)
    · exact .inl (hstarts id e hk)
  · show Relation.ReflTransGen Ledger.Step v.ledger ⟨s.backlog, s.scheduler.stats, v.accepted, v.ended, s.inProgress⟩
    rw [hprogress, hleaves.backlog_eq, hleaves.stats_eq]
    exact .refl

theorem step (h : v.Sound) {op : Operation} (hstep : v.Step op v') : v.Leads v' := by
  cases hstep with
  | submit i r => exact h.submit i r
  | cancel i id => exact h.cancel i id
  | shutDown i mode => exact h.shutDown i mode
  | shutDownNow i => exact h.shutDownNow i
  | iterate now n hend => exact h.iterate hend
  | begin k id name hk => exact h.begin name hk
  | conclude k id name outcome hk => exact h.conclude name outcome hk
  | adjust s hadjusts => exact h.adjust hadjusts

end Sound

theorem Reachable.sound {v : Serial} (h : v.Reachable) : v.Sound := by
  induction h with
  | start clock maxSize keepAlive factory router sink defaultPriority lowWait =>
    exact ⟨.start clock maxSize keepAlive factory router sink defaultPriority lowWait, fun _ => rfl, rfl,
      Backlog.Tidy.empty, fun k id e hk => by cases hk⟩
  | step _ hstep ih => exact (ih.step hstep).sound

/-- The counters of a scheduler are exact. -/
theorem Reachable.exact {v : Serial} (h : v.Reachable) : v.ledger.Exact := by
  induction h with
  | start clock maxSize keepAlive factory router sink defaultPriority lowWait =>
    have hprogress :
        (System.start clock maxSize keepAlive factory router sink defaultPriority lowWait).inProgress = ∅ :=
      Set.eq_empty_of_forall_notMem fun k ⟨id, hk⟩ => by cases hk
    show Ledger.Exact ⟨.empty, .zero, [], [],
      (System.start clock maxSize keepAlive factory router sink defaultPriority lowWait).inProgress⟩
    rw [hprogress]
    exact .empty
  | step hreachable hstep ih => exact ih.run (hreachable.sound.step hstep).ledger

/-! ### Runs that are written down -/

/-- What is to be done next; the clock stands still. -/
inductive Move where
  | submit (i : Nat) (r : Request)
  | cancel (i : Nat) (id : TaskId)
  | shutDown (i : Nat) (mode : ShutdownMode)
  | iterate
  /-- A worker goes on; the run that it is in ends, perhaps with a panic. -/
  | work (k : Nat) (outcome : Option Panic)

/-- A move that cannot be made is skipped. -/
def play (v : Serial) : Move → Serial
  | .submit i r => v.submit i r
  | .cancel i id => v.withSystem (v.system.cancel i id)
  | .shutDown i mode => v.shutDown i mode
  | .iterate => if (v.system.goOn 0 50).isResting then v.withSystem (v.system.goOn 0 50) else v
  | .work k outcome =>
    match v.system.threads k with
    | some (.acting phase) => v.withSystem (v.system.stepWorker k phase 0)
    | some (.executing id .starting) => v.withSystem (v.system.stepExecution k id .starting none)
    | some (.executing id .running) => v.conclude k id none outcome
    | _ => v

theorem Reachable.play {v : Serial} (h : v.Reachable) (move : Move) : (v.play move).Reachable := by
  cases move with
  | submit i r => exact h.step (.submit i r)
  | cancel i id => exact h.step (.cancel i id)
  | shutDown i mode => exact h.step (.shutDown i mode)
  | iterate =>
    simp only [Serial.play]
    split
    · exact h.step (.iterate 0 50 ‹_›)
    · exact h
  | work k outcome =>
    simp only [Serial.play]
    split
    · exact h.step (.adjust _ (.worker k _ 0 ‹_›))
    · exact h.step (.begin k _ none ‹_›)
    · exact h.step (.conclude k _ none outcome ‹_›)
    · exact h

/-- Whatever is written down is a run. -/
theorem Reachable.follow {v : Serial} (h : v.Reachable) (moves : List Move) :
    (moves.foldl Serial.play v).Reachable := by
  induction moves generalizing v with
  | nil => exact h
  | cons move moves ih => exact ih (h.play move)

end Serial

end TaskScheduling
