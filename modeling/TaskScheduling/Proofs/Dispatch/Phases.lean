import TaskScheduling.Dispatch.Dispatcher

/-!
# The phases of the dispatcher

`Dispatcher.Goes` lists what a single step of the dispatcher may do: from which phase it goes to which, what it has
found out before, and what it has done to the scheduler.  Facts about all steps of the dispatcher follow from
`Dispatcher.goes_step` by cases.
-/

namespace TaskScheduling

namespace Dispatcher

/-- What a step of the dispatcher on the scheduler `s` may do. -/
inductive Goes (s : PooledScheduler) : Dispatcher → PooledScheduler × Dispatcher → Prop where
  | check (mode : ShutdownMode) :
      s.shutdown = some mode → Goes s checking (s, sweeping mode.scope (.begin mode.scope))
  | skip : s.shutdown = none → Goes s checking (s, counting [])
  | sweep (scope : Scope) (c : Clearance) :
      (∀ discarded, c ≠ .ended discarded) →
      Goes s (sweeping scope c)
        ({ s with backlog := (c.step scope s.backlog).1 }, sweeping scope (c.step scope s.backlog).2)
  | swept (scope : Scope) (discarded : List TaskId) :
      Goes s (sweeping scope (.ended discarded)) (s, counting discarded)
  | count (discarded : List TaskId) : Goes s (counting discarded) (s.countCancelled discarded.length, leaveTaking)
  | leave : s.isShutdown = true → s.backlog.isEmpty = true → Goes s leaveTaking (s, stopping)
  | stay : (s.isShutdown && s.backlog.isEmpty) = false → Goes s leaveTaking (s, picking)
  | pick (id : TaskId) :
      s.backlog.nextDue s.clock.accurate.1 (some s.lowWait) = some id →
      Goes s picking ({ s with clock := s.clock.accurate.2 }, acquiring id s.clock.accurate.1 s.lowWait)
  | rest :
      s.backlog.nextDue s.clock.accurate.1 (some s.lowWait) = none →
      Goes s picking ({ s with clock := s.clock.accurate.2 },
        parked (parkEnd s.clock.accurate.1 s.backlog.nextRunAt) .nothingDue)
  | reserve (id : TaskId) (now lowWait : Nat) (pool : Pool) (k : Nat) :
      s.pool.acquire (s.backlog.task id).priority (s.backlog.task id).runAt now lowWait = (pool, .idle k) →
      Goes s (acquiring id now lowWait) ({ s with pool := pool }, unlinking id k)
  | grow (id : TaskId) (now lowWait : Nat) (pool : Pool) :
      s.pool.acquire (s.backlog.task id).priority (s.backlog.task id).runAt now lowWait = (pool, .grow) →
      Goes s (acquiring id now lowWait) ({ s with pool := pool }, registering id)
  | awaitPlace (id : TaskId) (now lowWait : Nat) (pool : Pool) (deadline : Nat) :
      s.pool.acquire (s.backlog.task id).priority (s.backlog.task id).runAt now lowWait = (pool, .waitUntil deadline) →
      Goes s (acquiring id now lowWait) ({ s with pool := pool }, consulting id now deadline)
  | awaitWorker (id : TaskId) (now lowWait : Nat) (pool : Pool) :
      s.pool.acquire (s.backlog.task id).priority (s.backlog.task id).runAt now lowWait = (pool, .wait) →
      Goes s (acquiring id now lowWait) ({ s with pool := pool }, parked none (.worker id))
  | consult (id : TaskId) (now deadline : Nat) :
      Goes s (consulting id now deadline)
        (s, parked (parkEnd now (QueueSet.earlier (s.backlog.nextRunAfter now) (some deadline))) (.place id))
  | register (id : TaskId) :
      Goes s (registering id) ({ s with pool := s.pool.register.1 }, spawning id s.pool.register.2)
  | spawn (id : TaskId) (k : Nat) (factory : ThreadFactory) (thread : String) :
      s.factory.spawn = (factory, .ok thread) →
      Goes s (spawning id k) ({ s with factory := factory }, spawned id k thread)
  | retry (id : TaskId) (k : Nat) (factory : ThreadFactory) (error : SchedulerError) :
      s.factory.spawn = (factory, .error (.error error)) →
      Goes s (spawning id k) ({ s with factory := factory, pool := s.pool.removeWorker k },
        parked (some (s.clock.source.reading + retryPause)) .retry)
  | spawnFault (id : TaskId) (k : Nat) (factory : ThreadFactory) (fault : Fault) :
      s.factory.spawn = (factory, .error (.fault fault)) →
      Goes s (spawning id k) ({ s with factory := factory }, faulted fault)
  | start (id : TaskId) (k : Nat) (thread : String) : Goes s (spawned id k thread) (s, unlinking id k)
  | unlink (id : TaskId) (k : Nat) (backlog : Backlog) :
      s.backlog.remove id = (backlog, true) →
      Goes s (unlinking id k) ({ s with backlog := backlog }, claiming id k)
  | gone (id : TaskId) (k : Nat) (backlog : Backlog) :
      s.backlog.remove id = (backlog, false) →
      Goes s (unlinking id k) ({ s with backlog := backlog }, releasing k)
  | claim (id : TaskId) (k : Nat) (backlog : Backlog) :
      s.backlog.begin id = (backlog, true) →
      Goes s (claiming id k) ({ s with backlog := backlog }, handing id k)
  | drop (id : TaskId) (k : Nat) (backlog : Backlog) :
      s.backlog.begin id = (backlog, false) →
      Goes s (claiming id k) ({ s with backlog := backlog }, releasing k)
  | hand (id : TaskId) (k : Nat) (pool : Pool) :
      s.pool.hand k id = (pool, true) → Goes s (handing id k) ({ s with pool := pool }, checking)
  | keep (id : TaskId) (k : Nat) (pool : Pool) :
      s.pool.hand k id = (pool, false) → Goes s (handing id k) ({ s with pool := pool }, restoring id)
  | restore (id : TaskId) (backlog : Backlog) :
      s.backlog.transition id .executing .pending = (backlog, true) →
      Goes s (restoring id) ({ s with backlog := backlog }, reinserting id)
  | letGo (id : TaskId) (backlog : Backlog) :
      s.backlog.transition id .executing .pending = (backlog, false) →
      Goes s (restoring id) ({ s with backlog := backlog }, checking)
  | reinsert (id : TaskId) (backlog : Backlog) :
      s.backlog.add id = .ok backlog → Goes s (reinserting id) ({ s with backlog := backlog }, checking)
  | addFault (id : TaskId) (fault : Fault) :
      s.backlog.add id = .error fault → Goes s (reinserting id) (s, faulted fault)
  | release (k : Nat) : Goes s (releasing k) ({ s with pool := s.pool.releaseUnused k }, checking)
  | wake (until? : Option Nat) (reason : ParkReason) :
      s.dispatcher.woken = true →
      Goes s (parked until? reason) ({ s with dispatcher := { s.dispatcher with woken := false } }, checking)
  | expire (until? : Option Nat) (reason : ParkReason) :
      s.dispatcher.woken = false → until?.any (· ≤ s.clock.source.reading) = true →
      Goes s (parked until? reason) (s, checking)
  | sleep (until? : Option Nat) (reason : ParkReason) :
      s.dispatcher.woken = false → Goes s (parked until? reason) (s, parked until? reason)
  | stop : Goes s stopping ({ s with pool := s.pool.stop }, leaving)
  | exit : Goes s leaving ({ s with dispatcher := { s.dispatcher with running := false } }, exited)
  | exited : Goes s exited (s, exited)
  | faulted (fault : Fault) : Goes s (faulted fault) (s, faulted fault)

theorem goes_step (s : PooledScheduler) (d : Dispatcher) : d.Goes s (d.step s) := by
  cases d with
  | checking =>
    simp only [step]
    split
    · exact .check _ ‹_›
    · exact .skip ‹_›
  | sweeping scope c =>
    cases c with
    | ended discarded => exact .swept scope discarded
    | _ => exact .sweep scope _ (by simp)
  | counting discarded => exact .count discarded
  | leaveTaking =>
    simp only [step]
    split
    · next hfound => exact .leave (Bool.and_eq_true_iff.1 hfound).1 (Bool.and_eq_true_iff.1 hfound).2
    · next hfound => exact .stay (Bool.eq_false_iff.2 hfound)
  | picking =>
    simp only [step]
    split
    · exact .pick _ ‹_›
    · exact .rest ‹_›
  | acquiring id now lowWait =>
    simp only [step]
    rcases h : s.pool.acquire (s.backlog.task id).priority (s.backlog.task id).runAt now lowWait with ⟨pool, answer⟩
    cases answer with
    | idle k => exact .reserve id now lowWait pool k h
    | grow => exact .grow id now lowWait pool h
    | waitUntil deadline => exact .awaitPlace id now lowWait pool deadline h
    | wait => exact .awaitWorker id now lowWait pool h
  | consulting id now deadline => exact .consult id now deadline
  | registering id => exact .register id
  | spawning id k =>
    simp only [step]
    rcases h : s.factory.spawn with ⟨factory, (error | fault) | thread⟩
    · exact .retry id k factory error h
    · exact .spawnFault id k factory fault h
    · exact .spawn id k factory thread h
  | spawned id k thread => exact .start id k thread
  | unlinking id k =>
    simp only [step]
    rcases h : s.backlog.remove id with ⟨backlog, _ | _⟩
    · exact .gone id k backlog h
    · exact .unlink id k backlog h
  | claiming id k =>
    simp only [step]
    rcases h : s.backlog.begin id with ⟨backlog, _ | _⟩
    · exact .drop id k backlog h
    · exact .claim id k backlog h
  | handing id k =>
    simp only [step]
    rcases h : s.pool.hand k id with ⟨pool, _ | _⟩
    · exact .keep id k pool h
    · exact .hand id k pool h
  | restoring id =>
    simp only [step]
    rcases h : s.backlog.transition id .executing .pending with ⟨backlog, _ | _⟩
    · exact .letGo id backlog h
    · exact .restore id backlog h
  | reinserting id =>
    simp only [step]
    rcases h : s.backlog.add id with fault | backlog
    · exact .addFault id fault h
    · exact .reinsert id backlog h
  | releasing k => exact .release k
  | parked until? reason =>
    simp only [step]
    split
    · exact .wake until? reason ‹_›
    · next hwoken =>
      split
      · exact .expire until? reason (Bool.eq_false_iff.2 hwoken) ‹_›
      · exact .sleep until? reason (Bool.eq_false_iff.2 hwoken)
  | stopping => exact .stop
  | leaving => exact .exit
  | exited => exact .exited
  | faulted fault => exact .faulted fault

end Dispatcher

end TaskScheduling
