import TaskScheduling.Proofs.Dispatch.Phases
import TaskScheduling.Proofs.Dispatch.System

/-!
# What is known about the dispatcher from outside

Submissions, shutdowns and executions may wake the dispatcher, and the first submission starts it; otherwise they leave
the record of the dispatcher alone (`Client.tells_step`, `Execution.tells_step`).  The dispatcher itself uses its
wake-up and takes its leave.  So the record tells whether there is a dispatcher and whether it has gone
(`System.Reachable.isRecorded`).
-/

namespace TaskScheduling

/-- What somebody else does to the record of the dispatcher. -/
inductive DispatcherRecord.Tells (r : DispatcherRecord) : DispatcherRecord → Prop where
  | nothing : Tells r r
  | wake : r.thread.isSome = true → Tells r { r with woken := true }

/-- What was told to a dispatcher that has not been woken has not been a wake-up. -/
theorem DispatcherRecord.Tells.woken_eq_false {r r' : DispatcherRecord} (h : r.Tells r') (hwoken : r'.woken = false) :
    r.woken = false := by
  cases h with
  | nothing => exact hwoken
  | wake _ => cases hwoken

namespace PooledScheduler

variable {s : PooledScheduler}

theorem tells_wakeDispatcher (s : PooledScheduler) : s.dispatcher.Tells s.wakeDispatcher.dispatcher := by
  unfold wakeDispatcher
  split
  · exact .wake ‹_›
  · exact .nothing

theorem tells_setMaxPoolSize (s : PooledScheduler) (n : Nat) : s.dispatcher.Tells (s.setMaxPoolSize n).dispatcher :=
  tells_wakeDispatcher { s with pool := s.pool.setMaxSize n }

theorem tells_setLowWait (s : PooledScheduler) (d : Duration) : s.dispatcher.Tells (s.setLowWait d).dispatcher :=
  tells_wakeDispatcher { s with lowWait := d.millis }

theorem woken_wakeDispatcher (h : s.dispatcher.thread.isSome = true) : s.wakeDispatcher.dispatcher.woken = true := by
  rw [wakeDispatcher, if_pos h]

@[simp] theorem shutdown_wakeDispatcher (s : PooledScheduler) : s.wakeDispatcher.shutdown = s.shutdown := by
  unfold wakeDispatcher
  split <;> rfl

/-- Whether the dispatcher has been started between two states. -/
def Starts (s s' : PooledScheduler) : Prop :=
  s.shutdown = none ∧ s.dispatcher.thread = none ∧ ∃ name, s'.dispatcher = ⟨some name, true, false⟩

theorem tells_ensureDispatcher (s : PooledScheduler) :
    s.dispatcher.Tells s.ensureDispatcher.1.dispatcher ∨ s.Starts s.ensureDispatcher.1 := by
  unfold ensureDispatcher
  split
  · exact .inl .nothing
  · next hthread =>
    split
    · exact .inl .nothing
    · next hshutdown =>
      rcases s.factory.spawn with ⟨factory, trouble | name⟩
      · exact .inl .nothing
      · exact .inr ⟨by simpa [isShutdown] using hshutdown, by simpa using hthread, name, rfl⟩

theorem shutdown_ensureDispatcher (s : PooledScheduler) : s.ensureDispatcher.1.shutdown = s.shutdown := by
  unfold ensureDispatcher
  split
  · rfl
  · split
    · rfl
    · rcases s.factory.spawn with ⟨factory, trouble | name⟩ <;> rfl

end PooledScheduler

/-! ### Those who tell the dispatcher -/

theorem Submission.tells_step (s : PooledScheduler) (r : Request) (m : Submission) :
    s.dispatcher.Tells (m.step s r).1.dispatcher ∨ s.Starts (m.step s r).1 := by
  cases m with
  | building =>
    simp only [step]
    split <;> exact .inl .nothing
  | preparing task =>
    have htells := s.tells_ensureDispatcher
    simp only [step]
    split <;> simp_all
  | inserting task =>
    simp only [step]
    split <;> exact .inl .nothing
  | withdrawing id c => cases c <;> exact .inl .nothing
  | waking id => exact .inl s.tells_wakeDispatcher
  | _ => exact .inl .nothing

theorem Submission.shutdown_step (s : PooledScheduler) (r : Request) (m : Submission) :
    (m.step s r).1.shutdown = s.shutdown := by
  cases m with
  | building =>
    simp only [step]
    split <;> rfl
  | preparing task =>
    have hshutdown := s.shutdown_ensureDispatcher
    simp only [step]
    split <;> simp_all
  | inserting task =>
    simp only [step]
    split <;> rfl
  | withdrawing id c => cases c <;> rfl
  | waking id => exact s.shutdown_wakeDispatcher
  | _ => rfl

theorem Shutdown.tells_step (s : PooledScheduler) (m : Shutdown) : s.dispatcher.Tells (m.step s).1.dispatcher := by
  cases m with
  | clearing scope c => cases c <;> exact .nothing
  | waking discarded =>
    simp only [step, PooledScheduler.passOnShutdown]
    split
    · exact s.tells_wakeDispatcher
    · exact .nothing
  | _ => exact .nothing

/-- Only the first step of a shutdown raises the flag. -/
theorem Shutdown.shutdown_step (s : PooledScheduler) (m : Shutdown) :
    (m.step s).1.shutdown = s.shutdown ∨ ∃ mode, m = raising mode := by
  cases m with
  | raising mode => exact .inr ⟨mode, rfl⟩
  | clearing scope c => cases c <;> exact .inl rfl
  | waking discarded =>
    simp only [step, PooledScheduler.passOnShutdown]
    split
    · exact .inl s.shutdown_wakeDispatcher
    · exact .inl rfl
  | _ => exact .inl rfl

namespace Client

theorem tells_step (s : PooledScheduler) (c : Client) :
    s.dispatcher.Tells (c.step s).1.dispatcher ∨ s.Starts (c.step s).1 := by
  cases c with
  | submitting r m => exact m.tells_step s r
  | cancelling id c =>
    cases c with
    | ended claimed =>
      simp only [step]
      split <;> exact .inl .nothing
    | _ => exact .inl .nothing
  | shutting m => exact .inl (m.tells_step s)
  | _ => exact .inl .nothing

theorem shutdown_step (s : PooledScheduler) (c : Client) :
    (c.step s).1.shutdown = s.shutdown ∨ ∃ mode, c = shutting (.raising mode) := by
  cases c with
  | submitting r m => exact .inl (m.shutdown_step s r)
  | cancelling id c =>
    cases c with
    | ended claimed =>
      simp only [step]
      split <;> exact .inl rfl
    | _ => exact .inl rfl
  | shutting m =>
    rcases m.shutdown_step s with hsame | ⟨mode, rfl⟩
    · exact .inl hsame
    · exact .inr ⟨mode, rfl⟩
  | _ => exact .inl rfl

/-- A shutdown is never taken back. -/
theorem isShutdown_step {s : PooledScheduler} (h : s.isShutdown = true) (c : Client) :
    (c.step s).1.isShutdown = true := by
  rcases c.shutdown_step s with hsame | ⟨mode, rfl⟩
  · rw [PooledScheduler.isShutdown, hsame]
    exact h
  · rfl

end Client

theorem Execution.tells_step (s : PooledScheduler) (id : TaskId) (thread : Option String) (e : Execution) :
    s.dispatcher.Tells (e.step s id thread).1.dispatcher := by
  cases e with
  | dropping =>
    simp only [step]
    split <;> exact .nothing
  | completing completedAt c => cases c <;> exact .nothing
  | waking => exact s.tells_wakeDispatcher
  | _ => exact .nothing

theorem Execution.shutdown_step (s : PooledScheduler) (id : TaskId) (thread : Option String) (e : Execution) :
    (e.step s id thread).1.shutdown = s.shutdown := by
  cases e with
  | dropping =>
    simp only [step]
    split <;> rfl
  | completing completedAt c => cases c <;> rfl
  | waking => exact s.shutdown_wakeDispatcher
  | _ => rfl

/-! ### The dispatcher itself -/

namespace Dispatcher

/-- The dispatcher uses a wake-up when it is parked, and says in the end that it goes. -/
theorem record_step (s : PooledScheduler) (d : Dispatcher) :
    (d.step s).1.dispatcher = s.dispatcher ∨
      ((∃ until? reason, d = parked until? reason) ∧ s.dispatcher.woken = true ∧
        (d.step s).1.dispatcher = { s.dispatcher with woken := false } ∧ (d.step s).2 = checking) ∨
      d = leaving ∧ (d.step s).1.dispatcher = { s.dispatcher with running := false } ∧ (d.step s).2 = exited := by
  have hgoes := d.goes_step s
  generalize d.step s = next at hgoes ⊢
  cases hgoes with
  | wake until? reason hwoken => exact .inr (.inl ⟨⟨until?, reason, rfl⟩, hwoken, rfl, rfl⟩)
  | exit => exact .inr (.inr ⟨rfl, rfl, rfl⟩)
  | _ => exact .inl rfl

theorem shutdown_step (s : PooledScheduler) (d : Dispatcher) : (d.step s).1.shutdown = s.shutdown := by
  have hgoes := d.goes_step s
  generalize d.step s = next at hgoes ⊢
  cases hgoes <;> rfl

/-- Whoever has gone stays away, and nobody else is gone without having said so. -/
theorem step_eq_exited_iff (s : PooledScheduler) (d : Dispatcher) :
    (d.step s).2 = exited ↔ d = leaving ∨ d = exited := by
  have hgoes := d.goes_step s
  generalize d.step s = next at hgoes ⊢
  cases hgoes <;> simp

end Dispatcher

/-! ### Steps of a system -/

/-- What may become of a dispatcher otherwise: it looks at the queues at another time than its step says, or wakes up
without a reason. -/
inductive Dispatcher.MayBecome (s : PooledScheduler) : Dispatcher → Dispatcher → Prop where
  | pick (id : TaskId) (now lowWait : Nat) : MayBecome s picking (acquiring id now lowWait)
  | miss (until? : Option Nat) : MayBecome s picking (parked until? .nothingDue)
  | leave : s.isShutdown = true → MayBecome s leaveTaking stopping
  | rouse (until? : Option Nat) (reason : ParkReason) : MayBecome s (parked until? reason) checking

namespace System

/-- The flag is raised by a shutdown in its first step, and by nothing else. -/
theorem Step.shutdown_cases {s s' : System} (hstep : Step s s') :
    s'.scheduler.shutdown = s.scheduler.shutdown ∨
      ∃ i mode, s.clients i = .shutting (.raising mode) ∧ s' = s.stepClient i := by
  cases hstep with
  | client i =>
    rcases (s.clients i).shutdown_step s.scheduler with hsame | ⟨mode, hclient⟩
    · exact .inl hsame
    · exact .inr ⟨i, mode, hclient, rfl⟩
  | dispatcher d now _ => exact .inl (d.shutdown_step s.scheduler)
  | worker k phase now _ =>
    cases phase with
    | announcing => exact .inl s.scheduler.shutdown_wakeDispatcher
    | _ => exact .inl rfl
  | execution k id e name _ => exact .inl (e.shutdown_step s.scheduler id name)
  | setMaxPoolSize n => exact .inl (PooledScheduler.shutdown_wakeDispatcher _)
  | setLowWait d => exact .inl (PooledScheduler.shutdown_wakeDispatcher _)
  | _ => exact .inl rfl

theorem Step.isShutdown {s s' : System} (hstep : Step s s') (h : s.scheduler.isShutdown = true) :
    s'.scheduler.isShutdown = true := by
  rcases hstep.shutdown_cases with hsame | ⟨i, mode, -, rfl⟩
  · rw [PooledScheduler.isShutdown, hsame]
    exact h
  · exact (s.clients i).isShutdown_step h

/-- How a step concerns the dispatcher: somebody else takes it and may wake the dispatcher, or starts it; or the
dispatcher goes on. -/
inductive Concerns (s : System) : System → Prop where
  | tells {s' : System} : s'.dispatcher = s.dispatcher →
      s.scheduler.dispatcher.Tells s'.scheduler.dispatcher → Concerns s s'
  | starts (i : Nat) : s.dispatcher = none → (s.stepClient i).dispatcher = some .checking →
      s.scheduler.Starts (s.stepClient i).scheduler → Concerns s (s.stepClient i)
  | goesOn (d : Dispatcher) (now : Nat) : s.dispatcher = some d → Concerns s (s.stepDispatcher d now)
  | becomes (d d' : Dispatcher) : s.dispatcher = some d → d.MayBecome s.scheduler d' → Concerns s (s.withDispatcher d')

/-- The record tells whether there is a dispatcher, and whether it has not gone yet. -/
structure IsRecorded (s : System) : Prop where
  thread_isSome : s.scheduler.dispatcher.thread.isSome = s.dispatcher.isSome
  running_eq : s.scheduler.dispatcher.running = s.dispatcher.any (· ≠ .exited)

namespace IsRecorded

variable {s s' : System}

private theorem concerns_stepClient (h : s.IsRecorded) (i : Nat) : s.Concerns (s.stepClient i) := by
  have hthread := h.thread_isSome
  rcases (s.clients i).tells_step s.scheduler with htells | hstarts
  · refine .tells ?_ htells
    -- a dispatcher that was not started before is not started now
    cases hd : s.dispatcher with
    | some d => exact dispatcher_stepClient hd i
    | none =>
      rw [hd] at hthread
      have hstill : ((s.clients i).step s.scheduler).1.dispatcher.thread = none := by
        generalize ((s.clients i).step s.scheduler).1.dispatcher = r at htells
        cases htells <;> simpa using hthread
      simp only [System.stepClient, hd, hstill]
      rfl
  · have hd : s.dispatcher = none := by
      rw [hstarts.2.1] at hthread
      simpa using hthread.symm
    refine .starts i hd ?_ hstarts
    obtain ⟨-, -, name, hstarted⟩ := hstarts
    simp only [System.stepClient, hd, hstarted]
    rfl

theorem concerns (h : s.IsRecorded) (hstep : Step s s') : s.Concerns s' := by
  cases hstep with
  | client i => exact h.concerns_stepClient i
  | dispatcher d now hd => exact .goesOn d now hd
  | pick id now lowWait hd => exact .becomes _ _ hd (.pick id now lowWait)
  | miss until? hd => exact .becomes _ _ hd (.miss until?)
  | leave hd hshutdown => exact .becomes _ _ hd (.leave hshutdown)
  | rouse until? reason hd => exact .becomes _ _ hd (.rouse until? reason)
  | worker k phase now _ =>
    cases phase with
    | announcing => exact .tells rfl s.scheduler.tells_wakeDispatcher
    | _ => exact .tells rfl .nothing
  | execution k id e name _ => exact .tells rfl (e.tells_step s.scheduler id name)
  | setMaxPoolSize n => exact .tells rfl (s.scheduler.tells_setMaxPoolSize n)
  | setLowWait d => exact .tells rfl (s.scheduler.tells_setLowWait d)
  | _ => exact .tells rfl .nothing

theorem step (h : s.IsRecorded) (hstep : Step s s') : s'.IsRecorded := by
  obtain ⟨hthread, hrunning⟩ := h
  cases IsRecorded.concerns ⟨hthread, hrunning⟩ hstep with
  | tells hsame htells =>
    rw [← hsame] at hthread hrunning
    generalize hr : s'.scheduler.dispatcher = r at htells
    cases htells with
    | nothing => exact ⟨hr ▸ hthread, hr ▸ hrunning⟩
    | wake _ => exact ⟨by rw [hr]; exact hthread, by rw [hr]; exact hrunning⟩
  | starts i hd hnow hstarts =>
    obtain ⟨-, -, name, hstarted⟩ := hstarts
    exact ⟨by rw [hstarted, hnow]; rfl, by rw [hstarted, hnow]; rfl⟩
  | goesOn d now hd =>
    rw [hd] at hthread hrunning
    rcases d.record_step s.scheduler with hsame | ⟨⟨until?, reason, rfl⟩, -, hrecord, hnext⟩ | ⟨rfl, hrecord, hnext⟩
    · refine ⟨(congrArg (·.thread.isSome) hsame).trans hthread, (congrArg (·.running) hsame).trans ?_⟩
      have hstays : (d.step s.scheduler).2 = .exited ↔ d = .exited := by
        rw [Dispatcher.step_eq_exited_iff, or_iff_right]
        rintro rfl
        -- whoever leaves says so
        have hgone : s.scheduler.dispatcher.running = false := (congrArg DispatcherRecord.running hsame).symm
        rw [hgone] at hrunning
        cases hrunning
      rw [hrunning]
      simp only [System.stepDispatcher, Option.any_some, ne_eq, hstays]
    · refine ⟨(congrArg (·.thread.isSome) hrecord).trans hthread, (congrArg (·.running) hrecord).trans ?_⟩
      simp only [hrunning, System.stepDispatcher, hnext]
      rfl
    · refine ⟨(congrArg (·.thread.isSome) hrecord).trans hthread, (congrArg (·.running) hrecord).trans ?_⟩
      simp only [System.stepDispatcher, hnext]
      rfl
  | becomes d d' hd hbecomes =>
    rw [hd] at hthread hrunning
    refine ⟨hthread, hrunning.trans ?_⟩
    cases hbecomes <;> rfl

end IsRecorded

theorem Reachable.isRecorded {s : System} (h : Reachable s) : s.IsRecorded := by
  induction h with
  | start clock maxSize keepAlive factory router sink defaultPriority lowWait => exact ⟨rfl, rfl⟩
  | step _ hstep ih => exact ih.step hstep

end System

end TaskScheduling
