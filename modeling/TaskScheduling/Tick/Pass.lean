import TaskScheduling.Tick.Scheduler

/-!
# Ticks

A tick reads the clock once and runs everything that is due at that reading, the most urgent first, also what becomes
queued while it runs.  A panic ends the tick; the task counts as run, and what is left stays queued.  A blocking tick
that has run nothing waits: until something arrives, the next run time comes, or it is interrupted.

`Tick` and `Waiting` say how far a tick has got; `step` takes it one step on.  In the phase `running` the tick waits for
the action of a task to end, which `finish` reports, and in the phase `sleeping` for `wake`.
-/

namespace TaskScheduling

/-- How far a tick that waits for work has got.  From `flags` on it holds the lock on the flags of its scheduler, and
while it sleeps it does not. -/
inductive Waiting where
  | entering
  /-- About to look for an interrupt and for arrivals after the `seen` first ones. -/
  | flags (seen : Nat)
  /-- About to look for the next run time. -/
  | queues (seen : Nat)
  /-- Asleep since `since`, until a run time or for good. -/
  | sleeping (seen since : Nat) (until? : Option Nat)
  | ended (result : Except SchedulerError Unit)

namespace Waiting

def step (s : TickScheduler) : Waiting → TickScheduler × Waiting
  | entering => ({ s with locked := true }, flags s.arrivals)
  | flags seen =>
    if s.interrupted then ({ s with interrupted := false, locked := false }, ended (.error .interrupted))
    else if s.arrivals ≠ seen then ({ s with locked := false }, ended (.ok ()))
    else (s, queues seen)
  | queues seen =>
    let (now, clock) := s.clock.now
    let s := { s with clock := clock, locked := false }
    match s.backlog.nextRunAt with
    | none => ({ s with notified := false }, sleeping seen now none)
    | some t =>
      if t ≤ now then (s, ended (.ok ())) else ({ s with notified := false }, sleeping seen now (some t))
  | sleeping seen since until? => (s, sleeping seen since until?)
  | ended result => (s, ended result)

/-- Ends the sleep, because of a wake-up or because its time is over. -/
def wake (s : TickScheduler) : Waiting → TickScheduler × Waiting
  | sleeping seen _ _ => ({ s with locked := true, notified := false }, flags seen)
  | w => (s, w)

end Waiting

/-- How far a tick has got.  `now` is the reading that it uses and `ran` counts the tasks that it has run. -/
inductive Tick where
  | entering
  | reading
  | picking (now ran : Nat)
  /-- A task has left its queue, and is about to be claimed. -/
  | claiming (now ran : Nat) (id : TaskId)
  | running (now ran : Nat) (id : TaskId)
  | waiting (w : Waiting)
  | ended (result : Except Trouble Nat)

namespace Tick

/-- Ends a tick. -/
private def leave (s : TickScheduler) (result : Except Trouble Nat) : TickScheduler × Tick :=
  ({ s with ticking := false }, ended result)

def step (s : TickScheduler) : Tick → TickScheduler × Tick
  | entering =>
    if s.ticking then (s, ended (.error (.fault .nestedTick))) else ({ s with ticking := true }, reading)
  | reading =>
    let (now, clock) := s.clock.now
    ({ s with clock := clock }, picking now 0)
  | picking now ran =>
    match s.backlog.popDue now with
    | some (id, backlog) => ({ s with backlog := backlog }, claiming now ran id)
    | none => if ran > 0 || !s.blocking then leave s (.ok ran) else (s, waiting .entering)
  | claiming now ran id =>
    match s.backlog.begin id with
    | (backlog, true) => ({ s with backlog := backlog.modify id Task.countRun }, running now ran id)
    | (backlog, false) => ({ s with backlog := backlog }, picking now ran)
  | running now ran id => (s, running now ran id)
  | waiting (.ended (.ok ())) => (s, reading)
  | waiting (.ended (.error cause)) => leave s (.error (.error cause))
  | waiting w =>
    let (s, w) := w.step s
    (s, waiting w)
  | ended result => (s, ended result)

/-- Goes on after the action that is running has ended, perhaps with a panic, on the thread of this name. -/
def finish (s : TickScheduler) (thread : Option String) (outcome : Option Panic) : Tick → TickScheduler × Tick
  | running now ran id =>
    let (completedAt, clock) := s.clock.now
    let (backlog, result) := s.backlog.complete id completedAt
    let s := { s with backlog := backlog, clock := clock }
    match result, outcome with
    | .error fault, _ => leave s (.error (.fault fault))
    | .ok _, some panic => leave s (.error (.error (.taskFailed (.ofPanic thread id panic))))
    | .ok _, none => (s, picking now (ran + 1))
  | t => (s, t)

end Tick

end TaskScheduling
