import TaskScheduling.Clock
import TaskScheduling.Queue.Clearance
import TaskScheduling.Queue.Completion

/-!
# Schedulers driven by ticks

A tick scheduler has no threads of its own: tasks run inside the ticks that its owner asks for.  A submission is queued
under a held clock, so that it is ordered against one reading of the time; then the arrival is counted, and a tick that
sleeps for want of work is woken.  These three steps are taken by themselves, and others may act in between.

* `accept_error_iff`: a submission is refused only for a period below one millisecond.
* `accept_of_invalid`: a refused submission leaves the backlog alone.
-/

namespace TaskScheduling

structure TickScheduler where
  backlog : Backlog
  clock : Clock
  /-- Whether a tick waits for work when nothing is due. -/
  blocking : Bool
  defaultPriority : Priority
  /-- Submissions counted so far. -/
  arrivals : Nat
  /-- Set by an interrupt, until a waiting tick has seen it. -/
  interrupted : Bool
  /-- Whether a tick that waits is looking at `arrivals` and `interrupted`, which nobody may change meanwhile. -/
  locked : Bool
  /-- Whether a wake-up has reached the tick that sleeps. -/
  notified : Bool
  /-- Whether a tick is in progress. -/
  ticking : Bool
  deriving DecidableEq

namespace TickScheduler

def start (blocking : Bool) (clock : Clock) (defaultPriority : Priority) : TickScheduler where
  backlog := .empty
  clock := clock
  blocking := blocking
  defaultPriority := defaultPriority
  arrivals := 0
  interrupted := false
  locked := false
  notified := false
  ticking := false

instance : Inhabited TickScheduler := ⟨start false default .high⟩

/-! ### Submissions -/

/-- Builds a task at the held time and queues it. -/
def accept (s : TickScheduler) (delay : Duration) (kind : TaskKind) (options : TaskOptions) :
    TickScheduler × Except Trouble TaskId :=
  let clock := s.clock.hold
  if kind.isValid then
    let (task, backlog) :=
      s.backlog.build clock.cached delay kind (options.priority.getD s.defaultPriority) options.handler
    match (backlog.enter task).add task.id with
    | .ok backlog => ({ s with backlog := backlog, clock := clock.release }, .ok task.id)
    | .error fault => ({ s with backlog := backlog, clock := clock.release }, .error (.fault fault))
  else ({ s with clock := clock.release }, .error (.error .invalidPeriod))

/-- Counts an arrival. -/
def announce (s : TickScheduler) : TickScheduler := { s with arrivals := s.arrivals + 1 }

/-- Wakes a tick that sleeps. -/
def notify (s : TickScheduler) : TickScheduler := { s with notified := true }

/-- A submission during which nothing else happens. -/
def submit (s : TickScheduler) (delay : Duration) (kind : TaskKind) (options : TaskOptions) :
    TickScheduler × Except Trouble TaskId :=
  match s.accept delay kind options with
  | (s, .ok id) => (s.announce.notify, .ok id)
  | (s, .error trouble) => (s, .error trouble)

/-! ### Everything else but ticks -/

def cancel (s : TickScheduler) (id : TaskId) : TickScheduler × Bool :=
  let (backlog, claimed) := s.backlog.cancel id
  ({ s with backlog := backlog }, claimed)

/-- Cancels everything queued. -/
def clear (s : TickScheduler) : TickScheduler × List TaskId :=
  let (backlog, claimed) := s.backlog.clear .everything
  ({ s with backlog := backlog }, claimed)

/-- Makes the tick that waits, or else the next one that would, give up. -/
def interrupt (s : TickScheduler) : TickScheduler := { s with interrupted := true }.notify

def hasDue (s : TickScheduler) : TickScheduler × Bool :=
  let (now, clock) := s.clock.now
  ({ s with clock := clock }, (s.backlog.nextDue now none).isSome)

def now (s : TickScheduler) : TickScheduler × Nat :=
  let (now, clock) := s.clock.now
  ({ s with clock := clock }, now)

def hold (s : TickScheduler) : TickScheduler := { s with clock := s.clock.hold }

def release (s : TickScheduler) : TickScheduler := { s with clock := s.clock.release }

/-! ### Refused submissions -/

theorem accept_of_invalid {s : TickScheduler} {kind : TaskKind} (h : kind.isValid = false) (delay : Duration)
    (options : TaskOptions) :
    s.accept delay kind options = ({ s with clock := s.clock.hold.release }, .error (.error .invalidPeriod)) := by
  simp [accept, h]

theorem refusal?_build (s : TickScheduler) (now : Nat) (delay : Duration) (kind : TaskKind) (p : Priority)
    (handler : Option FailureHandler) :
    ((s.backlog.queueSet p).refusal? (s.backlog.build now delay kind p handler).1) = none := by
  simp [QueueSet.refusal?, Backlog.build, Task.build]

theorem accept_error_iff {s : TickScheduler} {delay : Duration} {kind : TaskKind} {options : TaskOptions}
    {trouble : Trouble} :
    (s.accept delay kind options).2 = .error trouble ↔
      kind.isValid = false ∧ trouble = .error .invalidPeriod := by
  unfold accept
  by_cases h : kind.isValid
  · simp [h, Backlog.add, Backlog.enter, Backlog.build, Backlog.task, QueueSet.add, QueueSet.refusal?, Task.build]
  · simp [h, eq_comm]

end TickScheduler

end TaskScheduling
