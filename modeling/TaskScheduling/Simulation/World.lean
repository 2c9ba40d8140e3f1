import TaskScheduling.Dispatch.Dispatcher
import TaskScheduling.Dispatch.Execution
import TaskScheduling.Dispatch.Shutdown
import TaskScheduling.Pool.WorkerPhase
import TaskScheduling.Simulation.Reply
import TaskScheduling.Simulation.Script
import TaskScheduling.Tick.Pass

/-!
# Simulated worlds

A world holds a scheduler, the threads that use it, and a log.  A thread is a stack of frames: a script may wait for a
tick, which waits for the action of a task, which is a script again.  Time counts milliseconds since the world began.
-/

namespace TaskScheduling.Simulation

inductive Engine where
  | ticked (s : TickScheduler) (holds : Nat)
  | pooled (s : PooledScheduler) (dropped : Bool)

/-- Who carries out a script. -/
inductive Author where
  /-- A thread of its own, which survives a panic. -/
  | thread
  /-- The action of a task. -/
  | action (name : String)

/-- What a command waits for. -/
inductive Condition where
  | nothing
  | gate (g : Nat) (interruptible : Bool)
  | state (t : Nat) (state : Option TaskState)
  | runs (t n : Nat)
  | logged (n : Nat)
  | allDone
  | poolIs (size idle : Nat)
  | executed (n : Nat)
  | terminated
  /-- The same for one who drops the scheduler, and gets no answer. -/
  | gone

inductive Frame where
  /-- A script with the replies to the commands that are done, the last one first. -/
  | script (author : Author) (rest : List Line) (replies : List Reply)
  | waiting (condition : Condition) (deadline : Option Nat)
  /-- A tick, and when it took its last step. -/
  | tick (t : Tick) (time : Nat)
  /-- Waits for the thread of a helper, with the reply of the tick beside which it ran. -/
  | joining (helper : Nat) (reply : Option Reply)
  | dispatcher (d : Dispatcher)
  | worker (id : Nat) (phase : WorkerPhase)
  | execution (id : TaskId) (e : Execution)

structure Thread where
  name : Option String
  stack : List Frame

/-- What a task does when it runs. -/
structure Action where
  name : String
  runs : List (List Line)

structure World where
  engine : Engine
  /-- The submissions in the order in which they were decided. -/
  submissions : Array (Option TaskId)
  /-- The actions of the accepted tasks, by the number of the task. -/
  actions : Array (Option Action)
  log : Array Entry
  openGates : List Nat
  threads : Array Thread
  elapsed : Nat
  /-- Whether log entries tell the time. -/
  timed : Bool

namespace World

/-- A world with a main thread and nothing in progress. -/
def start (engine : Engine) (timed : Bool) : World where
  engine := engine
  submissions := #[]
  actions := #[]
  log := #[]
  openGates := []
  threads := #[⟨some "main", []⟩]
  elapsed := 0
  timed := timed

def backlog (w : World) : Backlog :=
  match w.engine with
  | .ticked s _ => s.backlog
  | .pooled s _ => s.backlog

def clock (w : World) : Clock :=
  match w.engine with
  | .ticked s _ => s.clock
  | .pooled s _ => s.clock

def withEngine (w : World) (engine : Engine) : World := { w with engine := engine }

def withTicked (w : World) (s : TickScheduler) : World :=
  match w.engine with
  | .ticked _ holds => w.withEngine (.ticked s holds)
  | .pooled _ _ => w

def withPooled (w : World) (s : PooledScheduler) : World :=
  match w.engine with
  | .ticked _ _ => w
  | .pooled _ dropped => w.withEngine (.pooled s dropped)

def record (w : World) (e : Entry) : World := { w with log := w.log.push e }

/-- The task of an accepted submission. -/
def submission? (w : World) (t : Nat) : Option TaskId := w.submissions[t]?.join

def task? (w : World) (t : Nat) : Option Task := (w.submission? t).map w.backlog.task

/-- The tasks that were accepted. -/
def accepted (w : World) : List Task := (w.submissions.toList.filterMap id).map w.backlog.task

/-- How often their actions were called. -/
def totalRuns (w : World) : Nat := w.accepted.foldl (fun n t => n + t.runs) 0

/-- The number of a task that was accepted or not, at the end of its submission. -/
def conclude (w : World) (id : Option TaskId) : World := { w with submissions := w.submissions.push id }

/-- Notes the action of an accepted task. -/
def enact (w : World) (id : TaskId) (action : Action) : World :=
  let gap := id.index - w.actions.size
  let actions := w.actions ++ (Array.replicate gap none : Array (Option Action))
  if id.index < actions.size then { w with actions := actions.setIfInBounds id.index (some action) }
  else { w with actions := actions.push (some action) }

def thread (w : World) (i : Nat) : Thread := w.threads[i]?.getD ⟨none, []⟩

def withStack (w : World) (i : Nat) (stack : List Frame) : World :=
  { w with threads := w.threads.modify i fun t => { t with stack := stack } }

def push (w : World) (i : Nat) (f : Frame) : World := w.withStack i (f :: (w.thread i).stack)

/-- Starts a thread. -/
def spawn (w : World) (name : Option String) (f : Frame) : World := { w with threads := w.threads.push ⟨name, [f]⟩ }

/-- The worker whose thread this is. -/
def workerOf (w : World) (i : Nat) : Option Nat :=
  match (w.thread i).stack.getLast? with
  | some (.worker id _) => some id
  | _ => none

def isInterrupted (w : World) (i : Nat) : Bool :=
  match w.engine, w.workerOf i with
  | .pooled s _, some id => s.pool.isInterrupted id
  | _, _ => false

/-- Whether a thread has come to the end of its script. -/
def isOver (w : World) (i : Nat) : Bool :=
  match (w.thread i).stack with
  | [] => true
  | [.script .thread [] _] => true
  | _ => false

/-- The replies in the script of a thread, in order. -/
def replies (w : World) (i : Nat) : List Reply :=
  match (w.thread i).stack.getLast? with
  | some (.script _ _ replies) => replies.reverse
  | _ => []

/-- Whether what a command waits for has come true. -/
def holds (w : World) (i : Nat) : Condition → Bool
  | .nothing => false
  | .gate g interruptible => g ∈ w.openGates || (interruptible && w.isInterrupted i)
  | .state t state => match w.task? t, state with
    | some task, some state => task.state = state
    | _, _ => false
  | .runs t n => (w.task? t).any fun task => n ≤ task.runs
  | .logged n => n ≤ w.log.size
  | .allDone => w.submissions.all fun id => id.all fun id => (w.backlog.task id).state = .done
  | .poolIs size idle => match w.engine with
    | .pooled s _ => s.pool.size = size && s.pool.idle.length = idle
    | .ticked _ _ => false
  | .executed n => match w.engine with
    | .pooled s _ => n ≤ s.stats.executed
    | .ticked _ _ => false
  | .terminated | .gone => match w.engine with
    | .pooled s _ => !s.dispatcher.running && s.pool.isTerminated
    | .ticked _ _ => false

/-- The reply of a command that has waited. -/
def replyAfter (w : World) (i : Nat) : Condition → Reply
  | .nothing | .gone => .nothing
  | .gate g _ => .text (if g ∈ w.openGates then "open" else "interrupted")
  | c => .flag (w.holds i c)

/-! ### When threads go on -/

/-- When a frame on top of a stack goes on by itself. -/
def frameDeadline : Frame → Option Nat
  | .waiting _ deadline => deadline
  | .tick (.waiting (.sleeping _ since (some t))) time => some (time + (t - since))
  | .dispatcher (.parked until? _) => until?
  | .worker _ (.parked _ until?) => until?
  | _ => none

def deadline (w : World) (i : Nat) : Option Nat := (w.thread i).stack.head?.bind frameDeadline

/-- Whether a frame on top of a stack can take a step. -/
def frameCanStep (w : World) (i : Nat) (f : Frame) : Bool :=
  let due := (frameDeadline f).any (· ≤ w.elapsed)
  match f, w.engine with
  | .script .thread [] _, _ => false
  | .script _ _ _, _ => true
  | .waiting c _, _ => due || w.holds i c
  | .tick (.waiting (.sleeping _ _ _)) _, .ticked s _ => due || s.notified
  | .tick _ _, _ => true
  | .joining helper reply, _ => reply.isSome && w.isOver helper
  | .dispatcher d, .pooled s _ => d.isAwake s
  | .worker _ .exited, _ => false
  | .worker id phase, .pooled s _ => phase.isAwake s.pool id w.elapsed
  | .execution _ _, _ => true
  | _, _ => false

def canStep (w : World) (i : Nat) : Bool := (w.thread i).stack.head?.any (w.frameCanStep i)

/-- Moves time on; a clock that follows the time sees it. -/
def elapse (w : World) (t : Nat) : World :=
  let tell (c : Clock) : Clock :=
    match c.source with
    | .monotonic _ => { c with source := .monotonic t }
    | .manual _ => c
  let engine := match w.engine with
    | .ticked s holds => Engine.ticked { s with clock := tell s.clock } holds
    | .pooled s dropped => Engine.pooled { s with clock := tell s.clock } dropped
  { w with elapsed := t, engine := engine }

end World

end TaskScheduling.Simulation
