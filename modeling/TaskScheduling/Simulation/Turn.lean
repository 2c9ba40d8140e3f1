import TaskScheduling.Simulation.Commands
import TaskScheduling.Simulation.Machine

/-!
# Running a world

A thread takes a step by taking a step of the frame on top of its stack.  `World.perform` lets the main thread carry out
a command, while everything else goes on beside it.
-/

namespace TaskScheduling.Simulation

namespace World

private def replaceTop (w : World) (i : Nat) (f : Frame) : World := w.withStack i (f :: (w.thread i).stack.drop 1)

private def pop (w : World) (i : Nat) : World := w.withStack i ((w.thread i).stack.drop 1)

/-- Goes on below a script that an action has come to the end of, or left with a panic. -/
private def endAction (w : World) (i : Nat) (outcome : Option Panic) : World :=
  let w := w.pop i
  match (w.thread i).stack.head?, w.engine with
  | some (.tick t _), .ticked s _ =>
    let (s, t) := t.finish s (w.thread i).name outcome
    (w.withTicked s).replaceTop i (.tick t w.elapsed)
  | some (.execution id e), _ => w.replaceTop i (.execution id (e.finish outcome))
  | _, _ => w

/-- Passes the reply to a command on to the frame that waits for it. -/
private def deliver (w : World) (i : Nat) (result : Except Panic Reply) : World :=
  match (w.thread i).stack.head?, result with
  | some (.script .thread (_ :: rest) replies), .ok r => w.replaceTop i (.script .thread rest (r :: replies))
  | some (.script .thread (_ :: rest) replies), .error p =>
    w.replaceTop i (.script .thread rest (.panicked p.message :: replies))
  | some (.script (.action _) _ _), .error p => w.endAction i (some p)
  | some (.script (.action name) (l :: rest) replies), .ok r =>
    let w := if l.shown then w.record (.shown name r) else w
    match l.command with
    | .panic p => w.endAction i (some p)
    | _ => w.replaceTop i (.script (.action name) rest (r :: replies))
  | some (.joining helper none), .ok r => w.replaceTop i (.joining helper (some r))
  | some (.joining helper none), .error p => w.replaceTop i (.joining helper (some (.panicked p.message)))
  | _, _ => w

/-- Starts the action of a task whose run has been counted. -/
private def beginAction (w : World) (i : Nat) (id : TaskId) : World :=
  match w.actions[id.index]?.join with
  | none => w.push i (.script (.action "") [] [])
  | some action =>
    let time := if w.timed then some w.clock.source.reading else none
    let script := scriptOf action.runs ((w.backlog.task id).runs - 1)
    (w.record (.ran action.name time)).push i (.script (.action action.name) script [])

/-- A step of a tick; while it holds its lock it goes on. -/
private def tickOn (fuel : Nat) (s : TickScheduler) (t : Tick) : TickScheduler × Tick :=
  match fuel with
  | 0 => (s, t)
  | fuel + 1 =>
    let (s, t) := match t with
      | .waiting (.sleeping seen since until?) =>
        let (s, waiting) := Waiting.wake s (.sleeping seen since until?)
        (s, Tick.waiting waiting)
      | t => t.step s
    if s.locked then tickOn fuel s t else (s, t)

private def stepTick (w : World) (i : Nat) (s : TickScheduler) (t : Tick) : World :=
  let (s, t) := tickOn 4 s t
  let w := (w.withTicked s).replaceTop i (.tick t w.elapsed)
  match t with
  | .running _ _ id => w.beginAction i id
  | .ended (.ok n) => (w.pop i).deliver i (.ok (.number n))
  | .ended (.error (.error cause)) => (w.pop i).deliver i (.ok (.refused cause))
  | .ended (.error (.fault fault)) => (w.pop i).deliver i (.error (.ofFault fault))
  | _ => w

private def stepDispatcher (w : World) (i : Nat) (s : PooledScheduler) (d : Dispatcher) : World :=
  let (s, d) := d.step s
  let w := (w.withPooled s).replaceTop i (.dispatcher d)
  match d with
  | .spawned _ worker name => w.spawn (some name) (.worker worker (.fetching w.elapsed))
  | _ => w

private def stepWorker (w : World) (i : Nat) (s : PooledScheduler) (id : Nat) (phase : WorkerPhase) : World :=
  let s := match phase with
    | .announcing => s.wakeDispatcher
    | _ => s
  let (pool, next) := phase.step s.pool id w.elapsed
  let w := (w.withPooled { s with pool := pool }).replaceTop i (.worker id next)
  match next with
  | .working task => w.push i (.execution task .starting)
  | _ => w

private def stepExecution (w : World) (i : Nat) (s : PooledScheduler) (id : TaskId) (e : Execution) : World :=
  let (s, e) := e.step s id (w.thread i).name
  let w' := (w.withPooled s).replaceTop i (.execution id e)
  match e with
  | .running => w'.beginAction i id
  | .counting (some ⟨some handler, _⟩) =>
    match w.thread i |>.stack.head? with
    | some (.execution _ (.routing failure)) => w'.record (.handled handler failure)
    | _ => w'
  | .ended =>
    let w' := w'.pop i
    match (w'.thread i).stack.head? with
    | some (.worker worker _) => w'.replaceTop i (.worker worker .finished)
    | _ => w'
  | _ => w'

def step (w : World) (i : Nat) : World :=
  match (w.thread i).stack.head?, w.engine with
  | some (.script (.action _) [] _), _ => w.endAction i none
  | some (.script _ (l :: _) _), _ =>
    match w.execute i l.command with
    | (w, .reply r) => w.deliver i (.ok r)
    | (w, .panic p) => w.deliver i (.error p)
    | (w, .enter frames) => w.withStack i (frames ++ (w.thread i).stack)
  | some (.waiting c _), _ => (w.pop i).deliver i (.ok (w.replyAfter i c))
  | some (.tick t _), .ticked s _ => w.stepTick i s t
  | some (.joining helper (some r)), _ => (w.pop i).deliver i (.ok (.beside r (w.replies helper)))
  | some (.dispatcher d), .pooled s _ => w.stepDispatcher i s d
  | some (.worker id phase), .pooled s _ => w.stepWorker i s id phase
  | some (.execution id e), .pooled s _ => w.stepExecution i s id e
  | _, _ => w

/-- The machine of a world; with a patient main thread everything else comes to rest before the main thread goes on. -/
def machine (patient : Bool) : Machine World where
  threads w := w.threads.size
  canStep := canStep
  step := step
  deadline := deadline
  elapse := elapse
  patient := patient

/-- Lets the main thread carry out a script. -/
def performAll (w : World) (patient : Bool) (script : List Line) : World × List Reply :=
  let w := w.withStack 0 [.script .thread script []]
  let w := (machine patient).run (·.isOver 0) Machine.plenty 0 w
  (w, w.replies 0)

def perform (w : World) (c : Command) : World × Reply :=
  let (w, replies) := w.performAll true [.line c false]
  (w, replies.getLast?.getD .nothing)

end World

end TaskScheduling.Simulation
