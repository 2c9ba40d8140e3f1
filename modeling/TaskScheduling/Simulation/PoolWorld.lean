import TaskScheduling.Pool.WorkerPhase
import TaskScheduling.Simulation.Machine

/-!
# Simulated pools

A pool whose workers live only when a script lets them: starting a worker puts its life aside, and the command `run`
has it led on a thread of its own.  The tasks that are handed to workers are scripts again, which can ask anything of
the pool from inside the worker.
-/

namespace TaskScheduling.Simulation

inductive PoolCommand where
  | acquire (priority : Priority) (dueSince now lowWait : Nat)
  /-- Starts a worker in a place that was promised, or fails to. -/
  | start (fails : Bool)
  | hand (worker : Nat) (script : List PoolCommand)
  | releaseUnused (worker : Nat)
  | run (worker : Nat)
  | later (d : Duration) (script : List PoolCommand)
  /-- What is to be done the next time that a worker says it is idle. -/
  | onIdle (script : List PoolCommand)
  | interruptAll
  | stop
  | interrupted
  | setMaxSize (n : Nat)
  | setKeepAlive (d : Duration)
  | awaitTermination (d : Option Duration)
  | unknown (name : String)

instance : Inhabited PoolCommand := ⟨.unknown ""⟩

namespace PoolCommand

def name : PoolCommand → String
  | acquire .. => "acquire"
  | start _ => "start"
  | hand .. => "hand"
  | releaseUnused _ => "release_unused"
  | run _ => "run"
  | later .. => "later"
  | onIdle _ => "on_idle"
  | interruptAll => "interrupt_all"
  | stop => "stop"
  | interrupted => "interrupted"
  | setMaxSize _ => "set_max"
  | setKeepAlive _ => "set_keep"
  | awaitTermination _ => "await"
  | unknown name => name

end PoolCommand

inductive PoolReply where
  | nothing
  | flag (b : Bool)
  | number (n : Nat)
  | acquired (answer : Acquire)
  | spawnFailed
  | handed
  | returned (task : TaskId)
  /-- The worker has left; whether its thread still counts as a worker. -/
  | exited (counts : Bool)
  | parked
  | noSuchWorker
  | noBody
  /-- The command, or the worker that it ran, ended in a panic. -/
  | panicked (message : String)
  | unknownCommand
  deriving DecidableEq, Repr

inductive PoolEntry where
  | executed (task : TaskId) (onWorker interrupted : Bool)
  | during (task : TaskId) (command : String) (reply : PoolReply)
  | idle
  | whileIdle (command : String) (reply : PoolReply)
  deriving DecidableEq, Repr

/-- On whose behalf a script is carried out. -/
inductive PoolAuthor where
  | main (reply : PoolReply)
  | task (id : TaskId)
  | idle
  | later

inductive PoolCondition where
  | time
  | terminated
  | gone (worker : Nat)

inductive PoolFrame where
  | script (author : PoolAuthor) (rest : List PoolCommand)
  | waiting (c : PoolCondition) (deadline : Option Nat)
  | worker (id : Nat) (phase : WorkerPhase)

structure PoolWorld where
  pool : Pool
  /-- Workers that were started and have not been run. -/
  bodies : List Nat
  /-- Workers that were started. -/
  started : List Nat
  /-- Workers that have left, each with the panic in which its life ended, if it did. -/
  departed : List (Nat × Option Panic)
  /-- The scripts of the tasks, by the number of the task. -/
  tasks : Array (List PoolCommand)
  idleScripts : List (List PoolCommand)
  log : Array PoolEntry
  threads : Array (List PoolFrame)
  elapsed : Nat

namespace PoolWorld

def start (pool : Pool) : PoolWorld where
  pool := pool
  bodies := []
  started := []
  departed := []
  tasks := #[]
  idleScripts := []
  log := #[]
  threads := #[[]]
  elapsed := 0

/-- How long a script waits for a worker that it runs, in milliseconds. -/
def patience : Nat := 2000

def stack (w : PoolWorld) (i : Nat) : List PoolFrame := w.threads[i]?.getD []

def withStack (w : PoolWorld) (i : Nat) (stack : List PoolFrame) : PoolWorld :=
  { w with threads := w.threads.modify i fun _ => stack }

def record (w : PoolWorld) (e : PoolEntry) : PoolWorld := { w with log := w.log.push e }

def withPool (w : PoolWorld) (p : Pool) : PoolWorld := { w with pool := p }

/-- The worker whose thread this is. -/
def workerOf (w : PoolWorld) (i : Nat) : Option Nat :=
  match (w.stack i).getLast? with
  | some (.worker id _) => some id
  | _ => none

def isInterrupted (w : PoolWorld) (i : Nat) : Bool := (w.workerOf i).any w.pool.isInterrupted

/-- What becomes of a thread that carries out a command. -/
inductive Outcome where
  | reply (r : PoolReply)
  | panic (p : Panic)
  /-- A frame to be entered before there is a reply. -/
  | enter (frame : PoolFrame)

/-- Carries out a command on thread `i`. -/
def execute (w : PoolWorld) (i : Nat) : PoolCommand → PoolWorld × Outcome
  | .acquire priority dueSince now lowWait =>
    let (pool, answer) := w.pool.acquire priority dueSince now lowWait
    (w.withPool pool, .reply (.acquired answer))
  | .start fails =>
    let (pool, id) := w.pool.register
    if fails then
      (w.withPool (pool.removeWorker id),
        (pool.removalFault? id).elim (.reply .spawnFailed) fun fault => .panic (.ofFault fault))
    else ({ w with pool := pool, bodies := id :: w.bodies, started := id :: w.started }, .reply (.number id))
  | .hand worker script =>
    if worker ∈ w.started then
      let id : TaskId := ⟨w.tasks.size⟩
      let (pool, handed) := w.pool.hand worker id
      ({ w with pool := pool, tasks := w.tasks.push script }, .reply (if handed then .handed else .returned id))
    else (w, .reply .noSuchWorker)
  | .releaseUnused worker =>
    if worker ∈ w.started then (w.withPool (w.pool.releaseUnused worker), .reply .nothing)
    else (w, .reply .noSuchWorker)
  | .run worker =>
    if worker ∈ w.bodies then
      ({ w with
          bodies := w.bodies.filter (· ≠ worker)
          threads := w.threads.push [.worker worker (.fetching w.elapsed)] },
        .enter (.waiting (.gone worker) (some (w.elapsed + patience))))
    else (w, .reply .noBody)
  | .later d script =>
    ({ w with threads := w.threads.push [.waiting .time (some (w.elapsed + d.millis)), .script .later script] },
      .reply .nothing)
  | .onIdle script => ({ w with idleScripts := w.idleScripts ++ [script] }, .reply .nothing)
  | .interruptAll => (w.withPool w.pool.interruptAll, .reply .nothing)
  | .stop => (w.withPool w.pool.stop, .reply .nothing)
  | .interrupted => (w, .reply (.flag (w.isInterrupted i)))
  | .setMaxSize n =>
    let pool := w.pool.setMaxSize n
    (w.withPool pool, .reply (.number pool.maxSize))
  | .setKeepAlive d =>
    let pool := w.pool.setKeepAlive d
    (w.withPool pool, .reply (.number pool.keepAlive))
  | .awaitTermination d =>
    if d.all Duration.isReachable then
      (w, .enter (.waiting .terminated (d.map fun d => w.elapsed + d.millis)))
    else (w, .panic (.ofFault .unreachableDeadline))
  | .unknown _ => (w, .reply .unknownCommand)

/-- Ends what thread `i` does in a panic: the main thread has it for a reply, every other thread breaks off. -/
private def unwind (w : PoolWorld) (i : Nat) (p : Panic) : PoolWorld :=
  match w.stack i, w.workerOf i with
  | .script (.main _) _ :: _, _ => w.withStack i [.script (.main (.panicked p.message)) []]
  | _, some id => { w with departed := (id, some p) :: w.departed }.withStack i []
  | _, none => w.withStack i []

/-- Passes a reply on to the script that asked. -/
private def deliver (w : PoolWorld) (i : Nat) (r : PoolReply) : PoolWorld :=
  match w.stack i with
  | .script author (c :: rest) :: below =>
    let next := fun author => w.withStack i (.script author rest :: below)
    match author with
    | .main _ => next (.main r)
    | .task id => (next (.task id)).record (.during id c.name r)
    | .idle => (next .idle).record (.whileIdle c.name r)
    | .later => next .later
  | _ => w

/-- Whether what a frame waits for has come true. -/
def holds (w : PoolWorld) : PoolCondition → Bool
  | .time => false
  | .terminated => w.pool.isTerminated
  | .gone worker => w.departed.any (·.1 == worker)

private def replyAfter (w : PoolWorld) : PoolCondition → PoolReply
  | .time => .nothing
  | .terminated => .flag w.pool.isTerminated
  | .gone worker =>
    match w.departed.find? (·.1 == worker) with
    | some (_, some p) => .panicked p.message
    | some (_, none) => .exited false
    | none => .parked

private def stepWorker (w : PoolWorld) (i id : Nat) (phase : WorkerPhase) (below : List PoolFrame) : PoolWorld :=
  let fault? := w.pool.removalFault? id
  let (pool, next) := phase.step w.pool id w.elapsed
  let w := (w.withPool pool).withStack i (.worker id next :: below)
  match next with
  | .working task =>
    let script := w.tasks[task.index]?.getD []
    (w.record (.executed task true (w.isInterrupted i))).withStack i
      (.script (.task task) script :: .worker id .finished :: below)
  | .announcing =>
    let w := w.record .idle
    match w.idleScripts with
    | [] => w
    | script :: rest => { w with idleScripts := rest }.withStack i (.script .idle script :: .worker id next :: below)
  | .exited =>
    match fault? with
    | some fault => w.unwind i (.ofFault fault)
    | none => { w with departed := (id, none) :: w.departed }
  | _ => w

def step (w : PoolWorld) (i : Nat) : PoolWorld :=
  match w.stack i with
  | .script _ [] :: below => w.withStack i below
  | .script author (c :: rest) :: below =>
    match w.execute i c with
    | (w, .reply r) => w.deliver i r
    | (w, .panic p) => w.unwind i p
    | (w, .enter frame) => w.withStack i (frame :: .script author (c :: rest) :: below)
  | .waiting c _ :: below =>
    let r := w.replyAfter c
    let w := w.withStack i below
    match c with
    | .time => w
    | _ => w.deliver i r
  | .worker id phase :: below => w.stepWorker i id phase below
  | [] => w

private def frameDeadline : PoolFrame → Option Nat
  | .waiting _ deadline => deadline
  | .worker _ (.parked _ until?) => until?
  | _ => none

def deadline (w : PoolWorld) (i : Nat) : Option Nat := (w.stack i).head?.bind frameDeadline

def canStep (w : PoolWorld) (i : Nat) : Bool :=
  match w.stack i with
  | .script (.main _) [] :: _ => false
  | .script _ _ :: _ => true
  | .waiting c deadline :: _ => deadline.any (· ≤ w.elapsed) || w.holds c
  | .worker _ .exited :: _ => false
  | .worker id phase :: _ => phase.isAwake w.pool id w.elapsed
  | [] => false

def machine : Machine PoolWorld where
  threads w := w.threads.size
  canStep := canStep
  step := step
  deadline := deadline
  elapse w t := { w with elapsed := t }
  patient := true

private def isOver (w : PoolWorld) : Bool :=
  match w.stack 0 with
  | [.script (.main _) []] => true
  | _ => false

/-- Lets the main thread carry out a command. -/
def perform (w : PoolWorld) (c : PoolCommand) : PoolWorld × PoolReply :=
  let w := w.withStack 0 [.script (.main .nothing) [c]]
  let w := machine.run isOver Machine.plenty 0 w
  (w, match w.stack 0 with
    | [.script (.main r) []] => r
    | _ => .nothing)

end PoolWorld

end TaskScheduling.Simulation
