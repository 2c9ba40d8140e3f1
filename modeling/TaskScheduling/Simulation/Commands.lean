import TaskScheduling.Simulation.World

/-!
# Carrying out commands

Most commands are done at once and have a reply; some make the thread wait, or start a tick on it.  A command that a
scheduler of the world's kind does not know is answered so.
-/

namespace TaskScheduling.Simulation

/-- What becomes of a thread that carries out a command. -/
inductive Outcome where
  | reply (r : Reply)
  | panic (p : Panic)
  /-- Frames to be entered, the top one first, before there is a reply. -/
  | enter (frames : List Frame)

namespace World

/-- How long the commands that wait for something to come true wait for it, in milliseconds. -/
def patience : Nat := 10000

private def trouble : Trouble → Outcome
  | .error cause => .reply (.refused cause)
  | .fault cause => .panic (.ofFault cause)

private def await (w : World) (c : Condition) : World × Outcome :=
  (w, .enter [.waiting c (some (w.elapsed + patience))])

/-- The world and the reply after a submission has been decided. -/
private def afterSubmission (w : World) (action : Action) : Except Trouble TaskId → World × Outcome
  | .ok id => ((w.enact id action).conclude (some id), .reply (.accepted id (w.backlog.task id).priority))
  | .error (.error cause) => (w.conclude none, trouble (.error cause))
  | .error (.fault cause) => (w, trouble (.fault cause))

private def submit (w : World) (name : Option String) (r : Request) (runs : List (List Line)) : World × Outcome :=
  let action : Action := ⟨name.getD ("t" ++ toString w.submissions.size), runs⟩
  match w.engine with
  | .ticked s _ =>
    let (s, result) := s.submit r.delay r.kind r.options
    (w.withTicked s).afterSubmission action result
  | .pooled _ true => (w, .reply .noScheduler)
  | .pooled s false =>
    let (t, result) := s.submit r
    let w := w.withPooled t
    let w := match s.dispatcher.thread, t.dispatcher.thread with
      | none, some name => w.spawn (some name) (.dispatcher .checking)
      | _, _ => w
    w.afterSubmission action result

private def cancel (w : World) (t : Nat) : World × Outcome :=
  match w.engine, w.submission? t with
  | .pooled _ true, _ => (w, .reply .noScheduler)
  | _, none => (w, .reply .noSuchTask)
  | .ticked s _, some id =>
    let (s, claimed) := s.cancel id
    (w.withTicked s, .reply (.flag claimed))
  | .pooled s false, some id =>
    let (s, claimed) := s.cancel id
    (w.withPooled s, .reply (.flag claimed))

/-- What is asked of any scheduler or of the world. -/
private def common (w : World) (i : Nat) : Command → Option (World × Outcome)
  | .submit name r runs => some (w.submit name r runs)
  | .cancel t => some (w.cancel t)
  | .cancelModulo k =>
    some (if w.submissions.isEmpty then (w, .reply .nothing) else w.cancel (k % w.submissions.size))
  | .handle t => some (w, .reply ((w.task? t).elim .nothing .handle))
  | .state t => some (w, .reply ((w.task? t).elim .nothing fun task => .text task.state.name))
  | .runCount t => some (w, .reply ((w.task? t).elim .nothing fun task => .number task.runs))
  | .interrupted => some (w, .reply (.flag (w.isInterrupted i)))
  | .sleep d => some (w, .enter [.waiting .nothing (some (w.elapsed + d.millis))])
  | .gate g interruptible => some (w, .enter [.waiting (.gate g interruptible) none])
  | .openGate g => some ({ w with openGates := g :: w.openGates }, .reply .nothing)
  | .awaitState t state => some (w.await (.state t state))
  | .awaitRuns t n => some (w.await (.runs t n))
  | .awaitLog n => some (w.await (.logged n))
  | .awaitDone => some (w.await .allDone)
  | .takeLog => some ({ w with log := #[] }, .reply (.log w.log.toList))
  | _ => none

private def askTicked (w : World) (s : TickScheduler) (holds : Nat) : Command → World × Outcome
  | .defaultPriority => (w, .reply (.text s.defaultPriority.name))
  | .check => (w, .reply (.checked s.backlog.defect?))
  | .tick => (w, .enter [.tick .entering w.elapsed])
  | .tickBeside helper =>
    let w := w.spawn none (.script .thread helper [])
    (w, .enter [.tick .entering w.elapsed, .joining (w.threads.size - 1) none])
  | .advance d =>
    match s.clock.advance d with
    | (clock, .ok t) => (w.withTicked { s with clock := clock }, .reply (.number t))
    | (clock, .error fault) => (w.withTicked { s with clock := clock }, .panic (.ofFault fault))
  | .jump t => (w.withTicked { s with clock := s.clock.jump t }, .reply .nothing)
  | .interrupt => (w.withTicked s.interrupt, .reply .nothing)
  | .hasDue =>
    let (s, due) := s.hasDue
    (w.withTicked s, .reply (.flag due))
  | .count => (w, .reply (.number s.backlog.size))
  | .clear =>
    let (s, ids) := s.clear
    (w.withTicked s, .reply (.ids ids))
  | .now =>
    let (s, t) := s.now
    (w.withTicked s, .reply (.number t))
  | .blocking => (w, .reply (.flag s.blocking))
  | .nextRuns now => (w, .reply (.numbers [s.backlog.nextRunAt, s.backlog.nextRunAfter now]))
  | .hold =>
    let s := s.hold
    (w.withEngine (.ticked s (holds + 1)), .reply (.number s.clock.cached))
  | .release =>
    if holds = 0 then (w, .reply (.flag false))
    else (w.withEngine (.ticked s.release (holds - 1)), .reply (.flag true))
  | _ => (w, .reply .unknownCommand)

private def shutDown (s : PooledScheduler) : ShutdownOrder → PooledScheduler × List TaskId
  | .orderly mode => s.shutdownWith mode
  | .now => s.shutdownNow

private def askPooled (w : World) (i : Nat) (s : PooledScheduler) : Command → World × Outcome
  | .defaultPriority => (w, .reply (.text s.defaultPriority.name))
  | .check => (w, .reply (.checked s.backlog.defect?))
  | .drop =>
    let s := if s.isShutdown then s else (s.shutdownWith .discardPending).1
    let w := w.withEngine (.pooled s true)
    if s.factory.daemon || (w.workerOf i).isSome then (w, .reply .nothing) else (w, .enter [.waiting .gone none])
  | .awaitPool size idle => w.await (.poolIs size idle)
  | .awaitExecuted n => w.await (.executed n)
  | .stats => (w, .reply (.stats s.snapshot))
  | .pool => (w, .reply (.numbers [some s.pool.size, some s.pool.idle.length, some s.pool.maxSize]))
  | .queued priority =>
    (w, .reply (.number (priority.elim s.backlog.size fun p => (s.backlog.queueSet p).size)))
  | .queues =>
    (w, .reply (.queues (Priority.all.map fun p => ((s.backlog.queueSet p).ready, (s.backlog.queueSet p).future))))
  | .shutdown order =>
    let (s, ids) := shutDown s order
    (w.withPooled s, .reply (.ids ids))
  | .awaitTermination d =>
    if d.isReachable then (w, .enter [.waiting .terminated (some (w.elapsed + d.millis))])
    else (w, .panic (.ofFault .unreachableDeadline))
  | .shutdownStatus => (w, .reply (.shutdownStatus s.isShutdown s.isTerminated s.shutdown))
  | .setMaxPoolSize n =>
    let s := s.setMaxPoolSize n
    (w.withPooled s, .reply (.number s.pool.maxSize))
  | .setKeepAlive d =>
    let s := s.setKeepAlive d
    (w.withPooled s, .reply (.number s.pool.keepAlive))
  | .setLowWait d =>
    let s := s.setLowWait d
    (w.withPooled s, .reply (.number s.lowWait))
  | .settings => (w, .reply (.numbers [some s.pool.maxSize, some s.pool.keepAlive, some s.lowWait]))
  | .router => (w, .reply (.text s.router.inspect))
  | .clockHeld => (w, .reply (.flag s.clock.isHeld))
  | _ => (w, .reply .unknownCommand)

/-- Carries out a command on thread `i`. -/
def execute (w : World) (i : Nat) (c : Command) : World × Outcome :=
  match w.common i c with
  | some result => result
  | none =>
    match w.engine with
    | .ticked s holds => w.askTicked s holds c
    | .pooled _ true =>
      (w, .reply (match c with
        | .panic _ | .unknown => .unknownCommand
        | _ => .noScheduler))
    | .pooled s false => w.askPooled i s c

end World

end TaskScheduling.Simulation
