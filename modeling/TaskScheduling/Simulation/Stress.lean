import TaskScheduling.Simulation.Turn

/-!
# Stress

Several threads submit tasks of all kinds while others cancel whatever has been submitted so far, and at the end the
books have to balance: every task is accounted for, and every counter agrees with what the threads have seen.
-/

namespace TaskScheduling.Simulation

/-- The threads of a stress run: how many submit, how many tasks each, and how many cancel. -/
structure Load where
  submitters : Nat
  perSubmitter : Nat
  cancellers : Nat
  /-- Whether there are recurring tasks among those submitted. -/
  recurring : Bool

namespace Load

/-- The kind of submission `i` and its delay. -/
private def timing (l : Load) (i : Nat) : TaskKind × Duration :=
  match i % 4, l.recurring with
  | 0, _ => (.oneTime, .zero)
  | 2, true => (.recurring (.ofMillis 3) .fixedRate, .zero)
  | 3, true => (.recurring (.ofMillis 4) .fixedDelay, .ofMillis 2)
  | _, _ => (.oneTime, .ofMillis (i % 20 + 1))

private def submission (l : Load) (i : Nat) : Line :=
  let (kind, delay) := l.timing i
  .line (.submit none ⟨delay, kind, ⟨Priority.ofRank? (i % 3), none⟩⟩ []) false

private def submitter (l : Load) (thread : Nat) : List Line :=
  (List.range l.perSubmitter).map fun k => l.submission (thread * l.perSubmitter + k)

private def canceller (l : Load) (thread : Nat) : List Line :=
  (List.range (2 * l.perSubmitter)).map fun round => .line (.cancelModulo (7 * round + thread)) false

/-- The scripts of all threads but the main one. -/
def scripts (l : Load) : List (List Line) :=
  (List.range l.submitters).map l.submitter ++ (List.range l.cancellers).map l.canceller

end Load

namespace World

/-- Starts a thread for each script. -/
def spawnAll (w : World) (scripts : List (List Line)) : World :=
  scripts.foldl (fun w script => w.spawn none (.script .thread script [])) w

/-- Runs all threads in turn until something holds. -/
def runUntil (w : World) (goal : World → Bool) : World := (machine false).run goal Machine.plenty 0 w

/-- Whether the first `n` threads have come to the end of their scripts. -/
private def areOver (n : Nat) (w : World) : Bool := (List.range n).all w.isOver

private def countState (w : World) (s : TaskState) : Nat := (w.accepted.filter (·.state = s)).length

/-- The actions that were called. -/
private def calls (w : World) : Nat :=
  (w.log.toList.filter fun e => match e with | .ran .. => true | _ => false).length

/-- Cancellations that succeeded, in scripts where nothing else is answered by a flag. -/
private def cancelsIn (replies : List Reply) : Nat :=
  (replies.filter fun r => match r with | .flag b => b | _ => false).length

/-- Cancellations that succeeded on the first `n` threads. -/
private def cancelsSeen (n : Nat) (w : World) : Nat := (List.range n).foldl (fun k i => k + cancelsIn (w.replies i)) 0

/-- Whether nothing but recurring tasks can still run. -/
private def isSettled (w : World) : Bool :=
  w.accepted.all fun t => t.state = .done || t.state = .cancelled || (t.isRecurring && t.state = .pending)

/-- Whether no task that runs once is left. -/
private def isSettledOnce (w : World) : Bool :=
  w.accepted.all fun t => t.isRecurring || t.state = .done || t.state = .cancelled

end World

/-- The books of a stress run on a scheduler driven by ticks. -/
structure TickBooks where
  allAccepted : Bool
  consistentBefore : Bool
  consistentAfter : Option InvariantViolation
  cancelledAgree : Bool
  runsAgreeWithTicks : Bool
  runsAgreeWithCalls : Bool
  settled : Bool
  queuedAgree : Bool

/-- Ticks while the threads are busy, and once more after they have finished and everything is due. -/
def Load.stressTicked (l : Load) (ticks : Nat) : TickBooks :=
  let n := 1 + l.submitters + l.cancellers
  let s := TickScheduler.start false (.start (.manual 0)) .high
  let w := (World.start (.ticked s 0) false).spawnAll l.scripts
  let w := w.withStack 0 [.script .thread (List.replicate ticks (.line .tick false)) []]
  let w := w.runUntil (World.areOver n)
  let before := w.replies 0
  let consistentBefore := w.backlog.defect?.isNone
  let cancels := World.cancelsSeen n w
  let (w, after) := w.performAll true [.line (.jump 1000) false, .line .tick false]
  let ran := (before ++ after).foldl (fun n r => match r with | .number k => n + k | _ => n) 0
  { allAccepted := w.submissions.all Option.isSome && w.submissions.size == l.submitters * l.perSubmitter
    consistentBefore := consistentBefore
    consistentAfter := w.backlog.defect?
    cancelledAgree := w.countState .cancelled == cancels
    runsAgreeWithTicks := w.totalRuns == ran
    runsAgreeWithCalls := w.totalRuns == w.calls
    settled := w.isSettled
    queuedAgree := w.backlog.size == w.countState .pending }

/-- The books of a stress run on a scheduler with a pool. -/
structure PooledBooks where
  allDecided : Bool
  rejectionsExplained : Bool
  consistent : Option InvariantViolation
  awaited : Bool
  terminated : Bool
  settled : Bool
  queued : Nat
  poolSize : Nat
  idleWorkers : Nat
  failed : Nat
  executedAgree : Bool
  runsAgree : Bool
  submittedAgree : Bool
  cancelledAgree : Bool

/-- Shuts the scheduler down in the midst of it, after some milliseconds; or, without an order to do so, waits for the
tasks that run once, cancels all others, and shuts down then. -/
def Load.stressPooled (l : Load) (s : PooledScheduler) (shutdown : Option (Nat × ShutdownMode)) : PooledBooks :=
  let n := 1 + l.submitters + l.cancellers
  let w := (World.start (.pooled s false) false).spawnAll l.scripts
  let script : List Line := match shutdown with
    | some (after, mode) => [.line (.sleep (.ofMillis after)) false, .line (.shutdown (.orderly mode)) false]
    | none => []
  let w := (w.withStack 0 [.script .thread script []]).runUntil (World.areOver n)
  let cancels := World.cancelsSeen n w
  let (w, cancels) := match shutdown with
    | some _ => (w, cancels)
    | none =>
      let w := w.runUntil World.isSettledOnce
      let (w, replies) := w.performAll true ((List.range w.submissions.size).map fun t => .line (.cancel t) false)
      let w := w.runUntil fun w => w.countState .executing == 0
      ((w.perform (.shutdown (.orderly .discardPending))).1, cancels + World.cancelsIn replies)
  let (w, awaited) := w.perform (.awaitTermination (.ofMillis World.patience))
  match w.engine with
  | .ticked .. => ⟨false, false, none, false, false, false, 0, 0, 0, 0, false, false, false, false⟩
  | .pooled s _ =>
    let stats := s.snapshot
    { allDecided := w.submissions.size == l.submitters * l.perSubmitter
      rejectionsExplained := shutdown.isSome || w.submissions.all Option.isSome
      consistent := s.backlog.defect?
      awaited := match awaited with | .flag b => b | _ => false
      terminated := s.isTerminated
      settled := w.isSettled
      queued := stats.queued
      poolSize := stats.poolSize
      idleWorkers := stats.idleWorkers
      failed := stats.failed
      executedAgree := stats.executed == w.calls
      runsAgree := w.totalRuns == stats.executed
      submittedAgree := stats.submitted == w.accepted.length
      cancelledAgree := shutdown.isSome || (stats.cancelled == w.countState .cancelled && stats.cancelled == cancels) }

end TaskScheduling.Simulation
