import TaskScheduling.Proofs.Dispatch.Bystanders
import TaskScheduling.Proofs.Dispatch.Serial
import TaskScheduling.Proofs.Dispatch.Turns

/-!
# A worker survives every task and settles it once

The log of an execution (`System.Logs`) tells what the execution itself has done, step by step, whatever others do in
between: each entry is read off the scheduler before and after a step, except for the handler that was called and for
what the execution has looked up.  What is to be entered is spelled out: the handlers in their order, what a panic says
(`Panic.Says`), and the texts that come to the sink (`PooledScheduler.Dealt`).

Main statement: the execution comes to its end, and its log is that of one run, of the failure of that run, if there
was one, being dealt with once, and of the task being settled once (`System.Reachable.survives`).
-/

namespace TaskScheduling

open Backlog Holding

namespace Execution

/-- What an execution may do. -/
inductive Entry where
  | invoked
  /-- The action has ended, perhaps with a panic. -/
  | ended (outcome : Option Panic)
  /-- A failure has been counted. -/
  | failed
  /-- It has been looked up what the thread is called, if it has a name. -/
  | named (thread : Option String)
  | called (handler : FailureHandler) (failure : TaskFailure)
  /-- A text has come to the sink. -/
  | wrote (text : String)
  /-- A run has been counted. -/
  | executed
  /-- It has been looked up whether a shutdown has been requested. -/
  | looked (isShutdown : Bool)
  | read (now : Nat)
  /-- The task has come into another state. -/
  | moved (state : TaskState)
  /-- The task has got into a queue, with this run time. -/
  | queued (slot : QueueSlot) (runAt : Nat)
  /-- The task has been taken out of its queue. -/
  | withdrawn
  /-- A cancellation has been counted. -/
  | cancelled
  deriving DecidableEq

end Execution

open Execution (Entry)

/-! ### What a step enters -/

/-- What has been done to a task. -/
def Task.changes (t u : Task) : List Entry :=
  List.replicate (u.runs - t.runs) Entry.invoked ++
    (if u.state = t.state then [] else [Entry.moved u.state]) ++
    (if u.slot = t.slot then [] else [u.slot.elim Entry.withdrawn (Entry.queued · u.runAt)])

def Stats.changes (s t : Stats) : List Entry :=
  List.replicate (t.failed - s.failed) Entry.failed ++ List.replicate (t.executed - s.executed) Entry.executed ++
    List.replicate (t.cancelled - s.cancelled) Entry.cancelled

/-- The text that a sink has got in addition. -/
def Sink.changes (s t : Sink) : List Entry :=
  if t.text = s.text then [] else [.wrote (.ofList (t.text.toList.drop s.text.toList.length))]

namespace Execution

/-- What is done in a step from one phase to another, and leaves no trace in the scheduler. -/
def told (s : PooledScheduler) (thread : Option String) : Execution → Execution → List Entry
  | failing _, _ => [.named thread]
  | routing failure, counting delivery => (delivery.bind Delivery.called).toList.map (.called · failure)
  | settling, _ => [.looked s.isShutdown]
  | stamping, _ => [.read s.clock.accurate.1]
  | _, _ => []

/-- What a step of an execution enters that is taken on a thread of this name. -/
def entries (id : TaskId) (s : PooledScheduler) (thread : Option String) (e : Execution)
    (next : PooledScheduler × Execution) : List Entry :=
  told s thread e next.2 ++ s.sink.changes next.1.sink ++ (s.backlog.task id).changes (next.1.backlog.task id) ++
    s.stats.changes next.1.stats

end Execution

@[simp] theorem PooledScheduler.sink_wakeDispatcher (s : PooledScheduler) : s.wakeDispatcher.sink = s.sink := by
  unfold wakeDispatcher
  split <;> rfl

@[simp] theorem Task.changes_self (t : Task) : t.changes t = [] := by simp [changes]

@[simp] theorem Stats.changes_self (s : Stats) : s.changes s = [] := by simp [changes]

@[simp] theorem Sink.changes_self (s : Sink) : s.changes s = [] := by simp [changes]

theorem Sink.write_none (s : Sink) : s.write none = s := by
  unfold write
  split <;> simp

theorem Sink.changes_write (s : Sink) {text : String} (htext : text ≠ "") :
    s.changes (s.write (some text)) = if s.works then [.wrote text] else [] := by
  cases hworks : s.works with
  | false => simp [write, hworks]
  | true =>
    have hne : s.text ++ text ≠ s.text := by
      intro hsame
      have hlength := congrArg String.length hsame
      rw [String.length_append] at hlength
      exact htext (String.length_eq_zero_iff.1 (by omega))
    simp [write, hworks, changes, hne]

/-! ### What is to be entered -/

/-- What there is to say about a panic: the text that it carries, or else that it carries none. -/
inductive Panic.Says : Panic → String → Prop where
  | text (message : String) : Says (.text message) message
  | other : Says .other "non-string panic payload"

/-- What there is to read about a failure that nobody has handled. -/
def TaskFailure.report (f : TaskFailure) : String :=
  "Uncaught task failure: Task(" ++ toString f.task.index ++ ") panicked on thread '" ++ f.thread ++ "': " ++
    f.message ++ "\n"

theorem Panic.says_message (panic : Panic) : panic.Says panic.message := by
  cases panic with
  | text message => exact .text message
  | other => exact .other

theorem TaskFailure.trace_eq_report (f : TaskFailure) : f.trace = f.report := by
  have hopening : "Uncaught task failure: Task(" = "Uncaught task failure: " ++ "Task(" := rfl
  have hthread : ") panicked on thread '" = ")" ++ " panicked on thread '" := rfl
  unfold trace render TaskId.name report
  rw [hopening, hthread]
  simp only [String.append_assoc]

theorem TaskFailure.report_ne_empty (f : TaskFailure) : f.report ≠ "" := by
  intro hempty
  unfold report at hempty
  exact absurd (String.append_eq_empty_iff.1 hempty).2 (by decide)

namespace PooledScheduler

/-- The handlers that there are for the failures of a task, in their order. -/
def handlers (s : PooledScheduler) (id : TaskId) : List FailureHandler :=
  [(s.backlog.task id).handler, s.router.inheritable, s.router.fallback, s.factory.uncaught].filterMap
    fun handler => handler

/-- What is entered when a text is written: a broken sink gets nothing. -/
def arrival (s : PooledScheduler) (text : String) : List Entry := if s.sink.works then [.wrote text] else []

/-- What is entered when a failure is dealt with. -/
inductive Dealt (s : PooledScheduler) (f : TaskFailure) : List Entry → Prop where
  | unhandled : s.handlers f.task = [] → Dealt s f (s.arrival f.report)
  | handled {handler : FailureHandler} :
      (s.handlers f.task).head? = some handler → handler.reaction = .returns → Dealt s f [.called handler f]
  | broken {handler : FailureHandler} {panic : Panic} {message : String} :
      (s.handlers f.task).head? = some handler → handler.reaction = .panics panic → panic.Says message →
      Dealt s f (.called handler f :: s.arrival (f.report ++ "Failure handler panicked: " ++ message ++ "\n"))

/-- What is entered about a run until it is counted. -/
inductive Ran (s : PooledScheduler) (id : TaskId) : List Entry → Prop where
  | returned : Ran s id [.invoked, .ended none]
  | panicked (panic : Panic) (thread : Option String) {message : String} {dealt : List Entry} :
      panic.Says message → s.Dealt ⟨id, thread.getD "<unnamed>", message⟩ dealt →
      Ran s id (.invoked :: .ended (some panic) :: .named thread :: .failed :: dealt)

end PooledScheduler

namespace Task

/-- What is entered when a task is planned anew and queued again. -/
def requeuing (t : Task) (now : Nat) : List Entry :=
  [.looked false, .read now, .moved .pending, .queued t.home (t.nextRunAt now)]

/-- What is entered when a task is settled that was `t` before its run and has become `u`. -/
inductive Settled (t u : Task) : List Entry → Prop where
  | done (isShutdown : Bool) (now : Nat) : t.isRecurring = false → u.state = .done →
      Settled t u [.looked isShutdown, .read now, .moved .done]
  | requeued (now : Nat) : t.isRecurring = true → Settled t u (t.requeuing now)
  /-- Somebody has cancelled the task before it was queued again. -/
  | withdrawn (now : Nat) : t.isRecurring = true → u.state = .cancelled →
      Settled t u (t.requeuing now ++ [.withdrawn])
  | dropped : t.isRecurring = true → u.state = .cancelled → Settled t u [.looked true, .moved .cancelled, .cancelled]
  /-- Somebody has cancelled the task before it was pending again. -/
  | forestalled (now : Nat) : t.isRecurring = true → u.state = .cancelled → Settled t u [.looked false, .read now]
  /-- Somebody has cancelled the task before it could be dropped because of a shutdown. -/
  | undropped : t.isRecurring = true → u.state = .cancelled → Settled t u [.looked true]

end Task

/-- The log of the execution of a task by the worker `k`, since the system was `s`: what it has done in `n` steps of its
own, and what has become of the system meanwhile. -/
inductive System.Logs (s : System) (k : Nat) (id : TaskId) : Nat → List Entry → System → Prop where
  | start : Logs s k id 0 [] s
  | others {n : Nat} {log : List Entry} {u v : System} :
      Logs s k id n log u → u.Step v → v.threads k = u.threads k → Logs s k id n log v
  | goesOn {n : Nat} {log : List Entry} {u : System} (e : Execution) (name : Option String) :
      Logs s k id n log u → u.threads k = some (.executing id e) → e ≠ .running →
      Logs s k id (n + 1) (log ++ e.entries id u.scheduler name (e.step u.scheduler id name)) (u.stepExecution k id e name)
  | ends {n : Nat} {log : List Entry} {u : System} (outcome : Option Panic) :
      Logs s k id n log u → u.threads k = some (.executing id .running) →
      Logs s k id (n + 1) (log ++ [Entry.ended outcome]) (u.withThread k (.executing id (Execution.running.finish outcome)))

namespace PooledScheduler

/-- What becomes of a task in the hands of a worker that is still being executed when its run is counted, if nobody else
acts until it is settled. -/
inductive Disposes (s : PooledScheduler) (id : TaskId) (t : PooledScheduler) : Prop where
  | done : (s.backlog.task id).isRecurring = false →
      t.backlog.task id = { s.backlog.task id with state := .done, slot := none } →
      t.stats = s.countExecuted.stats → Disposes s id t
  | requeued : (s.backlog.task id).isRecurring = true → s.isShutdown = false →
      t.backlog.task id = { s.backlog.task id with
        runAt := (s.backlog.task id).nextRunAt s.clock.accurate.1
        state := .pending
        slot := some (s.backlog.task id).home } →
      t.stats = s.countExecuted.stats → Disposes s id t
  | dropped : (s.backlog.task id).isRecurring = true → s.isShutdown = true →
      t.backlog.task id = { s.backlog.task id with state := .cancelled, slot := none } →
      t.stats = (s.countExecuted.countCancelled 1).stats → Disposes s id t

end PooledScheduler

/-- A worker survives the execution of its task, and settles the task once. -/
structure System.Survives (s : System) (k : Nat) (id : TaskId) : Prop where
  /-- Whatever step anybody takes, the execution goes on or stays where it is. -/
  follows {n : Nat} {log : List Entry} {u v : System} : s.Logs k id n log u →
    u.threads k = some (.acting .finished) ∨ (u.Step v → ∃ m log', s.Logs k id m log' v)
  /-- Until the execution has returned, the worker is never stuck. -/
  exists_step {n : Nat} {log : List Entry} {u : System} : s.Logs k id n log u →
    u.threads k = some (.acting .finished) ∨ ∃ v log', u.Step v ∧ s.Logs k id (n + 1) log' v
  /-- It returns after fourteen steps of its own at most. -/
  steps_le {n : Nat} {log : List Entry} {u : System} : s.Logs k id n log u → n ≤ 14
  /-- When it has returned, the action has been invoked once, the run has been counted once and a failure dealt with once,
  and the task has been settled once. -/
  log_eq {n : Nat} {log : List Entry} {u : System} : s.Logs k id n log u → u.threads k = some (.acting .finished) →
    ∃ ran settled, s.scheduler.Ran id ran ∧ (s.backlog.task id).Settled (u.backlog.task id) settled ∧
      log = ran ++ .executed :: settled
  /-- A task that is still being executed when its run is counted is settled by what kind of task it is. -/
  disposes {n : Nat} {log : List Entry} {u : System} {delivery : Option Delivery} (name : Option String) :
    s.Logs k id n log u → u.threads k = some (.executing id (.counting delivery)) →
    (u.backlog.task id).state = .executing →
    ∃ t, Execution.EndsIn id name 10 u.scheduler (.counting delivery) t ∧ u.scheduler.Disposes id t ∧
      ∀ slot, id ∈ t.backlog.queue slot ↔ (t.backlog.task id).slot = some slot

/-! ### How far an execution has got -/

namespace Execution

/-- How many steps an execution has before it at most. -/
def left : Execution → Nat
  | starting => 14
  | running => 13
  | failing _ => 12
  | routing _ => 11
  | counting _ => 10
  | settling => 9
  | stamping => 8
  | completing _ c => c.left + 2
  | dropping => 2
  | recording | waking => 1
  | ended | faulted _ => 0

theorem left_step_lt {e : Execution} (hrunning : e ≠ running) (hleft : e.left ≠ 0) (s : PooledScheduler) (id : TaskId)
    (thread : Option String) : (e.step s id thread).2.left < e.left := by
  cases e with
  | running => exact absurd rfl hrunning
  | settling =>
    simp only [step]
    split <;> simp [left]
  | dropping =>
    simp only [step]
    split <;> simp [left]
  | completing completedAt c =>
    have hstep := c.left_step s.backlog id completedAt
    cases c with
    | ended requeued => cases requeued <;> simp [step, left]
    | faulted fault => simp [step, left]
    | _ =>
      simp only [Completion.left] at hstep
      simp only [step, left, Completion.left]
      omega
  | ended | faulted fault => exact absurd rfl hleft
  | _ => simp [step, left, Completion.left]

end Execution

/-- How far an execution has got with settling a task that was `t` before its run and has become `u`, and what it has
entered about that. -/
inductive Task.Settling (t u : Task) : Execution → List Entry → Prop where
  | settling : u.runAt = t.runAt → Settling t u .settling []
  | dropping : t.isRecurring = true → Settling t u .dropping [.looked true]
  | recording : t.isRecurring = true → u.state = .cancelled →
      Settling t u .recording [.looked true, .moved .cancelled]
  | stamping (isShutdown : Bool) : (t.isRecurring = true → isShutdown = false) → u.runAt = t.runAt →
      Settling t u .stamping [.looked isShutdown]
  | planning (isShutdown : Bool) (now : Nat) : (t.isRecurring = true → isShutdown = false) → u.runAt = t.runAt →
      Settling t u (.completing now .settling) [.looked isShutdown, .read now]
  | returning (now : Nat) : t.isRecurring = true → u.runAt = t.nextRunAt now →
      Settling t u (.completing now .returning) [.looked false, .read now]
  | inserting (now : Nat) : t.isRecurring = true → u.runAt = t.nextRunAt now →
      Settling t u (.completing now .inserting) [.looked false, .read now, .moved .pending]
  | rechecking (now : Nat) : t.isRecurring = true → Settling t u (.completing now .rechecking) (t.requeuing now)
  | withdrawing (now : Nat) : t.isRecurring = true → u.state = .cancelled →
      Settling t u (.completing now .withdrawing) (t.requeuing now)
  | closing (completedAt : Nat) (requeued : Bool) {log : List Entry} : t.Settled u log →
      Settling t u (.completing completedAt (.ended requeued)) log
  | waking {log : List Entry} : t.Settled u log → Settling t u .waking log
  | ended {log : List Entry} : t.Settled u log → Settling t u .ended log

/-- How far the execution of a task has got that was handed to the worker when the scheduler was `s`, and what it has
entered; the task has become `u`. -/
inductive PooledScheduler.Course (s : PooledScheduler) (id : TaskId) (u : Task) : Execution → List Entry → Prop where
  | starting : u.runAt = (s.backlog.task id).runAt → Course s id u .starting []
  | running : u.runAt = (s.backlog.task id).runAt → Course s id u .running [.invoked]
  | failing (panic : Panic) : u.runAt = (s.backlog.task id).runAt →
      Course s id u (.failing panic) [.invoked, .ended (some panic)]
  | routing (panic : Panic) (thread : Option String) {message : String} : panic.Says message →
      u.runAt = (s.backlog.task id).runAt →
      Course s id u (.routing ⟨id, thread.getD "<unnamed>", message⟩)
        [.invoked, .ended (some panic), .named thread, .failed]
  | counting (delivery : Option Delivery) {log : List Entry} : s.Ran id log → u.runAt = (s.backlog.task id).runAt →
      Course s id u (.counting delivery) log
  | settling {e : Execution} {ran settled : List Entry} : s.Ran id ran → (s.backlog.task id).Settling u e settled →
      Course s id u e (ran ++ .executed :: settled)

/-! ### Settling a task -/

theorem Task.nextRunAt_eq {t u : Task} (hid : u.identity = t.identity) (hrunAt : u.runAt = t.runAt) (now : Nat) :
    u.nextRunAt now = t.nextRunAt now := by
  simp only [identity, Prod.mk.injEq] at hid
  simp only [nextRunAt, hid.2.2.1, hrunAt]

namespace Execution

variable {s : PooledScheduler} {thread : Option String} {e next : Execution}

/-- A step that leaves the scheduler alone enters only what it has looked up. -/
theorem entries_of_same (id : TaskId) : e.entries id s thread (s, next) = told s thread e next := by simp [entries]

/-- A step that concerns only tasks. -/
theorem entries_of_backlog (id : TaskId) (b : Backlog) :
    e.entries id s thread ({ s with backlog := b }, next) =
      told s thread e next ++ (s.backlog.task id).changes (b.task id) := by
  simp [entries]

/-- A step that moves its task into another state. -/
theorem entries_of_transition {id : TaskId} {source target : TaskState} (h : (s.backlog.task id).state = source)
    (hne : target ≠ source) :
    e.entries id s thread ({ s with backlog := (s.backlog.transition id source target).1 }, next) =
      told s thread e next ++ [.moved target] := by
  rw [entries_of_backlog, task_transition_self h]
  simp [Task.changes, h, hne]

end Execution

open Execution (told entries_of_same entries_of_backlog entries_of_transition)

namespace Task.Settling

variable {t : Task} {s : PooledScheduler} {id : TaskId} {e : Execution} {log : List Entry}

/-- What others do to a task that a worker is settling, the worker need not mind. -/
theorem mono {v w : Task} (h : t.Settling v e log) (hrunAt : ∀ stage, id ∈ e.held id stage → w.runAt = v.runAt)
    (hcancelled : v.state = .cancelled → w.state = .cancelled) (hdone : v.state = .done → w.state = .done) :
    t.Settling w e log := by
  have hsettled {log : List Entry} (hlog : t.Settled v log) : t.Settled w log := by
    cases hlog with
    | done isShutdown now hr hstate => exact .done isShutdown now hr (hdone hstate)
    | requeued now hr => exact .requeued now hr
    | withdrawn now hr hstate => exact .withdrawn now hr (hcancelled hstate)
    | dropped hr hstate => exact .dropped hr (hcancelled hstate)
    | forestalled now hr hstate => exact .forestalled now hr (hcancelled hstate)
    | undropped hr hstate => exact .undropped hr (hcancelled hstate)
  cases h with
  | settling hsame => exact .settling ((hrunAt .started List.mem_cons_self).trans hsame)
  | dropping hr => exact .dropping hr
  | recording hr hstate => exact .recording hr (hcancelled hstate)
  | stamping isShutdown hflag hsame =>
    exact .stamping isShutdown hflag ((hrunAt .started List.mem_cons_self).trans hsame)
  | planning isShutdown now hflag hsame =>
    exact .planning isShutdown now hflag ((hrunAt .started List.mem_cons_self).trans hsame)
  | returning now hr hnext => exact .returning now hr ((hrunAt .planned List.mem_cons_self).trans hnext)
  | inserting now hr hnext => exact .inserting now hr ((hrunAt .waiting List.mem_cons_self).trans hnext)
  | rechecking now hr => exact .rechecking now hr
  | withdrawing now hr hstate => exact .withdrawing now hr (hcancelled hstate)
  | closing completedAt requeued hlog => exact .closing completedAt requeued (hsettled hlog)
  | waking hlog => exact .waking (hsettled hlog)
  | ended hlog => exact .ended (hsettled hlog)

/-- Whether the execution goes on with settling the task when it takes its next step. -/
private def GoesOn (t : Task) (s : PooledScheduler) (id : TaskId) (name : Option String) (e : Execution)
    (log : List Entry) : Prop :=
  t.Settling ((e.step s id name).1.backlog.task id) (e.step s id name).2
    (log ++ e.entries id s name (e.step s id name))

section

variable {name : Option String} {now : Nat}

private theorem goesOn_of_step {next : PooledScheduler × Execution} (added : List Entry)
    (hstep : e.step s id name = next) (hadded : e.entries id s name next = added)
    (hsettling : t.Settling (next.1.backlog.task id) next.2 (log ++ added)) : GoesOn t s id name e log := by
  rw [GoesOn, hstep, hadded]
  exact hsettling

/-- A step that enters nothing. -/
private theorem goesOn_quietly {next : PooledScheduler × Execution} (hstep : e.step s id name = next)
    (hadded : e.entries id s name next = []) (hsettling : t.Settling (next.1.backlog.task id) next.2 log) :
    GoesOn t s id name e log := goesOn_of_step [] hstep hadded (by rwa [List.append_nil])

private theorem goesOn_settling (hid : (s.backlog.task id).identity = t.identity)
    (hsame : (s.backlog.task id).runAt = t.runAt) : GoesOn t s id name .settling [] := by
  have hr := Task.isRecurring_eq_of_identity hid
  cases hdrops : (s.backlog.task id).isRecurring && s.isShutdown with
  | true =>
    obtain ⟨hrecurring, hshutdown⟩ := Bool.and_eq_true_iff.1 hdrops
    have hstep : Execution.settling.step s id name = (s, .dropping) := Prod.ext rfl (if_pos hdrops)
    refine goesOn_of_step _ hstep (entries_of_same id) ?_
    simp only [told, hshutdown]
    exact .dropping (hr.symm.trans hrecurring)
  | false =>
    have hstep : Execution.settling.step s id name = (s, .stamping) :=
      Prod.ext rfl (if_neg (Bool.eq_false_iff.1 hdrops))
    refine goesOn_of_step _ hstep (entries_of_same id) (.stamping _ (fun hrecurring => ?_) hsame)
    rwa [hr, hrecurring, Bool.true_and] at hdrops

private theorem goesOn_dropping (hrecurring : t.isRecurring = true)
    (hstate : (s.backlog.task id).state = .executing ∨ (s.backlog.task id).state = .cancelled) :
    GoesOn t s id name .dropping [.looked true] := by
  by_cases hexecuting : (s.backlog.task id).state = .executing
  · have hstep : Execution.dropping.step s id name =
        ({ s with backlog := (s.backlog.transition id .executing .cancelled).1 }, .recording) := by
      simp only [Execution.step]
      rw [transition_of_state hexecuting]
    refine goesOn_of_step _ hstep (entries_of_transition hexecuting (by simp)) (.recording hrecurring ?_)
    exact congrArg Task.state (task_transition_self hexecuting .cancelled)
  · have hstep : Execution.dropping.step s id name = (s, .ended) := by
      simp only [Execution.step, transition_of_state_ne hexecuting]
    exact goesOn_quietly hstep (entries_of_same id) (.ended (.undropped hrecurring (hstate.resolve_left hexecuting)))

/-- A recurring task is planned anew. -/
private theorem goesOn_planning (hid : (s.backlog.task id).identity = t.identity) (hrecurring : t.isRecurring = true)
    (hsame : (s.backlog.task id).runAt = t.runAt) :
    GoesOn t s id name (.completing now .settling) [.looked false, .read now] := by
  have hplanned := task_replan s.backlog id now
  have hstep : (Execution.completing now .settling).step s id name =
      ({ s with backlog := s.backlog.replan id now }, .completing now .returning) := by
    simp only [Execution.step, Completion.step, Task.isRecurring_eq_of_identity hid, hrecurring, ↓reduceIte]
    rfl
  refine goesOn_quietly hstep ?_ (.returning now hrecurring ?_)
  · rw [entries_of_backlog, hplanned]
    simp [told, Task.changes]
  · rw [hplanned]
    exact Task.nextRunAt_eq hid hsame now

/-- A task that runs once is done. -/
private theorem goesOn_finishing (hid : (s.backlog.task id).identity = t.identity) (hr : t.isRecurring = false)
    (hexecuting : (s.backlog.task id).state = .executing) (isShutdown : Bool) :
    GoesOn t s id name (.completing now .settling) [.looked isShutdown, .read now] := by
  have hstep : (Execution.completing now .settling).step s id name =
      ({ s with backlog := (s.backlog.transition id .executing .done).1 }, .completing now (.ended false)) := by
    simp only [Execution.step, Completion.step, Task.isRecurring_eq_of_identity hid, hr, Bool.false_eq_true,
      ↓reduceIte]
  refine goesOn_of_step _ hstep (entries_of_transition hexecuting (by simp))
    (.closing now false (.done isShutdown now hr ?_))
  exact congrArg Task.state (task_transition_self hexecuting .done)

private theorem goesOn_returning (hrecurring : t.isRecurring = true)
    (hnext : (s.backlog.task id).runAt = t.nextRunAt now)
    (hstate : (s.backlog.task id).state = .executing ∨ (s.backlog.task id).state = .cancelled) :
    GoesOn t s id name (.completing now .returning) [.looked false, .read now] := by
  by_cases hexecuting : (s.backlog.task id).state = .executing
  · have hstep : (Execution.completing now .returning).step s id name =
        ({ s with backlog := (s.backlog.transition id .executing .pending).1 }, .completing now .inserting) := by
      simp only [Execution.step, Completion.step]
      rw [transition_of_state hexecuting]
    refine goesOn_of_step _ hstep (entries_of_transition hexecuting (by simp)) (.inserting now hrecurring ?_)
    exact (runAt_transition s.backlog id .executing .pending id).trans hnext
  · have hstep : (Execution.completing now .returning).step s id name = (s, .completing now (.ended false)) := by
      simp only [Execution.step, Completion.step, transition_of_state_ne hexecuting]
    exact goesOn_quietly hstep (entries_of_same id)
      (.closing now false (.forestalled now hrecurring (hstate.resolve_left hexecuting)))

private theorem goesOn_inserting (hid : (s.backlog.task id).identity = t.identity) (hrecurring : t.isRecurring = true)
    (hnext : (s.backlog.task id).runAt = t.nextRunAt now) (hslot : (s.backlog.task id).slot = none) :
    GoesOn t s id name (.completing now .inserting) [.looked false, .read now, .moved .pending] := by
  have hstep : (Execution.completing now .inserting).step s id name =
      ({ s with backlog := s.backlog.place id }, .completing now .rechecking) := by
    simp only [Execution.step, Completion.step, add_eq_ok hslot]
  have htask : (s.backlog.place id).task id = { s.backlog.task id with slot := some t.home } := by
    rw [task_place, if_pos rfl, Task.home_eq_of_identity hid]
  refine goesOn_of_step [.queued t.home (t.nextRunAt now)] hstep ?_ (.rechecking now hrecurring)
  rw [entries_of_backlog, htask]
  simp [told, Task.changes, hslot, hnext]

private theorem goesOn_rechecking (hrecurring : t.isRecurring = true) :
    GoesOn t s id name (.completing now .rechecking) (t.requeuing now) := by
  by_cases hcancelled : (s.backlog.task id).state = .cancelled
  · have hstep : (Execution.completing now .rechecking).step s id name = (s, .completing now .withdrawing) := by
      simp only [Execution.step, Completion.step, hcancelled, ↓reduceIte]
    exact goesOn_quietly hstep (entries_of_same id) (.withdrawing now hrecurring hcancelled)
  · have hstep : (Execution.completing now .rechecking).step s id name = (s, .completing now (.ended true)) := by
      simp only [Execution.step, Completion.step, hcancelled, ↓reduceIte]
    exact goesOn_quietly hstep (entries_of_same id) (.closing now true (.requeued now hrecurring))

private theorem goesOn_withdrawing (hb : s.backlog.Kept) (hrecurring : t.isRecurring = true)
    (hcancelled : (s.backlog.task id).state = .cancelled) :
    GoesOn t s id name (.completing now .withdrawing) (t.requeuing now) := by
  have hstep : (Execution.completing now .withdrawing).step s id name =
      ({ s with backlog := (s.backlog.remove id).1 }, .completing now (.ended false)) := rfl
  cases hqueued : (s.backlog.task id).slot with
  | none =>
    rw [remove_of_slot_none hqueued] at hstep
    exact goesOn_quietly hstep (entries_of_same id) (.closing now false (.requeued now hrecurring))
  | some slot =>
    rw [remove_eq_unlink hqueued (hb.mem_queue_iff.2 hqueued)] at hstep
    have htask : (s.backlog.unlink id slot).task id = { s.backlog.task id with slot := none } := by
      rw [task_unlink, if_pos rfl]
    refine goesOn_of_step [.withdrawn] hstep ?_ (.closing now false (.withdrawn now hrecurring ?_))
    · rw [entries_of_backlog, htask]
      simp [told, Task.changes, hqueued]
    · rw [htask]
      exact hcancelled

end

/-- The worker goes on. -/
theorem step (h : t.Settling (s.backlog.task id) e log) (hb : s.backlog.Kept)
    (hid : (s.backlog.task id).identity = t.identity)
    (hslot : ∀ stage, id ∈ e.held id stage → (s.backlog.task id).slot = none)
    (hstate : (e.actor id).active? = some id → (s.backlog.task id).state = .executing ∨
      (s.backlog.task id).state = .cancelled ∧ (s.backlog.task id).isRecurring = true)
    (hended : e ≠ .ended) (name : Option String) :
    t.Settling ((e.step s id name).1.backlog.task id) (e.step s id name).2
      (log ++ e.entries id s name (e.step s id name)) := by
  have hr := Task.isRecurring_eq_of_identity hid
  cases h with
  | settling hsame => exact goesOn_settling hid hsame
  | dropping hrecurring => exact goesOn_dropping hrecurring ((hstate rfl).imp_right And.left)
  | recording hrecurring hcancelled =>
    refine goesOn_of_step [.cancelled] rfl ?_ (.ended (.dropped hrecurring hcancelled))
    simp [Execution.entries, told, Execution.step, Stats.changes, PooledScheduler.countCancelled]
  | stamping isShutdown hflag hsame =>
    refine goesOn_of_step [.read s.clock.accurate.1] rfl ?_ (.planning isShutdown _ hflag hsame)
    simp [Execution.entries, told, Execution.step]
  | planning isShutdown now hflag hsame =>
    cases hrecurring : t.isRecurring with
    | true =>
      rw [hflag hrecurring]
      exact goesOn_planning hid hrecurring hsame
    -- a task that runs once cannot be cancelled while it is executed, so that it is still being executed
    | false =>
      refine goesOn_finishing hid hrecurring ((hstate rfl).resolve_right fun hc => ?_) isShutdown
      cases (hrecurring.symm.trans hr.symm).trans hc.2
  | returning now hrecurring hnext => exact goesOn_returning hrecurring hnext ((hstate rfl).imp_right And.left)
  | inserting now hrecurring hnext => exact goesOn_inserting hid hrecurring hnext (hslot .waiting List.mem_cons_self)
  | rechecking now hrecurring => exact goesOn_rechecking hrecurring
  | withdrawing now hrecurring hcancelled => exact goesOn_withdrawing hb hrecurring hcancelled
  | closing completedAt requeued hlog =>
    have hstep : (Execution.completing completedAt (.ended requeued)).step s id name =
        (s, if requeued then .waking else .ended) := rfl
    refine goesOn_quietly hstep (entries_of_same id) ?_
    cases requeued with
    | true => exact .waking hlog
    | false => exact .ended hlog
  | waking hlog =>
    refine goesOn_quietly rfl ?_ (.ended ?_)
    · simp [Execution.entries, told, Execution.step]
    · simp only [Execution.step, s.backlog_wakeDispatcher]
      exact hlog
  | ended hlog => exact absurd rfl hended

end Task.Settling

/-! ### Running a task -/

namespace PooledScheduler

variable {s t : PooledScheduler} {id : TaskId}

theorem Dealt.congr {f : TaskFailure} {log : List Entry} (h : t.Dealt f log) (hequipment : t.equipment = s.equipment)
    (hid : (t.backlog.task f.task).identity = (s.backlog.task f.task).identity) : s.Dealt f log := by
  simp only [equipment, Equipment.mk.injEq] at hequipment
  simp only [Task.identity, Prod.mk.injEq] at hid
  have hhandlers : t.handlers f.task = s.handlers f.task := by
    simp only [handlers, hequipment.1, hequipment.2.1, hid.2.2.2.2]
  have harrival (text : String) : t.arrival text = s.arrival text := by simp only [arrival, hequipment.2.2]
  cases h with
  | unhandled hnone =>
    rw [harrival]
    exact .unhandled (hhandlers.symm.trans hnone)
  | handled hhead hreturns => exact .handled (hhandlers ▸ hhead) hreturns
  | broken hhead hpanics hsays =>
    rw [harrival]
    exact .broken (hhandlers ▸ hhead) hpanics hsays

theorem resolve_eq_head? (s : PooledScheduler) (id : TaskId) :
    s.router.resolve (s.backlog.task id).handler s.factory.uncaught = (s.handlers id).head? := by
  simp only [FailureRouter.resolve, handlers]
  cases (s.backlog.task id).handler <;> cases s.router.inheritable <;> cases s.router.fallback <;>
    cases s.factory.uncaught <;> rfl

/-- Routing a failure is dealing with it. -/
theorem dealt_routing (s : PooledScheduler) (f : TaskFailure) (name : Option String) :
    s.Dealt f ((Execution.routing f).entries f.task s name ((Execution.routing f).step s f.task name)) := by
  simp only [Execution.entries, Execution.told, Execution.step, Option.bind_some, Task.changes_self,
    Stats.changes_self, List.append_nil, FailureRouter.route, resolve_eq_head?]
  cases hhead : (s.handlers f.task).head? with
  | none =>
    simp only [f.trace_eq_report, s.sink.changes_write f.report_ne_empty]
    exact .unhandled (List.head?_eq_none_iff.1 hhead)
  | some handler =>
    cases hreaction : handler.reaction with
    | returns =>
      simp only [hreaction, s.sink.write_none, Sink.changes_self]
      exact .handled hhead hreaction
    | panics panic =>
      have htext : f.report ++ "Failure handler panicked: " ++ panic.message ++ "\n" ≠ "" := fun hempty =>
        absurd (String.append_eq_empty_iff.1 hempty).2 (by decide)
      simp only [hreaction, FailureRouter.brokenHandlerText, f.trace_eq_report, s.sink.changes_write htext]
      exact .broken hhead hreaction panic.says_message

/-- The execution goes on. -/
theorem Course.step {e : Execution} {log : List Entry} (h : s.Course id (t.backlog.task id) e log)
    (hequipment : t.equipment = s.equipment) (hb : t.backlog.Kept)
    (hid : (t.backlog.task id).identity = (s.backlog.task id).identity)
    (hslot : ∀ stage, id ∈ e.held id stage → (t.backlog.task id).slot = none)
    (hstate : (e.actor id).active? = some id → (t.backlog.task id).state = .executing ∨
      (t.backlog.task id).state = .cancelled ∧ (t.backlog.task id).isRecurring = true)
    (hrunning : e ≠ .running) (hended : e ≠ .ended) (name : Option String) :
    s.Course id ((e.step t id name).1.backlog.task id) (e.step t id name).2
      (log ++ e.entries id t name (e.step t id name)) := by
  cases h with
  | starting hsame =>
    have htask : (t.backlog.modify id Task.countRun).task id = (t.backlog.task id).countRun := by
      rw [task_modify, if_pos rfl]
    have hentries : Execution.starting.entries id t name (Execution.starting.step t id name) = [.invoked] := by
      simp only [Execution.step, entries_of_backlog, htask]
      simp [told, Task.changes, Task.countRun]
    rw [hentries]
    refine .running ?_
    simp only [Execution.step, htask]
    exact hsame
  | running hsame => exact absurd rfl hrunning
  | failing panic hsame =>
    have hentries : (Execution.failing panic).entries id t name ((Execution.failing panic).step t id name) =
        [.named name, .failed] := by simp [Execution.entries, told, Execution.step, Stats.changes, countFailed]
    rw [hentries]
    exact .routing panic name panic.says_message hsame
  | @routing panic thread message hsays hsame =>
    have hdealt := (t.dealt_routing ⟨id, thread.getD "<unnamed>", message⟩ name).congr hequipment hid
    exact .counting _ (.panicked panic thread hsays hdealt) hsame
  | counting delivery hran hsame =>
    have hentries : (Execution.counting delivery).entries id t name ((Execution.counting delivery).step t id name) =
        [.executed] := by simp [Execution.entries, told, Execution.step, Stats.changes, countExecuted]
    rw [hentries]
    exact .settling hran (.settling hsame)
  | settling hran hsettling =>
    have hstep := hsettling.step hb hid hslot hstate hended name
    rw [List.append_assoc]
    exact .settling hran hstep

/-- What others do to the task while a worker executes it, the worker need not mind. -/
theorem Course.mono {v w : Task} {e : Execution} {log : List Entry} (h : s.Course id v e log)
    (hrunAt : ∀ stage, id ∈ e.held id stage → w.runAt = v.runAt)
    (hcancelled : v.state = .cancelled → w.state = .cancelled) (hdone : v.state = .done → w.state = .done) :
    s.Course id w e log := by
  cases h with
  | starting hsame => exact .starting ((hrunAt .claimed List.mem_cons_self).trans hsame)
  | running hsame => exact .running ((hrunAt .started List.mem_cons_self).trans hsame)
  | failing panic hsame => exact .failing panic ((hrunAt .started List.mem_cons_self).trans hsame)
  | routing panic thread hsays hsame =>
    exact .routing panic thread hsays ((hrunAt .started List.mem_cons_self).trans hsame)
  | counting delivery hran hsame =>
    exact .counting delivery hran ((hrunAt .started List.mem_cons_self).trans hsame)
  | settling hran hsettling => exact .settling hran (hsettling.mono hrunAt hcancelled hdone)

/-- The action ends. -/
theorem Course.finish {u : Task} {log : List Entry} (h : s.Course id u .running log) (outcome : Option Panic) :
    s.Course id u (Execution.running.finish outcome) (log ++ [Entry.ended outcome]) := by
  cases h with
  | running hsame =>
    cases outcome with
    | none => exact .counting none .returned hsame
    | some panic => exact .failing panic hsame
  | settling _ hsettling => cases hsettling

/-- Every execution has a step before it, until it has ended. -/
theorem Course.left_ne_zero {u : Task} {e : Execution} {log : List Entry} (h : s.Course id u e log)
    (hended : e ≠ .ended) : e.left ≠ 0 := by
  cases h with
  | settling _ hsettling => cases hsettling <;> first | exact absurd rfl hended | simp [Execution.left]
  | _ => simp [Execution.left]

end PooledScheduler

namespace System

variable {s u v : System} {k n : Nat} {id : TaskId} {e : Execution} {log : List Entry}

private theorem eq_of_ofExecution_eq {f : Execution} (h : WorkerThread.ofExecution id e = .executing id f) :
    e = f ∧ e ≠ .ended := by
  cases e <;> cases h <;> exact ⟨rfl, by simp⟩

/-- What holds all the time while the worker `k` executes a task that it was handed when the system was `s`. -/
structure Stands (s : System) (k : Nat) (id : TaskId) (n : Nat) (log : List Entry) (u : System) : Prop where
  reachable : u.Reachable
  born : u.Born id
  equipment_eq : u.scheduler.equipment = s.scheduler.equipment
  identity_eq : (u.backlog.task id).identity = (s.backlog.task id).identity
  exists_course : ∃ e, u.threads k = some (.ofExecution id e) ∧ n + e.left ≤ 14 ∧
    s.scheduler.Course id (u.backlog.task id) e log

namespace Stands

/-- Somebody takes a step. -/
private theorem of_step (h : s.Stands k id n log u) (hstep : u.Step v) {m : Nat} {log' : List Entry}
    (hcourse : ∃ e, v.threads k = some (.ofExecution id e) ∧ m + e.left ≤ 14 ∧
      s.scheduler.Course id (v.backlog.task id) e log') : s.Stands k id m log' v := by
  have hleads := h.reachable.sound.step hstep
  exact ⟨h.reachable.step hstep, hleads.born id h.born, hstep.equipment_eq.trans h.equipment_eq,
    (hleads.stays id h.born).identity_eq.trans h.identity_eq, hcourse⟩

theorem others (h : s.Stands k id n log u) (hstep : u.Step v) (hk : v.threads k = u.threads k) :
    s.Stands k id n log v := by
  obtain ⟨e, hthread, hleft, hcourse⟩ := h.exists_course
  have hsound := h.reachable.sound
  refine h.of_step hstep ⟨e, hk.trans hthread, hleft, hcourse.mono (fun stage hmem => ?_)
    ((hsound.step hstep).stays id h.born).cancelled_of_cancelled (h.reachable.done_of_step hstep)⟩
  -- as long as the run time matters the task is in the hands of the worker
  have hheld : id ∈ u.held (.thread k) stage := by
    simp only [held, hthread, Option.elim_some, Sound.held_ofExecution]
    exact hmem
  rcases hstep.spares hsound hheld hk with hsame | hcancelled
  · rw [hsame]
  · rw [hcancelled]

theorem goesOn (h : s.Stands k id n log u) (hk : u.threads k = some (.executing id e)) (hrunning : e ≠ .running)
    (name : Option String) :
    s.Stands k id (n + 1) (log ++ e.entries id u.scheduler name (e.step u.scheduler id name))
      (u.stepExecution k id e name) := by
  obtain ⟨f, hthread, hleft, hcourse⟩ := h.exists_course
  obtain ⟨rfl, hended⟩ := eq_of_ofExecution_eq (Option.some.inj (hthread.symm.trans hk))
  have hsound := h.reachable.sound
  have hlt := Execution.left_step_lt hrunning (hcourse.left_ne_zero hended) u.scheduler id name
  refine h.of_step (.execution k id f name hk) ⟨_, Function.update_self .., by omega, ?_⟩
  refine hcourse.step (t := u.scheduler) h.equipment_eq hsound.kept h.identity_eq (fun stage hmem => ?_)
    (h.reachable.state_of_active hk) hrunning hended name
  have hfrees := hsound.frees (.thread k) stage id
  simp only [held, hk, Option.elim_some] at hfrees
  exact (hfrees hmem).1

theorem ends (h : s.Stands k id n log u) (hk : u.threads k = some (.executing id .running)) (outcome : Option Panic) :
    s.Stands k id (n + 1) (log ++ [Entry.ended outcome]) (u.withThread k (.executing id (Execution.running.finish outcome))) := by
  obtain ⟨f, hthread, hleft, hcourse⟩ := h.exists_course
  obtain ⟨rfl, -⟩ := eq_of_ofExecution_eq (Option.some.inj (hthread.symm.trans hk))
  refine h.of_step (.finish k id outcome hk) ⟨_, ?_, ?_, hcourse.finish outcome⟩
  · refine (Function.update_self ..).trans ?_
    cases outcome <;> rfl
  · cases outcome <;> simp only [Execution.finish, Execution.left] at hleft ⊢ <;> omega

/-- The worker has returned, or it is in the middle of the execution. -/
theorem thread_cases (h : s.Stands k id n log u) :
    u.threads k = some (.acting .finished) ∧ s.scheduler.Course id (u.backlog.task id) .ended log ∨
      ∃ e, u.threads k = some (.executing id e) := by
  obtain ⟨e, hthread, -, hcourse⟩ := h.exists_course
  by_cases hended : e = .ended
  · subst hended
    exact .inl ⟨hthread, hcourse⟩
  · refine .inr ⟨e, hthread.trans ?_⟩
    cases e <;> first | rfl | exact absurd rfl hended

end Stands

theorem Logs.stands (h : s.Logs k id n log u) (hs : s.Reachable) (hk : s.threads k = some (.executing id .starting)) :
    s.Stands k id n log u := by
  induction h with
  | start => exact ⟨hs, hs.sound.born k id _ hk, rfl, rfl, .starting, hk, by simp [Execution.left], .starting rfl⟩
  | others _ hstep hsame ih => exact ih.others hstep hsame
  | goesOn e name _ hthread hrunning ih => exact ih.goesOn hthread hrunning name
  | ends outcome _ hthread ih => exact ih.ends hthread outcome

/-- Whatever step anybody takes while a worker executes its task. -/
private theorem Logs.follow (h : s.Logs k id n log u) (hs : u.Sound) (hk : u.threads k = some (.executing id e))
    (hstep : u.Step v) : ∃ m log', s.Logs k id m log' v := by
  by_cases hsame : v.threads k = u.threads k
  · exact ⟨n, log, .others h hstep hsame⟩
  -- the worker has moved, so that the step was its own
  · have hother {j : Nat} {y : WorkerThread} (hj : j ≠ k) (hv : v.threads = Function.update u.threads j (some y)) :
        ∃ m log', s.Logs k id m log' v := by
      rw [hv, Function.update_of_ne hj.symm] at hsame
      exact absurd rfl hsame
    have hacting {j : Nat} {phase : WorkerPhase} (hj : u.threads j = some (.acting phase)) : j ≠ k := by
      rintro rfl
      cases hj.symm.trans hk
    cases hstep with
    | dispatcher d now hd =>
      rcases hs.threads_stepDispatcher_cases hd now k with hthread | ⟨hnone, -⟩
      · exact absurd hthread hsame
      · cases hnone.symm.trans hk
    | worker j phase now hj => exact hother (hacting hj) rfl
    | rouseWorker j idleSince until? hj => exact hother (hacting hj) rfl
    | execution j other f name hj =>
      by_cases hjk : j = k
      · subst hjk
        cases hj.symm.trans hk
        refine ⟨_, _, .goesOn e name h hk ?_⟩
        rintro rfl
        exact hsame ((Function.update_self ..).trans hk.symm)
      · exact hother hjk rfl
    | finish j other outcome hj =>
      by_cases hjk : j = k
      · subst hjk
        cases hj.symm.trans hk
        exact ⟨_, _, .ends outcome h hk⟩
      · exact hother hjk rfl
    | _ => exact absurd rfl hsame

end System

namespace PooledScheduler

variable {s : PooledScheduler} {id : TaskId}

/-- A task in hand that is moved on from its run. -/
private theorem task_transition_of_executing (hslot : (s.backlog.task id).slot = none)
    (hstate : (s.backlog.task id).state = .executing) (target : TaskState) :
    (s.backlog.transition id .executing target).1.task id = { s.backlog.task id with state := target, slot := none } := by
  rw [task_transition_self hstate, ← hslot]

/-- A task that is planned anew and queued again. -/
private theorem task_requeue (hstate : (s.backlog.task id).state = .executing) (now : Nat) :
    (s.backlog.requeue id now).task id = { s.backlog.task id with
      runAt := (s.backlog.task id).nextRunAt now
      state := .pending
      slot := some (s.backlog.task id).home } := by
  have hplanned := task_replan s.backlog id now
  rw [requeue, task_place, if_pos rfl, task_transition_eq, if_pos ⟨rfl, by rw [hplanned]; exact hstate⟩, hplanned]
  rfl

private theorem exists_disposes (hslot : (s.backlog.task id).slot = none)
    (hstate : (s.backlog.task id).state = .executing) (delivery : Option Delivery) (name : Option String) :
    ∃ t, Execution.EndsIn id name 10 s (.counting delivery) t ∧ s.Disposes id t := by
  have hcounting : (Execution.counting delivery).step s id name = (s.countExecuted, .settling) := rfl
  cases hdrops : (s.backlog.task id).isRecurring && s.isShutdown with
  | true =>
    obtain ⟨hr, hshutdown⟩ := Bool.and_eq_true_iff.1 hdrops
    have hsettling : Execution.settling.step s.countExecuted id name = (s.countExecuted, .dropping) :=
      Prod.ext rfl (if_pos hdrops)
    have hends := endsIn_dropping (s := s.countExecuted) hstate name 6
    refine ⟨_, (hends.of_step hsettling).of_step hcounting, .dropped hr hshutdown ?_ rfl⟩
    exact task_transition_of_executing hslot hstate .cancelled
  | false =>
    have hsettling : Execution.settling.step s.countExecuted id name = (s.countExecuted, .stamping) :=
      Prod.ext rfl (if_neg (Bool.eq_false_iff.1 hdrops))
    obtain ⟨t, hends, hbacklog, hstats, -⟩ := exists_endsIn_stamping (s := s.countExecuted) hslot name
    refine ⟨t, (hends.of_step hsettling).of_step hcounting, ?_⟩
    have hcomplete : t.backlog = (s.backlog.complete id s.clock.accurate.1).1 := hbacklog
    rcases complete_cases hslot s.clock.accurate.1 with ⟨hr, hc⟩ | ⟨hr, -, hc⟩ | ⟨-, hnot, -⟩
    · refine .done hr ?_ hstats
      simp only [hcomplete, hc]
      exact task_transition_of_executing hslot hstate .done
    · rw [hr, Bool.true_and] at hdrops
      refine .requeued hr hdrops ?_ hstats
      simp only [hcomplete, hc]
      exact task_requeue hstate s.clock.accurate.1
    · exact absurd hstate hnot

end PooledScheduler

namespace System

/-- A worker that is handed a task survives it: whatever the action, the handlers and the sink are like, and whatever
others do meanwhile. -/
theorem Reachable.survives {s : System} {k : Nat} {id : TaskId} (h : s.Reachable)
    (hk : s.threads k = some (.executing id .starting)) : s.Survives k id where
  follows hlog := by
    have hstands := hlog.stands h hk
    rcases hstands.thread_cases with ⟨hfinished, -⟩ | ⟨e, hthread⟩
    · exact .inl hfinished
    · exact .inr (hlog.follow hstands.reachable.sound hthread)
  exists_step hlog := by
    rcases (hlog.stands h hk).thread_cases with ⟨hfinished, -⟩ | ⟨e, hthread⟩
    · exact .inl hfinished
    · right
      by_cases hrunning : e = .running
      · subst hrunning
        exact ⟨_, _, .finish k id none hthread, .ends none hlog hthread⟩
      · exact ⟨_, _, .execution k id e none hthread, .goesOn e none hlog hthread hrunning⟩
  steps_le hlog := by
    obtain ⟨e, -, hleft, -⟩ := (hlog.stands h hk).exists_course
    omega
  log_eq hlog hfinished := by
    rcases (hlog.stands h hk).thread_cases with ⟨-, hcourse⟩ | ⟨e, hthread⟩
    · cases hcourse with
      | settling hran hsettling =>
        cases hsettling with
        | ended hsettled => exact ⟨_, _, hran, hsettled, rfl⟩
    · cases hfinished.symm.trans hthread
  disposes name hlog hcounting hstate := by
    have hreachable := (hlog.stands h hk).reachable
    have hslot := (hreachable.runs hcounting rfl rfl).slot_eq
    obtain ⟨t, hends, hdisposes⟩ := PooledScheduler.exists_disposes hslot hstate _ name
    refine ⟨t, hends, hdisposes, fun slot => ?_⟩
    have hthere := hreachable.withExecution (n := 10) (e := .counting _) hcounting name
    rw [hends] at hthere
    exact hthere.sound.kept.mem_queue_iff

private def attentive : FailureHandler := ⟨"attentive", .returns⟩

private def broken : FailureHandler := ⟨"broken", .panics (.text "no paper")⟩

/-- A worker has taken the only task, which has a handler of its own or none. -/
private def entrusted (handler : Option FailureHandler) : System :=
  (start (.start (.manual 0)) 1 .zero (.plain "w") .bare .empty .high 0).follow
    (Turn.submit 0 ⟨.zero, .oneTime, ⟨none, handler⟩⟩ :: List.replicate 4 (Turn.client 0) ++
      List.replicate 11 Turn.dispatcher ++ [Turn.worker 0])

private theorem reachable_entrusted (handler : Option FailureHandler) : (entrusted handler).Reachable :=
  (Reachable.start (.start (.manual 0)) 1 .zero (.plain "w") .bare .empty .high 0).follow _

private theorem threads_entrusted (handler : Option FailureHandler) :
    (entrusted handler).threads 0 = some (.executing ⟨0⟩ .starting) := by cbv

/-- The action of the task panics, and `dealt` is entered about that before the task is done. -/
private def Finishes (s : System) (dealt : List Entry) : Prop :=
  ∃ log u, s.Logs 0 ⟨0⟩ 9 log u ∧ u.threads 0 = some (.acting .finished) ∧
    log = .invoked :: .ended (some (.text "boom")) :: .named (some "w") :: .failed :: dealt ++
      [.executed, .looked false, .read 0, .moved .done]

private theorem finishes_entrusted {handler : Option FailureHandler} {dealt : List Entry}
    (h : handler = none ∧ dealt = [.wrote "Uncaught task failure: Task(0) panicked on thread 'w': boom\n"] ∨
      handler = some attentive ∧ dealt = [.called attentive ⟨⟨0⟩, "w", "boom"⟩] ∨
      handler = some broken ∧ dealt = [.called broken ⟨⟨0⟩, "w", "boom"⟩, .wrote
        "Uncaught task failure: Task(0) panicked on thread 'w': boom\nFailure handler panicked: no paper\n"]) :
    (entrusted handler).Finishes dealt := by
  have hinvoked := Logs.start.goesOn .starting (some "w") (threads_entrusted handler) (by simp)
  have hended := hinvoked.ends (some (.text "boom")) rfl
  have hfailed := hended.goesOn (.failing (.text "boom")) (some "w") rfl (by simp)
  have hrouted := hfailed.goesOn (.routing ⟨⟨0⟩, "w", "boom"⟩) (some "w") rfl (by simp)
  have hcounted := hrouted.goesOn (.counting (some (FailureRouter.bare.route ⟨⟨0⟩, "w", "boom"⟩ handler none)))
    (some "w") (by cbv) (by simp)
  have hlooked := hcounted.goesOn .settling (some "w") rfl (by simp)
  have hread := hlooked.goesOn .stamping (some "w") (by cbv) (by simp)
  have hmoved := hread.goesOn (.completing 0 .settling) (some "w") (by cbv) (by simp)
  have hdone := hmoved.goesOn (.completing 0 (.ended false)) (some "w") (by cbv) (by simp)
  refine ⟨_, _, hdone, by cbv, ?_⟩
  rcases h with ⟨rfl, rfl⟩ | ⟨rfl, rfl⟩ | ⟨rfl, rfl⟩ <;> rfl

/-- The failure is written down, or handed to a handler, or both if that panics. -/
theorem survives_entrusted :
    ((entrusted none).Survives 0 ⟨0⟩ ∧
      (entrusted none).Finishes [.wrote "Uncaught task failure: Task(0) panicked on thread 'w': boom\n"]) ∧
    ((entrusted (some attentive)).Survives 0 ⟨0⟩ ∧
      (entrusted (some attentive)).Finishes [.called attentive ⟨⟨0⟩, "w", "boom"⟩]) ∧
    ((entrusted (some broken)).Survives 0 ⟨0⟩ ∧
      (entrusted (some broken)).Finishes [.called broken ⟨⟨0⟩, "w", "boom"⟩, .wrote
        "Uncaught task failure: Task(0) panicked on thread 'w': boom\nFailure handler panicked: no paper\n"]) := by
  have hsurvives (handler : Option FailureHandler) : (entrusted handler).Survives 0 ⟨0⟩ :=
    Reachable.survives (reachable_entrusted handler) (threads_entrusted handler)
  exact ⟨⟨hsurvives none, finishes_entrusted (by simp)⟩, ⟨hsurvives (some attentive), finishes_entrusted (by simp)⟩,
    ⟨hsurvives (some broken), finishes_entrusted (by simp)⟩⟩

end System

end TaskScheduling
