import TaskScheduling.Queue.Set

/-!
# Backlogs

Everything that a scheduler has accepted: its tasks, one queue set per priority, and the number of the next task.

A task that is due waits for more urgent ones, with one exception: low work that has been waiting long enough goes
ahead of high work that became due much later (`nextDue`).
-/

namespace TaskScheduling

structure Backlog where
  tasks : Table
  high : QueueSet .high
  low : QueueSet .low
  starvable : QueueSet .starvable
  nextId : Nat
  deriving DecidableEq

namespace Backlog

def empty : Backlog := ⟨.empty, .empty, .empty, .empty, 0⟩

instance : Inhabited Backlog := ⟨empty⟩

def task (b : Backlog) (id : TaskId) : Task := b.tasks.get id

def queueSet (b : Backlog) : (p : Priority) → QueueSet p
  | .high => b.high
  | .low => b.low
  | .starvable => b.starvable

def withQueueSet (b : Backlog) : {p : Priority} → QueueSet p → Table → Backlog
  | .high, s, tasks => { b with high := s, tasks := tasks }
  | .low, s, tasks => { b with low := s, tasks := tasks }
  | .starvable, s, tasks => { b with starvable := s, tasks := tasks }

/-- Changes one task and no queue. -/
def modify (b : Backlog) (id : TaskId) (f : Task → Task) : Backlog := { b with tasks := b.tasks.modify id f }

/-- Everything queued, in the order of the queue sets. -/
def queued (b : Backlog) : List TaskId := b.high.ids ++ b.low.ids ++ b.starvable.ids

def size (b : Backlog) : Nat := b.high.size + b.low.size + b.starvable.size

def isEmpty (b : Backlog) : Bool := b.high.isEmpty && b.low.isEmpty && b.starvable.isEmpty

/-! ### Building and queueing -/

/-- Draws the next number and builds a task with it; the task is in no queue and not entered yet. -/
def build (b : Backlog) (now : Nat) (delay : Duration) (kind : TaskKind) (priority : Priority)
    (handler : Option FailureHandler) : Task × Backlog :=
  (Task.build ⟨b.nextId⟩ priority kind delay now handler, { b with nextId := b.nextId + 1 })

/-- Enters a task that was built. -/
def enter (b : Backlog) (task : Task) : Backlog := { b with tasks := b.tasks.set task.id task }

/-- Queues an entered task in the set of its priority. -/
def add (b : Backlog) (id : TaskId) : Except Fault Backlog :=
  match (b.queueSet (b.task id).priority).add b.tasks id with
  | .error fault => .error fault
  | .ok (s, tasks) => .ok (b.withQueueSet s tasks)

/-- Takes a task out of the queue that it names. -/
def remove (b : Backlog) (id : TaskId) : Backlog × Bool :=
  match (b.task id).slot with
  | none => (b, false)
  | some slot =>
    let (s, tasks, removed) := (b.queueSet slot.priority).remove b.tasks id
    (b.withQueueSet s tasks, removed)

/-- Moves a task from one state to another, if it is in the first. -/
def transition (b : Backlog) (id : TaskId) (source target : TaskState) : Backlog × Bool :=
  let (task, moved) := (b.task id).transition source target
  (if moved then { b with tasks := b.tasks.set id task } else b, moved)

/-- Claims a task that has left its queue for a run. -/
def begin (b : Backlog) (id : TaskId) : Backlog × Bool := b.transition id .pending .executing

/-! ### What is due -/

/-- The task to dispatch next.  A due low task goes ahead of a due high one that became due more than `lowWait` later;
without a `lowWait` it never does.  Starvable work is shown only when nothing else is due. -/
def nextDue (b : Backlog) (now : Nat) (lowWait : Option Nat) : Option TaskId :=
  match b.high.peekDue b.tasks now, b.low.peekDue b.tasks now with
  | some h, some l =>
    match lowWait with
    | some wait => if Time.plus (b.task l).runAt wait < (b.task h).runAt then some l else some h
    | none => some h
  | some h, none => some h
  | none, some l => some l
  | none, none => b.starvable.peekDue b.tasks now

private def popFrom (b : Backlog) (p : Priority) (now : Nat) : Option (TaskId × Backlog) :=
  ((b.queueSet p).popDue b.tasks now).map fun (id, s, tasks) => (id, b.withQueueSet s tasks)

/-- Takes out the most urgent task that is due. -/
def popDue (b : Backlog) (now : Nat) : Option (TaskId × Backlog) :=
  ((b.popFrom .high now).or (b.popFrom .low now)).or (b.popFrom .starvable now)

def nextRunAt (b : Backlog) : Option Nat :=
  QueueSet.earlier (b.high.nextRunAt b.tasks)
    (QueueSet.earlier (b.low.nextRunAt b.tasks) (b.starvable.nextRunAt b.tasks))

def nextRunAfter (b : Backlog) (now : Nat) : Option Nat :=
  QueueSet.earlier (b.high.nextRunAfter b.tasks now)
    (QueueSet.earlier (b.low.nextRunAfter b.tasks now) (b.starvable.nextRunAfter b.tasks now))

/-- The first defect found in the queue sets. -/
def defect? (b : Backlog) : Option InvariantViolation :=
  (b.high.defect? b.tasks).or ((b.low.defect? b.tasks).or (b.starvable.defect? b.tasks))

/-! ### Views of the operations -/

@[simp] theorem tasks_withQueueSet (b : Backlog) {p : Priority} (s : QueueSet p) (tasks : Table) :
    (b.withQueueSet s tasks).tasks = tasks := by cases p <;> rfl

@[simp] theorem nextId_withQueueSet (b : Backlog) {p : Priority} (s : QueueSet p) (tasks : Table) :
    (b.withQueueSet s tasks).nextId = b.nextId := by cases p <;> rfl

@[simp] theorem queueSet_withQueueSet_self (b : Backlog) {p : Priority} (s : QueueSet p) (tasks : Table) :
    (b.withQueueSet s tasks).queueSet p = s := by cases p <;> rfl

theorem queueSet_withQueueSet_of_ne (b : Backlog) {p q : Priority} (s : QueueSet p) (tasks : Table) (h : q ≠ p) :
    (b.withQueueSet s tasks).queueSet q = b.queueSet q := by
  cases p <;> cases q <;> first | rfl | exact absurd rfl h

theorem mem_queued {b : Backlog} {id : TaskId} : id ∈ b.queued ↔ ∃ p, id ∈ (b.queueSet p).ids := by
  constructor
  · intro h
    simp only [queued, List.mem_append] at h
    rcases h with (h | h) | h
    · exact ⟨.high, h⟩
    · exact ⟨.low, h⟩
    · exact ⟨.starvable, h⟩
  · rintro ⟨p, h⟩
    simp only [queued, List.mem_append]
    cases p
    · exact .inl (.inl h)
    · exact .inl (.inr h)
    · exact .inr h

/-- The queue sets are tried in the order of their priorities. -/
theorem popDue_eq (b : Backlog) (now : Nat) :
    b.popDue now = Priority.all.findSome? fun p =>
      ((b.queueSet p).popDue b.tasks now).map fun (id, s, tasks) => (id, b.withQueueSet s tasks) := by
  simp only [popDue, popFrom, Priority.all, List.findSome?_cons, List.findSome?_nil]
  cases (b.queueSet .high).popDue b.tasks now <;> cases (b.queueSet .low).popDue b.tasks now <;>
    cases (b.queueSet .starvable).popDue b.tasks now <;> rfl

theorem task_transition (b : Backlog) (id : TaskId) (source target : TaskState) (j : TaskId) :
    ((b.transition id source target).1.task j).state =
      if j = id ∧ (b.task id).state = source then target else (b.task j).state := by
  by_cases h : (b.task id).state = source
  · simp only [transition, Task.transition, h, ↓reduceIte, and_true]
    simp only [task, Table.get_set]
    split <;> rfl
  · simp [transition, Task.transition, h]

theorem transition_snd (b : Backlog) (id : TaskId) (source target : TaskState) :
    (b.transition id source target).2 = decide ((b.task id).state = source) := by
  simp only [transition, Task.transition]
  split <;> simp [*]

end Backlog

end TaskScheduling
