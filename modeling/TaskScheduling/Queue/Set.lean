import TaskScheduling.Error
import TaskScheduling.Queue.Ring
import TaskScheduling.Task.Table

/-!
# Queue sets

The two queues of one priority level.  Immediate tasks wait in the ready queue in order of arrival; all others wait in
the future queue in order of run time, and behind those that have the same one.  Putting a task into a queue notes the
queue on the task, and taking it out wipes the note, so that a task can be found by its note alone.

A place in the future queue is found by halves, which relies on the order.  The run time of a queued task can change,
and then what is found depends on where in its ring the queue lies.

* `future_insert`: in a queue that is in order, a task is put where `insertByRunAt` says.
* `mem_insertByRunAt`, `insertByRunAt_sorted`: that adds one task and keeps the order.
* `nextRunAfter_eq`: in a queue that is in order, the first later run time is found.
* `peekDue_mem`: what is due is queued.
-/

namespace TaskScheduling

structure QueueSet (priority : Priority) where
  ready : List TaskId
  future : List TaskId
  /-- Where the future queue lies. -/
  ring : Ring
  deriving DecidableEq

namespace QueueSet

variable {p : Priority}

def empty : QueueSet p := ⟨[], [], .empty⟩

instance : Inhabited (QueueSet p) := ⟨empty⟩

/-- The note that tasks in a queue of this set carry. -/
def slot (_ : QueueSet p) (kind : QueueKind) : QueueSlot := ⟨p, kind⟩

def queue (s : QueueSet p) : QueueKind → List TaskId
  | .ready => s.ready
  | .future => s.future

/-- Takes a queued task out of one queue. -/
def erase (s : QueueSet p) (id : TaskId) : QueueKind → QueueSet p
  | .ready => { s with ready := s.ready.erase id }
  | .future =>
    { s with future := s.future.erase id, ring := s.ring.erase s.future.length (s.future.idxOf id) }

/-- Takes everything out of one queue. -/
def emptied (s : QueueSet p) : QueueKind → QueueSet p
  | .ready => { s with ready := [] }
  | .future => { s with future := [], ring := s.ring.clear }

/-- Everything queued, ready tasks first. -/
def ids (s : QueueSet p) : List TaskId := s.ready ++ s.future

def size (s : QueueSet p) : Nat := s.ready.length + s.future.length

def isEmpty (s : QueueSet p) : Bool := s.size == 0

/-- Puts a task with the run time `runAt` behind the leading tasks that are not later. -/
def insertByRunAt (tasks : Table) (runAt : Nat) (id : TaskId) : List TaskId → List TaskId
  | [] => [id]
  | q :: rest => if (tasks.get q).runAt ≤ runAt then q :: insertByRunAt tasks runAt id rest else id :: q :: rest

/-- The number of future tasks that are not later than `t`, as a search finds it. -/
def countUpTo (s : QueueSet p) (tasks : Table) (t : Nat) : Nat :=
  s.ring.search (fun id => (tasks.get id).runAt ≤ t) s.future

/-- Why a task cannot be added to this set. -/
def refusal? (_ : QueueSet p) (task : Task) : Option Fault :=
  if task.priority ≠ p then some (.wrongQueueSet task.id p)
  else if task.slot.isSome then some (.stillQueued task.id)
  else none

/-- Queues a task where it belongs. -/
def insert (s : QueueSet p) (tasks : Table) (id : TaskId) : QueueSet p × Table :=
  let task := tasks.get id
  if task.immediate then
    ({ s with ready := s.ready ++ [id] }, tasks.setSlot id (some (s.slot .ready)))
  else
    let i := s.countUpTo tasks task.runAt
    ({ s with
        future := s.future.take i ++ id :: s.future.drop i
        ring := s.ring.insert s.future.length i },
      tasks.setSlot id (some (s.slot .future)))

def add (s : QueueSet p) (tasks : Table) (id : TaskId) : Except Fault (QueueSet p × Table) :=
  match s.refusal? (tasks.get id) with
  | some fault => .error fault
  | none => .ok (s.insert tasks id)

/-- Takes a task out of the queue that it names.  Does nothing to a task that another set, or none, holds. -/
def remove (s : QueueSet p) (tasks : Table) (id : TaskId) : QueueSet p × Table × Bool :=
  match (tasks.get id).slot with
  | none => (s, tasks, false)
  | some slot =>
    if slot.priority = p ∧ id ∈ s.queue slot.kind then
      (s.erase id slot.kind, tasks.setSlot id none, true)
    else (s, tasks, false)

/-- The head of the future queue, if its time has come. -/
def dueHead (s : QueueSet p) (tasks : Table) (now : Nat) : Option TaskId :=
  s.future.head?.filter fun id => (tasks.get id).runAt ≤ now

/-- The task that this set runs next: the earlier one of the ready head and the due future head, and of two that are
equally early the ready one. -/
def peekDue (s : QueueSet p) (tasks : Table) (now : Nat) : Option TaskId :=
  match s.ready.head?, s.dueHead tasks now with
  | some r, some f => if (tasks.get f).runAt < (tasks.get r).runAt then some f else some r
  | some r, none => some r
  | none, f => f

/-- Takes out the task that `peekDue` shows. -/
def popDue (s : QueueSet p) (tasks : Table) (now : Nat) : Option (TaskId × QueueSet p × Table) :=
  match s.peekDue tasks now with
  | none => none
  | some id =>
    match s.remove tasks id with
    | (s, tasks, true) => some (id, s, tasks)
    | (_, _, false) => none

/-- The smaller of two times that need not be there. -/
def earlier : Option Nat → Option Nat → Option Nat
  | some a, some b => some (min a b)
  | some a, none => some a
  | none, b => b

/-- The first run time of anything queued here. -/
def nextRunAt (s : QueueSet p) (tasks : Table) : Option Nat :=
  earlier (s.ready.head?.map fun id => (tasks.get id).runAt) (s.future.head?.map fun id => (tasks.get id).runAt)

/-- The first run time after `now`, whatever is due already. -/
def nextRunAfter (s : QueueSet p) (tasks : Table) (now : Nat) : Option Nat :=
  s.future[s.countUpTo tasks now]?.map fun id => (tasks.get id).runAt

/-- Empties one queue. -/
def drainQueue (s : QueueSet p) (tasks : Table) (kind : QueueKind) : List TaskId × QueueSet p × Table :=
  (s.queue kind, s.emptied kind, tasks.modifyAll (s.queue kind) fun task => { task with slot := none })

/-- Empties both queues. -/
def drain (s : QueueSet p) (tasks : Table) : List TaskId × QueueSet p × Table :=
  let (ready, s, tasks) := s.drainQueue tasks .ready
  let (future, s, tasks) := s.drainQueue tasks .future
  (ready ++ future, s, tasks)

/-- Takes out the recurring tasks. -/
def drainRecurring (s : QueueSet p) (tasks : Table) : List TaskId × QueueSet p × Table :=
  let (recurring, rest) := s.future.partition fun id => (tasks.get id).isRecurring
  (recurring, { s with future := rest, ring := .filled rest.length },
    tasks.modifyAll recurring fun task => { task with slot := none })

/-- What is wrong with a task found in a queue after the tasks `seen`. -/
def taskDefect? (s : QueueSet p) (tasks : Table) (kind : QueueKind) (seen : List TaskId) (id : TaskId) :
    Option String :=
  let task := tasks.get id
  if id ∈ seen then some (task.id.name ++ " queued twice")
  else if task.priority ≠ p then some (task.id.name ++ " has priority " ++ task.priority.name)
  else if task.slot ≠ some (s.slot kind) then
    some (task.id.name ++ " in " ++ kind.inspect ++ " queue but slot is "
      ++ Inspect.optional (task.slot.map QueueSlot.inspect))
  else if task.queueKind ≠ kind then
    some (task.id.name ++ " (" ++ task.kind.inspect ++ ") placed in the " ++ kind.inspect ++ " queue")
  else none

/-- The first defect of a task in a queue. -/
def queueDefect? (s : QueueSet p) (tasks : Table) (kind : QueueKind) : List TaskId → List TaskId → Option String
  | _, [] => none
  | seen, id :: rest => (s.taskDefect? tasks kind seen id).or (s.queueDefect? tasks kind (id :: seen) rest)

/-- The first position in the future queue with a task that should be further ahead. -/
def orderDefect? (tasks : Table) : Nat → List TaskId → Option Nat
  | i, a :: b :: rest =>
    if (tasks.get a).runAt > (tasks.get b).runAt then some i else orderDefect? tasks (i + 1) (b :: rest)
  | _, _ => none

/-- Checks the notes on the tasks, their queues and the order of the future queue. -/
def defect? (s : QueueSet p) (tasks : Table) : Option InvariantViolation :=
  let defect := (s.queueDefect? tasks .ready [] s.ready).or
    ((s.queueDefect? tasks .future s.ready s.future).or
      ((orderDefect? tasks 1 s.future).map fun i => "future queue out of order at position " ++ toString i))
  defect.map fun detail => ⟨p, detail⟩

/-! ### Queues as lists -/

theorem queue_erase (s : QueueSet p) (id : TaskId) (kind other : QueueKind) :
    (s.erase id kind).queue other = if other = kind then (s.queue other).erase id else s.queue other := by
  cases kind <;> cases other <;> rfl

theorem queue_emptied (s : QueueSet p) (kind other : QueueKind) :
    (s.emptied kind).queue other = if other = kind then [] else s.queue other := by
  cases kind <;> cases other <;> rfl

theorem mem_ids {s : QueueSet p} {id : TaskId} : id ∈ s.ids ↔ id ∈ s.ready ∨ id ∈ s.future := List.mem_append

theorem mem_insertByRunAt {tasks : Table} {runAt : Nat} {x id : TaskId} {queue : List TaskId} :
    x ∈ insertByRunAt tasks runAt id queue ↔ x = id ∨ x ∈ queue := by
  induction queue with
  | nil => simp [insertByRunAt]
  | cons q rest ih =>
    unfold insertByRunAt
    split
    · simp only [List.mem_cons, ih]
      exact or_left_comm
    · simp

/-- A future queue in order of run time. -/
def InOrder (tasks : Table) (queue : List TaskId) : Prop :=
  queue.Pairwise fun a b => (tasks.get a).runAt ≤ (tasks.get b).runAt

theorem insertByRunAt_sorted {tasks : Table} {id : TaskId} {queue : List TaskId} (h : InOrder tasks queue) :
    InOrder tasks (insertByRunAt tasks (tasks.get id).runAt id queue) := by
  induction queue with
  | nil => simp [insertByRunAt, InOrder]
  | cons q rest ih =>
    obtain ⟨hq, hrest⟩ := List.pairwise_cons.1 h
    unfold insertByRunAt
    split
    · refine List.pairwise_cons.2 ⟨fun x hx => ?_, ih hrest⟩
      rcases mem_insertByRunAt.1 hx with rfl | hx
      · assumption
      · exact hq x hx
    · rename_i hlt
      refine List.pairwise_cons.2 ⟨fun x hx => ?_, h⟩
      rcases List.mem_cons.1 hx with rfl | hx
      · omega
      · have := hq x hx; omega

/-- A queue in order is made of the tasks up to a time and, behind them, the later ones. -/
theorem exists_split {tasks : Table} {queue : List TaskId} (h : InOrder tasks queue) (t : Nat) :
    ∃ xs ys, queue = xs ++ ys ∧ (∀ x ∈ xs, (tasks.get x).runAt ≤ t) ∧ ∀ y ∈ ys, t < (tasks.get y).runAt := by
  induction queue with
  | nil => exact ⟨[], [], by simp⟩
  | cons q rest ih =>
    obtain ⟨hq, hrest⟩ := List.pairwise_cons.1 h
    by_cases hle : (tasks.get q).runAt ≤ t
    · obtain ⟨xs, ys, rfl, hx, hy⟩ := ih hrest
      exact ⟨q :: xs, ys, rfl, List.forall_mem_cons.2 ⟨hle, hx⟩, hy⟩
    · refine ⟨[], q :: rest, rfl, by simp, List.forall_mem_cons.2 ⟨by omega, fun y hy => ?_⟩⟩
      have := hq y hy
      omega

private theorem countUpTo_of_split {s : QueueSet p} {tasks : Table} {t : Nat} {xs ys : List TaskId}
    (h : s.future = xs ++ ys) (hx : ∀ x ∈ xs, (tasks.get x).runAt ≤ t) (hy : ∀ y ∈ ys, t < (tasks.get y).runAt) :
    s.countUpTo tasks t = xs.length := by
  rw [countUpTo, h]
  exact s.ring.search_append (by simpa using hx) (by simpa using hy)

theorem insertByRunAt_append {tasks : Table} {t : Nat} {id : TaskId} {xs ys : List TaskId}
    (hx : ∀ x ∈ xs, (tasks.get x).runAt ≤ t) (hy : ∀ y ∈ ys, t < (tasks.get y).runAt) :
    insertByRunAt tasks t id (xs ++ ys) = xs ++ id :: ys := by
  induction xs with
  | nil =>
    cases ys with
    | nil => rfl
    | cons y ys =>
      have := hy y (by simp)
      simp only [List.nil_append, insertByRunAt]
      rw [if_neg (by omega)]
  | cons x xs ih =>
    simp only [List.cons_append, insertByRunAt, hx x (by simp), ↓reduceIte]
    rw [ih fun z hz => hx z (List.mem_cons_of_mem x hz)]

/-- In a queue that is in order, a task that is not immediate goes behind the leading tasks that are not later. -/
theorem future_insert {s : QueueSet p} {tasks : Table} {id : TaskId} (h : InOrder tasks s.future)
    (hid : (tasks.get id).immediate = false) :
    (s.insert tasks id).1.future = insertByRunAt tasks (tasks.get id).runAt id s.future := by
  obtain ⟨xs, ys, hq, hx, hy⟩ := exists_split h (tasks.get id).runAt
  simp [insert, hid, countUpTo_of_split hq hx hy, hq, insertByRunAt_append hx hy]

/-- Where the future queue is in order, the first run time after `now` in it is found. -/
theorem nextRunAfter_eq {s : QueueSet p} {tasks : Table} (h : InOrder tasks s.future) (now : Nat) :
    s.nextRunAfter tasks now =
      (s.future.find? fun id => now < (tasks.get id).runAt).map fun id => (tasks.get id).runAt := by
  obtain ⟨xs, ys, hq, hx, hy⟩ := exists_split h now
  have hnone : xs.find? (fun id => decide (now < (tasks.get id).runAt)) = none := by
    simpa [Nat.not_lt] using hx
  rw [nextRunAfter, countUpTo_of_split hq hx hy, hq, List.find?_append, hnone, Option.none_or,
    List.getElem?_append_right (Nat.le_refl _), Nat.sub_self]
  cases ys with
  | nil => rfl
  | cons y ys => simp [hy y (by simp)]

theorem dueHead_mem {s : QueueSet p} {tasks : Table} {now : Nat} {id : TaskId} (h : s.dueHead tasks now = some id) :
    id ∈ s.future ∧ (tasks.get id).runAt ≤ now := by
  obtain ⟨hhead, hdue⟩ := Option.filter_eq_some_iff.1 h
  exact ⟨List.mem_of_mem_head? hhead, by simpa using hdue⟩

theorem peekDue_mem {s : QueueSet p} {tasks : Table} {now : Nat} {id : TaskId} (h : s.peekDue tasks now = some id) :
    id ∈ s.ids := by
  unfold peekDue at h
  rw [mem_ids]
  split at h
  · rename_i hr hf
    split at h
    · cases h; exact .inr (dueHead_mem hf).1
    · cases h; exact .inl (List.mem_of_mem_head? hr)
  · rename_i hr _
    cases h; exact .inl (List.mem_of_mem_head? hr)
  · exact .inr (dueHead_mem h).1

end QueueSet

end TaskScheduling
