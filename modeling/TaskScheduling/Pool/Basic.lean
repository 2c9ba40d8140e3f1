import TaskScheduling.Fault
import TaskScheduling.Time

/-!
# Worker pools

A bounded set of reusable workers.  Idle workers lie on a stack, so that the one used last is used first and the others
grow old.  The pool does not pick tasks: it is asked for a worker, and answers by the priority of the task.

`size` counts the workers and the places promised to workers that are about to be started (`Acquire.grow`).

* `size_acquire_le`: asking for a worker never takes the pool beyond its bound.
* `acquire_stopping`: a pool that is stopping gives out nothing.
-/

namespace TaskScheduling

structure Worker where
  id : Nat
  nextTask : Option TaskId
  /-- A wake-up that the worker has not used yet. -/
  woken : Bool
  interrupted : Bool
  /-- Told to leave as soon as it has nothing to do. -/
  dismissed : Bool
  deriving DecidableEq, Repr

namespace Worker

def fresh (id : Nat) : Worker := ⟨id, none, false, false, false⟩

def wake (w : Worker) : Worker := { w with woken := true }

def dismiss (w : Worker) : Worker := { w with dismissed := true }.wake

end Worker

structure Pool where
  workers : List Worker
  /-- Idle workers, the last used one first. -/
  idle : List Nat
  size : Nat
  nextId : Nat
  stopping : Bool
  maxSize : Nat
  /-- How long a worker stays idle, in milliseconds. -/
  keepAlive : Nat
  deriving DecidableEq, Repr

/-- What the pool offers for a task. -/
inductive Acquire where
  /-- An idle worker, now reserved. -/
  | idle (worker : Nat)
  /-- A place for a worker that is to be started. -/
  | grow
  /-- Nothing yet; at this time there may be a place. -/
  | waitUntil (time : Nat)
  /-- Nothing until a worker becomes free. -/
  | wait
  deriving DecidableEq, Repr

namespace Pool

/-- A pool without workers; its bound is at least one. -/
def start (maxSize : Nat) (keepAlive : Duration) : Pool where
  workers := []
  idle := []
  size := 0
  nextId := 0
  stopping := false
  maxSize := max maxSize 1
  keepAlive := keepAlive.millis

instance : Inhabited Pool := ⟨start 1 .zero⟩

def worker? (p : Pool) (id : Nat) : Option Worker := p.workers.find? (·.id == id)

def isRegistered (p : Pool) (id : Nat) : Bool := (p.worker? id).isSome

def modifyWorker (p : Pool) (id : Nat) (f : Worker → Worker) : Pool :=
  { p with workers := p.workers.map fun w => if w.id = id then f w else w }

def modifyWorkers (p : Pool) (ids : List Nat) (f : Worker → Worker) : Pool :=
  { p with workers := p.workers.map fun w => if w.id ∈ ids then f w else w }

/-- Whether there is room for one more worker. -/
def canGrow (p : Pool) : Bool := p.size < p.maxSize

/-- What is wrong with striking a worker off: one that was entered in no promised place has none to give back. -/
def removalFault? (p : Pool) (id : Nat) : Option Fault :=
  if p.isRegistered id && p.size == 0 then some .unpromisedPlace else none

/-- Strikes a worker off; the place of one that is not registered has been given back already.  A worker that has no
place to give back leaves the idle stack as it is. -/
def removeWorker (p : Pool) (id : Nat) : Pool :=
  { p with
    size := if p.isRegistered id then p.size - 1 else p.size
    workers := p.workers.filter (·.id ≠ id)
    idle := if (p.removalFault? id).isSome then p.idle else p.idle.filter (· ≠ id) }

/-! ### Requests of a dispatcher -/

/-- Whether a task that has been due since `dueSince` may add a worker to a pool without idle ones.  High work may at
once, low work after it has waited `lowWait`, and starvable work only if there is no worker at all. -/
def growth (p : Pool) (priority : Priority) (dueSince now lowWait : Nat) : Acquire :=
  if !p.canGrow then .wait
  else
    match priority with
    | .high => .grow
    | .low =>
      let deadline := Time.plus dueSince lowWait
      if now < deadline then .waitUntil deadline else .grow
    | .starvable => if p.size = 0 then .grow else .wait

/-- Asks for a worker, and reserves the worker or the place that is answered. -/
def acquire (p : Pool) (priority : Priority) (dueSince now lowWait : Nat) : Pool × Acquire :=
  if p.stopping then (p, .wait)
  else
    match p.idle with
    | id :: rest => ({ p with idle := rest }, .idle id)
    | [] =>
      match p.growth priority dueSince now lowWait with
      | .grow => ({ p with size := p.size + 1 }, .grow)
      | answer => (p, answer)

/-- Enters a new worker in a place that was promised; its thread is still to be started. -/
def register (p : Pool) : Pool × Nat :=
  ({ p with workers := p.workers ++ [.fresh p.nextId], nextId := p.nextId + 1 }, p.nextId)

/-- Gives a reserved worker a task, unless the worker has left. -/
def hand (p : Pool) (id : Nat) (task : TaskId) : Pool × Bool :=
  if p.isRegistered id then (p.modifyWorker id fun w => { w with nextTask := some task }.wake, true) else (p, false)

/-- Gives back a reserved worker that got no task. -/
def releaseUnused (p : Pool) (id : Nat) : Pool :=
  let p := p.modifyWorker id Worker.wake
  if p.isRegistered id && !p.stopping then { p with idle := id :: p.idle } else p

/-! ### Requests of an owner -/

def interruptAll (p : Pool) : Pool :=
  { p with workers := p.workers.map fun w => { w with interrupted := true }.wake }

/-- Sends the idle workers away; the others leave when they have finished their tasks. -/
def stop (p : Pool) : Pool :=
  { p.modifyWorkers p.idle Worker.dismiss with idle := [], stopping := true }

/-- Changes the bound, which is at least one.  As many idle workers are told to leave as there are too many. -/
def setMaxSize (p : Pool) (maxSize : Nat) : Pool :=
  let bound := max maxSize 1
  { p.modifyWorkers (p.idle.take (p.size - bound)) Worker.dismiss with maxSize := bound }

def setKeepAlive (p : Pool) (keepAlive : Duration) : Pool := { p with keepAlive := keepAlive.millis }

/-- Whether the pool was stopped and the last worker has left. -/
def isTerminated (p : Pool) : Bool := p.stopping && p.size == 0

/-! ### Requests of a worker -/

/-- Takes the task that the worker was given. -/
def takeTask (p : Pool) (id : Nat) : Pool × Option TaskId :=
  match (p.worker? id).bind Worker.nextTask with
  | some task => (p.modifyWorker id fun w => { w with nextTask := none }, some task)
  | none => (p, none)

def isWoken (p : Pool) (id : Nat) : Bool := (p.worker? id).any Worker.woken

def isDismissed (p : Pool) (id : Nat) : Bool := (p.worker? id).any Worker.dismissed

def isInterrupted (p : Pool) (id : Nat) : Bool := (p.worker? id).any Worker.interrupted

/-- Puts a worker that has finished its task on the idle stack, or strikes it off if it is to leave. -/
def release (p : Pool) (id : Nat) : Pool × Bool :=
  if p.stopping || p.isDismissed id || p.size > p.maxSize then (p.removeWorker id, false)
  else ({ p with idle := id :: p.idle }, true)

/-- Strikes off a worker that has been idle too long or was told to leave, unless it is reserved. -/
def retire (p : Pool) (id : Nat) : Pool × Bool :=
  let leaving := p.stopping || p.isDismissed id
  let holding := (p.worker? id).any (·.nextTask.isSome)
  if id ∈ p.idle ∨ (leaving ∧ ¬holding) then (p.removeWorker id, true) else (p, false)

/-! ### The bound -/

theorem acquire_stopping {p : Pool} (h : p.stopping = true) (priority : Priority) (dueSince now lowWait : Nat) :
    p.acquire priority dueSince now lowWait = (p, .wait) := by simp [acquire, h]

theorem growth_eq_grow {p : Pool} {priority : Priority} {dueSince now lowWait : Nat}
    (h : p.growth priority dueSince now lowWait = .grow) : p.size < p.maxSize := by
  unfold growth canGrow at h
  by_cases hroom : p.size < p.maxSize
  · exact hroom
  · simp [hroom] at h

theorem size_acquire_le {p : Pool} (h : p.size ≤ p.maxSize) (priority : Priority) (dueSince now lowWait : Nat) :
    (p.acquire priority dueSince now lowWait).1.size ≤ p.maxSize := by
  unfold acquire
  split
  · exact h
  · split
    · exact h
    · split
      · rename_i hgrow
        exact growth_eq_grow hgrow
      · exact h

end Pool

end TaskScheduling
