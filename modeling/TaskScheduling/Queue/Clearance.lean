import TaskScheduling.Queue.Cancellation

/-!
# Cancelling in bulk

A clearance takes everything, or everything recurring, out of the queues, one queue after the other, and then marks
what it took as cancelled, one task after the other.  In between others may act, and a task that somebody else has
cancelled meanwhile is not counted again.

`Backlog.clear` is a clearance during which nothing else happens; `Clearance.advance_eq_clear` says that the single
steps add up to it.
-/

namespace TaskScheduling

/-- Which queued tasks a clearance takes. -/
inductive Scope where
  | everything
  | recurring
  deriving DecidableEq, Repr

namespace Scope

/-- The queues that hold such tasks, in the order in which they are emptied. -/
def queues : Scope → List QueueSlot
  | everything => Priority.all.flatMap fun p => [⟨p, .ready⟩, ⟨p, .future⟩]
  | recurring => Priority.all.map fun p => ⟨p, .future⟩

end Scope

namespace Backlog

/-- Takes the tasks in scope out of one queue. -/
def takeOut (b : Backlog) (scope : Scope) (slot : QueueSlot) : List TaskId × Backlog :=
  let s := b.queueSet slot.priority
  let (ids, s, tasks) :=
    match scope with
    | .everything => s.drainQueue b.tasks slot.kind
    | .recurring => s.drainRecurring b.tasks
  (ids, b.withQueueSet s tasks)

/-- Takes the tasks in scope out of several queues. -/
def takeOutAll (b : Backlog) (scope : Scope) : List QueueSlot → List TaskId × Backlog
  | [] => ([], b)
  | slot :: rest =>
    let (ids, b) := b.takeOut scope slot
    let (more, b) := b.takeOutAll scope rest
    (ids ++ more, b)

def drain (b : Backlog) (scope : Scope) : List TaskId × Backlog := b.takeOutAll scope scope.queues

/-- Cancels the pending ones among some tasks, and names them. -/
def markCancelled (b : Backlog) : List TaskId → Backlog × List TaskId
  | [] => (b, [])
  | id :: rest =>
    match b.transition id .pending .cancelled with
    | (b, true) => let (b, claimed) := b.markCancelled rest; (b, id :: claimed)
    | (b, false) => b.markCancelled rest

/-- Cancels everything in scope that is queued. -/
def clear (b : Backlog) (scope : Scope) : Backlog × List TaskId :=
  let (ids, b) := b.drain scope
  b.markCancelled ids

end Backlog

inductive Clearance where
  /-- Queues that are still to be emptied, and what came out of the others. -/
  | draining (left : List QueueSlot) (drained : List TaskId)
  /-- Tasks that are still to be marked, and those that this clearance has cancelled. -/
  | marking (left claimed : List TaskId)
  | ended (claimed : List TaskId)
  deriving DecidableEq, Repr

namespace Clearance

def begin (scope : Scope) : Clearance := draining scope.queues []

def step (scope : Scope) (b : Backlog) : Clearance → Backlog × Clearance
  | draining [] drained => (b, marking drained [])
  | draining (slot :: left) drained =>
    let (ids, b) := b.takeOut scope slot
    (b, draining left (drained ++ ids))
  | marking [] claimed => (b, ended claimed)
  | marking (id :: left) claimed =>
    match b.transition id .pending .cancelled with
    | (b, true) => (b, marking left (claimed ++ [id]))
    | (b, false) => (b, marking left claimed)
  | ended claimed => (b, ended claimed)

/-- Several steps with nothing in between. -/
def advance (scope : Scope) : Nat → Backlog × Clearance → Backlog × Clearance
  | 0, s => s
  | n + 1, (b, c) => advance scope n (c.step scope b)

theorem advance_succ (scope : Scope) (n : Nat) (b : Backlog) (c : Clearance) :
    advance scope (n + 1) (b, c) = advance scope n (c.step scope b) := rfl

private theorem advance_marking (scope : Scope) (left claimed : List TaskId) (b : Backlog) :
    advance scope (left.length + 1) (b, marking left claimed) =
      ((b.markCancelled left).1, ended (claimed ++ (b.markCancelled left).2)) := by
  induction left generalizing b claimed with
  | nil => simp [advance, step, Backlog.markCancelled]
  | cons id left ih =>
    rw [List.length_cons, advance_succ]
    unfold step Backlog.markCancelled
    rcases h : b.transition id .pending .cancelled with ⟨b', moved⟩
    cases moved <;> simp [ih, h]

private theorem advance_draining (scope : Scope) (left : List QueueSlot) (drained : List TaskId) (b : Backlog) :
    advance scope (left.length + 1) (b, draining left drained) =
      ((b.takeOutAll scope left).2, marking (drained ++ (b.takeOutAll scope left).1) []) := by
  induction left generalizing b drained with
  | nil => simp [advance, step, Backlog.takeOutAll]
  | cons slot left ih =>
    rw [List.length_cons, advance_succ]
    unfold step Backlog.takeOutAll
    simp [ih]

theorem advance_add (scope : Scope) (m n : Nat) (s : Backlog × Clearance) :
    advance scope (m + n) s = advance scope n (advance scope m s) := by
  induction m generalizing s with
  | zero => simp [advance]
  | succ m ih => rw [Nat.succ_add]; exact ih _

/-- A clearance that nothing interrupts ends as `Backlog.clear` says. -/
theorem advance_eq_clear (scope : Scope) (b : Backlog) :
    advance scope (scope.queues.length + 1 + ((b.drain scope).1.length + 1)) (b, begin scope) =
      ((b.clear scope).1, ended (b.clear scope).2) := by
  rw [advance_add, begin, advance_draining]
  simp only [List.nil_append]
  rw [show (b.takeOutAll scope scope.queues) = b.drain scope from rfl, advance_marking]
  simp [Backlog.clear]

theorem advance_ended (scope : Scope) (n : Nat) (b : Backlog) (claimed : List TaskId) :
    advance scope n (b, ended claimed) = (b, ended claimed) := by
  induction n with
  | zero => rfl
  | succ n ih => exact ih

/-- A clearance that has ended with nothing in between has done what `Backlog.clear` does. -/
theorem eq_clear_of_ended {scope : Scope} {n : Nat} {b c : Backlog} {claimed : List TaskId}
    (h : advance scope n (b, begin scope) = (c, ended claimed)) : (c, claimed) = b.clear scope := by
  have hclear := advance_eq_clear scope b
  generalize scope.queues.length + 1 + ((b.drain scope).1.length + 1) = m at hclear
  rcases Nat.le_total n m with hle | hle <;> obtain ⟨k, rfl⟩ := Nat.exists_eq_add_of_le hle
  · rw [advance_add, h, advance_ended, Prod.mk.injEq, ended.injEq] at hclear
    exact Prod.ext hclear.1 hclear.2
  · rw [advance_add, hclear, advance_ended, Prod.mk.injEq, ended.injEq] at h
    exact Prod.ext h.1.symm h.2.symm

end Clearance

end TaskScheduling
