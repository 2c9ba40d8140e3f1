/-!
# Threads that take turns

A machine has numbered threads, of which one at a time takes a step.  Time passes only when none of them can: then it
moves on to the first time at which one can again.  The threads take turns, except that a `patient` main thread, number
0, goes on only when all others are waiting.
-/

namespace TaskScheduling.Simulation

structure Machine (σ : Type) where
  threads : σ → Nat
  canStep : σ → Nat → Bool
  step : σ → Nat → σ
  /-- When a waiting thread goes on by itself. -/
  deadline : σ → Nat → Option Nat
  /-- Moves time on. -/
  elapse : σ → Nat → σ
  patient : Bool

namespace Machine

variable {σ : Type}

/-- The thread that takes the next step after thread `last`. -/
def next (m : Machine σ) (s : σ) (last : Nat) : Option Nat :=
  let n := m.threads s
  let order := (List.range n).map fun i => (last + 1 + i) % n
  let order := if m.patient then order.filter (· ≠ 0) ++ [0] else order
  order.find? (m.canStep s)

/-- The first time at which a thread goes on by itself. -/
def firstDeadline (m : Machine σ) (s : σ) : Option Nat :=
  ((List.range (m.threads s)).filterMap (m.deadline s)).min?

/-- Runs the threads until `isOver` holds, nothing can happen any more, or `fuel` steps have been taken. -/
def run (m : Machine σ) (isOver : σ → Bool) : Nat → Nat → σ → σ
  | 0, _, s => s
  | fuel + 1, last, s =>
    if isOver s then s
    else
      match m.next s last with
      | some i => run m isOver fuel i (m.step s i)
      | none =>
        match m.firstDeadline s with
        | some t => run m isOver fuel last (m.elapse s t)
        | none => s

/-- More steps than any run takes that comes to an end. -/
def plenty : Nat := 100000000

end Machine

end TaskScheduling.Simulation
