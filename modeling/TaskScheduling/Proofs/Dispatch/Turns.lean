import TaskScheduling.Proofs.Dispatch.System

/-!
# Systems that take turns

A run of a system can be written down by naming, turn by turn, whose single step is next.  A turn that cannot be taken
is skipped, so that whatever is written down is a run (`System.Reachable.follow`).
-/

namespace TaskScheduling

/-- Whose single step is next; the clock stands still. -/
inductive Turn where
  | submit (i : Nat) (r : Request)
  | cancel (i : Nat) (id : TaskId)
  | shutDown (i : Nat) (mode : ShutdownMode)
  | client (i : Nat)
  | dispatcher
  /-- A worker goes on; an action ends as soon as it has begun. -/
  | worker (k : Nat)
  | setMaxPoolSize (n : Nat)

/-- The client whose turn it is. -/
def Turn.client? : Turn → Option Nat
  | submit i _ | cancel i _ | shutDown i _ | client i => some i
  | _ => none

namespace System

def takeTurn (s : System) : Turn → System
  | .submit i r => if (s.clients i).isFree then s.withClient i (.submitting r .checking) else s
  | .cancel i id => if (s.clients i).isFree then s.withClient i (.cancelling id .looking) else s
  | .shutDown i mode => if (s.clients i).isFree then s.withClient i (.shutting (.raising mode)) else s
  | .client i => s.stepClient i
  | .dispatcher => s.dispatcher.elim s fun d => s.stepDispatcher d 0
  | .worker k =>
    match s.threads k with
    | some (.acting phase) => s.stepWorker k phase 0
    | some (.executing id .running) => s.withThread k (.executing id (Execution.running.finish none))
    | some (.executing id e) => s.stepExecution k id e none
    | none => s
  | .setMaxPoolSize n => s.withScheduler (s.scheduler.setMaxPoolSize n)

def follow (s : System) (turns : List Turn) : System := turns.foldl takeTurn s

/-- Whoever takes a turn takes a step, or does nothing.  The dispatcher leaves in its turn only if the queues are empty. -/
theorem takeTurn_cases (s : System) (turn : Turn) : s.takeTurn turn = s ∨ Step s (s.takeTurn turn) ∧
    (s.dispatcher = some .leaveTaking → (s.takeTurn turn).dispatcher = some .stopping → s.backlog.isEmpty = true) := by
  have hstays {s' : System} (hsame : s'.dispatcher = s.dispatcher) :
      s.dispatcher = some .leaveTaking → s'.dispatcher = some .stopping → s.backlog.isEmpty = true := by
    intro hd hd'
    rw [hsame, hd] at hd'
    cases hd'
  cases turn with
  | submit i r =>
    simp only [takeTurn]
    split
    · exact .inr ⟨.submit i r ‹_›, hstays rfl⟩
    · exact .inl rfl
  | cancel i id =>
    simp only [takeTurn]
    split
    · exact .inr ⟨.cancel i id ‹_›, hstays rfl⟩
    · exact .inl rfl
  | shutDown i mode =>
    simp only [takeTurn]
    split
    · exact .inr ⟨.shutDown i mode ‹_›, hstays rfl⟩
    · exact .inl rfl
  | client i =>
    exact .inr ⟨.client i, fun hd => hstays ((dispatcher_stepClient hd i).trans hd.symm) hd⟩
  | dispatcher =>
    simp only [takeTurn]
    cases hd : s.dispatcher with
    | none => exact .inl rfl
    | some d =>
      refine .inr ⟨.dispatcher d 0 hd, fun hleave hstop => ?_⟩
      cases hleave
      have hnext : (if s.scheduler.isShutdown && s.backlog.isEmpty then Dispatcher.stopping else .picking) = .stopping :=
        Option.some.inj hstop
      split at hnext
      · next hfound => exact (Bool.and_eq_true_iff.1 hfound).2
      · cases hnext
  | worker k =>
    simp only [takeTurn]
    split
    · exact .inr ⟨.worker k _ 0 ‹_›, hstays rfl⟩
    · exact .inr ⟨.finish k _ none ‹_›, hstays rfl⟩
    · exact .inr ⟨.execution k _ _ none ‹_›, hstays rfl⟩
    · exact .inl rfl
  | setMaxPoolSize n => exact .inr ⟨.setMaxPoolSize n, hstays rfl⟩

theorem Reachable.takeTurn {s : System} (h : Reachable s) (turn : Turn) : Reachable (s.takeTurn turn) := by
  rcases s.takeTurn_cases turn with hsame | ⟨hstep, -⟩
  · rwa [hsame]
  · exact h.step hstep

theorem Reachable.follow {s : System} (h : Reachable s) (turns : List Turn) : Reachable (s.follow turns) := by
  induction turns generalizing s with
  | nil => exact h
  | cons turn turns ih => exact ih (h.takeTurn turn)

theorem clients_takeTurn_of_ne {s : System} {turn : Turn} {i : Nat} (h : turn.client? ≠ some i) :
    (s.takeTurn turn).clients i = s.clients i := by
  have hne {j : Nat} (hj : some j ≠ some i) : i ≠ j := fun hij => hj (by rw [hij])
  cases turn with
  | submit j r =>
    simp only [takeTurn]
    split
    · exact Function.update_of_ne (hne h) _ _
    · rfl
  | cancel j id =>
    simp only [takeTurn]
    split
    · exact Function.update_of_ne (hne h) _ _
    · rfl
  | shutDown j mode =>
    simp only [takeTurn]
    split
    · exact Function.update_of_ne (hne h) _ _
    · rfl
  | client j => exact Function.update_of_ne (hne h) _ _
  | dispatcher =>
    simp only [takeTurn]
    cases s.dispatcher <;> rfl
  | worker k =>
    simp only [takeTurn]
    split <;> rfl
  | setMaxPoolSize n => rfl

theorem clients_follow_of_ne {s : System} {turns : List Turn} {i : Nat} (h : ∀ turn ∈ turns, turn.client? ≠ some i) :
    (s.follow turns).clients i = s.clients i := by
  induction turns generalizing s with
  | nil => rfl
  | cons turn turns ih =>
    rw [follow, List.foldl_cons]
    exact (ih fun other hother => h other (List.mem_cons_of_mem _ hother)).trans
      (clients_takeTurn_of_ne (h turn List.mem_cons_self))

/-- Only the first clients take turns. -/
theorem clients_follow_of_le {s : System} {turns : List Turn} {n i : Nat}
    (h : turns.all (fun turn => turn.client?.all (· < n)) = true) (hi : n ≤ i) :
    (s.follow turns).clients i = s.clients i := by
  refine clients_follow_of_ne fun turn hturn hclient => ?_
  have hlt := List.all_eq_true.1 h turn hturn
  rw [hclient] at hlt
  exact absurd (of_decide_eq_true hlt) (Nat.not_lt.2 hi)

end System

end TaskScheduling
