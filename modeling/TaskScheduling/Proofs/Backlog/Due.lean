import Mathlib.Data.Prod.Lex
import TaskScheduling.Proofs.Backlog.Turn

/-!
# What is due

A queued task is *eligible* at a time if it is in a ready queue or its run time has come.  Tasks are served in the order
of their dispatch keys: by priority, then by run time, a ready task before a future one, and at last in the order of
their latest insertions.

* `nextDue_eq_none_iff`: nothing is shown exactly when nothing is eligible.
* `dispatchKey_lt_of_nextDue`: where the queues are in turn, the eligible task with the least key is shown.
* `popDue_eq_nextDue`: what is taken out is what is shown.
-/

namespace TaskScheduling

namespace QueueKind

/-- Of tasks with the same run time, ready ones come first. -/
def rank : QueueKind → Nat
  | ready => 0
  | future => 1

end QueueKind

namespace Backlog

/-- Whether a task is queued and may run at `now`. -/
def Eligible (b : Backlog) (now : Nat) (id : TaskId) : Prop :=
  ∃ slot, id ∈ b.queue slot ∧ (slot.kind = .ready ∨ (b.task id).runAt ≤ now)

/-- Where a task stands among the tasks of its priority. -/
def turnKey (b : Backlog) (insertions : List TaskId) (id : TaskId) : ℕ ×ₗ ℕ ×ₗ ℕ :=
  toLex ((b.task id).runAt, toLex ((b.task id).queueKind.rank, latest insertions id))

/-- Where a task stands among the tasks of its priority, if the tasks of each queue are numbered by `stamp`. -/
def keyBy (b : Backlog) (stamp : TaskId → Nat) (id : TaskId) : ℕ ×ₗ ℕ ×ₗ ℕ :=
  toLex ((b.task id).runAt, toLex ((b.task id).queueKind.rank, stamp id))

/-- Every queue is in the order of run time, and for one and the same run time in the order of the numbers. -/
def OrderedBy (b : Backlog) (stamp : TaskId → Nat) : Prop :=
  ∀ slot, (b.queue slot).Pairwise fun x y => b.keyBy stamp x < b.keyBy stamp y

/-- Where a task stands among all tasks. -/
def dispatchKey (b : Backlog) (insertions : List TaskId) (id : TaskId) : ℕ ×ₗ ℕ ×ₗ ℕ ×ₗ ℕ :=
  toLex ((b.task id).priority.rank, b.turnKey insertions id)

variable {b : Backlog} {insertions : List TaskId} {p : Priority} {now : Nat} {id : TaskId}

theorem Eligible.mem_queued (h : b.Eligible now id) : id ∈ b.queued := by
  obtain ⟨slot, hmem, -⟩ := h
  exact mem_queued_iff.2 ⟨slot, hmem⟩

/-- An eligible task is the head of a queue or behind it. -/
theorem Kept.eligible_iff (h : b.Kept) :
    b.Eligible now id ↔ id ∈ b.queue (b.task id).home ∧ ((b.task id).queueKind = .ready ∨ (b.task id).runAt ≤ now) := by
  constructor
  · rintro ⟨slot, hmem, hdue⟩
    have hhome := h.task_home_of_mem hmem
    rw [← hhome] at hdue
    exact ⟨hhome ▸ hmem, hdue⟩
  · rintro ⟨hmem, hdue⟩
    exact ⟨_, hmem, hdue⟩

/-! ### One queue set -/

theorem peekDue_eq_none_iff (h : b.Kept) :
    (b.queueSet p).peekDue b.tasks now = none ↔ ∀ id, b.Eligible now id → (b.task id).priority ≠ p := by
  have hnone : (b.queueSet p).peekDue b.tasks now = none ↔
      b.queue ⟨p, .ready⟩ = [] ∧ ∀ id ∈ b.queue ⟨p, .future⟩, now < (b.task id).runAt := by
    have hf : (b.queueSet p).dueHead b.tasks now = none ↔ ∀ id ∈ b.queue ⟨p, .future⟩, now < (b.task id).runAt := by
      have horder := h.in_order p
      rw [show b.queue ⟨p, .future⟩ = (b.queueSet p).future from rfl] at horder ⊢
      unfold QueueSet.dueHead
      cases hq : (b.queueSet p).future with
      | nil => simp
      | cons f rest =>
        rw [hq] at horder
        -- the queue is in order, so its head tells about all of it
        have hhead := (List.pairwise_cons.1 horder).1
        simp only [List.head?_cons, Option.filter_eq_none_iff, Option.some.injEq, forall_eq', decide_eq_true_eq,
          Nat.not_le, List.mem_cons, forall_eq_or_imp]
        exact ⟨fun hlt => ⟨hlt, fun x hx => hlt.trans_le (hhead x hx)⟩, fun hlt => hlt.1⟩
    rw [← hf, show b.queue ⟨p, .ready⟩ = (b.queueSet p).ready from rfl]
    unfold QueueSet.peekDue
    cases (b.queueSet p).ready <;> cases (b.queueSet p).dueHead b.tasks now <;> simp
    split <;> simp
  rw [hnone]
  constructor
  · rintro ⟨hready, hfuture⟩ id hid hp
    obtain ⟨hmem, hdue⟩ := h.eligible_iff.1 hid
    rw [Task.home, hp] at hmem
    cases hk : (b.task id).queueKind with
    | ready => rw [hk, hready] at hmem; cases hmem
    | future =>
      rw [hk] at hmem hdue
      have hlt := hfuture id hmem
      rcases hdue with hdue | hdue
      · cases hdue
      · omega
  · intro hnot
    refine ⟨List.eq_nil_iff_forall_not_mem.2 fun id hid => ?_, fun id hid => ?_⟩
    · exact hnot id ⟨_, hid, .inl rfl⟩ (congrArg QueueSlot.priority (h.task_home_of_mem hid))
    · by_contra hle
      exact hnot id ⟨_, hid, .inr (by omega)⟩ (congrArg QueueSlot.priority (h.task_home_of_mem hid))

theorem eligible_of_peekDue (h : b.Kept) (hpeek : (b.queueSet p).peekDue b.tasks now = some id) :
    b.Eligible now id ∧ (b.task id).priority = p := by
  have hmem : (∃ r, (b.queueSet p).ready.head? = some r ∧ id = r) ∨ (b.queueSet p).dueHead b.tasks now = some id := by
    unfold QueueSet.peekDue at hpeek
    split at hpeek
    · next r f hr hf =>
      split at hpeek
      · cases hpeek; exact .inr hf
      · cases hpeek; exact .inl ⟨_, hr, rfl⟩
    · next r hr _ => cases hpeek; exact .inl ⟨_, hr, rfl⟩
    · exact .inr hpeek
  rcases hmem with ⟨r, hr, rfl⟩ | hf
  · have hid : id ∈ b.queue ⟨p, .ready⟩ := List.mem_of_mem_head? hr
    exact ⟨⟨_, hid, .inl rfl⟩, congrArg QueueSlot.priority (h.task_home_of_mem hid)⟩
  · obtain ⟨hid, hdue⟩ := QueueSet.dueHead_mem hf
    have hid : id ∈ b.queue ⟨p, .future⟩ := hid
    exact ⟨⟨_, hid, .inr hdue⟩, congrArg QueueSlot.priority (h.task_home_of_mem hid)⟩

theorem keyBy_lt_iff {stamp : TaskId → Nat} {x y : TaskId} :
    b.keyBy stamp x < b.keyBy stamp y ↔
      (b.task x).runAt < (b.task y).runAt ∨ (b.task x).runAt = (b.task y).runAt ∧
        ((b.task x).queueKind.rank < (b.task y).queueKind.rank ∨
          (b.task x).queueKind.rank = (b.task y).queueKind.rank ∧ stamp x < stamp y) := by
  simp only [keyBy, Prod.Lex.toLex_lt_toLex]

/-- Within a queue it is the run time that counts, and then the number. -/
theorem Kept.keyBy_lt_iff (h : b.Kept) {stamp : TaskId → Nat} {slot : QueueSlot} {x y : TaskId} (hx : x ∈ b.queue slot)
    (hy : y ∈ b.queue slot) :
    b.keyBy stamp x < b.keyBy stamp y ↔
      (b.task x).runAt < (b.task y).runAt ∨ (b.task x).runAt = (b.task y).runAt ∧ stamp x < stamp y := by
  have hkind {z : TaskId} (hz : z ∈ b.queue slot) : (b.task z).queueKind = slot.kind :=
    congrArg QueueSlot.kind (h.task_home_of_mem hz)
  rw [Backlog.keyBy_lt_iff, hkind hx, hkind hy]
  omega

/-- Queues in turn are in the order of the latest insertions. -/
theorem InTurn.orderedBy (hturn : b.InTurn insertions) (h : b.Kept) : b.OrderedBy (latest insertions) := by
  rintro ⟨p, _ | _⟩
  · refine (hturn.ready p).imp_of_mem fun {x y} hx hy hxy => ?_
    rw [h.keyBy_lt_iff hx hy]
    omega
  · exact (hturn.future p).imp_of_mem fun {x y} hx hy hxy => (h.keyBy_lt_iff hx hy).2 hxy

/-- The head of a queue comes before everything behind it. -/
private theorem keyBy_lt_of_head {stamp : TaskId → Nat} (horder : b.OrderedBy stamp) (kind : QueueKind) {x y : TaskId}
    (hx : (b.queue ⟨p, kind⟩).head? = some x) (hy : y ∈ b.queue ⟨p, kind⟩) (hne : y ≠ x) :
    b.keyBy stamp x < b.keyBy stamp y := by
  obtain ⟨rest, hq⟩ := List.head?_eq_some_iff.1 hx
  have hpair := horder ⟨p, kind⟩
  rw [hq] at hpair hy
  exact (List.pairwise_cons.1 hpair).1 y ((List.mem_cons.1 hy).resolve_left hne)

/-- A queue set shows the first of its eligible tasks. -/
theorem keyBy_lt_of_peekDue (h : b.Kept) {stamp : TaskId → Nat} (horder : b.OrderedBy stamp)
    (hpeek : (b.queueSet p).peekDue b.tasks now = some id) {j : TaskId} (hj : b.Eligible now j)
    (hp : (b.task j).priority = p) (hne : j ≠ id) : b.keyBy stamp id < b.keyBy stamp j := by
  obtain ⟨hmem, hdue⟩ := h.eligible_iff.1 hj
  rw [Task.home, hp] at hmem
  -- the two heads between which the choice is made, each first in its own queue
  have hready {r : TaskId} (hr : (b.queueSet p).ready.head? = some r) (hk : (b.task j).queueKind = .ready)
      (hrj : j ≠ r) : b.keyBy stamp r < b.keyBy stamp j :=
    keyBy_lt_of_head horder .ready hr (hk ▸ hmem) hrj
  have hfuture {f : TaskId} (hf : (b.queueSet p).dueHead b.tasks now = some f) (hk : (b.task j).queueKind = .future)
      (hfj : j ≠ f) : b.keyBy stamp f < b.keyBy stamp j :=
    keyBy_lt_of_head horder .future (Option.filter_eq_some_iff.1 hf).1 (hk ▸ hmem) hfj
  have hkind (kind : QueueKind) {x : TaskId} (hx : (b.queue ⟨p, kind⟩).head? = some x) :
      (b.task x).queueKind = kind := congrArg QueueSlot.kind (h.task_home_of_mem (List.mem_of_mem_head? hx))
  have hrest : (b.queueSet p).dueHead b.tasks now = none → (b.task j).queueKind = .ready := by
    intro hf
    by_contra hk
    have hk : (b.task j).queueKind = .future := by cases hq : (b.task j).queueKind <;> simp_all
    rw [hk] at hmem hdue
    have hle : (b.task j).runAt ≤ now := hdue.resolve_left (by simp)
    have hq : j ∈ (b.queueSet p).future := hmem
    cases hfut : (b.queueSet p).future with
    | nil => rw [hfut] at hq; cases hq
    | cons f rest =>
      have horder := h.in_order p
      rw [show b.queue ⟨p, .future⟩ = (b.queueSet p).future from rfl, hfut] at horder
      rw [hfut] at hq
      have hfle : (b.task f).runAt ≤ (b.task j).runAt := by
        rcases List.mem_cons.1 hq with rfl | hq
        · exact Nat.le_refl _
        · exact (List.pairwise_cons.1 horder).1 j hq
      simp only [QueueSet.dueHead, hfut, List.head?_cons, Option.filter_eq_none_iff, Option.some.injEq, forall_eq',
        decide_eq_true_eq] at hf
      exact hf (hfle.trans hle)
  unfold QueueSet.peekDue at hpeek
  split at hpeek
  · next r f hr hf =>
    have hfhead : (b.queue ⟨p, .future⟩).head? = some f := (Option.filter_eq_some_iff.1 hf).1
    have hrk := hkind .ready hr
    have hfk := hkind .future hfhead
    split at hpeek
    · next hlt =>
      have hlt : (b.task f).runAt < (b.task r).runAt := hlt
      obtain rfl := Option.some.inj hpeek
      cases hk : (b.task j).queueKind with
      | future => exact hfuture hf hk hne
      | ready =>
        by_cases hjr : j = r
        · subst hjr
          exact keyBy_lt_iff.2 (.inl hlt)
        · have := keyBy_lt_iff.1 (hready hr hk hjr)
          exact keyBy_lt_iff.2 (.inl (by omega))
    · next hle =>
      have hle : ¬(b.task f).runAt < (b.task r).runAt := hle
      obtain rfl := Option.some.inj hpeek
      cases hk : (b.task j).queueKind with
      | ready => exact hready hr hk hne
      | future =>
        rw [keyBy_lt_iff, hrk, hk]
        by_cases hjf : j = f
        · subst hjf
          simp only [QueueKind.rank]
          omega
        · have := keyBy_lt_iff.1 (hfuture hf hk hjf)
          rw [hfk, hk] at this
          simp only [QueueKind.rank] at this ⊢
          omega
  · next r hr hf =>
    obtain rfl := Option.some.inj hpeek
    exact hready hr (hrest hf) hne
  · next hr =>
    cases hk : (b.task j).queueKind with
    | future => exact hfuture hpeek hk hne
    | ready =>
      rw [hk] at hmem
      have hq : j ∈ (b.queueSet p).ready := hmem
      rw [List.head?_eq_none_iff.1 hr] at hq
      cases hq

/-! ### All queue sets -/

theorem nextDue_eq_none_iff (h : b.Kept) (lowWait : Option Nat) :
    b.nextDue now lowWait = none ↔ ∀ id, ¬b.Eligible now id := by
  have hnone : b.nextDue now lowWait = none ↔ ∀ p, (b.queueSet p).peekDue b.tasks now = none := by
    have hall : (∀ p, (b.queueSet p).peekDue b.tasks now = none) ↔
        b.high.peekDue b.tasks now = none ∧ b.low.peekDue b.tasks now = none ∧
          b.starvable.peekDue b.tasks now = none :=
      ⟨fun hp => ⟨hp .high, hp .low, hp .starvable⟩, fun hp q => by
        cases q
        · exact hp.1
        · exact hp.2.1
        · exact hp.2.2⟩
    rw [hall]
    unfold nextDue
    cases b.high.peekDue b.tasks now <;> cases b.low.peekDue b.tasks now <;> cases lowWait <;> simp
    split <;> simp
  rw [hnone]
  constructor
  · intro hp id hid
    exact (peekDue_eq_none_iff h).1 (hp _) id hid rfl
  · intro hnot p
    exact (peekDue_eq_none_iff h).2 fun id hid => absurd hid (hnot id)

/-- What is shown is shown by the set of its priority. -/
theorem peekDue_of_nextDue {lowWait : Option Nat} (hnext : b.nextDue now lowWait = some id) :
    ∃ p, (b.queueSet p).peekDue b.tasks now = some id := by
  unfold nextDue at hnext
  split at hnext
  · next hh hl =>
    split at hnext
    · split at hnext
      · cases hnext; exact ⟨.low, hl⟩
      · cases hnext; exact ⟨.high, hh⟩
    · cases hnext; exact ⟨.high, hh⟩
  · next hh _ => cases hnext; exact ⟨.high, hh⟩
  · next _ hl => cases hnext; exact ⟨.low, hl⟩
  · exact ⟨.starvable, hnext⟩

theorem eligible_of_nextDue (h : b.Kept) {lowWait : Option Nat} (hnext : b.nextDue now lowWait = some id) :
    b.Eligible now id := by
  obtain ⟨p, hp⟩ := peekDue_of_nextDue hnext
  exact (eligible_of_peekDue h hp).1

/-- Starvable work is shown only when nothing else is eligible. -/
theorem priority_of_nextDue (h : b.Kept) {lowWait : Option Nat} (hnext : b.nextDue now lowWait = some id)
    (hid : (b.task id).priority = .starvable) {j : TaskId} (hj : b.Eligible now j) :
    (b.task j).priority = .starvable := by
  have hother {q : Priority} (hq : q ≠ .starvable) : (b.queueSet q).peekDue b.tasks now ≠ some id := fun hpeek =>
    hq ((eligible_of_peekDue h hpeek).2.symm.trans hid)
  have hhigh : (b.queueSet .high).peekDue b.tasks now ≠ some id := hother (by decide)
  have hlow : (b.queueSet .low).peekDue b.tasks now ≠ some id := hother (by decide)
  -- either of the other sets would have been shown instead
  have hnone : (b.queueSet .high).peekDue b.tasks now = none ∧ (b.queueSet .low).peekDue b.tasks now = none := by
    simp only [queueSet] at hhigh hlow ⊢
    unfold nextDue at hnext
    split at hnext
    · next hh hl =>
      rw [hh] at hhigh
      rw [hl] at hlow
      split at hnext
      · split at hnext
        · exact absurd hnext hlow
        · exact absurd hnext hhigh
      · exact absurd hnext hhigh
    · next hh _ => exact absurd (hh.trans hnext) hhigh
    · next _ hl => exact absurd (hl.trans hnext) hlow
    · next hh hl => exact ⟨hh, hl⟩
  cases hp : (b.task j).priority with
  | high => exact absurd hp ((peekDue_eq_none_iff h).1 hnone.1 j hj)
  | low => exact absurd hp ((peekDue_eq_none_iff h).1 hnone.2 j hj)
  | starvable => rfl

/-- Low work is shown when no high work is eligible, or when it has waited long enough. -/
theorem peekDue_of_nextDue_low (h : b.Kept) {wait : Nat} (hnext : b.nextDue now (some wait) = some id)
    (hid : (b.task id).priority = .low) :
    (b.queueSet .low).peekDue b.tasks now = some id ∧
      ∀ j, (b.queueSet .high).peekDue b.tasks now = some j → Time.plus (b.task id).runAt wait < (b.task j).runAt := by
  have hother {q : Priority} (hq : q ≠ .low) : (b.queueSet q).peekDue b.tasks now ≠ some id := fun hpeek =>
    hq ((eligible_of_peekDue h hpeek).2.symm.trans hid)
  have hhigh : (b.queueSet .high).peekDue b.tasks now ≠ some id := hother (by decide)
  have hstarvable : (b.queueSet .starvable).peekDue b.tasks now ≠ some id := hother (by decide)
  simp only [queueSet] at hhigh hstarvable ⊢
  unfold nextDue at hnext
  split at hnext
  · next hh hl =>
    split at hnext
    -- both are due, and the low one has waited long enough or not
    · next hwait =>
      cases hwait
      split at hnext
      · next hlt =>
        cases hnext
        refine ⟨hl, fun j hj => ?_⟩
        rw [hh] at hj
        cases hj
        exact hlt
      · exact absurd (hh.trans hnext) hhigh
    · exact absurd (hh.trans hnext) hhigh
  · next hh _ => exact absurd (hh.trans hnext) hhigh
  · next hh hl =>
    refine ⟨hl.trans hnext, fun j hj => ?_⟩
    rw [hh] at hj
    cases hj
  · exact absurd hnext hstarvable

/-- Without a threshold for low work, the sets are asked in the order of their priorities. -/
theorem nextDue_eq_findSome? (b : Backlog) (now : Nat) :
    b.nextDue now none = Priority.all.findSome? fun p => (b.queueSet p).peekDue b.tasks now := by
  simp only [nextDue, Priority.all, List.findSome?_cons, List.findSome?_nil, queueSet]
  cases b.high.peekDue b.tasks now <;> cases b.low.peekDue b.tasks now <;>
    cases b.starvable.peekDue b.tasks now <;> rfl

/-- The task shown is the eligible one with the least dispatch key. -/
theorem dispatchKey_lt_of_nextDue (h : b.Kept) (hturn : b.InTurn insertions) (hnext : b.nextDue now none = some id)
    {j : TaskId} (hj : b.Eligible now j) (hne : j ≠ id) : b.dispatchKey insertions id < b.dispatchKey insertions j := by
  obtain ⟨p, hp⟩ := peekDue_of_nextDue hnext
  have hid := (eligible_of_peekDue h hp).2
  rw [dispatchKey, dispatchKey, Prod.Lex.toLex_lt_toLex]
  by_cases hpj : (b.task j).priority = p
  · refine .inr ⟨by rw [hid, hpj], keyBy_lt_of_peekDue h (hturn.orderedBy h) hp hj hpj hne⟩
  · -- a set of a more urgent priority would have been asked before and would have shown something
    refine .inl ?_
    rw [hid]
    by_contra hle
    have hlt : (b.task j).priority.rank < p.rank := by
      have hrank : (b.task j).priority.rank ≠ p.rank := fun heq => hpj (Priority.rank_injective heq)
      omega
    have hsome : (b.queueSet (b.task j).priority).peekDue b.tasks now ≠ none := fun hnone =>
      (peekDue_eq_none_iff h).1 hnone j hj rfl
    have hother {q : Priority} (hq : q ≠ p) : (b.queueSet q).peekDue b.tasks now ≠ some id := fun hpeek =>
      hq ((eligible_of_peekDue h hpeek).2.symm.trans hid)
    rw [nextDue_eq_findSome?] at hnext
    simp only [Priority.all, List.findSome?_cons, List.findSome?_nil] at hnext
    generalize (b.task j).priority = q at hpj hlt hsome
    cases q <;> cases p <;> simp only [Priority.rank] at hlt <;> try omega
    all_goals
      have hhigh := hother (q := .high)
      have hlow := hother (q := .low)
      cases hh : (b.queueSet .high).peekDue b.tasks now <;> cases hl : (b.queueSet .low).peekDue b.tasks now <;>
        simp_all

/-! ### Taking out -/

/-- What a queue set shows it holds. -/
theorem remove_of_peekDue (h : b.Kept) (hpeek : (b.queueSet p).peekDue b.tasks now = some id) :
    (b.queueSet p).remove b.tasks id =
      ((b.queueSet p).erase id (b.task id).queueKind, b.tasks.setSlot id none, true) := by
  obtain ⟨helig, rfl⟩ := eligible_of_peekDue h hpeek
  have hmem := (h.eligible_iff.1 helig).1
  have hq : id ∈ (b.queueSet (b.task id).priority).queue (b.task id).queueKind := hmem
  unfold QueueSet.remove
  rw [show b.tasks.get id = b.task id from rfl, h.mem_queue_iff.1 hmem]
  simp only [Task.home, true_and, if_pos hq]

/-- A queue set takes out what it shows. -/
theorem popDue_queueSet (h : b.Kept) (p : Priority) (now : Nat) :
    ((b.queueSet p).popDue b.tasks now).map (fun found => (found.1, b.withQueueSet found.2.1 found.2.2)) =
      ((b.queueSet p).peekDue b.tasks now).map fun id => (id, b.unlink id (b.task id).home) := by
  unfold QueueSet.popDue
  cases hpeek : (b.queueSet p).peekDue b.tasks now with
  | none => rfl
  | some id =>
    simp only [remove_of_peekDue h hpeek, Option.map_some]
    obtain ⟨-, rfl⟩ := eligible_of_peekDue h hpeek
    rfl

theorem popDue_eq_nextDue (h : b.Kept) (now : Nat) :
    b.popDue now = (b.nextDue now none).map fun id => (id, b.unlink id (b.task id).home) := by
  rw [popDue_eq, nextDue_eq_findSome?]
  simp only [popDue_queueSet h, Priority.all, List.findSome?_cons, List.findSome?_nil]
  cases (b.queueSet .high).peekDue b.tasks now <;> cases (b.queueSet .low).peekDue b.tasks now <;>
    cases (b.queueSet .starvable).peekDue b.tasks now <;> rfl

end Backlog

end TaskScheduling
