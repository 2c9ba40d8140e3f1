import TaskScheduling.Proofs.Backlog.Kept

/-!
# The order of insertion

The insertions into the queues of a backlog are listed, the last one first; a recurring task is inserted again after
each of its runs.  `latest` is the number of the insertion with which a task came into its queue last, and `turns` the
tasks in the order of these numbers.

`Backlog.InTurn` says that every queue is in the order in which its tasks are served: by run time, and by the latest
insertion among tasks of the same run time.  Queueing a task at its place keeps this (`InTurn.place`), and so does
everything that only takes tasks out (`InTurn.of_sublist`).

* `queue_ready_eq`: a ready queue holds its tasks in the order of their latest insertions.
* `queue_future_eq`: a future queue is the stable sort of its tasks, in that order, by run time.
-/

namespace TaskScheduling

/-- The number of the latest insertion of a task, counted from 1; 0 if it was never inserted. -/
def latest : List TaskId → TaskId → Nat
  | [], _ => 0
  | x :: earlier, id => if x = id then earlier.length + 1 else latest earlier id

/-- The tasks in the order of their latest insertions: an insertion moves its task to the end. -/
def turns : List TaskId → List TaskId
  | [] => []
  | x :: earlier => (turns earlier).filter (· ≠ x) ++ [x]

theorem latest_le_length (insertions : List TaskId) (id : TaskId) : latest insertions id ≤ insertions.length := by
  induction insertions with
  | nil => exact Nat.le_refl 0
  | cons x earlier ih =>
    rw [latest, List.length_cons]
    split <;> omega

theorem latest_cons_self (earlier : List TaskId) (id : TaskId) : latest (id :: earlier) id = earlier.length + 1 := by
  simp [latest]

theorem latest_cons_of_ne (earlier : List TaskId) {x id : TaskId} (h : id ≠ x) :
    latest (x :: earlier) id = latest earlier id := by
  simp [latest, Ne.symm h]

/-- The task inserted last has the highest number. -/
theorem latest_lt_latest_cons (earlier : List TaskId) {x id : TaskId} (h : id ≠ x) :
    latest (x :: earlier) id < latest (x :: earlier) x := by
  have := latest_le_length earlier id
  rw [latest_cons_of_ne earlier h, latest_cons_self]
  omega

theorem mem_turns {insertions : List TaskId} {id : TaskId} : id ∈ turns insertions ↔ id ∈ insertions := by
  induction insertions with
  | nil => simp [turns]
  | cons x earlier ih =>
    simp only [turns, List.mem_append, List.mem_filter, ih, List.mem_cons, decide_eq_true_eq]
    by_cases h : id = x <;> simp [h]

theorem pairwise_turns (insertions : List TaskId) :
    (turns insertions).Pairwise fun x y => latest insertions x < latest insertions y := by
  induction insertions with
  | nil => exact List.Pairwise.nil
  | cons x earlier ih =>
    have hne {y : TaskId} (hy : y ∈ (turns earlier).filter (· ≠ x)) : y ≠ x := by
      simpa using (List.mem_filter.1 hy).2
    refine List.pairwise_append.2 ⟨?_, List.pairwise_singleton _ _, ?_⟩
    · refine (ih.filter _).imp_of_mem fun {y z} hy hz hlt => ?_
      rw [latest_cons_of_ne earlier (hne hy), latest_cons_of_ne earlier (hne hz)]
      exact hlt
    · intro y hy z hz
      rw [List.mem_singleton.1 hz]
      exact latest_lt_latest_cons earlier (hne hy)

/-! ### Lists that are determined by their order -/

/-- A list in the order of the latest insertions is the part of `turns` that it contains. -/
private theorem eq_filter_turns {insertions queue : List TaskId} (hmem : ∀ id ∈ queue, id ∈ insertions)
    (horder : queue.Pairwise fun x y => latest insertions x < latest insertions y) :
    queue = (turns insertions).filter (· ∈ queue) := by
  have hright := (pairwise_turns insertions).filter (· ∈ queue)
  have hnodup {l : List TaskId} (h : l.Pairwise fun x y => latest insertions x < latest insertions y) : l.Nodup :=
    h.imp fun {x y} hlt heq => by rw [heq] at hlt; exact Nat.lt_irrefl _ hlt
  refine List.Perm.eq_of_pairwise (fun x y _ _ hxy hyx => absurd hxy (by omega)) horder hright ?_
  rw [List.perm_ext_iff_of_nodup (hnodup horder) (hnodup hright)]
  intro id
  simp only [List.mem_filter, mem_turns, decide_eq_true_eq]
  exact ⟨fun h => ⟨hmem id h, h⟩, fun h => h.2⟩

/-- A stable sort keeps the order of the items with one and the same key. -/
private theorem filter_key_mergeSort {α : Type} (key : α → Nat) (items : List α) (k : Nat) :
    (items.mergeSort fun a b => key a ≤ key b).filter (key · = k) = items.filter (key · = k) := by
  have htrans : ∀ a b c : α, decide (key a ≤ key b) = true → decide (key b ≤ key c) = true →
      decide (key a ≤ key c) = true := by simp only [decide_eq_true_eq]; omega
  have htotal : ∀ a b : α, (decide (key a ≤ key b) || decide (key b ≤ key a)) = true := by
    simp only [Bool.or_eq_true, decide_eq_true_eq]; omega
  have hsame : (items.filter (key · = k)).Pairwise fun a b => decide (key a ≤ key b) = true := by
    refine List.pairwise_of_forall_mem_list fun a ha b hb => ?_
    have hka : key a = k := by simpa using (List.mem_filter.1 ha).2
    have hkb : key b = k := by simpa using (List.mem_filter.1 hb).2
    simp [hka, hkb]
  have hsub := (List.sublist_mergeSort htrans htotal hsame List.filter_sublist).filter (key · = k)
  rw [List.filter_filter] at hsub
  simp only [Bool.and_self] at hsub
  exact (hsub.eq_of_length ((List.mergeSort_perm items _).filter _).length_eq.symm).symm

private theorem mergeSort_pairwise {α : Type} (key : α → Nat) {stamp : α → Nat} {items : List α}
    (h : items.Pairwise fun a b => stamp a < stamp b) :
    (items.mergeSort fun a b => key a ≤ key b).Pairwise fun a b =>
      key a < key b ∨ key a = key b ∧ stamp a < stamp b := by
  have hkey : (items.mergeSort fun a b => key a ≤ key b).Pairwise fun a b => decide (key a ≤ key b) = true :=
    List.pairwise_mergeSort (fun a b c => by simp only [decide_eq_true_eq]; omega) (fun a b => by simp; omega) items
  rw [List.pairwise_iff_forall_sublist] at hkey ⊢
  intro a b hab
  have hle : key a ≤ key b := by simpa using hkey hab
  by_cases hlt : key a < key b
  · exact .inl hlt
  · have heq : key b = key a := by omega
    have hpair := hab.filter (key · = key a)
    rw [filter_key_mergeSort, List.filter_eq_self.2 (by simp [heq])] at hpair
    exact .inr ⟨heq.symm, List.pairwise_iff_forall_sublist.1 h (hpair.trans List.filter_sublist)⟩

namespace Backlog

/-- Every queue is in the order in which its tasks are served. -/
structure InTurn (b : Backlog) (insertions : List TaskId) : Prop where
  mem_insertions (slot : QueueSlot) : ∀ id ∈ b.queue slot, id ∈ insertions
  ready (p : Priority) : (b.queue ⟨p, .ready⟩).Pairwise fun x y =>
    (b.task x).runAt ≤ (b.task y).runAt ∧ latest insertions x < latest insertions y
  future (p : Priority) : (b.queue ⟨p, .future⟩).Pairwise fun x y =>
    (b.task x).runAt < (b.task y).runAt ∨
      (b.task x).runAt = (b.task y).runAt ∧ latest insertions x < latest insertions y

namespace InTurn

variable {b : Backlog} {insertions : List TaskId}

protected theorem empty : Backlog.empty.InTurn [] where
  mem_insertions slot id hid := by
    obtain ⟨p, k⟩ := slot
    cases p <;> cases k <;> cases hid
  ready p := by cases p <;> exact List.Pairwise.nil
  future p := by cases p <;> exact List.Pairwise.nil

/-- A ready queue holds its tasks in the order of their latest insertions. -/
theorem queue_ready_eq (h : b.InTurn insertions) (p : Priority) :
    b.queue ⟨p, .ready⟩ = (turns insertions).filter (· ∈ b.queue ⟨p, .ready⟩) :=
  eq_filter_turns (h.mem_insertions _) ((h.ready p).imp fun hxy => hxy.2)

/-- A future queue is the stable sort by run time of its tasks in the order of their latest insertions. -/
theorem queue_future_eq (h : b.InTurn insertions) (p : Priority) :
    b.queue ⟨p, .future⟩ = ((turns insertions).filter (· ∈ b.queue ⟨p, .future⟩)).mergeSort
      fun x y => (b.task x).runAt ≤ (b.task y).runAt := by
  have hright := mergeSort_pairwise (fun id => (b.task id).runAt)
    ((pairwise_turns insertions).filter (· ∈ b.queue ⟨p, .future⟩))
  have hirrefl {l : List TaskId} (hl : l.Pairwise fun x y => (b.task x).runAt < (b.task y).runAt ∨
      (b.task x).runAt = (b.task y).runAt ∧ latest insertions x < latest insertions y) : l.Nodup :=
    hl.imp fun {x y} hlt heq => by rw [heq] at hlt; omega
  refine List.Perm.eq_of_pairwise (fun x y _ _ hxy hyx => ?_) (h.future p) hright ?_
  · exact absurd hxy (by omega)
  · rw [List.perm_ext_iff_of_nodup (hirrefl (h.future p)) (hirrefl hright)]
    intro id
    simp only [List.mem_mergeSort, List.mem_filter, mem_turns, decide_eq_true_eq]
    exact ⟨fun hid => ⟨h.mem_insertions _ id hid, hid⟩, fun hid => hid.2⟩

/-- Taking tasks out keeps the rest in turn. -/
theorem of_sublist (h : b.InTurn insertions) {c : Backlog}
    (hsub : ∀ slot, (c.queue slot).Sublist (b.queue slot))
    (htime : ∀ slot, ∀ id ∈ c.queue slot, (c.task id).runAt = (b.task id).runAt) : c.InTurn insertions where
  mem_insertions slot id hid := h.mem_insertions slot id ((hsub slot).subset hid)
  ready p := by
    refine ((h.ready p).sublist (hsub _)).imp_of_mem fun {x y} hx hy hxy => ?_
    rw [htime _ x hx, htime _ y hy]
    exact hxy
  future p := by
    refine ((h.future p).sublist (hsub _)).imp_of_mem fun {x y} hx hy hxy => ?_
    rw [htime _ x hx, htime _ y hy]
    exact hxy

private theorem pairwise_insertByRunAt {tasks : Table} {id : TaskId} {queue earlier : List TaskId} (hid : id ∉ queue)
    (h : queue.Pairwise fun x y => (tasks.get x).runAt < (tasks.get y).runAt ∨
      (tasks.get x).runAt = (tasks.get y).runAt ∧ latest earlier x < latest earlier y) :
    (QueueSet.insertByRunAt tasks (tasks.get id).runAt id queue).Pairwise fun x y =>
      (tasks.get x).runAt < (tasks.get y).runAt ∨
        (tasks.get x).runAt = (tasks.get y).runAt ∧ latest (id :: earlier) x < latest (id :: earlier) y := by
  induction queue with
  | nil => exact List.pairwise_singleton _ _
  | cons q rest ih =>
    obtain ⟨hq, hrest⟩ := List.pairwise_cons.1 h
    simp only [List.mem_cons, not_or] at hid
    have hlatest {x : TaskId} (hx : x ∈ q :: rest) : latest (id :: earlier) x = latest earlier x := by
      refine latest_cons_of_ne earlier fun heq => ?_
      rw [heq] at hx
      rcases List.mem_cons.1 hx with hx | hx
      · exact hid.1 hx
      · exact hid.2 hx
    unfold QueueSet.insertByRunAt
    split
    · next hle =>
      -- of equal run times the one inserted last comes last
      refine List.pairwise_cons.2 ⟨fun x hx => ?_, ih hid.2 hrest⟩
      rcases QueueSet.mem_insertByRunAt.1 hx with rfl | hx
      · have := latest_lt_latest_cons earlier (Ne.symm hid.1)
        omega
      · rw [hlatest List.mem_cons_self, hlatest (List.mem_cons_of_mem q hx)]
        exact hq x hx
    · next hlt =>
      refine List.pairwise_cons.2 ⟨fun x hx => ?_, ?_⟩
      · rcases List.mem_cons.1 hx with rfl | hx
        · exact .inl (by omega)
        · have := hq x hx
          exact .inl (by omega)
      · refine h.imp_of_mem fun {x y} hx hy hxy => ?_
        rw [hlatest hx, hlatest hy]
        exact hxy

/-- An insertion keeps all queues in turn, if no immediate task is inserted behind a later one. -/
theorem place (h : b.InTurn insertions) (hkept : b.Kept) {id : TaskId} (hslot : (b.task id).slot = none)
    (hlast : (b.task id).immediate = true → ∀ x ∈ b.queue (b.task id).home, (b.task x).runAt ≤ (b.task id).runAt) :
    (b.place id).InTurn (id :: insertions) := by
  have hnot (slot : QueueSlot) : id ∉ b.queue slot := fun hmem => by
    rw [hkept.mem_queue_iff, hslot] at hmem
    cases hmem
  have hlatest {slot : QueueSlot} {x : TaskId} (hx : x ∈ b.queue slot) :
      latest (id :: insertions) x = latest insertions x :=
    latest_cons_of_ne insertions fun heq => hnot slot (heq ▸ hx)
  refine ⟨?_, ?_, ?_⟩
  · intro slot x hx
    by_cases hs : slot = (b.task id).home
    · subst hs
      rcases List.mem_cons.1 ((perm_queue_place b id).mem_iff.1 hx) with rfl | hx
      · exact List.mem_cons_self
      · exact List.mem_cons_of_mem id (h.mem_insertions _ x hx)
    · rw [queue_place_of_ne b id hs] at hx
      exact List.mem_cons_of_mem id (h.mem_insertions _ x hx)
  · intro p
    simp only [runAt_place]
    have hold : (b.queue ⟨p, .ready⟩).Pairwise fun x y => (b.task x).runAt ≤ (b.task y).runAt ∧
        latest (id :: insertions) x < latest (id :: insertions) y := by
      refine (h.ready p).imp_of_mem fun {x y} hx hy hxy => ?_
      rw [hlatest hx, hlatest hy]
      exact hxy
    by_cases hs : (⟨p, .ready⟩ : QueueSlot) = (b.task id).home
    -- an immediate task is appended
    · have hi := Task.immediate_of_home hs.symm
      rw [hs] at hold ⊢
      rw [queue_place_of_immediate hi]
      refine List.pairwise_append.2 ⟨hold, List.pairwise_singleton _ _, fun x hx y hy => ?_⟩
      rw [List.mem_singleton.1 hy]
      exact ⟨hlast hi x hx, latest_lt_latest_cons insertions fun heq => hnot _ (heq ▸ hx)⟩
    · rw [queue_place_of_ne b id hs]
      exact hold
  · intro p
    simp only [runAt_place]
    by_cases hs : (⟨p, .future⟩ : QueueSlot) = (b.task id).home
    -- any other is inserted behind those with the same run time
    · have hp : p = (b.task id).priority := congrArg QueueSlot.priority hs
      have hi := Task.not_immediate_of_home hs.symm
      have hold := h.future p
      have horder := hkept.in_order p
      rw [hs] at hold ⊢
      rw [queue_place_of_not_immediate hi (hp ▸ horder)]
      exact pairwise_insertByRunAt (hnot _) hold
    · rw [queue_place_of_ne b id hs]
      refine (h.future p).imp_of_mem fun {x y} hx hy hxy => ?_
      rw [hlatest hx, hlatest hy]
      exact hxy

end InTurn

end Backlog

end TaskScheduling
