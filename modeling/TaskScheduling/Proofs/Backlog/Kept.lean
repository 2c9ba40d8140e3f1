import TaskScheduling.Proofs.Backlog.Queues

/-!
# Bookkeeping of a backlog

`Backlog.Kept` says that the notes on the tasks and the queues agree: a task is once in the queue that it notes and in
no other, that queue is the one in which the task belongs, and the future queues are in order of run time.  It says
nothing about the states of the tasks, so that every single step keeps it, whoever takes the step and whatever others
are in the middle of (`Kept.transition`, `Kept.place`, `Kept.unlink`, `Kept.takeOut` and so on).

Main statement: the check of a backlog that is kept finds nothing (`Kept.defect?_eq_none`).
-/

namespace TaskScheduling.Backlog

structure Kept (b : Backlog) : Prop where
  /-- A task is once in the queue that it notes, and in no other. -/
  count_queue (slot : QueueSlot) (id : TaskId) :
    (b.queue slot).count id = if (b.task id).slot = some slot then 1 else 0
  slot_eq_home (id : TaskId) (slot : QueueSlot) : (b.task id).slot = some slot → slot = (b.task id).home
  in_order (p : Priority) : QueueSet.InOrder b.tasks (b.queue ⟨p, .future⟩)
  isRecurring_of_immediate (id : TaskId) : (b.task id).immediate = true → (b.task id).isRecurring = false
  /-- Numbers that were not drawn yet belong to nobody. -/
  task_eq_absent (id : TaskId) : b.nextId ≤ id.index → b.task id = .absent

namespace Kept

variable {b : Backlog}

theorem mem_queue_iff (h : b.Kept) {slot : QueueSlot} {id : TaskId} :
    id ∈ b.queue slot ↔ (b.task id).slot = some slot := by
  rw [← List.count_pos_iff, h.count_queue]
  split <;> simp [*]

theorem nodup_queue (h : b.Kept) (slot : QueueSlot) : (b.queue slot).Nodup := by
  rw [List.nodup_iff_count]
  intro id
  rw [h.count_queue]
  split <;> omega

theorem mem_queued_iff (h : b.Kept) {id : TaskId} : id ∈ b.queued ↔ (b.task id).slot.isSome := by
  rw [Backlog.mem_queued_iff, Option.isSome_iff_exists]
  exact exists_congr fun slot => h.mem_queue_iff

/-- What holds of a task by what it is, holds as long as nothing changes that. -/
private theorem isRecurring_of_same (h : b.Kept) {c : Backlog} (hid : ∀ id, (c.task id).identity = (b.task id).identity)
    (id : TaskId) (hi : (c.task id).immediate = true) : (c.task id).isRecurring = false := by
  rw [Task.isRecurring_eq_of_identity (hid id)]
  exact h.isRecurring_of_immediate id (Task.immediate_eq_of_identity (hid id) ▸ hi)

/-- A task is queued at most once. -/
theorem nodup_queued (h : b.Kept) : b.queued.Nodup := by
  rw [List.nodup_iff_count]
  intro id
  have hcount (p : Priority) (k : QueueKind) : (b.queue ⟨p, k⟩).count id =
      if (b.task id).slot = some ⟨p, k⟩ then 1 else 0 := h.count_queue ⟨p, k⟩ id
  have hqueued : b.queued.count id =
      (b.queue ⟨.high, .ready⟩).count id + (b.queue ⟨.high, .future⟩).count id +
        ((b.queue ⟨.low, .ready⟩).count id + (b.queue ⟨.low, .future⟩).count id) +
        ((b.queue ⟨.starvable, .ready⟩).count id + (b.queue ⟨.starvable, .future⟩).count id) := by
    simp only [queued, QueueSet.ids, List.count_append]
    rfl
  rw [hqueued]
  simp only [hcount]
  cases (b.task id).slot with
  | none => simp
  | some slot => obtain ⟨_ | _ | _, _ | _⟩ := slot <;> simp

theorem task_home_of_mem (h : b.Kept) {slot : QueueSlot} {id : TaskId} (hmem : id ∈ b.queue slot) :
    (b.task id).home = slot := (h.slot_eq_home id slot (h.mem_queue_iff.1 hmem)).symm

protected theorem empty : Backlog.empty.Kept where
  count_queue slot id := by
    obtain ⟨p, k⟩ := slot
    have hq : Backlog.empty.queue ⟨p, k⟩ = [] := by cases p <;> cases k <;> rfl
    rw [hq, show Backlog.empty.task id = .absent from Table.get_empty id]
    rfl
  slot_eq_home id slot hs := by
    rw [show Backlog.empty.task id = .absent from Table.get_empty id] at hs
    cases hs
  in_order p := by cases p <;> exact List.Pairwise.nil
  isRecurring_of_immediate id _ := by
    rw [show Backlog.empty.task id = .absent from Table.get_empty id]
    rfl
  task_eq_absent id _ := Table.get_empty id

/-! ### Steps that leave the queues alone -/

/-- A step that changes neither queues, notes nor run times keeps the books. -/
theorem of_same (h : b.Kept) {c : Backlog} (hqueue : ∀ slot, c.queue slot = b.queue slot)
    (hslot : ∀ id, (c.task id).slot = (b.task id).slot) (hid : ∀ id, (c.task id).identity = (b.task id).identity)
    (htime : ∀ id, (b.task id).slot.isSome → (c.task id).runAt = (b.task id).runAt)
    (habsent : ∀ id : TaskId, c.nextId ≤ id.index → c.task id = .absent) : c.Kept where
  count_queue slot id := by rw [hqueue, hslot, h.count_queue]
  slot_eq_home id slot hs := by
    rw [Task.home_eq_of_identity (hid id)]
    exact h.slot_eq_home id slot (hslot id ▸ hs)
  in_order p := by
    rw [hqueue]
    refine (h.in_order p).imp_of_mem fun {x y} hx hy hle => ?_
    have hsome {z : TaskId} (hz : z ∈ b.queue ⟨p, .future⟩) : (b.task z).slot.isSome := by
      rw [h.mem_queue_iff.1 hz]; rfl
    show (c.task x).runAt ≤ (c.task y).runAt
    rw [htime x (hsome hx), htime y (hsome hy)]
    exact hle
  isRecurring_of_immediate := h.isRecurring_of_same hid
  task_eq_absent := habsent

theorem transition (h : b.Kept) {id : TaskId} {source target : TaskState}
    (hid : (b.task id).state = source → id.index < b.nextId) : (b.transition id source target).1.Kept := by
  refine h.of_same (queue_transition b id source target) (slot_transition b id source target)
    (identity_transition b id source target) (fun j _ => runAt_transition b id source target j) ?_
  intro j hj
  rw [nextId_transition] at hj
  rw [task_transition_eq]
  split
  · next hc =>
    have := hid hc.2
    rw [hc.1] at hj
    omega
  · exact h.task_eq_absent j hj

/-- Only tasks that were entered are in a state that anything is done with. -/
theorem index_lt (h : b.Kept) {id : TaskId} (hstate : (b.task id).state ≠ .cancelled) : id.index < b.nextId := by
  by_cases hlt : id.index < b.nextId
  · exact hlt
  · exact absurd (by rw [h.task_eq_absent id (by omega)]; rfl) hstate

theorem transition_of_ne (h : b.Kept) (id : TaskId) {source : TaskState} (target : TaskState)
    (hsource : source ≠ .cancelled) : (b.transition id source target).1.Kept :=
  h.transition fun hs => h.index_lt (by rw [hs]; exact hsource)

/-- Cancelling keeps the books from whatever state it is. -/
theorem cancelled (h : b.Kept) (id : TaskId) (source : TaskState) : (b.transition id source .cancelled).1.Kept := by
  by_cases hsource : source = .cancelled
  · -- nothing changes, not even for a number that was not drawn yet
    subst hsource
    have hsame (j : TaskId) : (b.transition id .cancelled .cancelled).1.task j = b.task j := by
      rw [task_transition_eq]
      split
      · next hc => rw [← hc.2, ← hc.1]
      · rfl
    refine h.of_same (queue_transition b id .cancelled .cancelled) ?_ ?_ ?_ ?_
    · exact fun j => by rw [hsame]
    · exact fun j => by rw [hsame]
    · exact fun j _ => by rw [hsame]
    · intro j hj
      rw [hsame]
      rw [nextId_transition] at hj
      exact h.task_eq_absent j hj
  · exact h.transition_of_ne id .cancelled hsource

theorem modify (h : b.Kept) {id : TaskId} {f : Task → Task} (hid : id.index < b.nextId)
    (hslot : (f (b.task id)).slot = (b.task id).slot) (hident : (f (b.task id)).identity = (b.task id).identity)
    (htime : (b.task id).slot.isSome → (f (b.task id)).runAt = (b.task id).runAt) : (b.modify id f).Kept := by
  refine h.of_same (queue_modify b id f) ?_ ?_ ?_ ?_
  · intro j; rw [task_modify]; split
    · next hj => rw [hj, hslot]
    · rfl
  · intro j; rw [task_modify]; split
    · next hj => rw [hj, hident]
    · rfl
  · intro j hj; rw [task_modify]; split
    · next heq => rw [heq] at hj ⊢; exact htime hj
    · rfl
  · intro j hj
    have hne : j ≠ id := fun heq => by rw [heq] at hj; exact absurd hj (by simpa [Backlog.modify] using hid)
    rw [task_modify, if_neg hne]
    exact h.task_eq_absent j hj

/-! ### Building and entering -/

theorem build (h : b.Kept) (now : Nat) (delay : Duration) (kind : TaskKind) (p : Priority)
    (handler : Option FailureHandler) : (b.build now delay kind p handler).2.Kept := by
  refine h.of_same ?_ (fun _ => rfl) (fun _ => rfl) (fun _ _ => rfl) ?_
  · rintro ⟨q, k⟩
    cases q <;> rfl
  · intro j hj
    exact h.task_eq_absent j (Nat.le_of_succ_le hj)

theorem enter (h : b.Kept) {t : Task} (hid : t.id.index < b.nextId) (hslot : t.slot = none)
    (honce : t.immediate = true → t.isRecurring = false) (hfree : (b.task t.id).slot = none) : (b.enter t).Kept where
  count_queue slot id := by
    rw [queue_enter, task_enter, h.count_queue]
    split
    · next hs =>
      rw [if_pos]
      split
      · next heq => rw [heq, hfree] at hs; cases hs
      · exact hs
    · next hs =>
      rw [if_neg]
      split
      · simp [hslot]
      · exact hs
  slot_eq_home id slot hs := by
    rw [task_enter] at hs ⊢
    split at hs
    · rw [hslot] at hs; cases hs
    · next hne => rw [if_neg hne]; exact h.slot_eq_home id slot hs
  in_order p := by
    rw [queue_enter]
    refine (h.in_order p).imp_of_mem fun {x y} hx hy hle => ?_
    -- the task itself is in no queue yet
    have hsame {z : TaskId} (hz : z ∈ b.queue ⟨p, .future⟩) : (b.enter t).task z = b.task z := by
      rw [task_enter, if_neg]
      rintro rfl
      have hs := h.mem_queue_iff.1 hz
      rw [hfree] at hs
      cases hs
    show ((b.enter t).task x).runAt ≤ ((b.enter t).task y).runAt
    rw [hsame hx, hsame hy]
    exact hle
  isRecurring_of_immediate id hi := by
    rw [task_enter] at hi ⊢
    split at hi
    · next heq => rw [if_pos heq]; exact honce hi
    · next hne => rw [if_neg hne]; exact h.isRecurring_of_immediate id hi
  task_eq_absent id hle := by
    have hne : id ≠ t.id := fun heq => by rw [heq] at hle; exact absurd hid (Nat.not_lt.2 hle)
    rw [task_enter, if_neg hne]
    exact h.task_eq_absent id hle

/-! ### Queueing and taking out -/

theorem place (h : b.Kept) {id : TaskId} (hid : id.index < b.nextId) (hslot : (b.task id).slot = none) :
    (b.place id).Kept where
  count_queue slot j := by
    by_cases hs : slot = (b.task id).home
    · subst hs
      rw [(perm_queue_place b id).count_eq, List.count_cons, h.count_queue, task_place]
      by_cases hj : j = id
      · subst hj
        simp [hslot]
      · have hne : ¬(id == j) = true := by simpa using Ne.symm hj
        simp only [hj, ↓reduceIte, hne, Bool.false_eq_true, Nat.add_zero]
    · rw [queue_place_of_ne b id hs, h.count_queue, task_place]
      by_cases hj : j = id
      · subst hj
        simp [hslot, Ne.symm hs]
      · simp only [hj, ↓reduceIte]
  slot_eq_home j slot hs := by
    rw [task_place] at hs ⊢
    split at hs
    · next heq =>
      rw [if_pos heq]
      cases hs
      rw [heq]
      rfl
    · next hne => rw [if_neg hne]; exact h.slot_eq_home j slot hs
  in_order p := by
    have hcongr {queue : List TaskId} (hq : QueueSet.InOrder b.tasks queue) :
        QueueSet.InOrder (b.place id).tasks queue := by
      refine hq.imp fun {x y} hle => ?_
      show ((b.place id).task x).runAt ≤ ((b.place id).task y).runAt
      rw [runAt_place, runAt_place]
      exact hle
    apply hcongr
    by_cases hs : (⟨p, .future⟩ : QueueSlot) = (b.task id).home
    -- only the queue in which the task is inserted changes
    · have hp : p = (b.task id).priority := congrArg QueueSlot.priority hs
      have hi := Task.not_immediate_of_home hs.symm
      have hord := h.in_order p
      rw [hs, queue_place_of_not_immediate hi (hp ▸ hord)]
      rw [hs] at hord
      exact QueueSet.insertByRunAt_sorted hord
    · rw [queue_place_of_ne b id hs]
      exact h.in_order p
  isRecurring_of_immediate := h.isRecurring_of_same (identity_place b id)
  task_eq_absent j hj := by
    rw [nextId_place] at hj
    have hne : j ≠ id := fun heq => by rw [heq] at hj; omega
    rw [task_place, if_neg hne]
    exact h.task_eq_absent j hj

private theorem in_order_of_sublist (h : b.Kept) {c : Backlog}
    (htime : ∀ id, (c.task id).runAt = (b.task id).runAt)
    (hsub : ∀ slot, (c.queue slot).Sublist (b.queue slot)) (p : Priority) :
    QueueSet.InOrder c.tasks (c.queue ⟨p, .future⟩) := by
  refine ((h.in_order p).sublist (hsub _)).imp fun {x y} hle => ?_
  show (c.task x).runAt ≤ (c.task y).runAt
  rw [htime, htime]
  exact hle

theorem unlink (h : b.Kept) {id : TaskId} {slot : QueueSlot} (hslot : (b.task id).slot = some slot) :
    (b.unlink id slot).Kept where
  count_queue other j := by
    rw [queue_unlink, task_unlink]
    by_cases hs : other = slot
    · subst hs
      rw [if_pos rfl, List.count_erase, h.count_queue]
      by_cases hj : j = id
      · subst hj
        simp [hslot]
      · have hne : ¬(id == j) = true := by simpa using Ne.symm hj
        simp only [hj, ↓reduceIte, hne, Bool.false_eq_true, Nat.sub_zero]
    · rw [if_neg hs, h.count_queue]
      by_cases hj : j = id
      · subst hj
        simp [hslot, Ne.symm hs]
      · simp only [hj, ↓reduceIte]
  slot_eq_home j other hs := by
    rw [task_unlink] at hs ⊢
    split at hs
    · cases hs
    · next hne => rw [if_neg hne]; exact h.slot_eq_home j other hs
  in_order := by
    refine h.in_order_of_sublist (runAt_unlink b id slot) fun other => ?_
    rw [queue_unlink]
    split
    · exact List.erase_sublist
    · exact List.Sublist.refl _
  isRecurring_of_immediate := h.isRecurring_of_same (identity_unlink b id slot)
  task_eq_absent j hj := by
    rw [nextId_unlink] at hj
    have hne : j ≠ id := fun heq => by
      rw [← heq, h.task_eq_absent j hj] at hslot
      cases hslot
    rw [task_unlink, if_neg hne]
    exact h.task_eq_absent j hj

theorem remove (h : b.Kept) (id : TaskId) : (b.remove id).1.Kept := by
  cases hslot : (b.task id).slot with
  | none => rw [remove_of_slot_none hslot]; exact h
  | some slot => rw [remove_eq_unlink hslot (h.mem_queue_iff.2 hslot)]; exact h.unlink hslot

theorem slot_remove (h : b.Kept) (id : TaskId) : ((b.remove id).1.task id).slot = none := by
  cases hslot : (b.task id).slot with
  | none => rw [remove_of_slot_none hslot, hslot]
  | some slot =>
    rw [remove_eq_unlink hslot (h.mem_queue_iff.2 hslot)]
    dsimp only
    rw [task_unlink, if_pos rfl]

theorem mem_takeOut_iff (h : b.Kept) {scope : Scope} {slot : QueueSlot} {id : TaskId} :
    id ∈ (b.takeOut scope slot).1 ↔
      (b.task id).slot = some (scope.target slot) ∧ scope.takes (b.task id) = true := by
  rw [takeOut_fst, List.mem_filter, h.mem_queue_iff]

theorem takeOut (h : b.Kept) (scope : Scope) (slot : QueueSlot) : (b.takeOut scope slot).2.Kept where
  count_queue other j := by
    have hmem : j ∈ (b.takeOut scope slot).1 ↔ _ := h.mem_takeOut_iff
    rw [queue_takeOut, task_takeOut]
    by_cases hs : other = scope.target slot
    · subst hs
      rw [if_pos rfl]
      cases ht : scope.takes (b.task j) with
      | true =>
        -- it has been taken out, so its slot was cleared
        rw [List.count_eq_zero_of_not_mem (by simp [List.mem_filter, ht])]
        by_cases hq : (b.task j).slot = some (scope.target slot)
        · simp [hmem.2 ⟨hq, ht⟩]
        · split <;> simp
      | false =>
        have hj : j ∉ (b.takeOut scope slot).1 := fun hj => by simp [(hmem.1 hj).2] at ht
        rw [List.count_filter (by simp [ht]), h.count_queue, if_neg hj]
    · rw [if_neg hs, h.count_queue]
      by_cases hj : j ∈ (b.takeOut scope slot).1
      · simp [hj, (hmem.1 hj).1, Ne.symm hs]
      · simp only [hj, ↓reduceIte]
  slot_eq_home j other hs := by
    rw [task_takeOut] at hs ⊢
    split at hs
    · cases hs
    · next hne => rw [if_neg hne]; exact h.slot_eq_home j other hs
  in_order := by
    refine h.in_order_of_sublist (runAt_takeOut b scope slot) fun other => ?_
    rw [queue_takeOut]
    split
    · exact List.filter_sublist
    · exact List.Sublist.refl _
  isRecurring_of_immediate := h.isRecurring_of_same (identity_takeOut b scope slot)
  task_eq_absent j hj := by
    rw [nextId_takeOut] at hj
    have habsent := h.task_eq_absent j hj
    have hne : j ∉ (b.takeOut scope slot).1 := fun hm => by
      have hs := (h.mem_takeOut_iff.1 hm).1
      rw [habsent] at hs
      cases hs
    rw [task_takeOut, if_neg hne]
    exact habsent

/-! ### The check -/

private theorem queueDefect?_eq_none {p : Priority} {s : QueueSet p} {tasks : Table} {kind : QueueKind}
    {seen queue : List TaskId} (hnodup : queue.Nodup) (hseen : ∀ id ∈ queue, id ∉ seen)
    (htask : ∀ id ∈ queue, (tasks.get id).slot = some ⟨p, kind⟩ ∧ (tasks.get id).home = ⟨p, kind⟩) :
    s.queueDefect? tasks kind seen queue = none := by
  induction queue generalizing seen with
  | nil => rfl
  | cons id rest ih =>
    obtain ⟨hid, hrest⟩ := List.nodup_cons.1 hnodup
    obtain ⟨hslot, hhome⟩ := htask id List.mem_cons_self
    simp only [Task.home, QueueSlot.mk.injEq] at hhome
    have hfirst : s.taskDefect? tasks kind seen id = none := by
      simp [QueueSet.taskDefect?, QueueSet.slot, hseen id List.mem_cons_self, hslot, hhome.1, hhome.2]
    rw [QueueSet.queueDefect?, hfirst, Option.none_or]
    refine ih hrest ?_ fun j hj => htask j (List.mem_cons_of_mem id hj)
    intro j hj hmem
    rcases List.mem_cons.1 hmem with rfl | hmem
    · exact hid hj
    · exact hseen j (List.mem_cons_of_mem id hj) hmem

private theorem orderDefect?_eq_none {tasks : Table} {queue : List TaskId} (h : QueueSet.InOrder tasks queue)
    (i : Nat) : QueueSet.orderDefect? tasks i queue = none := by
  induction queue generalizing i with
  | nil => rfl
  | cons a rest ih =>
    obtain ⟨ha, hrest⟩ := List.pairwise_cons.1 h
    cases rest with
    | nil => rfl
    | cons b rest =>
      have hle := ha b List.mem_cons_self
      rw [QueueSet.orderDefect?, if_neg (by omega)]
      exact ih hrest (i + 1)

theorem queueSet_defect?_eq_none (h : b.Kept) (p : Priority) : (b.queueSet p).defect? b.tasks = none := by
  have htask (kind : QueueKind) : ∀ id ∈ b.queue ⟨p, kind⟩,
      (b.task id).slot = some ⟨p, kind⟩ ∧ (b.task id).home = ⟨p, kind⟩ := fun id hid =>
    ⟨h.mem_queue_iff.1 hid, h.task_home_of_mem hid⟩
  have hready : (b.queueSet p).queueDefect? b.tasks .ready [] (b.queue ⟨p, .ready⟩) = none :=
    queueDefect?_eq_none (h.nodup_queue ⟨p, .ready⟩) (by simp) (htask .ready)
  have hdisjoint : ∀ id ∈ b.queue ⟨p, .future⟩, id ∉ b.queue ⟨p, .ready⟩ := fun id hf hr => by
    have hs := (htask .future id hf).1
    rw [(htask .ready id hr).1] at hs
    cases hs
  have hfuture := queueDefect?_eq_none (s := b.queueSet p) (h.nodup_queue ⟨p, .future⟩) hdisjoint (htask .future)
  have horder := orderDefect?_eq_none (h.in_order p) 1
  have hr : b.queue ⟨p, .ready⟩ = (b.queueSet p).ready := rfl
  have hf : b.queue ⟨p, .future⟩ = (b.queueSet p).future := rfl
  rw [hr] at hready hfuture
  rw [hf] at hfuture horder
  simp only [QueueSet.defect?, hready, hfuture, horder, Option.none_or, Option.map_none]

/-- A backlog that is kept passes its check. -/
theorem defect?_eq_none (h : b.Kept) : b.defect? = none := by
  have hhigh := h.queueSet_defect?_eq_none .high
  have hlow := h.queueSet_defect?_eq_none .low
  have hstarvable := h.queueSet_defect?_eq_none .starvable
  simp only [queueSet] at hhigh hlow hstarvable
  simp only [Backlog.defect?, hhigh, hlow, hstarvable, Option.none_or]

end Kept

/-- Queueing a task does not touch the order of the others. -/
theorem filter_queue_place {b : Backlog} (h : b.Kept) {id : TaskId} {p : TaskId → Bool} (hp : p id = false)
    (slot : QueueSlot) :
    ((b.place id).queue slot).filter p = (b.queue slot).filter p := by
  by_cases hslot : slot = (b.task id).home
  · subst hslot
    cases hi : (b.task id).immediate with
    | true => simp [queue_place_of_immediate hi, hp]
    | false =>
      have horder := h.in_order (b.task id).priority
      have hhome : (b.task id).home = ⟨(b.task id).priority, .future⟩ := by simp [Task.home, Task.queueKind, hi]
      obtain ⟨xs, ys, hqueue, hxs, hys⟩ := QueueSet.exists_split horder (b.task id).runAt
      rw [queue_place_of_not_immediate hi horder, hhome, hqueue, QueueSet.insertByRunAt_append hxs hys]
      simp [hp]
  · rw [queue_place_of_ne b id hslot]

end TaskScheduling.Backlog
