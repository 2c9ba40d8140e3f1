import TaskScheduling.Task.Basic

/-!
# Tables of tasks

The tasks of a scheduler by their numbers.  A look-up always answers: a number that was never entered stands for
`Task.absent`.  `get_set` and `get_modify` say all there is to say about the operations.
-/

namespace TaskScheduling

structure Table where
  entries : Array Task
  deriving DecidableEq

namespace Table

def empty : Table := ⟨#[]⟩

instance : Inhabited Table := ⟨empty⟩

def get (t : Table) (id : TaskId) : Task := t.entries[id.index]?.getD .absent

/-- Enters a task under a number; the numbers below it that are still free become absent tasks. -/
def set (t : Table) (id : TaskId) (task : Task) : Table :=
  if id.index < t.entries.size then ⟨t.entries.setIfInBounds id.index task⟩
  else ⟨(t.entries ++ Array.replicate (id.index - t.entries.size) Task.absent).push task⟩

def modify (t : Table) (id : TaskId) (f : Task → Task) : Table := t.set id (f (t.get id))

/-- Changes several tasks in the same way, one after the other. -/
def modifyAll (t : Table) (ids : List TaskId) (f : Task → Task) : Table :=
  ids.foldl (fun t id => t.modify id f) t

def setSlot (t : Table) (id : TaskId) (slot : Option QueueSlot) : Table :=
  t.modify id fun task => { task with slot := slot }

theorem index_injective {i j : TaskId} : i.index = j.index ↔ i = j := by
  cases i; cases j; simp

@[simp] theorem get_empty (i : TaskId) : empty.get i = .absent := by simp [empty, get]

theorem get_set (t : Table) (i j : TaskId) (task : Task) :
    (t.set i task).get j = if j = i then task else t.get j := by
  have hij : (j = i) ↔ j.index = i.index := index_injective.symm
  unfold set get
  by_cases h : i.index < t.entries.size
  · simp only [h, ↓reduceIte, hij, Array.getElem?_setIfInBounds, eq_comm (a := i.index)]
    split <;> simp
  · simp only [h, ↓reduceIte, hij, Array.getElem?_push, Array.size_append, Array.size_replicate,
      Array.getElem?_append, Array.getElem?_replicate]
    have hsize : t.entries.size + (i.index - t.entries.size) = i.index := by omega
    rw [hsize]
    split
    · simp
    · split
      · rfl
      · rename_i hne hlt
        have : t.entries[j.index]? = none := by simp; omega
        rw [this]; split <;> rfl

@[simp] theorem get_set_self (t : Table) (i : TaskId) (task : Task) : (t.set i task).get i = task := by
  simp [get_set]

theorem get_set_of_ne (t : Table) {i j : TaskId} (task : Task) (h : j ≠ i) : (t.set i task).get j = t.get j := by
  simp [get_set, h]

theorem get_modify (t : Table) (i j : TaskId) (f : Task → Task) :
    (t.modify i f).get j = if j = i then f (t.get j) else t.get j := by
  unfold modify
  rw [get_set]
  split <;> simp [*]

@[simp] theorem modifyAll_nil (t : Table) (f : Task → Task) : t.modifyAll [] f = t := rfl

@[simp] theorem modifyAll_cons (t : Table) (i : TaskId) (ids : List TaskId) (f : Task → Task) :
    t.modifyAll (i :: ids) f = (t.modify i f).modifyAll ids f := rfl

theorem get_modifyAll_of_notMem (t : Table) {ids : List TaskId} (f : Task → Task) {j : TaskId} (h : j ∉ ids) :
    (t.modifyAll ids f).get j = t.get j := by
  induction ids generalizing t with
  | nil => rfl
  | cons i ids ih =>
    simp only [List.mem_cons, not_or] at h
    rw [modifyAll_cons, ih _ h.2, get_modify, if_neg h.1]

theorem get_modifyAll_of_mem (t : Table) {ids : List TaskId} {f : Task → Task} (hf : ∀ x, f (f x) = f x) {j : TaskId}
    (h : j ∈ ids) : (t.modifyAll ids f).get j = f (t.get j) := by
  induction ids generalizing t with
  | nil => simp at h
  | cons i ids ih =>
    rw [modifyAll_cons]
    by_cases hj : j ∈ ids
    · rw [ih _ hj, get_modify]
      split <;> simp [hf]
    · have : j = i := by simpa [hj] using h
      rw [get_modifyAll_of_notMem _ _ hj, get_modify, if_pos this]

end Table

end TaskScheduling
