/-!
# Rings of slots

The items of a queue lie in a ring of slots, from the head to the end of the ring and, if there are more, from the
start of the ring on.  An item is put in or taken out by moving the shorter side of the queue.  A full ring gets twice
as many slots.

A search by halves works on one of the two parts: on the later one if its first item meets the condition, and otherwise
on the earlier one.  Main statement: if the items up to some point meet the condition and none does after it, the search
finds the point, wherever the queue lies (`search_append`).
-/

namespace TaskScheduling

/-- Where in a ring a queue lies. -/
structure Ring where
  head : Nat
  slots : Nat
  deriving DecidableEq, Repr

namespace Ring

def empty : Ring := ⟨0, 0⟩

instance : Inhabited Ring := ⟨empty⟩

/-- A ring with more slots.  Of a queue in two parts the shorter part is moved: the later one to behind the earlier one,
or the earlier one to the new end of the ring. -/
def grow (r : Ring) : Ring :=
  let slots := max 4 (2 * r.slots)
  if r.head = 0 || 2 * r.head < r.slots then { r with slots := slots }
  else ⟨r.head + (slots - r.slots), slots⟩

/-- Makes room for one item beside `size` items. -/
def reserve (r : Ring) (size : Nat) : Ring := if size = r.slots then r.grow else r

/-- Puts an item in front of the one at `index`, or behind all `size` items. -/
def insert (r : Ring) (size index : Nat) : Ring :=
  let r := r.reserve size
  if size - index < index then r else { r with head := (r.head + r.slots - 1) % r.slots }

/-- Takes the item at `index` out of `size` items. -/
def erase (r : Ring) (size index : Nat) : Ring :=
  if size - index - 1 < index then r else { r with head := (r.head + 1) % r.slots }

/-- Takes all items out. -/
def clear (r : Ring) : Ring := { r with head := 0 }

/-- A new ring into which `size` items were put one behind the other. -/
def filled : Nat → Ring
  | 0 => empty
  | size + 1 => (filled size).reserve size

variable {α : Type}

/-- The number of items that meet the condition, by halves; at least `items.length - 1` for `fuel`. -/
def bisect (cond : α → Bool) : Nat → List α → Nat
  | 0, items => if items.head?.any cond then 1 else 0
  | fuel + 1, items =>
    let half := items.length / 2
    if half = 0 then bisect cond 0 items
    else if (items.drop half).head?.any cond then half + bisect cond fuel (items.drop half)
    else bisect cond fuel (items.take (items.length - half))

/-- The number of items that meet the condition, if those that do come first. -/
def search (r : Ring) (cond : α → Bool) (items : List α) : Nat :=
  let room := r.slots - r.head
  let earlier := items.take room
  let later := items.drop room
  if later.head?.any cond then earlier.length + bisect cond later.length later
  else bisect cond earlier.length earlier

/-! ### Searching items in order -/

private theorem any_head?_append {cond : α → Bool} {xs ys : List α} (hx : ∀ x ∈ xs, cond x = true)
    (hy : ∀ y ∈ ys, cond y = false) : (xs ++ ys).head?.any cond = !xs.isEmpty := by
  cases xs with
  | cons x xs => simp [hx]
  | nil =>
    cases ys with
    | nil => rfl
    | cons y ys => simp [hy]

theorem bisect_append {cond : α → Bool} {fuel : Nat} {xs ys : List α} (hfuel : (xs ++ ys).length ≤ fuel + 1)
    (hx : ∀ x ∈ xs, cond x = true) (hy : ∀ y ∈ ys, cond y = false) : bisect cond fuel (xs ++ ys) = xs.length := by
  have base {xs ys : List α} (hlength : (xs ++ ys).length ≤ 1) (hx : ∀ x ∈ xs, cond x = true)
      (hy : ∀ y ∈ ys, cond y = false) : (if (xs ++ ys).head?.any cond then 1 else 0) = xs.length := by
    rw [any_head?_append hx hy]
    rw [List.length_append] at hlength
    cases xs with
    | nil => rfl
    | cons x xs =>
      obtain rfl : xs = [] := List.eq_nil_of_length_eq_zero (by rw [List.length_cons] at hlength; omega)
      rfl
  induction fuel generalizing xs ys with
  | zero => rw [bisect]; exact base hfuel hx hy
  | succ fuel ih =>
    have hlength : (xs ++ ys).length = xs.length + ys.length := List.length_append
    simp only [bisect]
    split
    · exact base (by omega) hx hy
    · rw [List.drop_append, any_head?_append (fun x h => hx x (List.mem_of_mem_drop h))
        (fun y h => hy y (List.mem_of_mem_drop h))]
      split
      · next hhalf hlower =>
        have hlt : (xs ++ ys).length / 2 < xs.length := by simpa using hlower
        rw [ih (by simp; omega) (fun x h => hx x (List.mem_of_mem_drop h)) (fun y h => hy y (List.mem_of_mem_drop h)),
          List.length_drop]
        omega
      · next hhalf hupper =>
        have hle : xs.length ≤ (xs ++ ys).length / 2 := by simpa using hupper
        rw [List.take_append, List.take_of_length_le (by omega : xs.length ≤ _)]
        exact ih (by simp; omega) hx fun y h => hy y (List.mem_of_mem_take h)

/-- Of items that meet the condition up to some point and not after it, a search finds the point. -/
theorem search_append (r : Ring) {cond : α → Bool} {xs ys : List α} (hx : ∀ x ∈ xs, cond x = true)
    (hy : ∀ y ∈ ys, cond y = false) : r.search cond (xs ++ ys) = xs.length := by
  simp only [search]
  generalize r.slots - r.head = room
  rw [List.drop_append, List.take_append, any_head?_append (fun x h => hx x (List.mem_of_mem_drop h))
    (fun y h => hy y (List.mem_of_mem_drop h))]
  have hdropx : ∀ x ∈ xs.drop room, cond x = true := fun x h => hx x (List.mem_of_mem_drop h)
  have hdropy : ∀ y ∈ ys.drop (room - xs.length), cond y = false := fun y h => hy y (List.mem_of_mem_drop h)
  have htakey : ∀ y ∈ ys.take (room - xs.length), cond y = false := fun y h => hy y (List.mem_of_mem_take h)
  split
  · next hlater =>
    have hlt : room < xs.length := by simpa using hlater
    rw [bisect_append (by omega) hdropx hdropy, show room - xs.length = 0 by omega]
    simp
    omega
  · next hearlier =>
    have hle : xs.length ≤ room := by simpa using hearlier
    rw [List.take_of_length_le hle, bisect_append (by omega) hx htakey]

end Ring

end TaskScheduling
