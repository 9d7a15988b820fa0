/-
This file is a small library of slices over a shared array.

A slice is the beginning of an array of cells. Appending to a slice writes the cell behind it where
the array has one and copies the slice otherwise, so a loop that starts from the empty slice of an
array and appends the items it keeps writes over the array that it reads. It never writes a cell
that it has yet to read, and what it leaves is the filtered list.
-/

import Mathlib.Data.List.Basic

/-- A slice: the cells of its array from its start on, and how many of them are in it. -/
structure Slice (Item : Type) where
  cells : List Item
  length : Nat
  bounded : length ≤ cells.length

namespace Slice

variable {Item : Type}

def items (slice : Slice Item) : List Item := slice.cells.take slice.length

def empty : Slice Item := ⟨[], 0, Nat.le_refl 0⟩

/-- The empty slice of the same array. -/
def clear (slice : Slice Item) : Slice Item := ⟨slice.cells, 0, Nat.zero_le _⟩

/-- Append an item, in the array where it has a cell left. -/
def append (slice : Slice Item) (item : Item) : Slice Item :=
  if room : slice.length < slice.cells.length then
    ⟨slice.cells.set slice.length item, slice.length + 1, by rw [List.length_set]; exact room⟩
  else ⟨slice.items ++ [item], (slice.items ++ [item]).length, Nat.le_refl _⟩

/-- The loop that reads so many cells from an index on, and appends the items it keeps to a slice of
the array that it reads. -/
def retainFrom (keep : Item → Bool) : Nat → Nat → Slice Item → Slice Item
  | 0, _, kept => kept
  | left + 1, index, kept =>
    match kept.cells[index]? with
    | none => kept
    | some item =>
      retainFrom keep left (index + 1) (if keep item then kept.append item else kept)

/-- Keep the items that pass a test, in place. -/
def retain (keep : Item → Bool) (slice : Slice Item) : Slice Item :=
  retainFrom keep slice.length 0 slice.clear

@[simp] theorem items_empty : (empty : Slice Item).items = [] := rfl

@[simp] theorem items_clear (slice : Slice Item) : slice.clear.items = [] := List.take_zero ..

theorem length_items (slice : Slice Item) : slice.items.length = slice.length := by
  rw [items, List.length_take, Nat.min_eq_left slice.bounded]

@[simp] theorem items_append (slice : Slice Item) (item : Item) :
    (slice.append item).items = slice.items ++ [item] := by
  unfold append
  split
  · next room =>
    show (slice.cells.set slice.length item).take (slice.length + 1) = _
    rw [List.take_add_one, List.take_set_of_le (Nat.le_refl _), List.getElem?_set_self room]
    rfl
  · exact List.take_length

/-- Appending writes no cell beyond the one behind the slice. -/
theorem drop_append {slice : Slice Item} (item : Item) {index : Nat}
    (room : slice.length < slice.cells.length) (beyond : slice.length < index) :
    (slice.append item).cells.drop index = slice.cells.drop index := by
  rw [append, dif_pos room]
  exact List.drop_set_of_lt beyond

theorem length_append {slice : Slice Item} (item : Item)
    (room : slice.length < slice.cells.length) :
    (slice.append item).length = slice.length + 1 := by
  rw [append, dif_pos room]

/-- The loop keeps the items that pass among the cells that it reads. -/
theorem items_retainFrom (keep : Item → Bool) (left index : Nat) (kept : Slice Item)
    (behind : kept.length ≤ index) (inside : index + left ≤ kept.cells.length) :
    (retainFrom keep left index kept).items =
      kept.items ++ ((kept.cells.drop index).take left).filter keep := by
  induction left generalizing index kept with
  | zero => rw [retainFrom, List.take_zero, List.filter_nil, List.append_nil]
  | succ left inductionHypothesis =>
    have here : index < kept.cells.length := by omega
    have cells : kept.cells.drop index = kept.cells[index] :: kept.cells.drop (index + 1) :=
      List.drop_eq_getElem_cons here
    rw [retainFrom, List.getElem?_eq_getElem here, cells, List.take_succ_cons, List.filter_cons]
    dsimp only
    split
    · have room : kept.length < kept.cells.length := by omega
      have same := drop_append kept.cells[index] room (Nat.lt_succ_of_le behind)
      have long : (kept.append kept.cells[index]).cells.length = kept.cells.length := by
        rw [append, dif_pos room]
        exact List.length_set
      rw [inductionHypothesis _ _ (by rw [length_append _ room]; omega) (by rw [long]; omega),
        same, items_append, List.append_assoc]
      rfl
    · exact inductionHypothesis _ _ (by omega) (by omega)

@[simp] theorem items_retain (keep : Item → Bool) (slice : Slice Item) :
    (slice.retain keep).items = slice.items.filter keep := by
  have bounded := slice.bounded
  rw [retain, items_retainFrom keep slice.length 0 slice.clear (Nat.le_refl 0)
    (by rw [Nat.zero_add]; exact bounded), items_clear]
  rfl

end Slice
