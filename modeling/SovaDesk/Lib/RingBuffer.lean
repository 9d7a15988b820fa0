/-
This file is a small library of ring buffers.

A ring buffer is a list of cells that is written round and round: the cell to be written next is
the number of values written so far, modulo the size. What it keeps is best said with the values in
the order in which they were written. Value number `index` stands in cell `index` modulo the size,
unless so many values came after it that its cell was written again.
-/

import Mathlib.Algebra.Order.Ring.Int
import Mathlib.Data.List.Basic

namespace RingBuffer

variable {Cell : Type}

/-- The cells hold the latest of the written values, as many as there are cells. -/
structure Keeps (cells written : List Cell) : Prop where
  kept : ∀ index, written.length ≤ index + cells.length →
    ∀ value, written[index]? = some value → cells[index % cells.length]? = some value

theorem keeps_nil (cells : List Cell) : Keeps cells [] := ⟨fun _ _ _ found => by simp at found⟩

/-- Two numbers that are less than the size apart have different cells. -/
theorem slot_ne {size index latest : Nat} (earlier : index < latest)
    (near : latest < index + size) : index % size ≠ latest % size := by
  intro same
  have apart : (latest - index) % size = 0 := Nat.sub_mod_eq_zero_of_mod_eq same.symm
  rw [Nat.mod_eq_of_lt (by omega)] at apart
  omega

/-- One write: the new value takes the cell of the value that is now too old. -/
theorem Keeps.push {cells written : List Cell} (keeps : Keeps cells written)
    (nonempty : 0 < cells.length) (value : Cell) :
    Keeps (cells.set (written.length % cells.length) value) (written ++ [value]) where
  kept index recent found lookup := by
    rw [List.length_set] at recent ⊢
    rw [List.length_append, List.length_singleton] at recent
    rcases Nat.lt_trichotomy index written.length with older | rfl | outside
    · rw [List.getElem?_append_left older] at lookup
      rw [List.getElem?_set_ne (slot_ne older (by omega)).symm]
      exact keeps.kept index (by omega) found lookup
    · rw [List.getElem?_concat_length, Option.some_inj] at lookup
      rw [List.getElem?_set_self (Nat.mod_lt _ nonempty), lookup]
    · rw [List.getElem?_eq_none (by simp; omega)] at lookup
      exact absurd lookup (Option.some_ne_none found).symm

/-- The index that is `back` cells behind the latest written one, computed from the cell that is
written next. -/
def slotBack (size next back : Nat) : Int := ((next : Int) - 1 - back + size).tmod size

theorem slotBack_eq {size written back : Nat} (inside : back < size) (logged : back < written) :
    slotBack size (written % size) back = ((written - 1 - back) % size : Nat) := by
  have positive : 0 ≤ ((written % size : Nat) : Int) - 1 - back + size := by omega
  rw [slotBack, Int.tmod_eq_emod_of_nonneg positive, Int.add_emod_right, Int.natCast_mod,
    sub_sub, Int.emod_sub_emod, ← sub_sub, Int.natCast_mod]
  congr 1
  omega

/-- Reading back from the latest written value. -/
theorem Keeps.get_slotBack {cells written : List Cell} (keeps : Keeps cells written) {back : Nat}
    (inside : back < cells.length) (logged : back < written.length) :
    cells[(slotBack cells.length (written.length % cells.length) back).toNat]? =
      written.reverse[back]? := by
  rw [slotBack_eq inside logged, Int.toNat_natCast, List.getElem?_reverse logged]
  have exists_value := List.getElem?_eq_getElem (l := written) (i := written.length - 1 - back)
    (by omega)
  rw [exists_value]
  exact keeps.kept _ (by omega) _ exists_value

theorem slotBack_nonneg {size written back : Nat} (inside : back < size)
    (logged : back < written) : 0 ≤ slotBack size (written % size) back := by
  rw [slotBack_eq inside logged]
  exact Int.natCast_nonneg _

end RingBuffer
