/-
This file is a small library of buffers of a fixed length that are filled field by field.

A write puts its content at an offset and has some room there; its content never exceeds
the room. What a field holds after many writes is what the last write to it left there, if
the others keep out of it. Whether they do is a matter of the offsets and rooms alone, so
it can be decided on the layout of the writes, whatever their contents are.
-/

import Mathlib.Algebra.Ring.Nat
import Mathlib.Data.List.Basic

namespace Buffer

variable {Cell : Type}

/-! ### Fields -/

/-- The cells from a start up to a stop. -/
def field (buffer : List Cell) (start stop : Nat) : List Cell := (buffer.take stop).drop start

/-- Two adjacent fields make one. -/
theorem field_append (buffer : List Cell) {start middle stop : Nat} (startLe : start ≤ middle)
    (middleLe : middle ≤ stop) :
    field buffer start middle ++ field buffer middle stop = field buffer start stop := by
  have cut : (buffer.take stop).take middle = buffer.take middle := by
    rw [List.take_take, Nat.min_eq_left middleLe]
  have whole := List.take_append_drop middle (buffer.take stop)
  rw [cut] at whole
  unfold field
  conv_rhs => rw [← whole]
  rcases Nat.le_total middle buffer.length with inside | outside
  · rw [List.drop_append_of_le_length (by rw [List.length_take]; omega)]
  · have none : (buffer.take stop).drop middle = [] :=
      List.drop_eq_nil_of_le (by rw [List.length_take]; omega)
    rw [none, List.append_nil, List.append_nil]

theorem field_replicate (cell : Cell) {start stop length : Nat} (inside : stop ≤ length) :
    field (List.replicate length cell) start stop = List.replicate (stop - start) cell := by
  rw [field, List.take_replicate, Nat.min_eq_left inside, List.drop_replicate]

/-- The fields of a part of a longer buffer. -/
theorem field_middle (before buffer after : List Cell) (start stop : Nat)
    (inside : stop ≤ buffer.length) :
    field (before ++ buffer ++ after) (before.length + start) (before.length + stop) =
      field buffer start stop := by
  rw [field, field, List.append_assoc, List.take_length_add_append,
    List.drop_length_add_append, List.take_append_of_le_length inside]

/-! ### Writes -/

/-- Some content for a place that has room for it. -/
structure Write (Cell : Type) where
  offset : Nat
  room : Nat
  content : List Cell
  fits : content.length ≤ room

def Write.run (write : Write Cell) (buffer : List Cell) : List Cell :=
  buffer.take write.offset ++ write.content ++ buffer.drop (write.offset + write.content.length)

/-- The place of a write: its offset and its room. -/
def Write.span (write : Write Cell) : Nat × Nat := (write.offset, write.room)

/-- Whether a place lies in a buffer of a length. -/
def inside (length : Nat) (span : Nat × Nat) : Bool := span.1 + span.2 ≤ length

/-- Whether a place keeps out of a field. -/
def apart (start stop : Nat) (span : Nat × Nat) : Bool := stop ≤ span.1 || span.1 + span.2 ≤ start

def runAll (writes : List (Write Cell)) (buffer : List Cell) : List Cell :=
  writes.foldl (fun buffer write => write.run buffer) buffer

variable {buffer : List Cell} {write : Write Cell}

theorem Write.length_run
    (room : inside buffer.length write.span) : (write.run buffer).length = buffer.length := by
  have fits := write.fits
  have room := of_decide_eq_true room
  rw [run, List.length_append, List.length_append, List.length_take, List.length_drop]
  dsimp only [span] at room
  omega

theorem Write.field_run_of_apart {start stop : Nat}
    (room : inside buffer.length write.span) (away : apart start stop write.span) :
    field (write.run buffer) start stop = field buffer start stop := by
  have fits := write.fits
  have room := of_decide_eq_true room
  dsimp only [span] at room
  have length : (buffer.take write.offset).length = write.offset := by
    rw [List.length_take]
    omega
  rcases (Bool.or_eq_true _ _).mp away with before | after
  · have before := of_decide_eq_true before
    dsimp only [span] at before
    rw [field, run, List.append_assoc, List.take_append_of_le_length (by omega), List.take_take,
      Nat.min_eq_left before, field]
  · have after := of_decide_eq_true after
    dsimp only [span] at after
    have filled : (buffer.take write.offset ++ write.content).length =
        write.offset + write.content.length := by rw [List.length_append, length]
    rw [field, field, List.drop_take, List.drop_take, run,
      show start = (write.offset + write.content.length) +
        (start - (write.offset + write.content.length)) by omega, ← filled,
      List.drop_length_add_append, filled, List.drop_drop]

theorem Write.field_run_self (room : inside buffer.length write.span) :
    field (write.run buffer) write.offset (write.offset + write.room) =
      write.content ++
        field buffer (write.offset + write.content.length) (write.offset + write.room) := by
  have fits := write.fits
  have room := of_decide_eq_true room
  dsimp only [span] at room
  have length : (buffer.take write.offset).length = write.offset := by
    rw [List.length_take]
    omega
  rw [field, List.drop_take, run, List.append_assoc, List.drop_left' length,
    show write.offset + write.room - write.offset = write.content.length +
      (write.room - write.content.length) by omega, List.take_length_add_append, field,
    List.drop_take]
  congr 2
  omega

variable {writes : List (Write Cell)}

theorem length_runAll (room : (writes.map Write.span).all (inside buffer.length)) :
    (runAll writes buffer).length = buffer.length := by
  induction writes generalizing buffer with
  | nil => rfl
  | cons write writes inductionHypothesis =>
    obtain ⟨first, rest⟩ := (Bool.and_eq_true _ _).mp room
    have length := Write.length_run first
    exact (inductionHypothesis (length ▸ rest)).trans length

/-- Writes that keep out of a field leave it alone. -/
theorem field_runAll_of_apart {start stop : Nat}
    (room : (writes.map Write.span).all (inside buffer.length))
    (away : (writes.map Write.span).all (apart start stop)) :
    field (runAll writes buffer) start stop = field buffer start stop := by
  induction writes generalizing buffer with
  | nil => rfl
  | cons write writes inductionHypothesis =>
    obtain ⟨first, rest⟩ := (Bool.and_eq_true _ _).mp room
    obtain ⟨firstAway, restAway⟩ := (Bool.and_eq_true _ _).mp away
    have length := Write.length_run first
    exact (inductionHypothesis (length ▸ rest) restAway).trans
      (Write.field_run_of_apart first firstAway)

theorem runAll_append (writes more : List (Write Cell)) (buffer : List Cell) :
    runAll (writes ++ more) buffer = runAll more (runAll writes buffer) :=
  List.foldl_append

/-- A field that one write is meant for and the others keep out of holds that write's content,
and what the buffer held behind it. -/
theorem field_runAll {before after : List (Write Cell)}
    (room : ((before ++ write :: after).map Write.span).all (inside buffer.length))
    (away : ((before ++ after).map Write.span).all
      (apart write.offset (write.offset + write.room))) :
    field (runAll (before ++ write :: after) buffer) write.offset (write.offset + write.room) =
      write.content ++
        field buffer (write.offset + write.content.length) (write.offset + write.room) := by
  rw [List.map_append, List.all_append] at room away
  obtain ⟨roomBefore, roomRest⟩ := (Bool.and_eq_true _ _).mp room
  obtain ⟨roomWrite, roomAfter⟩ := (Bool.and_eq_true _ _).mp roomRest
  obtain ⟨awayBefore, awayAfter⟩ := (Bool.and_eq_true _ _).mp away
  have length := length_runAll roomBefore
  have roomWrite : inside (runAll before buffer).length write.span := length.symm ▸ roomWrite
  have lengthAfter := (Write.length_run roomWrite).trans length
  have behind : (before.map Write.span).all
      (apart (write.offset + write.content.length) (write.offset + write.room)) := by
    refine List.all_eq_true.mpr fun span member => ?_
    have kept := List.all_eq_true.mp awayBefore span member
    unfold apart at kept ⊢
    rw [Bool.or_eq_true, decide_eq_true_iff, decide_eq_true_iff] at kept ⊢
    omega
  rw [runAll_append]
  show field (runAll after (write.run (runAll before buffer))) _ _ = _
  rw [field_runAll_of_apart (lengthAfter.symm ▸ roomAfter) awayAfter,
    Write.field_run_self roomWrite, field_runAll_of_apart roomBefore behind]

/-- The same, of the write at an index. -/
theorem field_runAll_getElem {index : Nat} (found : writes[index]? = some write)
    (room : (writes.map Write.span).all (inside buffer.length))
    (away : ((writes.map Write.span).eraseIdx index).all
      (apart write.offset (write.offset + write.room))) :
    field (runAll writes buffer) write.offset (write.offset + write.room) =
      write.content ++
        field buffer (write.offset + write.content.length) (write.offset + write.room) := by
  obtain ⟨bound, same⟩ := List.getElem?_eq_some_iff.mp found
  have whole : writes.take index ++ write :: writes.drop (index + 1) = writes := by
    rw [← same, List.getElem_cons_drop, List.take_append_drop]
  have others : (writes.map Write.span).eraseIdx index =
      (writes.take index ++ writes.drop (index + 1)).map Write.span := by
    rw [List.eraseIdx_eq_take_drop_succ, List.map_append, List.map_take, List.map_drop]
  rw [others] at away
  rw [← whole] at room
  have written := field_runAll room away
  rwa [whole] at written

end Buffer
