/-
This file is a small library for byte streams.

A number of fixed width travels as its bytes, least significant first. A message
travels behind enough of its own description that a reader knows where it ends: the
reader of such a code undoes the writer whatever bytes follow, and that one law is
what makes a whole stream of messages readable, one after the other, with nothing
left over.
-/

import Mathlib.Algebra.Order.Group.Nat
import Mathlib.Tactic.Ring

namespace Wire

/-! ### Little-endian numbers -/

/-- The lowest bytes of a number, least significant first. -/
def littleEndian : Nat → Nat → List UInt8
  | 0, _ => []
  | width + 1, number => UInt8.ofNat number :: littleEndian width (number / 256)

/-- The number whose bytes these are, least significant first. -/
def ofLittleEndian : List UInt8 → Nat
  | [] => 0
  | byte :: higher => byte.toNat + 256 * ofLittleEndian higher

@[simp] theorem length_littleEndian (width number : Nat) :
    (littleEndian width number).length = width := by
  induction width generalizing number with
  | zero => rfl
  | succ width inductionHypothesis => rw [littleEndian, List.length_cons, inductionHypothesis]

theorem ofLittleEndian_littleEndian {width number : Nat} (fits : number < 256 ^ width) :
    ofLittleEndian (littleEndian width number) = number := by
  induction width generalizing number with
  | zero =>
    rw [pow_zero, Nat.lt_one_iff] at fits
    exact fits.symm
  | succ width inductionHypothesis =>
    have higher : number / 256 < 256 ^ width :=
      Nat.div_lt_of_lt_mul (by rwa [pow_succ'] at fits)
    rw [littleEndian, ofLittleEndian, inductionHypothesis higher, UInt8.toNat_ofNat']
    exact Nat.mod_add_div number 256

theorem littleEndian_ofLittleEndian (bytes : List UInt8) :
    littleEndian bytes.length (ofLittleEndian bytes) = bytes := by
  induction bytes with
  | nil => rfl
  | cons byte higher inductionHypothesis =>
    have small := byte.toNat_lt
    have quotient : (byte.toNat + 256 * ofLittleEndian higher) / 256 = ofLittleEndian higher := by
      omega
    rw [List.length_cons, ofLittleEndian, littleEndian, quotient, inductionHypothesis,
      List.cons_eq_cons]
    exact ⟨UInt8.toNat_inj.mp (by rw [UInt8.toNat_ofNat']; omega), rfl⟩

theorem ofLittleEndian_lt (bytes : List UInt8) : ofLittleEndian bytes < 256 ^ bytes.length := by
  induction bytes with
  | nil => exact Nat.one_pos
  | cons byte higher inductionHypothesis =>
    have small := byte.toNat_lt
    rw [ofLittleEndian, List.length_cons, pow_succ']
    omega

/-! ### Streams of messages -/

section streams

variable {Symbol Message Failure : Type}

/-- The reader finds the end of what the writer wrote for a message, whatever follows it. -/
def Delimits (write : Message → List Symbol)
    (read : List Symbol → Except Failure (Message × List Symbol)) (message : Message) : Prop :=
  ∀ rest, read (write message ++ rest) = .ok (message, rest)

/-- Read a number of messages from the front of a stream. -/
def readMany (read : List Symbol → Except Failure (Message × List Symbol)) :
    Nat → List Symbol → Except Failure (List Message × List Symbol)
  | 0, stream => .ok ([], stream)
  | count + 1, stream => do
    let (message, rest) ← read stream
    let (messages, left) ← readMany read count rest
    return (message :: messages, left)

/-- A stream of delimited messages is read back message by message, and what follows the stream
is left. -/
theorem readMany_flatMap {write : Message → List Symbol}
    {read : List Symbol → Except Failure (Message × List Symbol)} (messages : List Message)
    (delimited : ∀ message ∈ messages, Delimits write read message) (rest : List Symbol) :
    readMany read messages.length (messages.flatMap write ++ rest) = .ok (messages, rest) := by
  induction messages with
  | nil => rfl
  | cons message messages inductionHypothesis =>
    have first := delimited message List.mem_cons_self
    have others := inductionHypothesis fun other member =>
      delimited other (List.mem_cons_of_mem _ member)
    rw [List.flatMap_cons, List.append_assoc, List.length_cons, readMany, first]
    simp only [Bind.bind, Except.bind, others]
    rfl

end streams

end Wire
