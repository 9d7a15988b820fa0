/-
This file is a small library of UTF-8: the encoding of characters and a decoder that never
fails.

The decoder takes one byte at a time. It knows how many bytes of the current character it
still needs and between which bounds the next one must lie; a byte that cannot continue a
character becomes a replacement character, and may begin the next one. What was encoded is
decoded to itself, whatever follows. A text that has to fit a number of bytes is cut
between two characters.
-/

import Mathlib.Algebra.Ring.Nat
import Mathlib.Data.List.Basic

namespace Utf8

/-! ### Encoding -/

def encodeChar (c : Char) : List UInt8 :=
  let code := c.toNat
  if code < 0x80 then [UInt8.ofNat code]
  else if code < 0x800 then [UInt8.ofNat (0xC0 + code / 64), UInt8.ofNat (0x80 + code % 64)]
  else if code < 0x10000 then
    [UInt8.ofNat (0xE0 + code / 4096), UInt8.ofNat (0x80 + code / 64 % 64),
      UInt8.ofNat (0x80 + code % 64)]
  else
    [UInt8.ofNat (0xF0 + code / 262144), UInt8.ofNat (0x80 + code / 4096 % 64),
      UInt8.ofNat (0x80 + code / 64 % 64), UInt8.ofNat (0x80 + code % 64)]

def encode (text : List Char) : List UInt8 := text.flatMap encodeChar

theorem encode_cons (c : Char) (text : List Char) :
    encode (c :: text) = encodeChar c ++ encode text :=
  List.flatMap_cons

theorem length_encodeChar_le (c : Char) : (encodeChar c).length ≤ 4 := by
  unfold encodeChar
  dsimp only
  split
  · exact (Nat.le_add_left 1 3 : 1 ≤ 4)
  · split
    · exact (Nat.le_add_left 2 2 : 2 ≤ 4)
    · split
      · exact (Nat.le_add_left 3 1 : 3 ≤ 4)
      · exact (Nat.le_refl 4 : 4 ≤ 4)

/-! ### Decoding -/

def replacement : Char := Char.ofNat 0xFFFD

/-- Where a decoder stands: the bytes it needs for the current character, if it has begun one, the
code so far, and the bounds of the next byte. -/
structure Decoder where
  needed : Nat
  code : Nat
  lower : Nat
  upper : Nat

def Decoder.idle : Decoder := ⟨0, 0, 0x80, 0xBF⟩

/-- The first byte of a character. -/
def Decoder.begin (byte : Nat) : List Char × Decoder :=
  if byte < 0x80 then ([Char.ofNat byte], .idle)
  else if 0xC2 ≤ byte ∧ byte ≤ 0xDF then ([], ⟨1, byte - 0xC0, 0x80, 0xBF⟩)
  else if 0xE0 ≤ byte ∧ byte ≤ 0xEF then
    ([], ⟨2, byte - 0xE0, if byte = 0xE0 then 0xA0 else 0x80, if byte = 0xED then 0x9F else 0xBF⟩)
  else if 0xF0 ≤ byte ∧ byte ≤ 0xF4 then
    ([], ⟨3, byte - 0xF0, if byte = 0xF0 then 0x90 else 0x80, if byte = 0xF4 then 0x8F else 0xBF⟩)
  else ([replacement], .idle)

/-- One byte: the characters it completes, and the decoder after it. -/
def Decoder.feed (decoder : Decoder) (byte : Nat) : List Char × Decoder :=
  if decoder.needed = 0 then Decoder.begin byte
  else if decoder.lower ≤ byte ∧ byte ≤ decoder.upper then
    let code := decoder.code * 64 + byte % 64
    if decoder.needed = 1 then ([Char.ofNat code], .idle)
    else ([], ⟨decoder.needed - 1, code, 0x80, 0xBF⟩)
  else (replacement :: (Decoder.begin byte).1, (Decoder.begin byte).2)

def Decoder.run (decoder : Decoder) : List UInt8 → List Char
  | [] => if decoder.needed = 0 then [] else [replacement]
  | byte :: rest => (decoder.feed byte.toNat).1 ++ (decoder.feed byte.toNat).2.run rest

def decode (bytes : List UInt8) : List Char := Decoder.idle.run bytes

theorem Decoder.idle_feed (byte : Nat) : Decoder.idle.feed byte = Decoder.begin byte := rfl

theorem Decoder.run_cons {decoder next : Decoder} {byte : Nat} {out : List Char}
    (small : byte < 256) (fed : decoder.feed byte = (out, next)) (rest : List UInt8) :
    decoder.run (UInt8.ofNat byte :: rest) = out ++ next.run rest := by
  rw [run, UInt8.toNat_ofNat', Nat.mod_eq_of_lt small, fed]

/-- A byte that continues a character and is not its last. -/
theorem Decoder.feed_more {needed code lower upper byte : Nat}
    (inside : lower ≤ byte ∧ byte ≤ upper) :
    Decoder.feed ⟨needed + 2, code, lower, upper⟩ byte =
      ([], ⟨needed + 1, code * 64 + byte % 64, 0x80, 0xBF⟩) := by
  rw [feed, if_neg (Nat.succ_ne_zero _), if_pos inside]
  exact if_neg (show needed + 2 ≠ 1 by omega)

/-- The last byte of a character. -/
theorem Decoder.feed_last {code lower upper byte : Nat} (inside : lower ≤ byte ∧ byte ≤ upper) :
    Decoder.feed ⟨1, code, lower, upper⟩ byte = ([Char.ofNat (code * 64 + byte % 64)], .idle) := by
  rw [feed, if_neg Nat.one_ne_zero, if_pos inside]
  exact if_pos rfl

theorem toNat_cases (c : Char) : c.toNat < 0xD800 ∨ 0xDFFF < c.toNat ∧ c.toNat < 0x110000 := c.valid

/-- What was encoded is decoded to itself, whatever follows. -/
theorem decode_encodeChar (c : Char) (rest : List UInt8) :
    decode (encodeChar c ++ rest) = c :: decode rest := by
  have valid := toNat_cases c
  have same : Char.ofNat c.toNat = c := Char.ofNat_toNat c
  unfold encodeChar decode
  generalize c.toNat = code at valid same
  dsimp only
  split
  · next ascii =>
    have fed : Decoder.idle.feed code = ([c], .idle) := by
      rw [Decoder.idle_feed, Decoder.begin, if_pos ascii, same]
    exact Decoder.run_cons (by omega) fed rest
  · next notAscii =>
    split
    · next two =>
      have fed : Decoder.idle.feed (0xC0 + code / 64) = ([], ⟨1, code / 64, 0x80, 0xBF⟩) := by
        rw [Decoder.idle_feed, Decoder.begin, if_neg (by omega), if_pos (by omega),
          Nat.add_sub_cancel_left]
      have last : Decoder.feed ⟨1, code / 64, 0x80, 0xBF⟩ (0x80 + code % 64) = ([c], .idle) := by
        rw [Decoder.feed_last (by omega), show code / 64 * 64 + (0x80 + code % 64) % 64 = code by
          omega, same]
      rw [List.cons_append, Decoder.run_cons (by omega) fed, List.cons_append,
        Decoder.run_cons (by omega) last]
      rfl
    · next notTwo =>
      split
      · next three =>
        have fed : Decoder.idle.feed (0xE0 + code / 4096) = ([], ⟨2, code / 4096,
            if 0xE0 + code / 4096 = 0xE0 then 0xA0 else 0x80,
            if 0xE0 + code / 4096 = 0xED then 0x9F else 0xBF⟩) := by
          rw [Decoder.idle_feed, Decoder.begin, if_neg (by omega), if_neg (by omega),
            if_pos (by omega), Nat.add_sub_cancel_left]
        have middle := @Decoder.feed_more 0 (code / 4096)
          (if 0xE0 + code / 4096 = 0xE0 then 0xA0 else 0x80)
          (if 0xE0 + code / 4096 = 0xED then 0x9F else 0xBF) (0x80 + code / 64 % 64)
          (by split <;> split <;> omega)
        have last : Decoder.feed ⟨1, code / 4096 * 64 + (0x80 + code / 64 % 64) % 64, 0x80, 0xBF⟩
            (0x80 + code % 64) = ([c], .idle) := by
          rw [Decoder.feed_last (by omega), show (code / 4096 * 64 + (0x80 + code / 64 % 64) % 64) *
            64 + (0x80 + code % 64) % 64 = code by omega, same]
        rw [List.cons_append, Decoder.run_cons (by omega) fed, List.cons_append,
          Decoder.run_cons (by omega) middle, List.cons_append, Decoder.run_cons (by omega) last]
        rfl
      · next four =>
        have fed : Decoder.idle.feed (0xF0 + code / 262144) = ([], ⟨3, code / 262144,
            if 0xF0 + code / 262144 = 0xF0 then 0x90 else 0x80,
            if 0xF0 + code / 262144 = 0xF4 then 0x8F else 0xBF⟩) := by
          rw [Decoder.idle_feed, Decoder.begin, if_neg (by omega), if_neg (by omega),
            if_neg (by omega), if_pos (by omega), Nat.add_sub_cancel_left]
        have second := @Decoder.feed_more 1 (code / 262144)
          (if 0xF0 + code / 262144 = 0xF0 then 0x90 else 0x80)
          (if 0xF0 + code / 262144 = 0xF4 then 0x8F else 0xBF) (0x80 + code / 4096 % 64)
          (by split <;> split <;> omega)
        have third := @Decoder.feed_more 0 (code / 262144 * 64 + (0x80 + code / 4096 % 64) % 64)
          0x80 0xBF (0x80 + code / 64 % 64) (by omega)
        have last : Decoder.feed ⟨1, (code / 262144 * 64 + (0x80 + code / 4096 % 64) % 64) * 64 +
            (0x80 + code / 64 % 64) % 64, 0x80, 0xBF⟩ (0x80 + code % 64) = ([c], .idle) := by
          rw [Decoder.feed_last (by omega), show ((code / 262144 * 64 + (0x80 + code / 4096 % 64) %
            64) * 64 + (0x80 + code / 64 % 64) % 64) * 64 + (0x80 + code % 64) % 64 = code by
            omega, same]
        rw [List.cons_append, Decoder.run_cons (by omega) fed, List.cons_append,
          Decoder.run_cons (by omega) second, List.cons_append, Decoder.run_cons (by omega) third,
          List.cons_append, Decoder.run_cons (by omega) last]
        rfl

theorem decode_encode_append (text : List Char) (rest : List UInt8) :
    decode (encode text ++ rest) = text ++ decode rest := by
  induction text with
  | nil => rfl
  | cons c text inductionHypothesis =>
    rw [encode_cons, List.append_assoc, decode_encodeChar, inductionHypothesis, List.cons_append]

/-! ### Cutting -/

/-- The longest initial part of a text that fits a number of bytes. -/
def takeWhole : Nat → List Char → List Char
  | _, [] => []
  | most, c :: text =>
    if (encodeChar c).length ≤ most then c :: takeWhole (most - (encodeChar c).length) text else []

theorem length_encode_takeWhole_le (most : Nat) (text : List Char) :
    (encode (takeWhole most text)).length ≤ most := by
  induction text generalizing most with
  | nil => exact Nat.zero_le most
  | cons c text inductionHypothesis =>
    rw [takeWhole]
    split
    · next fits =>
      have rest := inductionHypothesis (most - (encodeChar c).length)
      rw [encode_cons, List.length_append]
      omega
    · exact Nat.zero_le most

variable {most : Nat} {text : List Char}

theorem takeWhole_eq_self (fits : (encode text).length ≤ most) :
    takeWhole most text = text := by
  induction text generalizing most with
  | nil => rfl
  | cons c text inductionHypothesis =>
    rw [encode_cons, List.length_append] at fits
    rw [takeWhole, if_pos (by omega), inductionHypothesis (by omega)]

theorem takeWhole_ne_nil (room : 4 ≤ most) (nonempty : text ≠ []) :
    takeWhole most text ≠ [] := by
  obtain ⟨c, rest, rfl⟩ := List.exists_cons_of_ne_nil nonempty
  rw [takeWhole, if_pos (Nat.le_trans (length_encodeChar_le c) room)]
  exact List.cons_ne_nil c _

theorem takeWhole_subset : takeWhole most text ⊆ text := by
  induction text generalizing most with
  | nil => exact List.Subset.refl []
  | cons c text inductionHypothesis =>
    rw [takeWhole]
    split
    · exact List.cons_subset_cons c inductionHypothesis
    · exact List.nil_subset _

/-- A text that does not fit is made shorter. -/
theorem length_takeWhole_lt (long : most < (encode text).length) :
    (takeWhole most text).length < text.length := by
  induction text generalizing most with
  | nil => exact absurd long (Nat.not_lt_zero most)
  | cons c text inductionHypothesis =>
    rw [encode_cons, List.length_append] at long
    rw [takeWhole]
    split
    · exact Nat.succ_lt_succ (inductionHypothesis (by omega))
    · exact Nat.succ_pos _

end Utf8
