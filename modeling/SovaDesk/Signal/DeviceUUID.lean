/-
This file models the two forms of a device's installation UUID: the bytes a client sends
and the hexadecimal text the peers table keeps.

A registration stores the text it prints from the bytes and later compares the bytes it
reads back from the text, so what matters is that reading undoes printing. Byte fields
of a message are lists; a field that was not sent is empty.
-/

import Mathlib.Data.List.Basic

namespace SovaDesk.Signal

abbrev Bytes := List UInt8

/-! ### Hexadecimal text -/

def hexDigit (value : Nat) : Char :=
  if value < 10 then Char.ofNat (48 + value) else Char.ofNat (87 + value)

/-- The value of a digit, in either case. -/
def hexValue (digit : Char) : Option Nat :=
  if '0' ≤ digit ∧ digit ≤ '9' then some (digit.toNat - 48)
  else if 'a' ≤ digit ∧ digit ≤ 'f' then some (digit.toNat - 87)
  else if 'A' ≤ digit ∧ digit ≤ 'F' then some (digit.toNat - 55)
  else none

def hexDigits (bytes : Bytes) : List Char :=
  bytes.flatMap fun byte => [hexDigit (byte.toNat / 16), hexDigit (byte.toNat % 16)]

/-- The text printed for bytes: two lower case digits for each. -/
def hexText (bytes : Bytes) : String := String.ofList (hexDigits bytes)

/-- `hex.DecodeString`: nothing for a character that is no digit and for a digit left over. -/
def hexDecode : List Char → Option Bytes
  | [] => some []
  | [_] => none
  | high :: low :: rest =>
    match hexValue high, hexValue low, hexDecode rest with
    | some h, some l, some bytes => some (UInt8.ofNat (16 * h + l) :: bytes)
    | _, _, _ => none

theorem hexValue_hexDigit {value : Nat} (small : value < 16) :
    hexValue (hexDigit value) = some value := by
  have all : ∀ digit : Fin 16, hexValue (hexDigit digit) = some digit.val := by decide
  exact all ⟨value, small⟩

/-- Reading the digits of bytes gives the bytes back. -/
theorem hexDecode_hexDigits (bytes : Bytes) : hexDecode (hexDigits bytes) = some bytes := by
  induction bytes with
  | nil => rfl
  | cons byte rest inductionHypothesis =>
    have bound : byte.toNat < 256 := byte.toNat_lt
    have high : hexValue (hexDigit (byte.toNat / 16)) = some (byte.toNat / 16) :=
      hexValue_hexDigit (by omega)
    have low : hexValue (hexDigit (byte.toNat % 16)) = some (byte.toNat % 16) :=
      hexValue_hexDigit (by omega)
    have whole : UInt8.ofNat (16 * (byte.toNat / 16) + byte.toNat % 16) = byte := by
      rw [Nat.div_add_mod, UInt8.ofNat_toNat]
    show hexDecode (hexDigit (byte.toNat / 16) :: hexDigit (byte.toNat % 16) :: hexDigits rest) =
      some (byte :: rest)
    rw [hexDecode, high, low, inductionHypothesis]
    simp only [whole]

theorem hexText_eq_empty {bytes : Bytes} : hexText bytes = "" ↔ bytes = [] := by
  cases bytes with
  | nil => exact iff_of_true rfl rfl
  | cons byte rest =>
    refine iff_of_false (fun empty => ?_) (List.cons_ne_nil byte rest)
    have characters := congrArg String.toList empty
    rw [hexText, String.toList_ofList] at characters
    exact List.cons_ne_nil _ _ characters

/-! ### UUIDs -/

/-- `peerUUIDFromDB`: the bytes of a stored UUID; text that is not hexadecimal stands for itself. -/
def peerUUIDFromDB (stored : String) : Bytes :=
  if stored = "" then []
  else
    match hexDecode stored.toList with
    | some (byte :: rest) => byte :: rest
    | _ => stored.toUTF8.data.toList

/-- `normalizePeerUUIDBytes`: bytes that are themselves hexadecimal text are decoded, unless there
are sixteen of them. -/
def normalizePeerUUIDBytes (raw : Bytes) : Bytes :=
  if raw.length = 0 then []
  else if raw.length = 16 then raw
  else if raw.length = 32 ∨ raw.length % 2 = 0 then
    match hexDecode (raw.map fun byte => Char.ofNat byte.toNat) with
    | some (byte :: rest) => byte :: rest
    | _ => raw
  else raw

def peerUUIDEqual (a b : Bytes) : Bool := normalizePeerUUIDBytes a == normalizePeerUUIDBytes b

theorem peerUUIDEqual_refl (uuid : Bytes) : peerUUIDEqual uuid uuid = true := beq_self_eq_true _

/-- What a registration stored is what it reads back. -/
theorem peerUUIDFromDB_hexText (uuid : Bytes) : peerUUIDFromDB (hexText uuid) = uuid := by
  cases uuid with
  | nil => rfl
  | cons byte rest =>
    have stored : hexText (byte :: rest) ≠ "" :=
      fun empty => List.cons_ne_nil byte rest (hexText_eq_empty.mp empty)
    rw [peerUUIDFromDB, if_neg stored, hexText, String.toList_ofList, hexDecode_hexDigits]

end SovaDesk.Signal
