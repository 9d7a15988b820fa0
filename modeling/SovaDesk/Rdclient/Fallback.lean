/-
This file models the hash function that the browser falls back on, and settles for which messages it
is SHA-256.

The numbers of the language are exact here: its bit operations read them modulo `2 ^ 32` and give
signed numbers, except for the shift that gives an unsigned one. Taken modulo `2 ^ 32` the rounds
are those of the standard. The padding is not always: for every message whose length leaves 48 to
55 modulo 64 it is one block too long, which is not what the standard hashes.
-/

import Mathlib.Algebra.Ring.Nat
import SovaDesk.Lib.Sha256

namespace SovaDesk.Rdclient.Fallback

open Sha256 (Word Registers)

/-! ### Numbers of the language -/

/-- What the bit operations read of a number. -/
def word (x : Int) : Word := BitVec.ofInt 32 x

/-- `x >>> n`. -/
def shiftRight (x : Int) (n : Nat) : Int := (word x >>> n).toNat

/-- `x << n`. -/
def shiftLeft (x : Int) (n : Nat) : Int := (word x <<< n).toInt

def or (x y : Int) : Int := (word x ||| word y).toInt
def and (x y : Int) : Int := (word x &&& word y).toInt
def xor (x y : Int) : Int := (word x ^^^ word y).toInt
def not (x : Int) : Int := (~~~word x).toInt

/-- `x | 0`. -/
def signed (x : Int) : Int := or x 0

/-- What a cell of unsigned numbers keeps. -/
def unsigned (x : Int) : Int := (word x).toNat

/-! ### `_sha256Fallback` -/

def rotr (x : Int) (n : Nat) : Int := or (shiftRight x n) (shiftLeft x (32 - n))
def ch (x y z : Int) : Int := xor (and x y) (and (not x) z)
def maj (x y z : Int) : Int := xor (xor (and x y) (and x z)) (and y z)
def sigma0 (x : Int) : Int := xor (xor (rotr x 2) (rotr x 13)) (rotr x 22)
def sigma1 (x : Int) : Int := xor (xor (rotr x 6) (rotr x 11)) (rotr x 25)
def gamma0 (x : Int) : Int := xor (xor (rotr x 7) (rotr x 18)) (shiftRight x 3)
def gamma1 (x : Int) : Int := xor (xor (rotr x 17) (rotr x 19)) (shiftRight x 10)

def K : List Int := [
  0x428a2f98, 0x71374491, 0xb5c0fbcf, 0xe9b5dba5, 0x3956c25b, 0x59f111f1, 0x923f82a4, 0xab1c5ed5,
  0xd807aa98, 0x12835b01, 0x243185be, 0x550c7dc3, 0x72be5d74, 0x80deb1fe, 0x9bdc06a7, 0xc19bf174,
  0xe49b69c1, 0xefbe4786, 0x0fc19dc6, 0x240ca1cc, 0x2de92c6f, 0x4a7484aa, 0x5cb0a9dc, 0x76f988da,
  0x983e5152, 0xa831c66d, 0xb00327c8, 0xbf597fc7, 0xc6e00bf3, 0xd5a79147, 0x06ca6351, 0x14292967,
  0x27b70a85, 0x2e1b2138, 0x4d2c6dfc, 0x53380d13, 0x650a7354, 0x766a0abb, 0x81c2c92e, 0x92722c85,
  0xa2bfe8a1, 0xa81a664b, 0xc24b8b70, 0xc76c51a3, 0xd192e819, 0xd6990624, 0xf40e3585, 0x106aa070,
  0x19a4c116, 0x1e376c08, 0x2748774c, 0x34b0bcb5, 0x391c0cb3, 0x4ed8aa4a, 0x5b9cca4f, 0x682e6ff3,
  0x748f82ee, 0x78a5636f, 0x84c87814, 0x8cc70208, 0x90befffa, 0xa4506ceb, 0xbef9a3f7, 0xc67178f2]

def padLen (msgLen : Nat) : Nat :=
  if (msgLen + 8) % 64 < 56 then 56 - (msgLen + 8) % 64 + 8 else 120 - (msgLen + 8) % 64 + 8

/-- `setUint32`, the highest byte first. -/
def setUint32 (view : List UInt8) (position : Nat) (value : Int) : List UInt8 :=
  view.take position ++ Sha256.bigEndian 4 (word value).toNat ++ view.drop (position + 4)

/-- The message in zeros, the bit behind it and the length at the end. -/
def padded (message : List UInt8) : List UInt8 :=
  let msgLen := message.length
  let bitLen : Int := msgLen * 8
  let zeros := List.replicate (msgLen + padLen msgLen + 8) 0
  let view := (message ++ zeros.drop msgLen).set msgLen 0x80
  setUint32 view (view.length - 4) bitLen

/-- The words of a block, as the first loop reads them. -/
def firstWords (view : List UInt8) (offset : Nat) : List Int :=
  (List.range 16).map fun i => (Sha256.wordAt view (offset + i * 4) : Int)

/-- The body of the second loop. -/
def nextWord (W : List Int) : List Int :=
  let i := W.length
  W ++ [unsigned (signed (gamma1 (W.getD (i - 2) 0) + W.getD (i - 7) 0 +
    gamma0 (W.getD (i - 15) 0) + W.getD (i - 16) 0))]

/-- The body of the third loop. -/
def round (r : Registers Int) (k w : Int) : Registers Int :=
  let t1 := signed (r.h + sigma1 r.e + ch r.e r.f r.g + k + w)
  let t2 := signed (sigma0 r.a + maj r.a r.b r.c)
  ⟨signed (t1 + t2), r.a, r.b, r.c, signed (r.d + t1), r.e, r.f, r.g⟩

/-- The body of the loop over the blocks. -/
def processBlock (view : List UInt8) (h : Registers Int) (offset : Nat) : Registers Int :=
  let W := nextWord^[48] (firstWords view offset)
  let r := (K.zip W).foldl (fun r kw => round r kw.1 kw.2) h
  ⟨signed (h.a + r.a), signed (h.b + r.b), signed (h.c + r.c), signed (h.d + r.d),
    signed (h.e + r.e), signed (h.f + r.f), signed (h.g + r.g), signed (h.h + r.h)⟩

def initial : Registers Int :=
  ⟨0x6a09e667, 0xbb67ae85, 0x3c6ef372, 0xa54ff53a, 0x510e527f, 0x9b05688c, 0x1f83d9ab, 0x5be0cd19⟩

/-- `_sha256Fallback`. The loop over the blocks goes on while its offset is inside the padded
message. -/
def sha256Fallback (message : List UInt8) : List UInt8 :=
  let view := padded message
  let offsets := (List.range ((view.length + 63) / 64)).map (64 * ·)
  ((offsets.foldl (processBlock view) initial).toList).flatMap fun value =>
    Sha256.bigEndian 4 (word value).toNat

/-- `_sha256`, with the digest of the browser where there is one. -/
def sha256 (subtle : Option (List UInt8 → List UInt8)) (data : List UInt8) : List UInt8 :=
  match subtle with
  | some digest => digest data
  | none => sha256Fallback data

/-- `hashPassword`, on the bytes of its three texts. -/
def hashPassword (subtle : Option (List UInt8 → List UInt8))
    (passwordBytes saltBytes challengeBytes : List UInt8) : List UInt8 :=
  sha256 subtle (sha256 subtle (passwordBytes ++ saltBytes) ++ challengeBytes)

/-! ### The rounds, modulo `2 ^ 32` -/

theorem word_toInt (v : Word) : word v.toInt = v := BitVec.ofInt_toInt

theorem word_toNat (v : Word) : word v.toNat = v := by
  rw [word, BitVec.ofInt_natCast, BitVec.ofNat_toNat, BitVec.setWidth_eq]

theorem word_add (x y : Int) : word (x + y) = word x + word y := BitVec.ofInt_add x y

variable (x : Int)

theorem word_signed : word (signed x) = word x := by
  rw [signed, or, word_toInt]
  exact BitVec.or_zero

theorem word_unsigned : word (unsigned x) = word x := word_toNat _

theorem word_or (x y : Int) : word (or x y) = word x ||| word y := word_toInt _
theorem word_and (x y : Int) : word (and x y) = word x &&& word y := word_toInt _
theorem word_xor (x y : Int) : word (xor x y) = word x ^^^ word y := word_toInt _
theorem word_not : word (not x) = ~~~word x := word_toInt _
theorem word_shiftRight (n : Nat) : word (shiftRight x n) = word x >>> n := word_toNat _
theorem word_shiftLeft (n : Nat) : word (shiftLeft x n) = word x <<< n := word_toInt _

theorem word_rotr (n : Nat) : word (rotr x n) = Sha256.rotr n (word x) := by
  rw [rotr, word_or, word_shiftRight, word_shiftLeft]
  rfl

theorem word_ch (x y z : Int) : word (ch x y z) = Sha256.ch (word x) (word y) (word z) := by
  rw [ch, word_xor, word_and, word_and, word_not]
  rfl

theorem word_maj (x y z : Int) : word (maj x y z) = Sha256.maj (word x) (word y) (word z) := by
  rw [maj, word_xor, word_xor, word_and, word_and, word_and]
  rfl

theorem word_sigma0 : word (sigma0 x) = Sha256.bsig0 (word x) := by
  rw [sigma0, word_xor, word_xor, word_rotr, word_rotr, word_rotr]
  rfl

theorem word_sigma1 : word (sigma1 x) = Sha256.bsig1 (word x) := by
  rw [sigma1, word_xor, word_xor, word_rotr, word_rotr, word_rotr]
  rfl

theorem word_gamma0 : word (gamma0 x) = Sha256.ssig0 (word x) := by
  rw [gamma0, word_xor, word_xor, word_rotr, word_rotr, word_shiftRight]
  rfl

theorem word_gamma1 : word (gamma1 x) = Sha256.ssig1 (word x) := by
  rw [gamma1, word_xor, word_xor, word_rotr, word_rotr, word_shiftRight]
  rfl

theorem map_K : K.map word = Sha256.roundConstants := by decide +kernel

theorem map_initial : initial.map word = Sha256.initial := by decide +kernel

theorem map_firstWords (view : List UInt8) (i : Nat) :
    (firstWords view (64 * i)).map word = Sha256.block view i := by
  unfold firstWords Sha256.block
  rw [List.map_map]
  refine List.map_congr_left fun j _ => ?_
  rw [Function.comp_apply, word, BitVec.ofInt_natCast, Nat.mul_comm j 4]

theorem word_getD (W : List Int) (i : Nat) : word (W.getD i 0) = (W.map word).getD i 0 := by
  rw [List.getD_eq_getElem?_getD, List.getD_eq_getElem?_getD, List.getElem?_map]
  cases W[i]? with
  | none => rfl
  | some x => rfl

theorem map_nextWord (W : List Int) : (nextWord W).map word = Sha256.extend (W.map word) := by
  unfold nextWord Sha256.extend
  dsimp only
  rw [List.map_append, List.length_map, List.map_singleton, word_unsigned, word_signed, word_add,
    word_add, word_add, word_gamma1, word_gamma0, word_getD, word_getD, word_getD, word_getD]

theorem map_round (r : Registers Int) (k w : Int) :
    (round r k w).map word = Sha256.round (r.map word) (word k) (word w) := by
  unfold round Sha256.round Registers.map
  simp only [word_signed, word_add, word_sigma0, word_sigma1, word_ch, word_maj]

theorem map_rounds (r : Registers Int) (kws : List (Int × Int)) :
    (kws.foldl (fun r kw => round r kw.1 kw.2) r).map word =
      (kws.map (Prod.map word word)).foldl (fun r kw => Sha256.round r kw.1 kw.2) (r.map word) := by
  induction kws generalizing r with
  | nil => rfl
  | cons kw rest inductionHypothesis =>
    rw [List.foldl_cons, inductionHypothesis, map_round]
    rfl

/-- A block is worked in as the standard says. -/
theorem map_processBlock (view : List UInt8) (h : Registers Int) (i : Nat) :
    (processBlock view h (64 * i)).map word =
      Sha256.compress (h.map word) (Sha256.block view i) := by
  have words : (nextWord^[48] (firstWords view (64 * i))).map word =
      Sha256.schedule (Sha256.block view i) := by
    rw [Sha256.schedule, ← map_firstWords]
    exact (Function.Semiconj.iterate_right map_nextWord 48) _
  have rounds := map_rounds h (K.zip (nextWord^[48] (firstWords view (64 * i))))
  rw [← List.zip_map, map_K, words] at rounds
  unfold processBlock Sha256.compress
  dsimp only
  rw [← rounds]
  unfold Registers.map
  simp only [word_signed, word_add]

theorem map_blocks (view : List UInt8) (indices : List Nat) (h : Registers Int) :
    ((indices.map (64 * ·)).foldl (processBlock view) h).map word =
      indices.foldl (fun H i => Sha256.compress H (Sha256.block view i)) (h.map word) := by
  induction indices generalizing h with
  | nil => rfl
  | cons i rest inductionHypothesis =>
    rw [List.map_cons, List.foldl_cons, inductionHypothesis, map_processBlock, List.foldl_cons]

/-! ### The padding -/

theorem padLen_pos (msgLen : Nat) : 0 < padLen msgLen := by
  unfold padLen
  split <;> omega

/-- The number of zeros is the standard's except for eight lengths modulo 64. -/
theorem padLen_eq_iff (msgLen : Nat) :
    padLen msgLen = Sha256.zeroCount msgLen + 1 ↔ ¬(48 ≤ msgLen % 64 ∧ msgLen % 64 < 56) := by
  unfold padLen Sha256.zeroCount
  split <;> omega

theorem length_padded_mod (msgLen : Nat) : (msgLen + padLen msgLen + 8) % 64 = 0 := by
  unfold padLen
  split <;> omega

/-- The message with the bit behind it, in zeros. -/
theorem set_bit (message : List UInt8) (n : Nat) :
    (message ++ (List.replicate (message.length + (n + 1)) 0).drop message.length).set
      message.length 0x80 = message ++ 0x80 :: List.replicate n 0 := by
  rw [List.drop_replicate, Nat.add_sub_cancel_left, List.replicate_succ,
    List.set_append_right _ _ (Nat.le_refl _), Nat.sub_self, List.set_cons_zero]

/-- What the fallback hashes: its own number of zeros stands before the length. -/
theorem padded_eq (message : List UInt8) (short : message.length < 2 ^ 29) :
    padded message = message ++ 0x80 :: List.replicate (padLen message.length - 1) 0 ++
      Sha256.bigEndian 8 (8 * message.length) := by
  obtain ⟨zeros, counted⟩ : ∃ zeros, padLen message.length = zeros + 1 :=
    Nat.exists_eq_add_one.mpr (padLen_pos _)
  have bits : (word ((message.length : Int) * 8)).toNat = 8 * message.length := by
    have cast : (message.length : Int) * 8 = ((message.length * 8 : Nat) : Int) := by omega
    rw [cast, word, BitVec.ofInt_natCast, BitVec.toNat_ofNat, Nat.mod_eq_of_lt (by omega),
      Nat.mul_comm]
  have high : 8 * message.length / 256 ^ 4 = 0 := Nat.div_eq_of_lt (by omega)
  unfold padded setUint32
  dsimp only
  rw [counted, Nat.add_assoc, Nat.add_right_comm zeros 1 8, set_bit, bits,
    Sha256.bigEndian_add 4 4, high, Sha256.bigEndian_zero, Nat.add_sub_cancel]
  have ends : (message ++ 0x80 :: List.replicate (zeros + 8) (0 : UInt8)) =
      (message ++ 0x80 :: List.replicate (zeros + 4) 0) ++ List.replicate 4 0 := by
    rw [List.append_assoc, List.cons_append, List.replicate_append_replicate]
  have front : (message ++ 0x80 :: List.replicate (zeros + 8) (0 : UInt8)).length - 4 =
      (message ++ 0x80 :: List.replicate (zeros + 4) (0 : UInt8)).length := by
    simp only [List.length_append, List.length_cons, List.length_replicate]
    omega
  rw [front, ends, List.take_left, List.drop_append, Nat.add_sub_cancel_left,
    List.drop_eq_nil_of_le (Nat.le_add_right _ _), List.nil_append, List.drop_replicate,
    Nat.sub_self, List.replicate_zero, List.append_nil, ← List.replicate_append_replicate]
  simp only [List.append_assoc, List.cons_append]

theorem length_padded (message : List UInt8) (short : message.length < 2 ^ 29) :
    (padded message).length = message.length + padLen message.length + 8 := by
  have pos := padLen_pos message.length
  rw [padded_eq message short]
  simp only [List.length_append, List.length_cons, List.length_replicate,
    Sha256.length_bigEndian]
  omega

/-- The fallback is the standard's hash of what it has padded. -/
theorem sha256Fallback_eq (message : List UInt8) (short : message.length < 2 ^ 29) :
    sha256Fallback message = Sha256.digest (padded message) := by
  have blocks : ((padded message).length + 63) / 64 = (padded message).length / 64 := by
    have whole := length_padded_mod message.length
    rw [← length_padded message short] at whole
    omega
  have work := map_blocks (padded message) (List.range ((padded message).length / 64)) initial
  unfold sha256Fallback Sha256.digest
  dsimp only
  rw [blocks, ← map_initial, ← work, Registers.toList, Registers.toList, Registers.map]
  simp only [List.flatMap_cons, List.flatMap_nil]

/-- It pads as the standard does except for eight lengths modulo 64. -/
theorem padded_eq_iff (message : List UInt8) (short : message.length < 2 ^ 29) :
    padded message = Sha256.pad message ↔
      ¬(48 ≤ message.length % 64 ∧ message.length % 64 < 56) := by
  have pos := padLen_pos message.length
  rw [← padLen_eq_iff]
  constructor
  · intro same
    have lengths := congrArg List.length same
    rw [length_padded message short, Sha256.pad] at lengths
    simp only [List.length_append, List.length_cons, List.length_replicate,
      Sha256.length_bigEndian] at lengths
    omega
  · intro counted
    rw [padded_eq message short, counted, Sha256.pad, Nat.add_sub_cancel]

/-! ### The standard's hash -/

/-- The lengths, modulo 64, that the fallback pads as the standard does. -/
def PadsRight (length : Nat) : Prop := ¬(48 ≤ length % 64 ∧ length % 64 < 56)

/-- For a short message the fallback hashes what the standard hashes exactly when its length does
not leave 48 to 55 modulo 64. Where it does, both give the same hash, so a login without the
browser's digest is the login with it whenever neither of its two inputs has such a length. -/
theorem is_sha256_iff (message passwordBytes saltBytes challengeBytes : List UInt8) :
    (message.length < 2 ^ 29 →
      (sha256Fallback message = Sha256.hash message ∧ padded message = Sha256.pad message ↔
        PadsRight message.length)) ∧
    (passwordBytes.length + saltBytes.length < 2 ^ 29 → 32 + challengeBytes.length < 2 ^ 29 →
      PadsRight (passwordBytes.length + saltBytes.length) →
      PadsRight (32 + challengeBytes.length) →
      hashPassword none passwordBytes saltBytes challengeBytes =
        hashPassword (some Sha256.hash) passwordBytes saltBytes challengeBytes) := by
  have hashes : ∀ message : List UInt8, message.length < 2 ^ 29 → PadsRight message.length →
      sha256Fallback message = Sha256.hash message := fun message short right => by
    rw [sha256Fallback_eq message short, (padded_eq_iff message short).mpr right, Sha256.hash]
  refine ⟨fun short => ⟨fun same => (padded_eq_iff message short).mp same.2, fun right =>
    ⟨hashes message short right, (padded_eq_iff message short).mpr right⟩⟩, ?_⟩
  intro shortFirst shortSecond rightFirst rightSecond
  rw [← List.length_append] at shortFirst rightFirst
  have second : (Sha256.hash (passwordBytes ++ saltBytes) ++ challengeBytes).length =
      32 + challengeBytes.length := by
    rw [List.length_append, Sha256.hash, Sha256.length_digest]
  unfold hashPassword sha256
  dsimp only
  rw [hashes _ shortFirst rightFirst, hashes _ (second ▸ shortSecond) (second ▸ rightSecond)]

theorem is_sha256_abc :
    (sha256Fallback [97, 98, 99] = Sha256.hash [97, 98, 99] ∧
      padded [97, 98, 99] = Sha256.pad [97, 98, 99] ↔ PadsRight 3) ∧
    hashPassword none [97] [98] [99] = hashPassword (some Sha256.hash) [97] [98] [99] :=
  (is_sha256_iff [97, 98, 99] [97] [98] [99]).imp (fun abc => abc (by decide)) fun login =>
    login (by decide) (by decide) (by unfold PadsRight; decide) (by unfold PadsRight; decide)

set_option maxRecDepth 10000 in
/-- A message of 48 bytes, such as a password of 32 with a salt of 16, gets another hash. -/
theorem not_sha256 :
    ¬∀ message : List UInt8, message.length < 2 ^ 29 →
      sha256Fallback message = Sha256.hash message := by
  intro equal
  have same := equal (List.replicate 48 97) (by decide)
  rw [sha256Fallback_eq _ (by decide)] at same
  have differ : Sha256.digest (padded (List.replicate 48 97)) ≠
      Sha256.hash (List.replicate 48 97) := by decide +kernel
  exact differ same

end SovaDesk.Rdclient.Fallback
