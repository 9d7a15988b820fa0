/-
This file is a small library of SHA-256, as RFC 6234 defines it.

A message is padded to blocks of 64 bytes: one bit, the least number of zeros and the length in 64
bits. Each block is spread to 64 words and worked into eight registers. Words are bit vectors, so
sums are taken modulo `2 ^ 32`.
-/

import Mathlib.Algebra.Ring.Nat
import Mathlib.Logic.Function.Iterate

namespace Sha256

abbrev Word := BitVec 32

/-! ### The functions on words -/

def rotr (n : Nat) (x : Word) : Word := x >>> n ||| x <<< (32 - n)

def ch (x y z : Word) : Word := (x &&& y) ^^^ (~~~x &&& z)

def maj (x y z : Word) : Word := (x &&& y) ^^^ (x &&& z) ^^^ (y &&& z)

def bsig0 (x : Word) : Word := rotr 2 x ^^^ rotr 13 x ^^^ rotr 22 x

def bsig1 (x : Word) : Word := rotr 6 x ^^^ rotr 11 x ^^^ rotr 25 x

def ssig0 (x : Word) : Word := rotr 7 x ^^^ rotr 18 x ^^^ x >>> 3

def ssig1 (x : Word) : Word := rotr 17 x ^^^ rotr 19 x ^^^ x >>> 10

/-- The first 32 bits of the fractional parts of the cube roots of the first 64 primes. -/
def roundConstants : List Word := [
  0x428a2f98, 0x71374491, 0xb5c0fbcf, 0xe9b5dba5, 0x3956c25b, 0x59f111f1, 0x923f82a4, 0xab1c5ed5,
  0xd807aa98, 0x12835b01, 0x243185be, 0x550c7dc3, 0x72be5d74, 0x80deb1fe, 0x9bdc06a7, 0xc19bf174,
  0xe49b69c1, 0xefbe4786, 0x0fc19dc6, 0x240ca1cc, 0x2de92c6f, 0x4a7484aa, 0x5cb0a9dc, 0x76f988da,
  0x983e5152, 0xa831c66d, 0xb00327c8, 0xbf597fc7, 0xc6e00bf3, 0xd5a79147, 0x06ca6351, 0x14292967,
  0x27b70a85, 0x2e1b2138, 0x4d2c6dfc, 0x53380d13, 0x650a7354, 0x766a0abb, 0x81c2c92e, 0x92722c85,
  0xa2bfe8a1, 0xa81a664b, 0xc24b8b70, 0xc76c51a3, 0xd192e819, 0xd6990624, 0xf40e3585, 0x106aa070,
  0x19a4c116, 0x1e376c08, 0x2748774c, 0x34b0bcb5, 0x391c0cb3, 0x4ed8aa4a, 0x5b9cca4f, 0x682e6ff3,
  0x748f82ee, 0x78a5636f, 0x84c87814, 0x8cc70208, 0x90befffa, 0xa4506ceb, 0xbef9a3f7, 0xc67178f2]

/-! ### Blocks -/

/-- The working registers, over words or over what stands for them. -/
structure Registers (Value : Type) where
  a : Value
  b : Value
  c : Value
  d : Value
  e : Value
  f : Value
  g : Value
  h : Value
  deriving DecidableEq

namespace Registers

variable {Value Other : Type}

def map (read : Value → Other) (r : Registers Value) : Registers Other :=
  ⟨read r.a, read r.b, read r.c, read r.d, read r.e, read r.f, read r.g, read r.h⟩

def toList (r : Registers Value) : List Value := [r.a, r.b, r.c, r.d, r.e, r.f, r.g, r.h]

end Registers

/-- The first 32 bits of the fractional parts of the square roots of the first 8 primes. -/
def initial : Registers Word :=
  ⟨0x6a09e667, 0xbb67ae85, 0x3c6ef372, 0xa54ff53a, 0x510e527f, 0x9b05688c, 0x1f83d9ab, 0x5be0cd19⟩

/-- One more word of the schedule. -/
def extend (ws : List Word) : List Word :=
  let t := ws.length
  ws ++ [ssig1 (ws.getD (t - 2) 0) + ws.getD (t - 7) 0 + ssig0 (ws.getD (t - 15) 0) +
    ws.getD (t - 16) 0]

/-- The 64 words of a block of 16. -/
def schedule (block : List Word) : List Word := extend^[48] block

def round (r : Registers Word) (k w : Word) : Registers Word :=
  let t1 := r.h + bsig1 r.e + ch r.e r.f r.g + k + w
  let t2 := bsig0 r.a + maj r.a r.b r.c
  ⟨t1 + t2, r.a, r.b, r.c, r.d + t1, r.e, r.f, r.g⟩

/-- Work a block into the hash value. -/
def compress (H : Registers Word) (block : List Word) : Registers Word :=
  let r := (roundConstants.zip (schedule block)).foldl (fun r kw => round r kw.1 kw.2) H
  ⟨H.a + r.a, H.b + r.b, H.c + r.c, H.d + r.d, H.e + r.e, H.f + r.f, H.g + r.g, H.h + r.h⟩

/-! ### Messages -/

/-- The low bytes of a number, the highest first. -/
def bigEndian : Nat → Nat → List UInt8
  | 0, _ => []
  | width + 1, number => UInt8.ofNat (number / 256 ^ width) :: bigEndian width number

/-- The number of the four bytes at a position. -/
def wordAt (bytes : List UInt8) (position : Nat) : Nat :=
  ((List.range 4).map fun i => (bytes.getD (position + i) 0).toNat).foldl
    (fun number byte => 256 * number + byte) 0

/-- How many bytes of zeros stand between the bit and the length. -/
def zeroCount (length : Nat) : Nat := (119 - length % 64) % 64

/-- It is the least number that fills the last block. -/
theorem zeroCount_least (length : Nat) :
    (length + 1 + zeroCount length + 8) % 64 = 0 ∧
      ∀ zeros, (length + 1 + zeros + 8) % 64 = 0 → zeroCount length ≤ zeros := by
  unfold zeroCount
  exact ⟨by omega, fun zeros fills => by omega⟩

def pad (message : List UInt8) : List UInt8 :=
  message ++ 0x80 :: List.replicate (zeroCount message.length) 0 ++
    bigEndian 8 (8 * message.length)

/-- The words of a block. -/
def block (padded : List UInt8) (i : Nat) : List Word :=
  (List.range 16).map fun j => BitVec.ofNat 32 (wordAt padded (64 * i + 4 * j))

/-- The hash value of blocks. -/
def digest (padded : List UInt8) : List UInt8 :=
  (((List.range (padded.length / 64)).foldl (fun H i => compress H (block padded i))
    initial).toList).flatMap fun word => bigEndian 4 word.toNat

def hash (message : List UInt8) : List UInt8 := digest (pad message)

theorem length_bigEndian (width number : Nat) : (bigEndian width number).length = width := by
  induction width with
  | zero => rfl
  | succ width inductionHypothesis => rw [bigEndian, List.length_cons, inductionHypothesis]

theorem bigEndian_zero (width : Nat) : bigEndian width 0 = List.replicate width 0 := by
  induction width with
  | zero => rfl
  | succ width inductionHypothesis =>
    rw [bigEndian, inductionHypothesis, Nat.zero_div, List.replicate_succ]
    rfl

theorem bigEndian_add (width more number : Nat) :
    bigEndian (width + more) number =
      bigEndian width (number / 256 ^ more) ++ bigEndian more number := by
  induction width with
  | zero => rw [Nat.zero_add, bigEndian, List.nil_append]
  | succ width inductionHypothesis =>
    rw [Nat.add_right_comm, bigEndian, inductionHypothesis, bigEndian, Nat.div_div_eq_div_mul,
      ← Nat.pow_add, Nat.add_comm more width, List.cons_append]

theorem length_digest (padded : List UInt8) : (digest padded).length = 32 := by
  rw [digest, Registers.toList]
  simp only [List.flatMap_cons, List.flatMap_nil, List.length_append, length_bigEndian,
    List.length_nil]

end Sha256
