/-
This file models the names of mesh agents, and settles when two agents are given the
same peer ID.

The node ID of an agent is the hash of its key in base64, with two letters replaced. The
peer ID is made of its first fifteen letters, in which the two letters are replaced once
more, both by the same one. Two agents share a peer ID exactly if the first fifteen
digits of their hashes agree, the last two digits counting as one.
-/

import Mathlib.Algebra.Ring.Nat
import Mathlib.Order.Fin.Basic
import Mathlib.Data.List.Basic
import SovaDesk.Signal.DeviceUUID

namespace SovaDesk.Meshcentral.Agents

open Signal (Bytes)

/-! ### The texts -/

/-- The alphabet of base64. -/
def enc : List Char :=
  "ABCDEFGHIJKLMNOPQRSTUVWXYZabcdefghijklmnopqrstuvwxyz0123456789+/".toList

/-- The letter of the six bits of a number above a shift: `enc[n>>shift&63]`. -/
def encAt (n shift : Nat) : Char := enc.getD (n / 2 ^ shift % 64) 'A'

def encodeBase64 : Bytes → List Char
  | a :: b :: c :: rest =>
    let n := a.toNat * 65536 + b.toNat * 256 + c.toNat
    encAt n 18 :: encAt n 12 :: encAt n 6 :: encAt n 0 :: encodeBase64 rest
  | [a, b] =>
    let n := a.toNat * 65536 + b.toNat * 256
    [encAt n 18, encAt n 12, encAt n 6, '=']
  | [a] =>
    let n := a.toNat * 65536
    [encAt n 18, encAt n 12, '=', '=']
  | [] => []

/-- The replacement of the two letters that are not allowed in a name. -/
def replaced (letter : Char) : Char :=
  if letter = '+' then '@' else if letter = '/' then '$' else letter

def base64NodeID (hash : Bytes) : String := String.ofList ((encodeBase64 hash).map replaced)

/-- The letters that a peer ID may have; the others become underscores. -/
def peerLetter (letter : Char) : Char :=
  if ('a' ≤ letter ∧ letter ≤ 'z') ∨ ('A' ≤ letter ∧ letter ≤ 'Z') ∨
      ('0' ≤ letter ∧ letter ≤ '9') ∨ letter = '_' ∨ letter = '-' then letter
  else '_'

def meshPeerID (nodeID : String) : String :=
  let s := (nodeID.toList.map peerLetter).take 15
  String.ofList ('M' :: if s.length < 6 then "mesh_".toList ++ s else s)

/-! ### The digits -/

/-- The SHA-384 hash of a key. -/
structure NodeHash where
  bytes : Bytes
  length_eq : bytes.length = 48
  deriving DecidableEq

def NodeHash.nodeID (hash : NodeHash) : String := base64NodeID hash.bytes

/-- The six bits of a number above a shift. -/
def sextet (n shift : Nat) : Fin 64 := ⟨n / 2 ^ shift % 64, Nat.mod_lt _ (by decide)⟩

/-- The digits of bytes in base 64, as far as they come in threes. -/
def sextets : Bytes → List (Fin 64)
  | a :: b :: c :: rest =>
    let n := a.toNat * 65536 + b.toNat * 256 + c.toNat
    sextet n 18 :: sextet n 12 :: sextet n 6 :: sextet n 0 :: sextets rest
  | _ => []

/-- The letter of a digit in a node ID. -/
def nodeLetter (digit : Fin 64) : Char := replaced (enc.getD digit.val 'A')

/-- The first fifteen digits of two hashes agree, where 62 and 63 are the same. -/
def Alike (hash other : NodeHash) : Prop :=
  ((sextets hash.bytes).take 15).map (min 62) = ((sextets other.bytes).take 15).map (min 62)

instance (hash other : NodeHash) : Decidable (Alike hash other) :=
  inferInstanceAs (Decidable (_ = _))

theorem nodeLetter_injective : Function.Injective nodeLetter := by
  have distinct : ∀ digit other : Fin 64, nodeLetter digit = nodeLetter other → digit = other := by
    decide +kernel
  exact fun digit other => distinct digit other

/-- In a peer ID exactly the last two digits look the same. -/
theorem peerLetter_nodeLetter (digit other : Fin 64) :
    peerLetter (nodeLetter digit) = peerLetter (nodeLetter other) ↔
      min 62 digit = min 62 other := by
  have all : ∀ digit other : Fin 64, peerLetter (nodeLetter digit) = peerLetter (nodeLetter other) ↔
      min 62 digit = min 62 other := by
    decide +kernel
  exact all digit other

theorem exists_three {threes : Nat} {bytes : Bytes} (length : bytes.length = 3 * (threes + 1)) :
    ∃ a b c rest, bytes = a :: b :: c :: rest ∧ rest.length = 3 * threes := by
  obtain ⟨a, tail, rfl⟩ := List.exists_cons_of_length_eq_add_one length
  obtain ⟨b, tail, rfl⟩ := List.exists_cons_of_length_eq_add_one (Nat.succ.inj length)
  obtain ⟨c, rest, rfl⟩ :=
    List.exists_cons_of_length_eq_add_one (Nat.succ.inj (Nat.succ.inj length))
  exact ⟨a, b, c, rest, rfl, Nat.succ.inj (Nat.succ.inj (Nat.succ.inj length))⟩

/-- Bytes in threes are encoded digit by digit. -/
theorem encodeBase64_eq_map (threes : Nat) (bytes : Bytes) (length : bytes.length = 3 * threes) :
    (encodeBase64 bytes).map replaced = (sextets bytes).map nodeLetter := by
  induction threes generalizing bytes with
  | zero =>
    rw [List.length_eq_zero_iff.mp length]
    rfl
  | succ threes inductionHypothesis =>
    obtain ⟨a, b, c, rest, rfl, remaining⟩ := exists_three length
    simp only [encodeBase64, sextets, List.map_cons, inductionHypothesis rest remaining]
    rfl

theorem length_sextets (threes : Nat) (bytes : Bytes) (length : bytes.length = 3 * threes) :
    (sextets bytes).length = 4 * threes := by
  induction threes generalizing bytes with
  | zero =>
    rw [List.length_eq_zero_iff.mp length]
    rfl
  | succ threes inductionHypothesis =>
    obtain ⟨a, b, c, rest, rfl, remaining⟩ := exists_three length
    simp only [sextets, List.length_cons, inductionHypothesis rest remaining]
    omega

/-- The digits of three bytes determine the bytes. -/
theorem three_of_sextets {n m : Nat} (small : n < 2 ^ 24) (smallOther : m < 2 ^ 24)
    (first : sextet n 18 = sextet m 18) (second : sextet n 12 = sextet m 12)
    (third : sextet n 6 = sextet m 6) (fourth : sextet n 0 = sextet m 0) : n = m := by
  have first := congrArg Fin.val first
  have second := congrArg Fin.val second
  have third := congrArg Fin.val third
  have fourth := congrArg Fin.val fourth
  simp only [sextet, Nat.reducePow] at first second third fourth small smallOther
  omega

theorem eq_of_sextets (threes : Nat) (bytes other : Bytes) (length : bytes.length = 3 * threes)
    (lengthOther : other.length = 3 * threes) (same : sextets bytes = sextets other) :
    bytes = other := by
  induction threes generalizing bytes other with
  | zero => rw [List.length_eq_zero_iff.mp length, List.length_eq_zero_iff.mp lengthOther]
  | succ threes inductionHypothesis =>
    obtain ⟨a, b, c, rest, rfl, remaining⟩ := exists_three length
    obtain ⟨x, y, z, restOther, rfl, remainingOther⟩ := exists_three lengthOther
    simp only [sextets, List.cons.injEq] at same
    obtain ⟨first, second, third, fourth, same⟩ := same
    have tail := inductionHypothesis rest restOther remaining remainingOther same
    have bounds := And.intro a.toNat_lt (And.intro b.toNat_lt c.toNat_lt)
    have boundsOther := And.intro x.toNat_lt (And.intro y.toNat_lt z.toNat_lt)
    have number := three_of_sextets (by omega) (by omega) first second third fourth
    have bytesEq : a.toNat = x.toNat ∧ b.toNat = y.toNat ∧ c.toNat = z.toNat := by omega
    rw [UInt8.toNat_inj.mp bytesEq.1, UInt8.toNat_inj.mp bytesEq.2.1,
      UInt8.toNat_inj.mp bytesEq.2.2, tail]

/-- Different hashes are different node IDs. -/
theorem NodeHash.nodeID_inj {hash other : NodeHash} :
    hash.nodeID = other.nodeID ↔ hash = other := by
  constructor
  · intro same
    have letters := String.ofList_injective same
    rw [encodeBase64_eq_map 16 _ hash.length_eq,
      encodeBase64_eq_map 16 _ other.length_eq] at letters
    have digits := List.map_injective_iff.mpr nodeLetter_injective letters
    obtain ⟨bytes, length⟩ := hash
    obtain ⟨otherBytes, lengthOther⟩ := other
    cases eq_of_sextets 16 bytes otherBytes length lengthOther digits
    rfl
  · exact congrArg _

theorem map_take_eq_iff {first second : List (Fin 64)} :
    first.map (fun digit => peerLetter (nodeLetter digit)) =
        second.map (fun digit => peerLetter (nodeLetter digit)) ↔
      first.map (min 62) = second.map (min 62) := by
  induction first generalizing second with
  | nil => simp only [List.map_nil, List.nil_eq, List.map_eq_nil_iff]
  | cons digit first inductionHypothesis =>
    cases second with
    | nil => simp only [List.map_cons, List.map_nil, reduceCtorEq]
    | cons other second =>
      simp only [List.map_cons, List.cons.injEq, peerLetter_nodeLetter, inductionHypothesis]

/-- The peer ID of a hash, from its digits. -/
theorem meshPeerID_nodeID (hash : NodeHash) :
    meshPeerID hash.nodeID = String.ofList
      ('M' :: ((sextets hash.bytes).take 15).map fun digit => peerLetter (nodeLetter digit)) := by
  unfold meshPeerID NodeHash.nodeID base64NodeID
  rw [String.toList_ofList, encodeBase64_eq_map 16 _ hash.length_eq, List.map_map, ← List.map_take]
  have length : (((sextets hash.bytes).take 15).map (peerLetter ∘ nodeLetter)).length = 15 := by
    rw [List.length_map, List.length_take, length_sextets 16 _ hash.length_eq]
    rfl
  dsimp only
  rw [if_neg (by omega)]
  rfl

/-- Two agents have the same peer ID exactly if the first fifteen digits of their hashes agree, but
for the last two digits. -/
theorem meshPeerID_eq_iff (hash other : NodeHash) :
    meshPeerID hash.nodeID = meshPeerID other.nodeID ↔ Alike hash other := by
  rw [meshPeerID_nodeID, meshPeerID_nodeID, String.ofList_inj, List.cons.injEq, map_take_eq_iff]
  exact and_iff_right rfl

end SovaDesk.Meshcentral.Agents
