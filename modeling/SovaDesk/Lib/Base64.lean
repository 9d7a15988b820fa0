/-
This file is a small library of base64 texts.

Three bytes are four numbers of six bits, and one or two bytes left over are two or three. A text
spells the numbers with the letters of an alphabet. Readers are lenient: they pass over the ends of
lines, and bits that the last number has in excess do not matter. What was written is read back.
-/

import Mathlib.Data.List.Basic

namespace Base64

/-! ### Bytes and numbers of six bits -/

def sextets : List UInt8 → List Nat
  | a :: b :: c :: rest =>
    a.toNat / 4 :: (a.toNat % 4 * 16 + b.toNat / 16) :: (b.toNat % 16 * 4 + c.toNat / 64) ::
      c.toNat % 64 :: sextets rest
  | [a, b] => [a.toNat / 4, a.toNat % 4 * 16 + b.toNat / 16, b.toNat % 16 * 4]
  | [a] => [a.toNat / 4, a.toNat % 4 * 16]
  | [] => []

/-- The bytes of some numbers; one number left over is no byte. -/
def octets : List Nat → Option (List UInt8)
  | w :: x :: y :: z :: rest =>
    (octets rest).map fun more => UInt8.ofNat (w * 4 + x / 16) ::
      UInt8.ofNat (x % 16 * 16 + y / 4) :: UInt8.ofNat (y % 4 * 64 + z) :: more
  | [w, x, y] => some [UInt8.ofNat (w * 4 + x / 16), UInt8.ofNat (x % 16 * 16 + y / 4)]
  | [w, x] => some [UInt8.ofNat (w * 4 + x / 16)]
  | [_] => none
  | [] => some []

theorem sextets_lt (bytes : List UInt8) : ∀ number ∈ sextets bytes, number < 64 := by
  induction bytes using sextets.induct with
  | case1 a b c rest inductionHypothesis =>
    have first := a.toNat_lt
    have second := b.toNat_lt
    have third := c.toNat_lt
    simp only [sextets, List.mem_cons]
    rintro number (rfl | rfl | rfl | rfl | later)
    · omega
    · omega
    · omega
    · omega
    · exact inductionHypothesis number later
  | case2 a b =>
    have first := a.toNat_lt
    have second := b.toNat_lt
    simp only [sextets, List.mem_cons, List.not_mem_nil, or_false]
    rintro number (rfl | rfl | rfl) <;> omega
  | case3 a =>
    have first := a.toNat_lt
    simp only [sextets, List.mem_cons, List.not_mem_nil, or_false]
    rintro number (rfl | rfl) <;> omega
  | case4 => exact fun number member => absurd member List.not_mem_nil

theorem ofNat_eq (byte : UInt8) {number : Nat} (same : number = byte.toNat) :
    UInt8.ofNat number = byte := by
  rw [same, UInt8.ofNat_toNat]

theorem octets_sextets (bytes : List UInt8) : octets (sextets bytes) = some bytes := by
  induction bytes using sextets.induct with
  | case1 a b c rest inductionHypothesis =>
    have first := a.toNat_lt
    have second := b.toNat_lt
    have third := c.toNat_lt
    rw [sextets, octets, inductionHypothesis, Option.map_some, ofNat_eq a (by omega),
      ofNat_eq b (by omega), ofNat_eq c (by omega)]
  | case2 a b =>
    have first := a.toNat_lt
    have second := b.toNat_lt
    rw [sextets, octets, ofNat_eq a (by omega), ofNat_eq b (by omega)]
  | case3 a =>
    have first := a.toNat_lt
    rw [sextets, octets, ofNat_eq a (by omega)]
  | case4 => rfl

/-! ### Texts -/

/-- The alphabet of the standard. -/
def standard : List Char :=
  "ABCDEFGHIJKLMNOPQRSTUVWXYZabcdefghijklmnopqrstuvwxyz0123456789+/".toList

/-- The alphabet for URLs and file names. -/
def urlSafe : List Char :=
  "ABCDEFGHIJKLMNOPQRSTUVWXYZabcdefghijklmnopqrstuvwxyz0123456789-_".toList

/-- Readers pass over the ends of lines. -/
def isLineEnd (c : Char) : Bool := c = '\n' || c = '\r'

/-- Write without padding. -/
def encodeRaw (alphabet : List Char) (bytes : List UInt8) : List Char :=
  (sextets bytes).map fun number => alphabet.getD number 'A'

def withoutLineEnds (text : List Char) : List Char := text.filter fun c => !isLineEnd c

/-- Read a text without padding. -/
def decodeRaw (alphabet : List Char) (text : List Char) : Option (List UInt8) :=
  ((withoutLineEnds text).mapM fun c => alphabet.idxOf? c).bind octets

/-- Read a text that is padded to groups of four. -/
def decodePadded (alphabet : List Char) (text : List Char) : Option (List UInt8) :=
  let symbols := withoutLineEnds text
  if symbols.length % 4 = 0 then
    let body := if ['=', '='].isSuffixOf symbols then symbols.dropLast.dropLast
      else if ['='].isSuffixOf symbols then symbols.dropLast
      else symbols
    decodeRaw alphabet body
  else none

theorem idxOf_urlSafe : ∀ number < 64, urlSafe.idxOf? (urlSafe.getD number 'A') = some number ∧
    isLineEnd (urlSafe.getD number 'A') = false := by
  decide +kernel

/-- What was written is read back. -/
theorem decodeRaw_encodeRaw (bytes : List UInt8) :
    decodeRaw urlSafe (encodeRaw urlSafe bytes) = some bytes := by
  have small := sextets_lt bytes
  have kept : withoutLineEnds (encodeRaw urlSafe bytes) = encodeRaw urlSafe bytes := by
    refine List.filter_eq_self.mpr fun c member => ?_
    obtain ⟨number, listed, rfl⟩ := List.mem_map.mp member
    rw [(idxOf_urlSafe number (small number listed)).2]
    rfl
  have read : ∀ numbers : List Nat, (∀ number ∈ numbers, number < 64) →
      (numbers.map fun number => urlSafe.getD number 'A').mapM (fun c => urlSafe.idxOf? c) =
        some numbers := by
    intro numbers
    induction numbers with
    | nil => exact fun _ => rfl
    | cons number rest inductionHypothesis =>
      intro all
      rw [List.map_cons, List.mapM_cons,
        (idxOf_urlSafe number (all number List.mem_cons_self)).1,
        inductionHypothesis fun other member => all other (List.mem_cons_of_mem _ member)]
      rfl
  rw [decodeRaw, kept, encodeRaw, read _ small, Option.bind_some, octets_sextets]

/-! ### Spellings -/

/-- A text spells some bytes: it is what is written for them, but for the bits that its last letter
has in excess. -/
def Spells (alphabet : List Char) (text : List Char) (bytes : List UInt8) : Prop :=
  text.length = (encodeRaw alphabet bytes).length ∧
    text.dropLast = (encodeRaw alphabet bytes).dropLast

theorem toNat_ofNat {number : Nat} (small : number < 256) : (UInt8.ofNat number).toNat = number :=
  UInt8.toNat_ofNat_of_lt' small

theorem sextets_of_octets (numbers : List Nat) : ∀ {bytes : List UInt8},
    (∀ number ∈ numbers, number < 64) → octets numbers = some bytes →
      numbers.length = (sextets bytes).length ∧ numbers.dropLast = (sextets bytes).dropLast := by
  induction numbers using octets.induct with
  | case1 w x y z rest inductionHypothesis =>
    intro bytes small read
    obtain ⟨more, readMore, rfl⟩ := Option.map_eq_some_iff.mp read
    simp only [List.forall_mem_cons] at small
    obtain ⟨first, second, third, fourth, smallRest⟩ := small
    obtain ⟨long, front⟩ := inductionHypothesis smallRest readMore
    have a : (w * 4 + x / 16) / 4 = w := by omega
    have b : (w * 4 + x / 16) % 4 * 16 + (x % 16 * 16 + y / 4) / 16 = x := by omega
    have c : (x % 16 * 16 + y / 4) % 16 * 4 + (y % 4 * 64 + z) / 64 = y := by omega
    have d : (y % 4 * 64 + z) % 64 = z := by omega
    rw [sextets, toNat_ofNat (by omega), toNat_ofNat (by omega), toNat_ofNat (by omega), a, b, c, d]
    refine ⟨by simp only [List.length_cons, long], ?_⟩
    by_cases last : rest = []
    · have alone : sextets more = [] := by
        rw [← List.length_eq_zero_iff, ← long, last, List.length_nil]
      rw [last, alone]
    · have followed : sextets more ≠ [] := by
        rw [← List.length_pos_iff, ← long]
        exact List.length_pos_iff.mpr last
      have step : ∀ tail : List Nat, tail ≠ [] →
          (w :: x :: y :: z :: tail).dropLast = w :: x :: y :: z :: tail.dropLast := by
        intro tail nonempty
        obtain ⟨head, body, rfl⟩ := List.exists_cons_of_ne_nil nonempty
        rfl
      rw [step _ last, step _ followed, front]
  | case2 w x y =>
    intro bytes small read
    obtain rfl := Option.some.inj read
    simp only [List.forall_mem_cons] at small
    obtain ⟨first, second, third, _⟩ := small
    have a : (w * 4 + x / 16) / 4 = w := by omega
    have b : (w * 4 + x / 16) % 4 * 16 + (x % 16 * 16 + y / 4) / 16 = x := by omega
    refine ⟨rfl, ?_⟩
    rw [sextets, toNat_ofNat (by omega), toNat_ofNat (by omega), a, b]
    rfl
  | case3 w x =>
    intro bytes small read
    obtain rfl := Option.some.inj read
    simp only [List.forall_mem_cons] at small
    obtain ⟨first, second, _⟩ := small
    have a : (w * 4 + x / 16) / 4 = w := by omega
    refine ⟨rfl, ?_⟩
    rw [sextets, toNat_ofNat (by omega), a]
    rfl
  | case4 w => exact fun small read => absurd read (Option.some_ne_none _).symm
  | case5 =>
    intro bytes small read
    obtain rfl := Option.some.inj read
    exact ⟨rfl, rfl⟩

theorem spells_of_decodeRaw {alphabet text : List Char} {bytes : List UInt8}
    (letters : alphabet.length = 64) (read : decodeRaw alphabet text = some bytes) :
    Spells alphabet (withoutLineEnds text) bytes := by
  obtain ⟨numbers, found, together⟩ := Option.bind_eq_some_iff.mp read
  have written : ∀ (symbols : List Char) (numbers : List Nat),
      symbols.mapM (fun c => alphabet.idxOf? c) = some numbers →
        symbols = numbers.map (fun number => alphabet.getD number 'A') ∧
          ∀ number ∈ numbers, number < 64 := by
    intro symbols
    induction symbols with
    | nil =>
      intro numbers found
      rw [List.mapM_nil] at found
      obtain rfl : [] = numbers := Option.some.inj found
      exact ⟨rfl, fun number member => absurd member List.not_mem_nil⟩
    | cons c symbols inductionHypothesis =>
      intro numbers found
      rw [List.mapM_cons] at found
      obtain ⟨number, index, found⟩ := Option.bind_eq_some_iff.mp found
      obtain ⟨more, rest, found⟩ := Option.bind_eq_some_iff.mp found
      obtain rfl : number :: more = numbers := Option.some.inj found
      obtain ⟨inside, letter, _⟩ := List.idxOf?_eq_some_iff.mp index
      obtain ⟨same, small⟩ := inductionHypothesis more rest
      refine ⟨?_, List.forall_mem_cons.mpr ⟨letters ▸ inside, small⟩⟩
      rw [List.map_cons, ← same, List.getD_eq_getElem?_getD, List.getElem?_eq_getElem inside,
        Option.getD_some, letter]
  obtain ⟨same, small⟩ := written _ numbers found
  obtain ⟨long, front⟩ := sextets_of_octets numbers small together
  refine ⟨?_, ?_⟩
  · rw [same, encodeRaw, List.length_map, List.length_map, long]
  · rw [same, encodeRaw, List.map_dropLast.symm, List.map_dropLast.symm, front]

theorem spells_of_decodePadded {alphabet text : List Char} {bytes : List UInt8}
    (letters : alphabet.length = 64) (read : decodePadded alphabet text = some bytes) :
    ∃ body padding, withoutLineEnds text = body ++ padding ∧ (∀ c ∈ padding, c = '=') ∧
      Spells alphabet body bytes := by
  have clean : ∀ body padding : List Char, withoutLineEnds text = body ++ padding →
      withoutLineEnds body = body := by
    intro body padding parts
    refine List.filter_eq_self.mpr fun c member => ?_
    have listed : c ∈ withoutLineEnds text := parts ▸ List.mem_append_left padding member
    exact (List.mem_filter.mp listed).2
  unfold decodePadded at read
  dsimp only at read
  obtain ⟨_, read⟩ := Option.ite_none_right_eq_some.mp read
  by_cases two : ['=', '='].isSuffixOf (withoutLineEnds text) = true
  · obtain ⟨body, parts⟩ := List.isSuffixOf_iff_suffix.mp two
    have front : (body ++ ['=', '=']).dropLast.dropLast = body := by
      rw [List.dropLast_append_cons, List.dropLast_cons_cons, List.dropLast_singleton,
        List.dropLast_concat]
    rw [if_pos two, ← parts, front] at read
    have spelled := spells_of_decodeRaw letters read
    rw [clean body _ parts.symm] at spelled
    exact ⟨body, ['=', '='], parts.symm,
      List.forall_mem_cons.mpr ⟨rfl, List.forall_mem_singleton.mpr rfl⟩, spelled⟩
  · rw [if_neg two] at read
    by_cases one : ['='].isSuffixOf (withoutLineEnds text) = true
    · obtain ⟨body, parts⟩ := List.isSuffixOf_iff_suffix.mp one
      rw [if_pos one, ← parts, List.dropLast_concat] at read
      have spelled := spells_of_decodeRaw letters read
      rw [clean body _ parts.symm] at spelled
      exact ⟨body, ['='], parts.symm, List.forall_mem_singleton.mpr rfl, spelled⟩
    · rw [if_neg one] at read
      have whole := (List.append_nil (withoutLineEnds text)).symm
      have spelled := spells_of_decodeRaw letters read
      rw [clean _ [] whole] at spelled
      exact ⟨withoutLineEnds text, [], whole, List.forall_mem_nil _, spelled⟩

end Base64
