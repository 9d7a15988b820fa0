/-
This file models how the text of an IP address and of an address range is read.

`ParseIP` and `ParseCIDR` come from the standard library; here they follow its documented
forms: dotted decimal without leading zeros, and colon-separated hexadecimal groups with at
most one ellipsis and perhaps a dotted address at the end. A text with a zone is rejected by
both. An IPv4 address in IPv6 form is the IPv4 address once it is read, but its range counts
the bits of the longer form. What the rest of the development needs of this reading is
which characters an accepted text can hold, and that a printed IPv4 address is read back.
-/

import SovaDesk.Lib.Text
import SovaDesk.Signal.Address

namespace SovaDesk.Security

open Signal

/-! ### Fields -/

def isHexDigit (c : Char) : Bool :=
  c.isDigit || ('a' ≤ c && c ≤ 'f') || ('A' ≤ c && c ≤ 'F')

def digitValue (c : Char) : Nat :=
  if c.isDigit then c.toNat - 48 else if 'a' ≤ c then c.toNat - 87 else c.toNat - 55

def number (base : Nat) (digits : List Char) : Nat :=
  digits.foldl (fun value c => base * value + digitValue c) 0

/-- A decimal number up to 255 without leading zeros. -/
def isOctet (part : List Char) : Bool :=
  part != [] && part.all Char.isDigit && (part.length == 1 || part.head? != some '0') &&
    number 10 part ≤ 255

/-- One to four hexadecimal digits. -/
def isGroup (part : List Char) : Bool :=
  part != [] && part.length ≤ 4 && part.all isHexDigit

/-- The fields between colons, of which an empty text has none. -/
def fields (text : List Char) : List (List Char) := if text = [] then [] else text.splitOn ':'

/-! ### Addresses -/

/-- Four octets joined by dots. -/
def parseIPv4 (text : List Char) : Option (BitVec 32) :=
  let parts := text.splitOn '.'
  if parts.length = 4 ∧ parts.all isOctet then
    some (BitVec.ofNat 32 (parts.foldl (fun value part => 256 * value + number 10 part) 0))
  else none

/-- The text before and after the first double colon. -/
def cutEllipsis : List Char → Option (List Char × List Char)
  | [] => none
  | c :: rest =>
    if c = ':' ∧ rest.head? = some ':' then some ([], rest.tail)
    else (cutEllipsis rest).map fun halves => (c :: halves.1, halves.2)

/-- Hexadecimal groups only, as they stand before an ellipsis. -/
def plainGroups (parts : List (List Char)) : Option (List Nat) :=
  if parts.all isGroup then some (parts.map (number 16)) else none

/-- Hexadecimal groups of which the last may be a dotted address, which counts as two. -/
def parseGroups : List (List Char) → Option (List Nat)
  | [] => some []
  | [last] =>
    if isGroup last then some [number 16 last]
    else (parseIPv4 last).map fun address => [address.toNat / 2 ^ 16, address.toNat % 2 ^ 16]
  | part :: rest =>
    if isGroup part then (parseGroups rest).map (number 16 part :: ·) else none

def ofGroups (groups : List Nat) : BitVec 128 :=
  BitVec.ofNat 128 (groups.foldl (fun value group => 2 ^ 16 * value + group) 0)

/-- Eight groups, or fewer around an ellipsis that stands for at least one group of zeros. -/
def parseIPv6 (text : List Char) : Option (BitVec 128) :=
  match cutEllipsis text with
  | none =>
    (parseGroups (fields text)).bind fun groups =>
      if groups.length = 8 then some (ofGroups groups) else none
  | some (before, after) =>
    (plainGroups (fields before)).bind fun front =>
      (parseGroups (fields after)).bind fun back =>
        if front.length + back.length ≤ 7 then
          some (ofGroups (front ++ List.replicate (8 - front.length - back.length) 0 ++ back))
        else none

/-- `netip.ParseAddr` without zones: the first dot or colon decides the form. -/
def parseAddr (text : List Char) : Option IP :=
  match text.find? fun c => c == '.' || c == ':' || c == '%' with
  | some c =>
    if c = '.' then (parseIPv4 text).map IP.v4
    else if c = ':' then (parseIPv6 text).map IP.v6
    else none
  | none => none

def isMapped (address : BitVec 128) : Bool := address.toNat / 2 ^ 32 == 0xffff

/-- `To4`: an IPv4 address in IPv6 form as the IPv4 address. -/
def unmap : IP → IP
  | .v6 address => if isMapped address then .v4 (address.setWidth 32) else .v6 address
  | .v4 address => .v4 address

/-- `net.ParseIP`. -/
def parseIP (text : List Char) : Option IP := (parseAddr text).map unmap

/-! ### Ranges -/

/-- The range of the addresses that agree with one in the given number of leading bits, if the
address has that many. -/
def network (bits : Nat) : IP → Option Network
  | .v4 address => if bits ≤ 32 then some ⟨.v4 address, bits⟩ else none
  | .v6 address =>
    if 128 < bits then none
    else if 96 ≤ bits ∧ isMapped address then some ⟨.v4 (address.setWidth 32), bits - 96⟩
    else some ⟨.v6 address, bits⟩

/-- `net.ParseCIDR`: an address, a slash and a number of bits. -/
def parseCIDR (text : List Char) : Option Network :=
  (Text.cut '/' text).bind fun halves =>
    (parseAddr halves.1).bind fun ip =>
      if halves.2 ≠ [] ∧ halves.2.all Char.isDigit then network (number 10 halves.2) ip else none

example : parseIP "::ffff:10.0.0.7".toList = some (.ofOctets 10 0 0 7) := by decide
example : parseIP "10.0.0.07".toList = none := by decide
example : (parseCIDR "2001:db8::/032".toList).isSome = true := by decide

/-! ### The characters of an accepted text -/

/-- The characters of addresses. -/
def isAddressChar (c : Char) : Bool := isHexDigit c || c == '.' || c == ':'

theorem isHexDigit_of_isDigit {c : Char} (digit : c.isDigit = true) : isHexDigit c = true := by
  simp [isHexDigit, digit]

theorem isAddressChar_of_isHexDigit {c : Char} (digit : isHexDigit c = true) :
    isAddressChar c = true := by
  simp [isAddressChar, digit]

theorem isAddressChar_of_isGroup {part : List Char} (group : isGroup part = true) :
    ∀ c ∈ part, isAddressChar c = true := by
  intro c member
  simp only [isGroup, Bool.and_eq_true] at group
  exact isAddressChar_of_isHexDigit (List.all_eq_true.mp group.2 c member)

theorem isAddressChar_of_isOctet {part : List Char} (octet : isOctet part = true) :
    ∀ c ∈ part, isAddressChar c = true := by
  intro c member
  simp only [isOctet, Bool.and_eq_true] at octet
  exact isAddressChar_of_isHexDigit
    (isHexDigit_of_isDigit (List.all_eq_true.mp octet.1.1.2 c member))

/-- A property of the parts and of the separator is one of the text they make. -/
theorem of_intercalate {p : Char → Bool} {separator : Char} (separates : p separator = true) :
    ∀ parts : List (List Char), (∀ part ∈ parts, ∀ c ∈ part, p c = true) →
      ∀ c ∈ [separator].intercalate parts, p c = true
  | [], _, c, member => by simp at member
  | [part], holds, c, member => by
    rw [List.intercalate_singleton] at member
    exact holds part List.mem_cons_self c member
  | part :: next :: rest, holds, c, member => by
    rw [List.intercalate_cons_cons] at member
    rcases List.mem_append.mp member with member | member
    · rcases List.mem_append.mp member with member | member
      · exact holds part List.mem_cons_self c member
      · rw [List.mem_singleton.mp member]
        exact separates
    · exact of_intercalate separates (next :: rest)
        (fun other listed => holds other (List.mem_cons_of_mem part listed)) c member

theorem of_splitOn {p : Char → Bool} {separator : Char} {text : List Char}
    (separates : p separator = true)
    (parts : ∀ part ∈ text.splitOn separator, ∀ c ∈ part, p c = true) :
    ∀ c ∈ text, p c = true := by
  have joined : [separator].intercalate (text.splitOn separator) = text :=
    List.intercalate_splitOn separator
  rw [← joined]
  exact of_intercalate separates (text.splitOn separator) parts

theorem of_fields {text : List Char}
    (parts : ∀ part ∈ fields text, ∀ c ∈ part, isAddressChar c = true) :
    ∀ c ∈ text, isAddressChar c = true := by
  by_cases empty : text = []
  · simp [empty]
  · rw [fields, if_neg empty] at parts
    exact of_splitOn (by decide) parts

variable {address : BitVec 32}

theorem isAddressChar_of_parseIPv4 {text : List Char}
    (parsed : parseIPv4 text = some address) : ∀ c ∈ text, isAddressChar c = true := by
  simp only [parseIPv4] at parsed
  split at parsed
  · next dotted =>
    exact of_splitOn (by decide) fun part listed =>
      isAddressChar_of_isOctet (List.all_eq_true.mp dotted.2 part listed)
  · cases parsed

theorem isAddressChar_of_plainGroups {parts : List (List Char)} {groups : List Nat}
    (parsed : plainGroups parts = some groups) :
    ∀ part ∈ parts, ∀ c ∈ part, isAddressChar c = true := by
  intro part listed
  rw [plainGroups] at parsed
  split at parsed
  · next plain => exact isAddressChar_of_isGroup (List.all_eq_true.mp plain part listed)
  · cases parsed

theorem isAddressChar_of_parseGroups : ∀ {parts : List (List Char)} {groups : List Nat},
    parseGroups parts = some groups → ∀ part ∈ parts, ∀ c ∈ part, isAddressChar c = true
  | [], _, _, _, listed => by simp at listed
  | [last], _, parsed, part, listed => by
    rw [List.mem_singleton.mp listed]
    by_cases group : isGroup last = true
    · exact isAddressChar_of_isGroup group
    · rw [parseGroups, if_neg group] at parsed
      obtain ⟨address, dotted, _⟩ := Option.map_eq_some_iff.mp parsed
      exact isAddressChar_of_parseIPv4 dotted
  | first :: next :: rest, _, parsed, part, listed => by
    rw [parseGroups] at parsed
    · split at parsed
      · next group =>
        obtain ⟨groups, later, _⟩ := Option.map_eq_some_iff.mp parsed
        rcases List.mem_cons.mp listed with rfl | listed
        · exact isAddressChar_of_isGroup group
        · exact isAddressChar_of_parseGroups later part listed
      · cases parsed
    · simp

theorem append_of_cutEllipsis : ∀ {text before after : List Char},
    cutEllipsis text = some (before, after) → text = before ++ ':' :: ':' :: after
  | [], _, _, found => by simp [cutEllipsis] at found
  | c :: rest, before, after, found => by
    rw [cutEllipsis] at found
    split at found
    · next double =>
      obtain ⟨rfl, head⟩ := double
      obtain ⟨rfl, rfl⟩ := Prod.mk.inj (Option.some.inj found)
      rw [List.nil_append, ← List.cons_head?_tail head]
      rfl
    · obtain ⟨halves, later, joined⟩ := Option.map_eq_some_iff.mp found
      obtain ⟨rfl, rfl⟩ := Prod.mk.inj joined
      rw [append_of_cutEllipsis later, List.cons_append]

theorem isAddressChar_of_parseIPv6 {text : List Char} {address : BitVec 128}
    (parsed : parseIPv6 text = some address) : ∀ c ∈ text, isAddressChar c = true := by
  rw [parseIPv6] at parsed
  split at parsed
  · obtain ⟨groups, read, _⟩ := Option.bind_eq_some_iff.mp parsed
    exact of_fields (isAddressChar_of_parseGroups read)
  · next before after found =>
    obtain ⟨front, readFront, parsed⟩ := Option.bind_eq_some_iff.mp parsed
    obtain ⟨back, readBack, _⟩ := Option.bind_eq_some_iff.mp parsed
    intro c member
    rw [append_of_cutEllipsis found] at member
    simp only [List.mem_append, List.mem_cons] at member
    rcases member with member | rfl | rfl | member
    · exact of_fields (isAddressChar_of_plainGroups readFront) c member
    · decide
    · decide
    · exact of_fields (isAddressChar_of_parseGroups readBack) c member

theorem isAddressChar_of_parseAddr {text : List Char} {ip : IP}
    (parsed : parseAddr text = some ip) : ∀ c ∈ text, isAddressChar c = true := by
  rw [parseAddr] at parsed
  split at parsed
  · split at parsed
    · obtain ⟨address, read, _⟩ := Option.map_eq_some_iff.mp parsed
      exact isAddressChar_of_parseIPv4 read
    · split at parsed
      · obtain ⟨address, read, _⟩ := Option.map_eq_some_iff.mp parsed
        exact isAddressChar_of_parseIPv6 read
      · cases parsed
  · cases parsed

/-- The characters of ranges. -/
def isRangeChar (c : Char) : Bool := isAddressChar c || c == '/'

/-- The text of a range holds a slash, and nothing but the characters of ranges. -/
theorem isRangeChar_of_parseCIDR {text : List Char} {net : Network}
    (parsed : parseCIDR text = some net) : '/' ∈ text ∧ ∀ c ∈ text, isRangeChar c = true := by
  obtain ⟨⟨address, mask⟩, found, ranged⟩ := Option.bind_eq_some_iff.mp parsed
  obtain ⟨ip, read, ranged⟩ := Option.bind_eq_some_iff.mp ranged
  obtain ⟨rfl, _⟩ := Text.append_of_cut found
  split at ranged
  · next digits =>
    refine ⟨List.mem_append_right address List.mem_cons_self, ?_⟩
    intro c member
    rcases List.mem_append.mp member with member | member
    · simp [isRangeChar, isAddressChar_of_parseAddr read c member]
    · rcases List.mem_cons.mp member with rfl | member
      · decide
      · have digit := List.all_eq_true.mp digits.2 c member
        simp [isRangeChar, isAddressChar_of_isHexDigit (isHexDigit_of_isDigit digit)]
  · cases ranged

/-! ### Reading back a printed IPv4 address -/

/-- What is printed of a number below 256 is an octet, and the same one. -/
theorem octet_toString : ∀ octet < 256, isOctet (toString octet).toList = true ∧
    number 10 (toString octet).toList = octet ∧
      (toString octet).toList.all Char.isDigit = true := by
  decide +kernel

theorem octets_eq (address : BitVec 32) : IP.parts 4 8 address.toNat =
    [address.toNat / 2 ^ 24 % 2 ^ 8, address.toNat / 2 ^ 16 % 2 ^ 8, address.toNat / 2 ^ 8 % 2 ^ 8,
      address.toNat / 2 ^ 0 % 2 ^ 8] := rfl

theorem mem_octets_lt {octet : Nat}
    (member : octet ∈ IP.parts 4 8 address.toNat) : octet < 256 := by
  obtain ⟨i, _, rfl⟩ := List.mem_map.mp member
  exact Nat.mod_lt _ (by decide)

theorem toList_text (address : BitVec 32) : (IP.v4 address).text.toList =
    ['.'].intercalate ((IP.parts 4 8 address.toNat).map fun octet => (toString octet).toList) := by
  rw [IP.text, String.toList_intercalate, List.map_map]
  rfl

theorem splitOn_text (address : BitVec 32) : (IP.v4 address).text.toList.splitOn '.' =
    (IP.parts 4 8 address.toNat).map fun octet => (toString octet).toList := by
  rw [toList_text]
  refine List.splitOn_intercalate '.' ?_ (by rw [octets_eq]; exact List.cons_ne_nil _ _)
  intro part listed dot
  obtain ⟨octet, member, rfl⟩ := List.mem_map.mp listed
  have digits := (octet_toString octet (mem_octets_lt member)).2.2
  exact absurd (List.all_eq_true.mp digits '.' dot) (by decide)

/-- The characters of dotted decimals. -/
theorem digit_or_dot {c : Char}
    (member : c ∈ (IP.v4 address).text.toList) : (c.isDigit || c == '.') = true := by
  refine @of_splitOn (fun c => c.isDigit || c == '.') '.' _ (by decide) ?_ c member
  rw [splitOn_text]
  intro part listed c member
  obtain ⟨octet, inParts, rfl⟩ := List.mem_map.mp listed
  have digits := (octet_toString octet (mem_octets_lt inParts)).2.2
  rw [List.all_eq_true.mp digits c member, Bool.true_or]

theorem parseIPv4_text (address : BitVec 32) :
    parseIPv4 (IP.v4 address).text.toList = some address := by
  have octets : ((IP.parts 4 8 address.toNat).map fun octet => (toString octet).toList).all
      isOctet = true := by
    rw [List.all_eq_true]
    intro part listed
    obtain ⟨octet, member, rfl⟩ := List.mem_map.mp listed
    exact (octet_toString octet (mem_octets_lt member)).1
  have values : ∀ octet ∈ IP.parts 4 8 address.toNat, number 10 (toString octet).toList = octet :=
    fun octet member => (octet_toString octet (mem_octets_lt member)).2.1
  rw [parseIPv4, splitOn_text, if_pos ⟨by rw [octets_eq]; rfl, octets⟩, List.foldl_map,
    List.foldl_ext _ (fun value octet => 256 * value + octet) 0 fun value octet member => by
      rw [values octet member]]
  refine congrArg some (BitVec.eq_of_toNat_eq ?_)
  have bound := address.isLt
  rw [octets_eq]
  simp only [List.foldl_cons, List.foldl_nil, BitVec.toNat_ofNat]
  omega

end SovaDesk.Security
