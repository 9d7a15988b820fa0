/-
This file settles the byte format of socket addresses and the map key made of their text.

An address is written as its IP and its port, in four and two bytes if the IP has an IPv4
form and in sixteen and two otherwise. What is read back is therefore the shorter form of
the IP, which is the same IP and is printed the same, and the same port. The zone of an
address is not written; it is part of the text, and the key is not normalised when there
is one, so an address with a zone does not keep its key.
-/

import SovaDesk.Security.IPv6Text
import SovaDesk.Signal.Panics

namespace SovaDesk.Crypto.AddrMangle

open Signal (Bytes IP bigEndian hexText joinHostPort splitHostPort)

/-! ### IPs -/

/-- The twelve bytes before an IPv4 address in IPv6 form. -/
def v4InV6Prefix : Bytes := [0, 0, 0, 0, 0, 0, 0, 0, 0, 0, 255, 255]

/-- `IP.To4`. -/
def to4 (ip : Bytes) : Option Bytes :=
  if ip.length = 4 then some ip
  else if ip.length = 16 ∧ ip.take 12 = v4InV6Prefix then some (ip.drop 12)
  else none

/-- `IP.To16`. -/
def to16 (ip : Bytes) : Option Bytes :=
  if ip.length = 4 then some (v4InV6Prefix ++ ip)
  else if ip.length = 16 then some ip
  else none

/-- `IP.Equal`: an IPv4 address and the same one in IPv6 form are equal. -/
def equal (ip x : Bytes) : Bool :=
  if ip.length = x.length then ip = x
  else if ip.length = 4 ∧ x.length = 16 then x.take 12 = v4InV6Prefix ∧ ip = x.drop 12
  else if ip.length = 16 ∧ x.length = 4 then ip.take 12 = v4InV6Prefix ∧ ip.drop 12 = x
  else false

/-- The text of an IP; an empty one has none, and one of another length is shown in hexadecimal. -/
def ipEmptyString (ip : Bytes) : String :=
  if ip = [] then ""
  else
    match to4 ip with
    | some ip4 => (IP.v4 (BitVec.ofNat 32 (bigEndian ip4))).text
    | none =>
      if ip.length = 16 then (IP.v6 (BitVec.ofNat 128 (bigEndian ip))).text
      else "?" ++ hexText ip

/-- The IP has the length of an IPv4 or of an IPv6 address. -/
def ValidIP (ip : Bytes) : Prop := ip.length = 4 ∨ ip.length = 16

/-! ### Addresses -/

structure UDPAddr where
  ip : Bytes
  port : Int
  zone : String
  deriving DecidableEq

/-- `UDPAddr.String`. -/
def UDPAddr.text (addr : UDPAddr) : String :=
  joinHostPort
    (if addr.zone = "" then ipEmptyString addr.ip else ipEmptyString addr.ip ++ "%" ++ addr.zone)
    (toString addr.port)

/-- `PutUint16` in big-endian order, of a number that is cut to sixteen bits. -/
def putUint16 (number : Nat) : Bytes := [UInt8.ofNat (number / 256), UInt8.ofNat number]

/-- `copy` into a fresh buffer. -/
def copied (size : Nat) (bytes : Bytes) : Bytes :=
  bytes.take size ++ List.replicate (size - bytes.length) 0

/-- `EncodeAddr`. -/
def encodeAddr (addr : UDPAddr) : Bytes :=
  let port := (addr.port % 2 ^ 16).toNat
  match to4 addr.ip with
  | some ip4 => copied 4 ip4 ++ putUint16 port
  | none => copied 16 ((to16 addr.ip).getD []) ++ putUint16 port

/-- `DecodeAddr`. -/
def decodeAddr (b : Bytes) : Except String UDPAddr :=
  if b.length = 6 then .ok { ip := b.take 4, port := bigEndian (b.drop 4), zone := "" }
  else if b.length = 18 then .ok { ip := b.take 16, port := bigEndian (b.drop 16), zone := "" }
  else .error ("addr_mangle: unexpected length " ++ toString b.length ++ " (expected 6 or 18)")

/-- `normalizeAddrKey`: an address with an IPv4 form is rewritten in it. -/
def normalizeAddrKey (addr : String) : String :=
  match splitHostPort addr.toList with
  | none => addr
  | some (host, port) =>
    match Security.parseIP host with
    | some (.v4 ip4) => joinHostPort (IP.v4 ip4).text (String.ofList port)
    | some (.v6 _) | none => addr

/-! ### The two forms of an IP -/

/-- The IPv4 form of an IP, if it has one. -/
def shortest (ip : Bytes) : Bytes := (to4 ip).getD ip

variable {ip : Bytes}

theorem length_of_to4 {ip4 : Bytes} (short : to4 ip = some ip4) : ip4.length = 4 := by
  unfold to4 at short
  split at short
  · next four =>
    obtain rfl := Option.some.inj short
    exact four
  · split at short
    · next mapped =>
      obtain rfl := Option.some.inj short
      rw [List.length_drop, mapped.1]
    · cases short

theorem to4_of_length (four : ip.length = 4) : to4 ip = some ip := if_pos four

theorem to4_shortest (ip : Bytes) : to4 (shortest ip) = to4 ip := by
  cases short : to4 ip with
  | none => rw [shortest, short, Option.getD_none, short]
  | some ip4 => rw [shortest, short, Option.getD_some, to4_of_length (length_of_to4 short)]

theorem shortest_shortest (ip : Bytes) : shortest (shortest ip) = shortest ip := by
  have same : shortest (shortest ip) = (to4 ip).getD (shortest ip) := by
    rw [← to4_shortest]
    rfl
  rw [same]
  cases short : to4 ip with
  | none => rfl
  | some ip4 => rw [shortest, short, Option.getD_some, Option.getD_some]

theorem validIP_shortest (valid : ValidIP ip) : ValidIP (shortest ip) := by
  cases short : to4 ip with
  | none => rwa [shortest, short, Option.getD_none]
  | some ip4 =>
    rw [shortest, short, Option.getD_some]
    exact .inl (length_of_to4 short)

/-- The shorter form is the same IP. -/
theorem equal_shortest (ip : Bytes) : equal (shortest ip) ip = true := by
  unfold shortest to4
  split
  · next four => rw [Option.getD_some, equal, if_pos rfl, decide_eq_true rfl]
  · split
    · next mapped =>
      have four : (ip.drop 12).length = 4 := by rw [List.length_drop, mapped.1]
      have longer : (ip.drop 12).length ≠ ip.length := by
        rw [four, mapped.1]
        decide
      rw [Option.getD_some, equal, if_neg longer, if_pos ⟨four, mapped.1⟩]
      exact decide_eq_true ⟨mapped.2, rfl⟩
    · rw [Option.getD_none, equal, if_pos rfl, decide_eq_true rfl]

/-- The shorter form is printed the same. -/
theorem ipEmptyString_shortest (valid : ValidIP ip) :
    ipEmptyString (shortest ip) = ipEmptyString ip := by
  have nonempty : ∀ {some_ : Bytes}, ValidIP some_ → some_ ≠ [] := by
    rintro _ (four | sixteen) rfl
    · cases four
    · cases sixteen
  rw [ipEmptyString, ipEmptyString, if_neg (nonempty (validIP_shortest valid)),
    if_neg (nonempty valid), to4_shortest]
  cases short : to4 ip with
  | none => rw [shortest, short, Option.getD_none]
  | some ip4 => rfl

/-! ### Writing and reading -/

theorem copied_of_length {size : Nat} {bytes : Bytes} (length : bytes.length = size) :
    copied size bytes = bytes := by
  rw [copied, ← length, List.take_length, Nat.sub_self, List.replicate_zero, List.append_nil]

theorem bigEndian_putUint16 {number : Nat} (small : number < 2 ^ 16) :
    bigEndian (putUint16 number) = number := by
  show 256 * (256 * 0 + (UInt8.ofNat (number / 256)).toNat) + (UInt8.ofNat number).toNat = number
  rw [UInt8.toNat_ofNat', UInt8.toNat_ofNat']
  omega

theorem putUint16_bigEndian {bytes : Bytes} (two : bytes.length = 2) :
    bigEndian bytes < 2 ^ 16 ∧ putUint16 (bigEndian bytes) = bytes := by
  obtain ⟨high, low, rfl⟩ := List.length_eq_two.mp two
  have value : bigEndian [high, low] = 256 * high.toNat + low.toNat := by
    show 256 * (256 * 0 + high.toNat) + low.toNat = 256 * high.toNat + low.toNat
    omega
  have highSmall := high.toNat_lt
  have lowSmall := low.toNat_lt
  refine ⟨by omega, ?_⟩
  have first : UInt8.ofNat ((256 * high.toNat + low.toNat) / 256) = high := by
    rw [← UInt8.toNat_inj, UInt8.toNat_ofNat']
    omega
  have second : UInt8.ofNat (256 * high.toNat + low.toNat) = low := by
    rw [← UInt8.toNat_inj, UInt8.toNat_ofNat']
    omega
  rw [value, putUint16, first, second]

variable {addr : UDPAddr}

/-- An address is written as the shorter form of its IP and its port. -/
theorem encodeAddr_eq (valid : ValidIP addr.ip) :
    encodeAddr addr = shortest addr.ip ++ putUint16 (addr.port % 2 ^ 16).toNat := by
  unfold encodeAddr shortest
  cases short : to4 addr.ip with
  | some ip4 =>
    show copied 4 ip4 ++ _ = _
    rw [copied_of_length (length_of_to4 short), Option.getD_some]
  | none =>
    have notFour : addr.ip.length ≠ 4 := fun four => by
      rw [to4_of_length four] at short
      cases short
    have sixteen := valid.resolve_left notFour
    show copied 16 ((to16 addr.ip).getD []) ++ _ = _
    rw [to16, if_neg notFour, if_pos sixteen, Option.getD_some, copied_of_length sixteen,
      Option.getD_none]

theorem decodeAddr_append {rest : Bytes} (valid : ValidIP ip) (two : rest.length = 2) :
    decodeAddr (ip ++ rest) = .ok { ip, port := bigEndian rest, zone := "" } := by
  rcases valid with four | sixteen
  · rw [decodeAddr, if_pos (by rw [List.length_append, four, two]), List.take_left' four,
      List.drop_left' four]
  · rw [decodeAddr, if_neg (by rw [List.length_append, sixteen, two]; decide),
      if_pos (by rw [List.length_append, sixteen, two]), List.take_left' sixteen,
      List.drop_left' sixteen]

/-- The lengths that are read, cut into the IP and the port. -/
theorem exists_append_of_length {b : Bytes} (length : b.length = 6 ∨ b.length = 18) :
    ∃ ip rest, b = ip ++ rest ∧ ValidIP ip ∧ rest.length = 2 := by
  rcases length with six | eighteen
  · exact ⟨b.take 4, b.drop 4, (List.take_append_drop 4 b).symm, .inl (by simp [six]),
      by simp [six]⟩
  · exact ⟨b.take 16, b.drop 16, (List.take_append_drop 16 b).symm, .inr (by simp [eighteen]),
      by simp [eighteen]⟩

/-- What is written of an address is read as the shorter form of its IP with its port. -/
theorem decodeAddr_encodeAddr (valid : ValidIP addr.ip) (low : 0 ≤ addr.port)
    (high : addr.port ≤ 65535) :
    decodeAddr (encodeAddr addr) =
      .ok { ip := shortest addr.ip, port := addr.port, zone := "" } := by
  have port : ((bigEndian (putUint16 (addr.port % 2 ^ 16).toNat) : Nat) : Int) = addr.port := by
    rw [bigEndian_putUint16 (by omega)]
    omega
  rw [encodeAddr_eq valid, decodeAddr_append (validIP_shortest valid) rfl, port]

/-- Bytes are read exactly at the two lengths. -/
theorem decodeAddr_isOk_iff (b : Bytes) :
    (∃ addr, decodeAddr b = .ok addr) ↔ b.length = 6 ∨ b.length = 18 := by
  constructor
  · rintro ⟨addr, read⟩
    unfold decodeAddr at read
    split at read
    · next six => exact .inl six
    · split at read
      · next eighteen => exact .inr eighteen
      · cases read
  · intro length
    obtain ⟨ip, rest, rfl, valid, two⟩ := exists_append_of_length length
    exact ⟨_, decodeAddr_append valid two⟩

/-- The bytes of an address with its IP in the shorter form. -/
def reduced (b : Bytes) : Bytes :=
  if b.length = 18 ∧ b.take 12 = v4InV6Prefix then b.drop 12 else b

theorem reduced_append {rest : Bytes} (valid : ValidIP ip) (two : rest.length = 2) :
    reduced (ip ++ rest) = shortest ip ++ rest := by
  rcases valid with four | sixteen
  · rw [reduced, if_neg (by rw [List.length_append, four, two]; rintro ⟨length, -⟩; cases length),
      shortest, to4_of_length four, Option.getD_some]
  · have whole : (ip ++ rest).length = 18 := by rw [List.length_append, sixteen, two]
    have notFour : ip.length ≠ 4 := by
      rw [sixteen]
      decide
    have front : (ip ++ rest).take 12 = ip.take 12 :=
      List.take_append_of_le_length (by rw [sixteen]; decide)
    rw [reduced, shortest, to4, if_neg notFour, front]
    by_cases mapped : ip.take 12 = v4InV6Prefix
    · rw [if_pos ⟨whole, mapped⟩, if_pos ⟨sixteen, mapped⟩, Option.getD_some,
        List.drop_append_of_le_length (by rw [sixteen]; decide)]
    · rw [if_neg fun both => mapped both.2, if_neg fun both => mapped both.2, Option.getD_none]

/-- What is read of bytes is written as the shorter form of them. -/
theorem encodeAddr_of_decodeAddr {b : Bytes} (read : decodeAddr b = .ok addr) :
    encodeAddr addr = reduced b := by
  obtain ⟨ip, rest, rfl, valid, two⟩ :=
    exists_append_of_length ((decodeAddr_isOk_iff b).mp ⟨addr, read⟩)
  obtain rfl := Except.ok.inj ((decodeAddr_append valid two).symm.trans read)
  obtain ⟨small, written⟩ := putUint16_bigEndian two
  have port : (((bigEndian rest : Nat) : Int) % 2 ^ 16).toNat = bigEndian rest := by omega
  rw [encodeAddr_eq valid, port, written, reduced_append valid two]

/-- The shorter form is read and written as it is. -/
theorem reduced_stable {b : Bytes} (length : b.length = 6 ∨ b.length = 18) :
    (decodeAddr (reduced b)).map encodeAddr = .ok (reduced b) := by
  obtain ⟨ip, rest, rfl, valid, two⟩ := exists_append_of_length length
  have read := decodeAddr_append (validIP_shortest valid) two
  have again := encodeAddr_of_decodeAddr read
  rw [reduced_append (validIP_shortest valid) two] at again
  rw [reduced_append valid two, read]
  rw [shortest_shortest] at again
  exact congrArg Except.ok again

/-! ### The address of the signal server -/

/-- The address as the signal server's model has it. -/
def UDPAddr.view (addr : UDPAddr) : Signal.Addr where
  ip :=
    match to4 addr.ip with
    | some ip4 => .v4 (BitVec.ofNat 32 (bigEndian ip4))
    | none => .v6 (BitVec.ofNat 128 (bigEndian addr.ip))
  port := addr.port.toNat

/-- A valid IP is printed as the signal server's model prints it. -/
theorem ipEmptyString_eq (valid : ValidIP addr.ip) :
    ipEmptyString addr.ip = addr.view.ip.text := by
  unfold ipEmptyString UDPAddr.view
  split
  · next empty =>
    rw [ValidIP, empty] at valid
    rcases valid with four | sixteen
    · cases four
    · cases sixteen
  · cases short : to4 addr.ip with
    | some ip4 => rfl
    | none =>
      rcases valid with four | sixteen
      · rw [to4_of_length four] at short
        cases short
      · exact if_pos sixteen

/-! ### Keys -/

/-- The port of a text is what follows the last colon. -/
theorem port_append {port : List Char} (fresh : ':' ∉ port) (before : List Char) :
    ((before ++ ':' :: port).reverse.takeWhile (· != ':')).reverse = port := by
  have noColon : ∀ c ∈ port.reverse, (c != ':') = true := fun c member =>
    bne_iff_ne.mpr (ne_of_mem_of_not_mem (List.mem_reverse.mp member) fresh)
  rw [List.reverse_append, List.reverse_cons, List.append_assoc,
    List.takeWhile_append_of_pos noColon, List.singleton_append,
    List.takeWhile_cons_of_neg (by decide), List.append_nil, List.reverse_reverse]

theorem splitHostPort_joinHostPort {host port : String} (start : host.toList.head? ≠ some '[')
    (fresh : ':' ∉ port.toList) :
    splitHostPort (joinHostPort host port).toList = none ∨
      splitHostPort (joinHostPort host port).toList = some (host.toList, port.toList) := by
  have colonMember : ∀ before : List Char,
      ¬ (!(before ++ ':' :: port.toList).contains ':') = true := by
    intro before
    rw [List.contains_iff_mem.mpr (List.mem_append_right before List.mem_cons_self)]
    decide
  have lastColon : ∀ before : List Char,
      (before ++ ':' :: port.toList).length - port.toList.length - 1 = before.length := by
    intro before
    rw [List.length_append, List.length_cons]
    omega
  unfold joinHostPort
  split
  · have text : ("[" ++ host ++ "]:" ++ port).toList =
        ('[' :: (host.toList ++ [']'])) ++ ':' :: port.toList := by
      simp [String.toList_append]
    rw [text, splitHostPort, if_neg (colonMember _), port_append fresh]
    dsimp only
    have bracket : ('[' :: (host.toList ++ [']']) ++ ':' :: port.toList).head? = some '[' := rfl
    rw [lastColon, if_pos bracket]
    split
    · exact .inl rfl
    · next closed =>
      split
      · exact .inl rfl
      · right
        have close : List.idxOf ']' ('[' :: (host.toList ++ [']']) ++ ':' :: port.toList) =
            host.toList.length + 1 := by
          rw [not_not] at closed
          have length : ('[' :: (host.toList ++ [']'])).length = host.toList.length + 2 := by
            simp
          omega
        rw [close, List.cons_append, List.take_succ_cons, List.drop_one, List.tail_cons,
          List.append_assoc, List.take_left]
  · have text : (host ++ ":" ++ port).toList = host.toList ++ ':' :: port.toList := by
      simp [String.toList_append]
    rw [text, splitHostPort, if_neg (colonMember _), port_append fresh]
    dsimp only
    have noBracket : (host.toList ++ ':' :: port.toList).head? ≠ some '[' := by
      cases first : host.toList with
      | nil => rw [List.nil_append, List.head?_cons]; decide
      | cons c rest =>
        rw [first] at start
        exact start
    rw [lastColon, if_neg noBracket, List.take_left]
    split
    · exact .inl rfl
    · exact .inr rfl

/-- A printed address has nothing but the characters of addresses. -/
theorem isAddressChar_of_mem_text (ip : IP) :
    ∀ c ∈ ip.text.toList, Security.isAddressChar c = true := by
  intro c member
  cases ip with
  | v4 address =>
    have digitOrDot := Security.digit_or_dot member
    rw [Bool.or_eq_true] at digitOrDot
    rcases digitOrDot with digit | dot
    · exact Security.isAddressChar_of_isHexDigit (Security.isHexDigit_of_isDigit digit)
    · rw [beq_iff_eq.mp dot]
      decide
  | v6 address =>
    have printed := Security.isPrintedChar_of_mem_text address c member
    have allowed : "0123456789abcdef:".toList.all Security.isAddressChar = true := by
      decide +kernel
    exact List.all_eq_true.mp allowed c (List.contains_iff_mem.mp printed)

theorem isDigit_of_mem_port {port : Int} (low : 0 ≤ port) :
    ∀ c ∈ (toString port).toList, c.isDigit = true := by
  obtain ⟨number, rfl⟩ := Int.eq_ofNat_of_zero_le low
  intro c member
  have digits : (toString (number : Int)).toList = Nat.toDigits 10 number := Nat.toList_repr
  rw [digits] at member
  exact Nat.isDigit_of_mem_toDigits (by decide) (by decide) member

theorem percent_mem_joinHostPort_iff (host port : String) :
    '%' ∈ (joinHostPort host port).toList ↔ '%' ∈ host.toList ∨ '%' ∈ port.toList := by
  unfold joinHostPort
  split
  · simp [String.toList_append]
  · simp [String.toList_append]

/-- Text with a percent sign in its host is its own key. -/
theorem normalizeAddrKey_of_percent {host port : String} (start : host.toList.head? ≠ some '[')
    (fresh : ':' ∉ port.toList) (percent : '%' ∈ host.toList) :
    normalizeAddrKey (joinHostPort host port) = joinHostPort host port := by
  unfold normalizeAddrKey
  rcases splitHostPort_joinHostPort start fresh with none_ | split_
  · rw [none_]
  · rw [split_]
    dsimp only
    have unread : Security.parseIP host.toList = none := by
      cases read : Security.parseAddr host.toList with
      | none => rw [Security.parseIP, read, Option.map_none]
      | some ip =>
        exact absurd (Security.isAddressChar_of_parseAddr read '%' percent) (by decide)
    rw [unread]

/-- The key of a text without a percent sign has none. -/
theorem percent_notMem_normalizeAddrKey {host port : String}
    (start : host.toList.head? ≠ some '[') (fresh : ':' ∉ port.toList)
    (noPercent : '%' ∉ (joinHostPort host port).toList) :
    '%' ∉ (normalizeAddrKey (joinHostPort host port)).toList := by
  unfold normalizeAddrKey
  rcases splitHostPort_joinHostPort start fresh with none_ | split_
  · rwa [none_]
  · rw [split_]
    dsimp only
    split
    · next ip4 read =>
      rw [percent_mem_joinHostPort_iff, String.toList_ofList]
      rintro (inIP | inPort)
      · exact absurd (isAddressChar_of_mem_text _ '%' inIP) (by decide)
      · exact noPercent ((percent_mem_joinHostPort_iff host port).mpr (.inr inPort))
    · exact noPercent
    · exact noPercent

section Valid

variable {addr : UDPAddr} (valid : ValidIP addr.ip) (low : 0 ≤ addr.port)

include low in
theorem notMem_port {c : Char} (noDigit : c.isDigit = false) : c ∉ (toString addr.port).toList := by
  intro member
  rw [isDigit_of_mem_port low c member] at noDigit
  cases noDigit

include valid low in
/-- The key of an address without a zone has no percent sign. -/
theorem percent_notMem_key (noZone : addr.zone = "") :
    '%' ∉ (normalizeAddrKey addr.text).toList := by
  have characters := isAddressChar_of_mem_text addr.view.ip
  unfold UDPAddr.text
  rw [if_pos noZone, ipEmptyString_eq valid]
  refine percent_notMem_normalizeAddrKey (fun bracket => ?_) (notMem_port low (by decide)) ?_
  · exact absurd (characters '[' (List.mem_of_head? bracket)) (by decide)
  · rw [percent_mem_joinHostPort_iff]
    rintro (inIP | inPort)
    · exact absurd (characters '%' inIP) (by decide)
    · exact notMem_port low (by decide) inPort

include valid low in
theorem percent_mem_key (zone : addr.zone ≠ "") : '%' ∈ (normalizeAddrKey addr.text).toList := by
  have characters := isAddressChar_of_mem_text addr.view.ip
  have host : (addr.view.ip.text ++ "%" ++ addr.zone).toList =
      addr.view.ip.text.toList ++ '%' :: addr.zone.toList := by
    simp [String.toList_append]
  have percent : '%' ∈ (addr.view.ip.text ++ "%" ++ addr.zone).toList := by
    rw [host]
    exact List.mem_append_right _ List.mem_cons_self
  have start : (addr.view.ip.text ++ "%" ++ addr.zone).toList.head? ≠ some '[' := by
    rw [host]
    intro bracket
    cases first : addr.view.ip.text.toList with
    | nil =>
      rw [first, List.nil_append, List.head?_cons] at bracket
      exact absurd (Option.some.inj bracket) (by decide)
    | cons c rest =>
      rw [first, List.cons_append, List.head?_cons] at bracket
      have allowed := characters c (by rw [first]; exact List.mem_cons_self)
      rw [Option.some.inj bracket] at allowed
      exact absurd allowed (by decide)
  unfold UDPAddr.text
  rw [if_neg zone, ipEmptyString_eq valid,
    normalizeAddrKey_of_percent start (notMem_port low (by decide)) percent,
    percent_mem_joinHostPort_iff]
  exact .inl percent

end Valid

/-! ### The codec -/

/-- An address whose port fits into sixteen bits is read back with an equal IP and the same port,
and under the same key if and only if it has no zone. Bytes are read exactly at the lengths six and
eighteen, and written back as they are, but for an IPv4 address in IPv6 form, which comes out in six
bytes and stays so. -/
theorem address_codec :
    (∀ addr : UDPAddr, ValidIP addr.ip → 0 ≤ addr.port → addr.port ≤ 65535 →
      ∃ decoded, decodeAddr (encodeAddr addr) = .ok decoded ∧
        equal decoded.ip addr.ip = true ∧ decoded.port = addr.port ∧
        (normalizeAddrKey decoded.text = normalizeAddrKey addr.text ↔ addr.zone = "")) ∧
    (∀ b, (∃ addr, decodeAddr b = .ok addr) ↔ b.length = 6 ∨ b.length = 18) ∧
    ∀ b addr, decodeAddr b = .ok addr →
      encodeAddr addr = reduced b ∧
        (decodeAddr (reduced b)).map encodeAddr = .ok (reduced b) := by
  refine ⟨fun addr valid low high => ?_, decodeAddr_isOk_iff, fun b addr read => ?_⟩
  · refine ⟨_, decodeAddr_encodeAddr valid low high, equal_shortest addr.ip, rfl, ?_⟩
    constructor
    · intro same
      by_contra zone
      have noPercent :
          '%' ∉ (normalizeAddrKey (UDPAddr.text ⟨shortest addr.ip, addr.port, ""⟩)).toList :=
        percent_notMem_key (validIP_shortest valid) low rfl
      rw [same] at noPercent
      exact noPercent (percent_mem_key valid low zone)
    · intro noZone
      have text : UDPAddr.text ⟨shortest addr.ip, addr.port, ""⟩ = addr.text := by
        rw [UDPAddr.text, UDPAddr.text, ipEmptyString_shortest valid, if_pos rfl, if_pos noZone]
      rw [text]
  · exact ⟨encodeAddr_of_decodeAddr read, reduced_stable ((decodeAddr_isOk_iff b).mp ⟨addr, read⟩)⟩

/-- The address ::ffff:192.168.1.1 in sixteen bytes, with port 8080. -/
def mappedAddr : UDPAddr where
  ip := v4InV6Prefix ++ [192, 168, 1, 1]
  port := 8080
  zone := ""

theorem address_codec_mapped :
    ∃ decoded, decodeAddr (encodeAddr mappedAddr) = .ok decoded ∧
      equal decoded.ip mappedAddr.ip = true ∧ decoded.port = mappedAddr.port ∧
      (normalizeAddrKey decoded.text = normalizeAddrKey mappedAddr.text ↔ mappedAddr.zone = "") :=
  address_codec.1 mappedAddr (.inr rfl) (by decide) (by decide)

/-- The address fe80::1 on the interface eth0, with port 21116. -/
def linkLocalAddr : UDPAddr where
  ip := [254, 128, 0, 0, 0, 0, 0, 0, 0, 0, 0, 0, 0, 0, 0, 1]
  port := 21116
  zone := "eth0"

/-- The key of an address on a link is not that of what is read back. -/
theorem zone_changes_key :
    ∃ decoded, decodeAddr (encodeAddr linkLocalAddr) = .ok decoded ∧
      normalizeAddrKey decoded.text ≠ normalizeAddrKey linkLocalAddr.text :=
  ⟨{ linkLocalAddr with zone := "" }, by decide, by decide +kernel⟩

end SovaDesk.Crypto.AddrMangle
