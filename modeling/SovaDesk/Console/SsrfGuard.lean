/-
This file models the console's guard of server-side requests, and says which URLs it lets
through to an address that it is there to protect.

The guard judges the texts of addresses: the literal address of the URL, or every address
that the name of the host resolves to. An IPv4 address has one text, and its octets are
compared as numbers. An IPv6 address has many, and the guard looks at how the text begins.
So the unspecified address passes in every spelling, the loopback address unless it is
written `::1`, the link-local addresses beyond `fe80::/16`, and an IPv4 address in IPv6
form unless its last half is dotted, which is a spelling that no URL keeps. The parser of
URLs and the resolver of names are parameters: the parser gives hosts in their canonical
form, the resolver any addresses in any text that denotes them.
-/

import SovaDesk.Console.Text
import SovaDesk.Security.IPv6Text

namespace SovaDesk.Console.SsrfGuard

open Security Signal

/-! ### The texts of addresses -/

def toLowerCase (text : List Char) : List Char := text.map Char.toLower

/-- The characters of a zone. -/
def isZoneChar (c : Char) : Bool := c.isAlphanum || c == '-' || c == '.' || c == ':'

/-- The IPv6 address of a text, which may name a zone after it. -/
def readIPv6 (text : List Char) : Option (BitVec 128) :=
  let zone := text.dropWhile (· != '%')
  if zone = [] ∨ zone.tail ≠ [] ∧ zone.tail.all isZoneChar then
    parseIPv6 (text.takeWhile (· != '%'))
  else none

/-- The address that a text denotes. -/
def readIP (text : List Char) : Option IP :=
  (parseIPv4 text).map IP.v4 <|> (readIPv6 text).map IP.v6

def isIPv4 (text : List Char) : Bool := (parseIPv4 text).isSome

def isIPv6 (text : List Char) : Bool := (readIPv6 text).isSome

def isIP (text : List Char) : Bool := isIPv4 text || isIPv6 text

/-! ### The judgement of one text -/

/-- The part of `isBlockedIp` that is about IPv4. -/
def isBlockedIPv4 (allowPrivate : Bool) (ip : List Char) : Bool :=
  match (ip.splitOn '.').map (number 10) with
  | [a, b, _, _] =>
    a == 127 || a == 169 && b == 254 ||
      !allowPrivate && (a == 0 || a == 10 || a == 172 && 16 ≤ b && b ≤ 31 || a == 192 && b == 168 ||
        a == 100 && 64 ≤ b && b ≤ 127 || a == 198 && (b == 18 || b == 19))
  | _ => true

def isBlockedIp (allowPrivate : Bool) (ip : List Char) : Bool :=
  if ip = [] then true
  else if isIPv4 ip then isBlockedIPv4 allowPrivate ip
  else if isIPv6 ip then
    let normalized := toLowerCase ip
    normalized == "::1".toList || "fe80:".toList.isPrefixOf normalized ||
      !allowPrivate && ("fc".toList.isPrefixOf normalized || "fd".toList.isPrefixOf normalized) ||
      "::ffff:".toList.isPrefixOf normalized && isIPv4 (normalized.drop 7) &&
        isBlockedIPv4 allowPrivate (normalized.drop 7)
  else false

/-! ### The guard -/

/-- A host name as the parser of URLs leaves it. -/
structure Domain where
  text : String
  nonempty : text ≠ ""
  lower : ∀ c ∈ text.toList, c.toLower = c
  plain : ∀ c ∈ text.toList, isWhiteSpace c = false ∧ c ≠ '['
  notIP : isIP text.toList = false

/-- The host of an http URL. -/
inductive Host
  | ipv4 (address : BitVec 32)
  | ipv6 (address : BitVec 128)
  | domain (name : Domain)

/-- The serialization of a host. -/
def Host.text : Host → String
  | .ipv4 address => (IP.v4 address).text
  | .ipv6 address => "[" ++ (IP.v6 address).text ++ "]"
  | .domain name => name.text

/-- A parsed URL. What other schemes have for a host is left out: the guard never looks at it. -/
structure URL where
  protocol : String
  username : String
  password : String
  host : Option Host
  special : protocol = "http:" ∨ protocol = "https:" → host.isSome

def URL.hostname (url : URL) : String := url.host.elim "" Host.text

/-- A record of the resolver: the text of an address, and the address. -/
structure Record where
  address : String
  ip : IP
  reads : readIP address.toList = some ip

/-- The code that the guard calls: the parser of URLs and the resolver of names. -/
structure World where
  parse : String → Option URL
  lookup : String → Except String (List Record)

def blockedHostnames : List String :=
  ["localhost", "localhost.localdomain", "metadata.google.internal", "metadata.goog"]

def normalizeHostname (host : String) : String :=
  let h := toLowerCase (trim host).toList
  String.ofList (if h.head? = some '[' ∧ h.getLast? = some ']' then h.tail.dropLast else h)

def assertSafeHostname (allowPrivate : Bool) (host : String) : Except String String :=
  let clean := normalizeHostname host
  if clean = "" then .error "Missing hostname"
  else if blockedHostnames.contains clean then .error s!"Blocked hostname: {clean}"
  else if isIP clean.toList && isBlockedIp allowPrivate clean.toList then
    .error s!"Blocked IP address: {clean}"
  else .ok clean

def assertSafeResolvedHost (world : World) (allowPrivate : Bool) (host : String) :
    Except String String :=
  match assertSafeHostname allowPrivate host with
  | .error message => .error message
  | .ok clean =>
    if isIP clean.toList then .ok clean
    else
      match world.lookup clean with
      | .error message => .error s!"DNS lookup failed for {clean}: {message}"
      | .ok [] => .error s!"No DNS records for {clean}"
      | .ok records =>
        match records.find? fun record => isBlockedIp allowPrivate record.address.toList with
        | some record =>
          .error s!"Hostname {clean} resolves to blocked address {record.address}"
        | none => .ok clean

def assertSafeHttpUrl (world : World) (allowPrivate : Bool) (urlString : String) :
    Except String URL :=
  if urlString = "" then .error "URL is required"
  else
    match world.parse urlString with
    | none => .error "Invalid URL"
    | some parsed =>
      if parsed.protocol ≠ "http:" ∧ parsed.protocol ≠ "https:" then
        .error "Only http and https URLs are allowed"
      else if parsed.username ≠ "" ∨ parsed.password ≠ "" then
        .error "Credentials in URL are not allowed"
      else
        match assertSafeResolvedHost world allowPrivate parsed.hostname with
        | .error message => .error message
        | .ok _ => .ok parsed

def assertSafeMonitoringUrl (world : World) (urlString : String) : Except String URL :=
  assertSafeHttpUrl world true urlString

/-! ### The addresses to protect -/

/-- The range `100.64.0.0/10`. -/
def isCarrierGrade : IP → Bool
  | .v4 address => address.toNat / 2 ^ 22 == 401
  | .v6 _ => false

/-- The addresses that no request may reach: unspecified, loopback and link-local ones, and for
requests that may not go to private networks also private, unique-local and carrier-grade ones. An
IPv4 address in IPv6 form is the IPv4 address. -/
def isProtected (allowPrivate : Bool) (ip : IP) : Bool :=
  let ip := unmap ip
  ip.isUnspecified || ip.isLoopback || ip.isLinkLocalUnicast ||
    !allowPrivate && (privateRanges.any (·.contains ip) || isCarrierGrade ip)

/-- An IPv4 address in IPv6 form with its last half dotted. -/
def isDotted (text : List Char) : Bool :=
  "::ffff:".toList.isPrefixOf (toLowerCase text) && isIPv4 ((toLowerCase text).drop 7)

/-- The texts of protected addresses that the guard lets pass. -/
def Evades (allowPrivate : Bool) (text : List Char) : IP → Prop
  | .v4 address => allowPrivate = true ∧ address = 0
  | .v6 address =>
    if isMapped address then
      isProtected allowPrivate (.v6 address) = true ∧
        (isDotted text = false ∨ allowPrivate = true ∧ address.setWidth 32 = (0 : BitVec 32))
    else
      address = 0 ∨ address = 1 ∧ toLowerCase text ≠ "::1".toList ∨
        (IP.v6 address).isLinkLocalUnicast = true ∧ address.toNat / 2 ^ 112 ≠ 0xfe80

/-! ### Lower-case spellings -/

theorem toLower_cases (c : Char) :
    c.toLower = c ∨ (65 ≤ c.toNat ∧ c.toNat ≤ 90) ∧ c.toLower.toNat = c.toNat + 32 := by
  by_cases upper : c.val ≥ 'A'.val ∧ c.val ≤ 'Z'.val
  · right
    obtain ⟨low, high⟩ := upper
    rw [ge_iff_le, UInt32.le_iff_toNat_le] at low
    rw [UInt32.le_iff_toNat_le] at high
    have lowA : (65 : Nat) ≤ c.val.toNat := low
    have highZ : c.val.toNat ≤ 90 := high
    refine ⟨⟨lowA, highZ⟩, ?_⟩
    have value : c.toLower.toNat = (c.val + 32).toNat :=
      congrArg Char.toNat (dif_pos ⟨low, high⟩)
    have letter : c.toNat = c.val.toNat := rfl
    rw [value, letter]
    have thirtyTwo : (32 : UInt32).toNat = 32 := rfl
    rw [UInt32.toNat_add, thirtyTwo]
    exact Nat.mod_eq_of_lt (by omega)
  · left
    exact dif_neg upper

variable {c : Char}

/-- Only a letter has two spellings. -/
theorem eq_of_toLower {d : Char} (plain : d.toNat < 97) (same : c.toLower = d) : c = d := by
  rcases toLower_cases c with fixed | ⟨range, value⟩
  · exact fixed.symm.trans same
  · rw [same] at value
    omega

theorem toLower_f (same : c.toLower = 'f') : c = 'f' ∨ c = 'F' := by
  rcases toLower_cases c with fixed | ⟨range, value⟩
  · exact Or.inl (fixed.symm.trans same)
  · rw [same] at value
    have code : ('f' : Char).toNat = 102 := rfl
    refine Or.inr (Char.ext (UInt32.toNat_inj.mp ?_))
    show c.toNat = 70
    omega

theorem toLower_hex : ∀ n < 103, isHexDigit (Char.ofNat n) = true →
    (Char.ofNat n).toLower = (digitValue (Char.ofNat n)).digitChar := by
  decide

/-- The lower-case spelling of a hexadecimal digit is the one that is printed. -/
theorem toLower_of_isHexDigit (digit : isHexDigit c = true) :
    c.toLower = (digitValue c).digitChar := by
  have small : c.toNat < 103 := by
    simp only [isHexDigit, Bool.or_eq_true, Bool.and_eq_true, decide_eq_true_eq, Char.le_def,
      Char.isDigit, UInt32.le_iff_toNat_le, ge_iff_le] at digit
    have nine : ('9' : Char).val.toNat = 57 := rfl
    have lowerF : ('f' : Char).val.toNat = 102 := rfl
    have upperF : ('F' : Char).val.toNat = 70 := rfl
    rw [nine, lowerF, upperF] at digit
    show c.val.toNat < 103
    omega
  have hex := toLower_hex c.toNat small
  rw [Char.ofNat_toNat] at hex
  exact hex digit

theorem toDigits_step {n digit : Nat} (positive : 0 < n) (small : digit < 16) :
    Nat.toDigits 16 (16 * n + digit) = Nat.toDigits 16 n ++ [digit.digitChar] := by
  rw [Nat.toDigits_of_base_le (by decide) (by omega), show (16 * n + digit) / 16 = n by omega,
    show (16 * n + digit) % 16 = digit by omega]

/-- A group of four digits without a leading zero is spelled as it is printed. -/
theorem toLowerCase_of_isGroup {part : List Char} (group : isGroup part = true)
    (large : 16 ^ 3 ≤ number 16 part) :
    part.length = 4 ∧ toLowerCase part = Nat.toDigits 16 (number 16 part) := by
  simp only [isGroup, Bool.and_eq_true, decide_eq_true_eq] at group
  obtain ⟨⟨_, short⟩, digits⟩ := group
  have length : part.length = 4 := by
    have bound := Nat.lt_of_le_of_lt large (number_lt digits)
    have := (Nat.pow_lt_pow_iff_right (a := 16) (by decide)).mp bound
    omega
  refine ⟨length, ?_⟩
  obtain ⟨c₁, c₂, c₃, c₄, rfl⟩ : ∃ c₁ c₂ c₃ c₄, part = [c₁, c₂, c₃, c₄] :=
    List.length_eq_four.mp length
  simp only [List.all_cons, List.all_nil, Bool.and_eq_true, and_true] at digits
  obtain ⟨digit₁, digit₂, digit₃, digit₄⟩ := digits
  have small₁ := digitValue_lt digit₁
  have small₂ := digitValue_lt digit₂
  have small₃ := digitValue_lt digit₃
  have small₄ := digitValue_lt digit₄
  have value : number 16 [c₁, c₂, c₃, c₄] = 16 * (16 * (16 * digitValue c₁ + digitValue c₂) +
      digitValue c₃) + digitValue c₄ := by
    simp only [number, List.foldl_cons, List.foldl_nil, Nat.mul_zero, Nat.zero_add]
  rw [value] at large ⊢
  have positive : 0 < digitValue c₁ := by omega
  rw [toDigits_step (by omega) small₄, toDigits_step (by omega) small₃,
    toDigits_step positive small₂, Nat.toDigits_of_lt_base small₁]
  simp only [toLowerCase, List.map_cons, List.map_nil, toLower_of_isHexDigit digit₁,
    toLower_of_isHexDigit digit₂, toLower_of_isHexDigit digit₃, toLower_of_isHexDigit digit₄,
    List.cons_append, List.nil_append]

/-! ### How the text of an IPv6 address begins -/

variable {text : List Char} {address : BitVec 128}

theorem parseIPv6_of_readIPv6 (read : readIPv6 text = some address) :
    parseIPv6 (text.takeWhile (· != '%')) = some address := by
  simp only [readIPv6] at read
  split at read
  · exact read
  · cases read

theorem number_pos {first : Char} {rest : List Char} (positive : digitValue first ≠ 0) :
    number 16 (first :: rest) ≠ 0 := by
  have grows : ∀ (digits : List Char) (start : Nat), start ≠ 0 →
      digits.foldl (fun value c => 16 * value + digitValue c) start ≠ 0 := by
    intro digits
    induction digits with
    | nil => exact fun _ nonzero => nonzero
    | cons c digits inductionHypothesis =>
      intro start nonzero
      have next : 16 * start + digitValue c ≠ 0 := by omega
      exact inductionHypothesis _ next
  have start : 16 * 0 + digitValue first ≠ 0 := by omega
  exact grows rest _ start

/-- A text that begins with the digit `f` has a first group that is not zero. -/
theorem head_of_top_zero (read : readIPv6 text = some address) (top : address.toNat / 2 ^ 112 = 0) :
    (toLowerCase text).head? ≠ some 'f' := by
  intro head
  have parsed := parseIPv6_of_readIPv6 read
  obtain ⟨c, rest, rfl, lower⟩ : ∃ c rest, text = c :: rest ∧ c.toLower = 'f' := by
    cases text with
    | nil => exact absurd head (Option.some_ne_none 'f').symm
    | cons c rest => exact ⟨c, rest, rfl, Option.some.inj head⟩
  have letter : c != '%' ∧ c ≠ ':' ∧ digitValue c ≠ 0 := by
    rcases toLower_f lower with rfl | rfl <;> decide
  rw [List.takeWhile_cons, if_pos letter.1] at parsed
  rcases first_of_parseIPv6 parsed with ⟨part, more, split, group, value⟩ | ⟨colon, _⟩
  · cases part with
    | nil => exact ne_nil_of_isGroup group rfl
    | cons first part =>
      obtain ⟨rfl, _⟩ := List.cons.inj split
      exact number_pos letter.2.2 (value.trans top)
  · exact letter.2.1 (Option.some.inj colon)

/-- A text begins with the four digits of its first group when that has no leading zero. -/
theorem take_of_top_large
    (read : readIPv6 text = some address) (large : 16 ^ 3 ≤ address.toNat / 2 ^ 112) :
    (toLowerCase text).take 5 = Nat.toDigits 16 (address.toNat / 2 ^ 112) ++ [':'] := by
  have parsed := parseIPv6_of_readIPv6 read
  rcases first_of_parseIPv6 parsed with ⟨part, more, split, group, value⟩ | ⟨_, zero⟩
  · obtain ⟨length, lower⟩ := toLowerCase_of_isGroup group (value ▸ large)
    have whole : text = part ++ ':' :: (more ++ text.dropWhile (· != '%')) := by
      calc text = text.takeWhile (· != '%') ++ text.dropWhile (· != '%') :=
            List.takeWhile_append_dropWhile.symm
        _ = part ++ ':' :: (more ++ text.dropWhile (· != '%')) := by
            rw [split, List.append_assoc, List.cons_append]
    rw [value] at lower
    rw [whole, toLowerCase, List.map_append, List.map_cons]
    rw [toLowerCase] at lower
    rw [← lower, List.take_append, List.length_map, length,
      List.take_of_length_le (by rw [List.length_map, length]; decide)]
    rfl
  · omega

theorem loopback_of_lower
    (read : readIPv6 text = some address) (lower : toLowerCase text = "::1".toList) :
    address = 1 := by
  obtain ⟨c₁, rest₁, rfl, first, lower⟩ := List.map_eq_cons_iff.mp lower
  obtain ⟨c₂, rest₂, rfl, second, lower⟩ := List.map_eq_cons_iff.mp lower
  obtain ⟨c₃, rest₃, rfl, third, lower⟩ := List.map_eq_cons_iff.mp lower
  obtain rfl := List.map_eq_nil_iff.mp lower
  obtain rfl := eq_of_toLower (by decide) first
  obtain rfl := eq_of_toLower (by decide) second
  obtain rfl := eq_of_toLower (by decide) third
  exact (Option.some.inj ((show readIPv6 [':', ':', '1'] = some 1 by decide).symm.trans read)).symm

theorem digit_or_dot_of_parseIPv4 {address : BitVec 32}
    (read : parseIPv4 text = some address) : ∀ c ∈ text, (c.isDigit || c == '.') = true := by
  rw [parseIPv4] at read
  split at read
  · next dotted =>
    refine @of_splitOn (fun c => c.isDigit || c == '.') '.' _ (by decide) ?_
    intro part listed c member
    have octet := List.all_eq_true.mp dotted.2 part listed
    simp only [isOctet, Bool.and_eq_true] at octet
    rw [List.all_eq_true.mp octet.1.1.2 c member, Bool.true_or]
  · cases read

theorem toNat_of_digit_or_dot (plain : (c.isDigit || c == '.') = true) :
    c.toNat < 58 := by
  rcases Bool.or_eq_true _ _ ▸ plain with digit | dot
  · simp only [Char.isDigit, Bool.and_eq_true, decide_eq_true_eq, UInt32.le_iff_toNat_le] at digit
    have nine : ('9' : Char).val.toNat = 57 := rfl
    rw [nine] at digit
    show c.val.toNat < 58
    omega
  · rw [beq_iff_eq.mp dot]
    decide

/-- Dotted decimals have one spelling. -/
theorem eq_of_toLowerCase {plain : List Char}
    (small : ∀ c ∈ plain, c.toNat < 97) (lower : toLowerCase text = plain) : text = plain := by
  induction text generalizing plain with
  | nil => exact lower
  | cons c rest inductionHypothesis =>
    subst lower
    have first := eq_of_toLower (small c.toLower List.mem_cons_self) rfl
    have later := inductionHypothesis
      (fun other member => small other (List.mem_cons_of_mem _ member)) rfl
    calc c :: rest = c.toLower :: rest := by rw [← first]
      _ = c.toLower :: toLowerCase rest := congrArg _ later

theorem group_ffff {a b d : Char} (first : a.toLower = 'f') (second : b.toLower = 'f')
    (third : c.toLower = 'f') (fourth : d.toLower = 'f') :
    isGroup [a, b, c, d] = true ∧ number 16 [a, b, c, d] = 0xffff ∧ ':' ∉ [a, b, c, d] := by
  rcases toLower_f first with rfl | rfl <;> rcases toLower_f second with rfl | rfl <;>
    rcases toLower_f third with rfl | rfl <;> rcases toLower_f fourth with rfl | rfl <;> decide

/-- The dotted form denotes the IPv4 address at its end. -/
theorem parseIPv6_dotted {group : List Char} {address : BitVec 32}
    (isGroup : isGroup group = true) (value : number 16 group = 0xffff) (fresh : ':' ∉ group)
    (read : parseIPv4 text = some address) :
    parseIPv6 (':' :: ':' :: (group ++ ':' :: text)) =
      some (BitVec.ofNat 128 (0xffff * 2 ^ 32 + address.toNat)) := by
  have plain := digit_or_dot_of_parseIPv4 read
  have freshText : ':' ∉ text := fun colon => absurd (plain ':' colon) (by decide)
  have notGroup : ¬Security.isGroup text = true := by
    intro group
    have dot : '.' ∈ text := by
      by_contra noDot
      rw [parseIPv4, List.splitOn_eq_singleton noDot, if_neg (fun both => by simp at both)] at read
      cases read
    simp only [Security.isGroup, Bool.and_eq_true] at group
    exact absurd (List.all_eq_true.mp group.2 '.' dot) (by decide)
  have split : fields (group ++ ':' :: text) = [group, text] := by
    rw [fields, if_neg (by simp)]
    have joined : group ++ ':' :: text = [':'].intercalate [group, text] := by
      rw [List.intercalate_cons_cons, List.intercalate_singleton, List.append_assoc]
      rfl
    rw [joined]
    refine List.splitOn_intercalate ':' (fun part member => ?_) (List.cons_ne_nil _ _)
    simp only [List.mem_cons, List.not_mem_nil, or_false] at member
    rcases member with rfl | rfl
    · exact fresh
    · exact freshText
  have groups : parseGroups [group, text] =
      some [0xffff, address.toNat / 2 ^ 16, address.toNat % 2 ^ 16] := by
    rw [parseGroups, if_pos isGroup, parseGroups, if_neg notGroup, read, value]
    · rfl
    · exact List.cons_ne_nil _ _
  have ellipsis : cutEllipsis (':' :: ':' :: (group ++ ':' :: text)) =
      some ([], group ++ ':' :: text) := rfl
  rw [parseIPv6, ellipsis]
  simp only
  rw [split, groups]
  show some (ofGroups [0, 0, 0, 0, 0, 0xffff, address.toNat / 2 ^ 16, address.toNat % 2 ^ 16]) = _
  rw [ofGroups]
  refine congrArg (fun n => some (BitVec.ofNat 128 n)) ?_
  simp only [List.foldl_cons, List.foldl_nil]
  omega

/-- A text in dotted form denotes the IPv4 address at its end. -/
theorem mapped_of_isDotted (read : readIPv6 text = some address) (dotted : isDotted text = true) :
    ∃ last : BitVec 32, parseIPv4 ((toLowerCase text).drop 7) = some last ∧
      address.toNat = 0xffff * 2 ^ 32 + last.toNat := by
  simp only [isDotted, Bool.and_eq_true, List.isPrefixOf_iff_prefix] at dotted
  obtain ⟨⟨rest, begins⟩, dotted⟩ := dotted
  obtain ⟨last, readLast⟩ := Option.isSome_iff_exists.mp dotted
  refine ⟨last, readLast, ?_⟩
  have readRest : parseIPv4 rest = some last := by
    rw [← begins] at readLast
    exact readLast
  have lower₀ : toLowerCase text = ':' :: ':' :: 'f' :: 'f' :: 'f' :: 'f' :: ':' :: rest :=
    begins.symm
  obtain ⟨c₁, rest₁, rfl, first, lower₁⟩ := List.map_eq_cons_iff.mp lower₀
  obtain ⟨c₂, rest₂, rfl, second, lower₂⟩ := List.map_eq_cons_iff.mp lower₁
  obtain ⟨c₃, rest₃, rfl, third, lower₃⟩ := List.map_eq_cons_iff.mp lower₂
  obtain ⟨c₄, rest₄, rfl, fourth, lower₄⟩ := List.map_eq_cons_iff.mp lower₃
  obtain ⟨c₅, rest₅, rfl, fifth, lower₅⟩ := List.map_eq_cons_iff.mp lower₄
  obtain ⟨c₆, rest₆, rfl, sixth, lower₆⟩ := List.map_eq_cons_iff.mp lower₅
  obtain ⟨c₇, rest₇, rfl, seventh, lower₇⟩ := List.map_eq_cons_iff.mp lower₆
  obtain rfl := eq_of_toLower (by decide) first
  obtain rfl := eq_of_toLower (by decide) second
  obtain rfl := eq_of_toLower (by decide) seventh
  obtain rfl := eq_of_toLowerCase (fun c member =>
    Nat.lt_trans (toNat_of_digit_or_dot (digit_or_dot_of_parseIPv4 readRest c member))
      (by decide)) lower₇
  obtain ⟨group, value, fresh⟩ := group_ffff third fourth fifth sixth
  have parsed := parseIPv6_of_readIPv6 read
  have whole : (':' :: ':' :: c₃ :: c₄ :: c₅ :: c₆ :: ':' :: rest₇).takeWhile (· != '%') =
      ':' :: ':' :: ([c₃, c₄, c₅, c₆] ++ ':' :: rest₇) := by
    refine List.takeWhile_eq_self_iff.mpr ?_
    intro c member
    simp only [List.mem_cons] at member
    have letter : ∀ c : Char, c.toLower = 'f' → (c != '%') = true := fun c lower => by
      rcases toLower_f lower with rfl | rfl <;> decide
    rcases member with rfl | rfl | rfl | rfl | rfl | rfl | rfl | member
    · decide
    · decide
    · exact letter c third
    · exact letter c fourth
    · exact letter c fifth
    · exact letter c sixth
    · decide
    · have plain := digit_or_dot_of_parseIPv4 readRest c member
      rw [bne_iff_ne]
      rintro rfl
      exact absurd plain (by decide)
  have bound := last.isLt
  rw [whole, parseIPv6_dotted group value fresh readRest] at parsed
  obtain rfl := Option.some.inj parsed
  rw [BitVec.toNat_ofNat]
  omega

/-! ### What is protected and passes -/

variable {allowPrivate : Bool}

theorem octets_of_parseIPv4 {address : BitVec 32} (read : parseIPv4 text = some address) :
    ∃ c d, (text.splitOn '.').map (number 10) =
      [address.toNat / 2 ^ 24, address.toNat / 2 ^ 16 % 256, c, d] := by
  rw [parseIPv4] at read
  split at read
  · next dotted =>
    obtain ⟨length, octets⟩ := dotted
    obtain rfl := Option.some.inj read
    generalize text.splitOn '.' = parts at length octets
    obtain ⟨a, b, c, d, rfl⟩ := List.length_eq_four.mp length
    simp only [List.all_cons, List.all_nil, Bool.and_eq_true, and_true, isOctet,
      decide_eq_true_eq] at octets
    obtain ⟨⟨_, first⟩, ⟨_, second⟩, ⟨_, third⟩, ⟨_, fourth⟩⟩ := octets
    refine ⟨number 10 c, number 10 d, ?_⟩
    simp only [List.map_cons, List.map_nil, List.foldl_cons, List.foldl_nil, BitVec.toNat_ofNat,
      List.cons.injEq, and_true]
    omega
  · cases read

/-- The ranges by the first two octets. -/
theorem isProtected_v4 (address : BitVec 32) :
    isProtected allowPrivate (.v4 address) = true ↔
      address.toNat = 0 ∨ address.toNat / 2 ^ 24 = 127 ∨
        address.toNat / 2 ^ 24 = 169 ∧ address.toNat / 2 ^ 16 % 256 = 254 ∨
        allowPrivate = false ∧ (address.toNat / 2 ^ 24 = 10 ∨
          address.toNat / 2 ^ 24 = 172 ∧ 16 ≤ address.toNat / 2 ^ 16 % 256 ∧
            address.toNat / 2 ^ 16 % 256 ≤ 31 ∨
          address.toNat / 2 ^ 24 = 192 ∧ address.toNat / 2 ^ 16 % 256 = 168 ∨
          address.toNat / 2 ^ 24 = 100 ∧ 64 ≤ address.toNat / 2 ^ 16 % 256 ∧
            address.toNat / 2 ^ 16 % 256 ≤ 127) := by
  have linkLocal : address.toNat / 2 ^ 16 = 169 * 256 + 254 ↔
      address.toNat / 2 ^ 24 = 169 ∧ address.toNat / 2 ^ 16 % 256 = 254 := by omega
  have ten : (((10 * 256 + 0) * 256 + 0) * 256 + 0) % 2 ^ 32 / 2 ^ (32 - 8) =
      address.toNat / 2 ^ (32 - 8) ↔ address.toNat / 2 ^ 24 = 10 := eq_comm
  have oneSevenTwo : (((172 * 256 + 16) * 256 + 0) * 256 + 0) % 2 ^ 32 / 2 ^ (32 - 12) =
      address.toNat / 2 ^ (32 - 12) ↔ address.toNat / 2 ^ 24 = 172 ∧
        16 ≤ address.toNat / 2 ^ 16 % 256 ∧ address.toNat / 2 ^ 16 % 256 ≤ 31 := by
    show 2753 = address.toNat / 2 ^ 20 ↔ _
    omega
  have oneNineTwo : (((192 * 256 + 168) * 256 + 0) * 256 + 0) % 2 ^ 32 / 2 ^ (32 - 16) =
      address.toNat / 2 ^ (32 - 16) ↔
        address.toNat / 2 ^ 24 = 192 ∧ address.toNat / 2 ^ 16 % 256 = 168 := by
    show 49320 = address.toNat / 2 ^ 16 ↔ _
    omega
  have carrierGrade : address.toNat / 2 ^ 22 = 401 ↔ address.toNat / 2 ^ 24 = 100 ∧
      64 ≤ address.toNat / 2 ^ 16 % 256 ∧ address.toNat / 2 ^ 16 % 256 ≤ 127 := by omega
  simp only [isProtected, unmap, IP.isUnspecified, IP.isLoopback, IP.isLinkLocalUnicast,
    privateRanges, List.any_cons, List.any_nil, Network.contains, IP.ofOctets, isCarrierGrade,
    BitVec.toNat_ofNat, Bool.or_eq_true, Bool.and_eq_true, Bool.not_eq_true', beq_iff_eq,
    Bool.or_false, linkLocal, ten, oneSevenTwo, oneNineTwo, carrierGrade, or_assoc]

/-- Of the protected IPv4 addresses only the unspecified one can pass. -/
theorem isBlockedIPv4_eq_false_iff {address : BitVec 32} (read : parseIPv4 text = some address)
    (isProtected : isProtected allowPrivate (.v4 address) = true) :
    isBlockedIPv4 allowPrivate text = false ↔ allowPrivate = true ∧ address = 0 := by
  obtain ⟨c, d, octets⟩ := octets_of_parseIPv4 read
  have zero : address = 0 ↔ address.toNat = 0 := by
    rw [← BitVec.toNat_inj]
    rfl
  rw [isBlockedIPv4, octets, zero]
  by_cases none : address.toNat = 0
  · rw [none]
    cases allowPrivate <;> simp
  · rw [isProtected_v4, or_iff_right none] at isProtected
    generalize address.toNat / 2 ^ 24 = a at isProtected ⊢
    generalize address.toNat / 2 ^ 16 % 256 = b at isProtected ⊢
    simp only [none, and_false, iff_false, Bool.not_eq_false]
    rcases isProtected with loopback | ⟨first, second⟩ | ⟨strict, ten | ⟨first, low, high⟩ |
      ⟨first, second⟩ | ⟨first, low, high⟩⟩
    · simp [loopback]
    · simp [first, second]
    · simp [strict, ten]
    · simp [strict, first, low, high]
    · simp [strict, first, second]
    · simp [strict, first, low, high]

theorem fe80_prefix : ∀ group < 64, "fe80:".toList.isPrefixOf
    (Nat.toDigits 16 (0xfe80 + group) ++ [':']) = (group == 0) := by
  decide

theorem unique_prefix : ∀ group < 512, ("fc".toList.isPrefixOf
    (Nat.toDigits 16 (0xfc00 + group) ++ [':']) || "fd".toList.isPrefixOf
      (Nat.toDigits 16 (0xfc00 + group) ++ [':'])) = true := by
  intro group small
  rw [Nat.toDigits_of_base_le (by decide) (by omega : 16 ≤ 0xfc00 + group),
    Nat.toDigits_of_base_le (by decide) (by omega : 16 ≤ (0xfc00 + group) / 16)]
  -- the first two digits are those of the number without its last two
  rcases (by omega : (0xfc00 + group) / 16 / 16 = 0xfc ∨ (0xfc00 + group) / 16 / 16 = 0xfd) with
    first | first
  · rw [first, show Nat.toDigits 16 0xfc = ['f', 'c'] by decide]
    rfl
  · rw [first, show Nat.toDigits 16 0xfd = ['f', 'd'] by decide]
    rfl

theorem not_unique_prefix : ∀ group < 64, ("fc".toList.isPrefixOf
    (Nat.toDigits 16 (0xfe80 + group) ++ [':']) || "fd".toList.isPrefixOf
      (Nat.toDigits 16 (0xfe80 + group) ++ [':'])) = false := by
  decide

theorem isPrefixOf_take {start : List Char} {count : Nat} (short : start.length ≤ count) :
    start.isPrefixOf (text.take count) = start.isPrefixOf text := by
  rw [Bool.eq_iff_iff, List.isPrefixOf_iff_prefix, List.isPrefixOf_iff_prefix,
    List.prefix_take_iff]
  exact and_iff_left short

theorem isPrefixOf_eq_false_of_head {start : List Char}
    (begins : start.head? = some c) (other : text.head? ≠ some c) :
    start.isPrefixOf text = false := by
  rw [← Bool.not_eq_true, List.isPrefixOf_iff_prefix]
  rintro ⟨rest, rfl⟩
  cases start with
  | nil => cases begins
  | cons first start => exact other begins

/-- What the guard looks at, in the text of an address that begins with a zero group. -/
theorem isBlockedIp_of_top_zero
    (plain : parseIPv4 text = none) (read : readIPv6 text = some address)
    (top : address.toNat / 2 ^ 112 = 0) :
    isBlockedIp allowPrivate text = (toLowerCase text == "::1".toList ||
      isDotted text && isBlockedIPv4 allowPrivate ((toLowerCase text).drop 7)) := by
  have head := head_of_top_zero read top
  have nonempty : text ≠ [] := by
    rintro rfl
    cases read
  rw [isBlockedIp, if_neg nonempty, isIPv4, plain, isIPv6, read]
  simp only [Option.isSome_none, Bool.false_eq_true, if_false, Option.isSome_some, if_true]
  rw [isPrefixOf_eq_false_of_head (c := 'f') rfl head,
    isPrefixOf_eq_false_of_head (c := 'f') rfl head,
    isPrefixOf_eq_false_of_head (c := 'f') rfl head, Bool.or_false, Bool.or_false, Bool.and_false,
    Bool.or_false, isDotted]

/-- What the guard looks at, in the text of an address whose first group has four digits. -/
theorem isBlockedIp_of_top_large
    (plain : parseIPv4 text = none) (read : readIPv6 text = some address)
    (large : 16 ^ 3 ≤ address.toNat / 2 ^ 112) :
    isBlockedIp allowPrivate text =
      ("fe80:".toList.isPrefixOf (Nat.toDigits 16 (address.toNat / 2 ^ 112) ++ [':']) ||
        !allowPrivate &&
          ("fc".toList.isPrefixOf (Nat.toDigits 16 (address.toNat / 2 ^ 112) ++ [':']) ||
            "fd".toList.isPrefixOf (Nat.toDigits 16 (address.toNat / 2 ^ 112) ++ [':']))) := by
  have nonempty : text ≠ [] := by
    rintro rfl
    cases read
  have loopback : (toLowerCase text == "::1".toList) = false := by
    rw [beq_eq_false_iff_ne]
    intro lower
    rw [loopback_of_lower read lower] at large
    exact absurd large (by decide)
  have dotted : isDotted text = false := by
    rw [← Bool.not_eq_true]
    intro dotted
    obtain ⟨last, _, value⟩ := mapped_of_isDotted read dotted
    have bound := last.isLt
    omega
  rw [isDotted] at dotted
  rw [isBlockedIp, if_neg nonempty, isIPv4, plain, isIPv6, read]
  simp only [Option.isSome_none, Bool.false_eq_true, if_false, Option.isSome_some, if_true]
  rw [loopback, dotted, Bool.false_and, Bool.or_false, Bool.false_or,
    ← take_of_top_large read large, isPrefixOf_take (by decide), isPrefixOf_take (by decide),
    isPrefixOf_take (by decide)]

theorem readIP_cases {ip : IP} (read : readIP text = some ip) :
    (∃ address, ip = .v4 address ∧ parseIPv4 text = some address) ∨
      ∃ address, ip = .v6 address ∧ parseIPv4 text = none ∧ readIPv6 text = some address := by
  rw [readIP] at read
  cases dotted : parseIPv4 text with
  | some address =>
    rw [dotted] at read
    exact Or.inl ⟨address, (Option.some.inj read).symm, rfl⟩
  | none =>
    rw [dotted] at read
    obtain ⟨address, readV6, same⟩ := Option.map_eq_some_iff.mp read
    exact Or.inr ⟨address, same.symm, rfl, readV6⟩

theorem isProtected_unspecified : isProtected allowPrivate (.v4 0) = true := by
  cases allowPrivate <;> decide

theorem isProtected_v6 (unmapped : isMapped address = false) :
    isProtected allowPrivate (.v6 address) = true ↔
      address.toNat = 0 ∨ address.toNat = 1 ∨ address.toNat / 2 ^ 118 = 0x3fa ∨
        allowPrivate = false ∧ address.toNat / 2 ^ 121 = 0x7e := by
  simp only [isProtected, unmap, unmapped, Bool.false_eq_true, if_false, IP.isUnspecified,
    IP.isLoopback, IP.isLinkLocalUnicast, privateRanges, List.any_cons, List.any_nil,
    Network.contains, IP.ofOctets, isCarrierGrade, BitVec.toNat_ofNat, Bool.or_eq_true,
    Bool.and_eq_true, Bool.not_eq_true', beq_iff_eq, Bool.or_false, Bool.false_or]
  have base : 0xfc * 2 ^ 120 % 2 ^ 128 / 2 ^ (128 - 7) = 0x7e := by decide
  rw [base, or_assoc, or_assoc, eq_comm (a := 0x7e)]
  exact Iff.rfl

/-- An IPv4 address in IPv6 form passes unless it is dotted and would not pass as it is. -/
theorem evades_mapped (plain : parseIPv4 text = none)
    (read : readIPv6 text = some address) (mapped : isMapped address = true) :
    Evades allowPrivate text (.v6 address) ↔
      isProtected allowPrivate (.v6 address) = true ∧ isBlockedIp allowPrivate text = false := by
  have top : address.toNat / 2 ^ 32 = 0xffff := beq_iff_eq.mp mapped
  have loopback : (toLowerCase text == "::1".toList) = false := by
    rw [beq_eq_false_iff_ne]
    intro lower
    rw [loopback_of_lower read lower] at top
    exact absurd top (by decide)
  rw [Evades, if_pos mapped, isBlockedIp_of_top_zero plain read (by omega), loopback,
    Bool.false_or]
  refine and_congr_right fun isProtected => ?_
  cases dotted : isDotted text with
  | false => simp
  | true =>
    obtain ⟨last, readLast, value⟩ := mapped_of_isDotted read dotted
    have low : address.setWidth 32 = last := by
      refine BitVec.eq_of_toNat_eq ?_
      have bound := last.isLt
      rw [BitVec.toNat_setWidth]
      omega
    have asV4 : SsrfGuard.isProtected allowPrivate (.v4 last) = true := by
      rw [SsrfGuard.isProtected, unmap, if_pos mapped, low] at isProtected
      exact isProtected
    rw [Bool.true_and, isBlockedIPv4_eq_false_iff readLast asV4, low]
    exact or_iff_right Bool.true_eq_false.mp

theorem evades_v6 (unmapped : isMapped address = false) :
    Evades allowPrivate text (.v6 address) ↔
      address.toNat = 0 ∨ address.toNat = 1 ∧ toLowerCase text ≠ "::1".toList ∨
        address.toNat / 2 ^ 118 = 0x3fa ∧ address.toNat / 2 ^ 112 ≠ 0xfe80 := by
  have value : ∀ n : Nat, n < 2 ^ 128 → (address = BitVec.ofNat 128 n ↔ address.toNat = n) := by
    intro n small
    rw [← BitVec.toNat_inj, BitVec.toNat_ofNat, Nat.mod_eq_of_lt small]
  have zero : address = 0 ↔ address.toNat = 0 := value 0 (by decide)
  have one : address = 1 ↔ address.toNat = 1 := value 1 (by decide)
  have linkLocal : (IP.v6 address).isLinkLocalUnicast = true ↔
      address.toNat / 2 ^ 118 = 0x3fa := beq_iff_eq
  rw [Evades, unmapped, if_neg Bool.false_ne_true, zero, one, linkLocal]

/-- Below the addresses with a first group the text `::1` is all that is recognised. -/
theorem evades_of_top_zero (plain : parseIPv4 text = none) (read : readIPv6 text = some address)
    (unmapped : isMapped address = false) (top : address.toNat / 2 ^ 112 = 0) :
    Evades allowPrivate text (.v6 address) ↔
      isProtected allowPrivate (.v6 address) = true ∧ isBlockedIp allowPrivate text = false := by
  have undotted : isDotted text = false := by
    rw [← Bool.not_eq_true]
    intro dotted
    obtain ⟨last, _, value⟩ := mapped_of_isDotted read dotted
    have bound := last.isLt
    have mapped : address.toNat / 2 ^ 32 = 0xffff := by omega
    exact absurd (beq_iff_eq.mpr mapped) (Bool.eq_false_iff.mp unmapped)
  have loopback : toLowerCase text = "::1".toList → address.toNat = 1 := fun lower => by
    rw [loopback_of_lower read lower]
    rfl
  rw [evades_v6 unmapped, isProtected_v6 unmapped, isBlockedIp_of_top_zero plain read top, undotted,
    Bool.false_and, Bool.or_false, beq_eq_false_iff_ne]
  constructor
  · rintro (zero | ⟨one, other⟩ | ⟨linkLocal, _⟩)
    · refine ⟨Or.inl zero, fun lower => ?_⟩
      rw [loopback lower] at zero
      cases zero
    · exact ⟨Or.inr (Or.inl one), other⟩
    · omega
  · rintro ⟨zero | one | linkLocal | ⟨_, unique⟩, other⟩
    · exact Or.inl zero
    · exact Or.inr (Or.inl ⟨one, other⟩)
    · omega
    · omega

/-- Of the protected addresses with a first group the guard misses the link-local ones outside
`fe80::/16`. -/
theorem evades_of_top_nonzero (plain : parseIPv4 text = none) (read : readIPv6 text = some address)
    (unmapped : isMapped address = false) (top : address.toNat / 2 ^ 112 ≠ 0) :
    Evades allowPrivate text (.v6 address) ↔
      isProtected allowPrivate (.v6 address) = true ∧ isBlockedIp allowPrivate text = false := by
  rw [evades_v6 unmapped, isProtected_v6 unmapped]
  by_cases linkLocal : address.toNat / 2 ^ 118 = 0x3fa
  · obtain ⟨offset, group⟩ : ∃ offset, address.toNat / 2 ^ 112 = 0xfe80 + offset :=
      ⟨address.toNat / 2 ^ 112 - 0xfe80, by omega⟩
    have small : offset < 64 := by omega
    rw [isBlockedIp_of_top_large plain read (by omega), group, fe80_prefix offset small]
    have noUnique : ("fc".toList.isPrefixOf (Nat.toDigits 16 (0xfe80 + offset) ++ [':']) ||
        "fd".toList.isPrefixOf (Nat.toDigits 16 (0xfe80 + offset) ++ [':'])) = false :=
      not_unique_prefix offset small
    rw [noUnique, Bool.and_false, Bool.or_false, beq_eq_false_iff_ne]
    omega
  · constructor
    · omega
    · rintro ⟨zero | one | same | ⟨strict, unique⟩, passes⟩
      · omega
      · omega
      · exact absurd same linkLocal
      · obtain ⟨offset, group⟩ : ∃ offset, address.toNat / 2 ^ 112 = 0xfc00 + offset :=
          ⟨address.toNat / 2 ^ 112 - 0xfc00, by omega⟩
        rw [isBlockedIp_of_top_large plain read (by omega), group,
          unique_prefix offset (by omega), strict, Bool.not_false, Bool.true_and,
          Bool.or_true] at passes
        cases passes

/-- The texts that pass although their address is protected, one by one. -/
theorem evades_iff {ip : IP} (read : readIP text = some ip) :
    Evades allowPrivate text ip ↔
      isProtected allowPrivate ip = true ∧ isBlockedIp allowPrivate text = false := by
  rcases readIP_cases read with ⟨address, rfl, dotted⟩ | ⟨address, rfl, plain, readV6⟩
  · have nonempty : text ≠ [] := by
      rintro rfl
      cases dotted
    have blocked : isBlockedIp allowPrivate text = isBlockedIPv4 allowPrivate text := by
      rw [isBlockedIp, if_neg nonempty, isIPv4, dotted, if_pos Option.isSome_some]
    rw [blocked]
    constructor
    · intro evades
      have isProtected : isProtected allowPrivate (.v4 address) = true := by
        rw [evades.2]
        exact isProtected_unspecified
      exact ⟨isProtected, (isBlockedIPv4_eq_false_iff dotted isProtected).mpr evades⟩
    · rintro ⟨isProtected, passes⟩
      exact (isBlockedIPv4_eq_false_iff dotted isProtected).mp passes
  · cases mapped : isMapped address with
    | true => exact evades_mapped plain readV6 mapped
    | false =>
      by_cases top : address.toNat / 2 ^ 112 = 0
      · exact evades_of_top_zero plain readV6 mapped top
      · exact evades_of_top_nonzero plain readV6 mapped top

/-! ### The host of a URL -/

/-- The printed form of an address denotes it. -/
theorem readIP_text (ip : IP) : readIP ip.text.toList = some ip := by
  cases ip with
  | v4 address =>
    rw [readIP, parseIPv4_text]
    rfl
  | v6 address =>
    have parsed := parseIPv6_text address
    have noZone : ∀ c ∈ (IP.v6 address).text.toList, (c != '%') = true := by
      intro c member
      rw [bne_iff_ne]
      rintro rfl
      exact absurd (isAddressChar_of_parseIPv6 parsed '%' member) (by decide)
    have plain : parseIPv4 (IP.v6 address).text.toList = none := by
      cases read : parseIPv4 (IP.v6 address).text.toList with
      | none => rfl
      | some other =>
        exact absurd (digit_or_dot_of_parseIPv4 read ':' (colon_mem_of_parseIPv6 parsed))
          (by decide)
    rw [readIP, plain, readIPv6, List.takeWhile_eq_self_iff.mpr noZone,
      List.dropWhile_eq_nil_iff.mpr noZone]
    simp only [true_or, if_true, parsed]
    rfl

/-- The addresses that a host denotes, or resolves to at the time of the check. -/
def World.addresses (world : World) : Host → List Record
  | .ipv4 address => [⟨(IP.v4 address).text, .v4 address, readIP_text _⟩]
  | .ipv6 address => [⟨(IP.v6 address).text, .v6 address, readIP_text _⟩]
  | .domain name => (world.lookup name.text).toOption.getD []

/-- A host as the guard looks at it: an IPv6 address without its brackets. -/
def Host.clean : Host → String
  | .ipv4 address => (IP.v4 address).text
  | .ipv6 address => (IP.v6 address).text
  | .domain name => name.text

theorem toLowerCase_eq_self (lower : ∀ c ∈ text, c.toLower = c) :
    toLowerCase text = text := by
  calc toLowerCase text = text.map id := List.map_congr_left lower
    _ = text := List.map_id text

theorem trim_eq_self {text : String} (plain : ∀ c ∈ text.toList, isWhiteSpace c = false) :
    trim text = text := by
  rw [trim, Text.trim_eq_self, String.ofList_toList]
  · exact fun c first => plain c (List.mem_of_head? first)
  · exact fun c last => plain c (List.mem_of_getLast? last)

theorem normalizeHostname_plain {text : String}
    (plain : ∀ c ∈ text.toList, c.toLower = c ∧ isWhiteSpace c = false ∧ c ≠ '[') :
    normalizeHostname text = text := by
  have open_ : ¬(text.toList.head? = some '[' ∧ text.toList.getLast? = some ']') :=
    fun both => (plain '[' (List.mem_of_head? both.1)).2.2 rfl
  rw [normalizeHostname, trim_eq_self fun c member => (plain c member).2.1,
    toLowerCase_eq_self fun c member => (plain c member).1, if_neg open_, String.ofList_toList]

theorem plain_of_printed (c : Char) (printed : c ∈ "0123456789abcdef:".toList) :
    c.toLower = c ∧ isWhiteSpace c = false ∧ c ≠ '[' := by
  have plain : "0123456789abcdef:".toList.all (fun c =>
      decide (c.toLower = c ∧ isWhiteSpace c = false ∧ c ≠ '[')) = true := by
    decide +kernel
  exact of_decide_eq_true (List.all_eq_true.mp plain c printed)

theorem plain_of_isPrintedChar (printed : isPrintedChar c = true) :
    c.toLower = c ∧ isWhiteSpace c = false ∧ c ≠ '[' := by
  rw [isPrintedChar, List.contains_iff_mem] at printed
  exact plain_of_printed c printed

theorem plain_of_digit_or_dot : ∀ n < 58, ((Char.ofNat n).isDigit || Char.ofNat n == '.') = true →
      (Char.ofNat n).toLower = Char.ofNat n ∧ isWhiteSpace (Char.ofNat n) = false ∧
        Char.ofNat n ≠ '[' := by
  decide

/-- The hosts of URLs are in their normal form but for the brackets. -/
theorem normalizeHostname_text (host : Host) : normalizeHostname host.text = host.clean := by
  cases host with
  | ipv4 address =>
    show normalizeHostname (IP.v4 address).text = (IP.v4 address).text
    refine normalizeHostname_plain fun c member => ?_
    have plain := digit_or_dot member
    have known := plain_of_digit_or_dot c.toNat (toNat_of_digit_or_dot plain)
    rw [Char.ofNat_toNat] at known
    exact known plain
  | ipv6 address =>
    have plain : ∀ c ∈ (IP.v6 address).text.toList,
        c.toLower = c ∧ isWhiteSpace c = false ∧ c ≠ '[' :=
      fun c member => plain_of_isPrintedChar (isPrintedChar_of_mem_text address c member)
    have brackets : ("[" ++ (IP.v6 address).text ++ "]").toList =
        '[' :: ((IP.v6 address).text.toList ++ [']']) := by
      rw [String.toList_append, String.toList_append]
      rfl
    have bracketed : ∀ c ∈ ("[" ++ (IP.v6 address).text ++ "]").toList,
        c.toLower = c ∧ isWhiteSpace c = false := by
      intro c member
      rw [brackets] at member
      rcases List.mem_cons.mp member with rfl | member
      · decide
      · rcases List.mem_append.mp member with member | member
        · exact ⟨(plain c member).1, (plain c member).2.1⟩
        · rw [List.mem_singleton.mp member]
          decide
    rw [Host.text, normalizeHostname, trim_eq_self fun c member => (bracketed c member).2,
      toLowerCase_eq_self fun c member => (bracketed c member).1, brackets,
        if_pos ⟨rfl, by rw [← List.cons_append, List.getLast?_concat]⟩, List.tail_cons,
      List.dropLast_concat, String.ofList_toList]
    rfl
  | domain name =>
    show normalizeHostname name.text = name.text
    exact normalizeHostname_plain fun c member => ⟨name.lower c member, name.plain c member⟩

/-! ### The guard over all URLs -/

/-- What the guard asks of a host besides its addresses: a name is not one of the blocked ones and
has records. -/
def World.Named (world : World) : Host → Prop
  | .domain name =>
    blockedHostnames.contains name.text = false ∧ world.addresses (.domain name) ≠ []
  | _ => True

theorem isIP_of_readIP {ip : IP} (read : readIP text = some ip) :
    isIP text = true := by
  rw [isIP, isIPv4, isIPv6, Bool.or_eq_true]
  rcases readIP_cases read with ⟨address, _, dotted⟩ | ⟨address, _, _, readV6⟩
  · exact Or.inl (dotted ▸ rfl)
  · exact Or.inr (readV6 ▸ rfl)

theorem blockedHostnames_not_ip : ∀ name ∈ blockedHostnames, isIP name.toList = false := by
  decide

/-- A literal address is judged by its own text. -/
theorem assertSafeResolvedHost_literal {world : World} {host : String} (ip : IP)
    (clean : normalizeHostname host = ip.text) :
    (∃ accepted, assertSafeResolvedHost world allowPrivate host = .ok accepted) ↔
      isBlockedIp allowPrivate ip.text.toList = false := by
  have literal := isIP_of_readIP (readIP_text ip)
  have nonempty : ip.text ≠ "" := by
    intro empty
    rw [empty] at literal
    cases literal
  have unnamed : blockedHostnames.contains ip.text = false := by
    rw [← Bool.not_eq_true, List.contains_iff_mem]
    intro named
    rw [blockedHostnames_not_ip ip.text named] at literal
    cases literal
  unfold assertSafeResolvedHost assertSafeHostname
  rw [clean]
  simp only [if_neg nonempty, unnamed, Bool.false_eq_true, if_false, literal, Bool.true_and]
  cases isBlockedIp allowPrivate ip.text.toList <;> simp [literal]

/-- A name is judged by the texts of its records. -/
theorem assertSafeResolvedHost_domain {world : World} {host : String} (name : Domain)
    (clean : normalizeHostname host = name.text) :
    (∃ accepted, assertSafeResolvedHost world allowPrivate host = .ok accepted) ↔
      world.Named (.domain name) ∧ ∀ record ∈ world.addresses (.domain name),
        isBlockedIp allowPrivate record.address.toList = false := by
  unfold assertSafeResolvedHost assertSafeHostname
  rw [clean]
  simp only [if_neg name.nonempty, name.notIP, Bool.false_and, Bool.false_eq_true, if_false,
    World.Named, World.addresses]
  cases named : blockedHostnames.contains name.text with
  | true => simp
  | false =>
    simp only [Bool.false_eq_true, if_false, name.notIP, true_and]
    cases world.lookup name.text with
    | error message => simp [Except.toOption]
    | ok records =>
      cases records with
      | nil => simp [Except.toOption]
      | cons first rest =>
        simp only [Except.toOption, Option.getD_some, ne_eq, reduceCtorEq, not_false_eq_true,
          true_and]
        cases blocked : (first :: rest).find? fun record =>
            isBlockedIp allowPrivate record.address.toList with
        | none =>
          have all := List.find?_eq_none.mp blocked
          simp only [Except.ok.injEq, exists_eq', true_iff]
          exact fun record listed => Bool.eq_false_iff.mpr (all record listed)
        | some record =>
          have found := List.find?_some blocked
          have listed := List.mem_of_find?_eq_some blocked
          simp only [reduceCtorEq, exists_false, false_iff]
          exact fun all => Bool.false_ne_true ((all record listed).symm.trans found)

/-- A host is accepted when it is named and no text of its addresses is recognised. -/
theorem assertSafeResolvedHost_iff (world : World) (host : Host) :
    (∃ accepted, assertSafeResolvedHost world allowPrivate host.text = .ok accepted) ↔
      world.Named host ∧ ∀ record ∈ world.addresses host,
        isBlockedIp allowPrivate record.address.toList = false := by
  have clean := normalizeHostname_text host
  cases host with
  | ipv4 address =>
    rw [assertSafeResolvedHost_literal (.v4 address) clean]
    simp [World.Named, World.addresses]
  | ipv6 address =>
    rw [assertSafeResolvedHost_literal (.v6 address) clean]
    simp [World.Named, World.addresses]
  | domain name => exact assertSafeResolvedHost_domain name clean

/-- What the guard asks of a URL besides its addresses. -/
structure Admissible (world : World) (urlString : String) (url : URL) (host : Host) : Prop where
  given : urlString ≠ ""
  parsed : world.parse urlString = some url
  protocol : url.protocol = "http:" ∨ url.protocol = "https:"
  username : url.username = ""
  password : url.password = ""
  hosted : url.host = some host
  named : world.Named host

/-- A URL is accepted when it is admissible and no text of its addresses is recognised. -/
theorem assertSafeHttpUrl_iff (world : World) (urlString : String) (url : URL) :
    assertSafeHttpUrl world allowPrivate urlString = .ok url ↔
      ∃ host, Admissible world urlString url host ∧ ∀ record ∈ world.addresses host,
        isBlockedIp allowPrivate record.address.toList = false := by
  constructor
  · intro accepted
    rw [assertSafeHttpUrl] at accepted
    split at accepted
    · cases accepted
    · next given =>
      split at accepted
      · cases accepted
      · next parsed read =>
        split at accepted
        · cases accepted
        · next protocol =>
          split at accepted
          · cases accepted
          · next credentials =>
            split at accepted
            · cases accepted
            · next clean safe =>
              obtain rfl := Except.ok.inj accepted
              have http : parsed.protocol = "http:" ∨ parsed.protocol = "https:" := by
                rcases not_and_or.mp protocol with http | https
                · exact Or.inl (not_not.mp http)
                · exact Or.inr (not_not.mp https)
              obtain ⟨host, isHost⟩ := Option.isSome_iff_exists.mp (parsed.special http)
              have safeHost : assertSafeResolvedHost world allowPrivate host.text = .ok clean := by
                rw [URL.hostname, isHost] at safe
                exact safe
              obtain ⟨named, passes⟩ :=
                (assertSafeResolvedHost_iff world host).mp ⟨clean, safeHost⟩
              obtain ⟨username, password⟩ := not_or.mp credentials
              exact ⟨host, ⟨given, read, http, not_not.mp username, not_not.mp password, isHost,
                named⟩, passes⟩
  · rintro ⟨host, admissible, passes⟩
    obtain ⟨clean, safe⟩ := (assertSafeResolvedHost_iff world host).mpr ⟨admissible.named, passes⟩
    have hostname : url.hostname = host.text := by
      rw [URL.hostname, admissible.hosted]
      rfl
    have http : ¬(url.protocol ≠ "http:" ∧ url.protocol ≠ "https:") := fun neither =>
      admissible.protocol.elim neither.1 neither.2
    have anonymous : ¬(url.username ≠ "" ∨ url.password ≠ "") := fun given =>
      given.elim (fun username => username admissible.username)
        (fun password => password admissible.password)
    rw [assertSafeHttpUrl, if_neg admissible.given, admissible.parsed]
    simp only [if_neg http, if_neg anonymous, hostname, safe]

/-- No address that an accepted URL denotes or resolves to is a protected one. -/
def Protects (world : World) (allowPrivate : Bool) (result : Except String URL) : Prop :=
  ∀ url, result = .ok url → ∀ host, url.host = some host →
    ∀ record ∈ world.addresses host, isProtected allowPrivate record.ip = false

/-- A URL that passes the other checks has an address whose text evades the guard, and none whose
text is recognised. -/
def Exposed (world : World) (allowPrivate : Bool) (urlString : String) : Prop :=
  ∃ url host, Admissible world urlString url host ∧
    (∀ record ∈ world.addresses host, isBlockedIp allowPrivate record.address.toList = false) ∧
      ∃ record ∈ world.addresses host, Evades allowPrivate record.address.toList record.ip

theorem protects_iff (world : World) (urlString : String) :
    Protects world allowPrivate (assertSafeHttpUrl world allowPrivate urlString) ↔
      ¬Exposed world allowPrivate urlString := by
  constructor
  · rintro protects ⟨url, host, admissible, passes, record, listed, evades⟩
    have accepted := (assertSafeHttpUrl_iff world urlString url).mpr ⟨host, admissible, passes⟩
    have isProtected := ((evades_iff record.reads).mp evades).1
    rw [protects url accepted host admissible.hosted record listed] at isProtected
    cases isProtected
  · intro unexposed url accepted host isHost record listed
    obtain ⟨other, admissible, passes⟩ := (assertSafeHttpUrl_iff world urlString url).mp accepted
    obtain rfl : other = host := Option.some.inj (admissible.hosted.symm.trans isHost)
    rw [← Bool.not_eq_true]
    intro isProtected
    exact unexposed ⟨url, other, admissible, passes, record, listed,
      (evades_iff record.reads).mpr ⟨isProtected, passes record listed⟩⟩

/-- Both checks keep requests from the protected addresses exactly when no admissible URL has an
address whose text evades the guard beside none that is recognised. -/
theorem guards_iff (world : World) (urlString : String) :
    (Protects world false (assertSafeHttpUrl world false urlString) ↔
      ¬Exposed world false urlString) ∧
    (Protects world true (assertSafeMonitoringUrl world urlString) ↔
      ¬Exposed world true urlString) :=
  ⟨protects_iff world urlString, protects_iff world urlString⟩

/-- The IPv4 loopback address in IPv6 form. -/
def mappedLoopback : BitVec 128 := BitVec.ofNat 128 0xffff7f000001

/-- A world in which one URL has that address for its host. -/
def mappedWorld : World where
  parse urlString :=
    if urlString = "http://[::ffff:127.0.0.1]/" then
      some ⟨"http:", "", "", some (.ipv6 mappedLoopback), fun _ => rfl⟩
    else none
  lookup _ := .error "ENOTFOUND"

example : (Host.ipv6 mappedLoopback).text = "[::ffff:7f00:1]" := by decide

/-- The parser of URLs rewrites the dotted half, and the guard no longer sees the loopback
address. -/
theorem mapped_loopback_accepted :
    ¬ ∀ (world : World) (urlString : String),
      Protects world false (assertSafeHttpUrl world false urlString) ∧
        Protects world true (assertSafeMonitoringUrl world urlString) := by
  intro guards
  have protects := (guards mappedWorld "http://[::ffff:127.0.0.1]/").1
  have passes : isBlockedIp false (IP.v6 mappedLoopback).text.toList = false := by decide
  have admissible : Admissible mappedWorld "http://[::ffff:127.0.0.1]/"
      ⟨"http:", "", "", some (.ipv6 mappedLoopback), fun _ => rfl⟩ (.ipv6 mappedLoopback) :=
    ⟨by decide, rfl, Or.inl rfl, rfl, rfl, rfl, trivial⟩
  have accepted := (assertSafeHttpUrl_iff mappedWorld _ _).mpr
    ⟨_, admissible, fun record listed => by
      rw [List.mem_singleton.mp listed]
      exact passes⟩
  have unprotected := protects _ accepted _ rfl _ (List.mem_singleton_self _)
  exact absurd unprotected (show isProtected false (.v6 mappedLoopback) ≠ false by decide)

end SovaDesk.Console.SsrfGuard
