/-
This file settles when blocking an address in one spelling blocks it in another.

Two texts spell the same address when, without their ports, they are parsed to it: capitals,
leading zeros, zeros that are left out and IPv4 addresses in IPv6 form make no difference. Ranges
are compared as addresses. Blocked addresses are kept under the text that was given, with its port
if it has one, and looked up by the text that is asked about, without its port.
-/

import SovaDesk.Security.Blocklist

namespace SovaDesk.Security

open Auth Signal

/-! ### Spellings -/

/-- A text without its port, as `IsIPBlocked` takes it. -/
def hostOf (ipStr : String) : String :=
  match splitHostPort ipStr.toList with
  | some (host, _) => String.ofList host
  | none => ipStr

/-- The text is a spelling of the address, with or without a port. -/
def Spells (ipStr : String) (ip : IP) : Prop := parseIP (hostOf ipStr).toList = some ip

instance (ipStr : String) (ip : IP) : Decidable (Spells ipStr ip) :=
  inferInstanceAs (Decidable (_ = _))

theorem isIPBlocked_eq (b : Blocklist) (ipStr : String) :
    b.isIPBlocked ipStr = (decide (hostOf ipStr ∈ b.ips) ||
      match parseIP (hostOf ipStr).toList with
      | none => false
      | some ip => b.networks.any (·.net.contains ip)) := rfl

/-- A spelling is blocked exactly when its host is listed or a range contains the address. -/
theorem isIPBlocked_iff {b : Blocklist} {asked : String} {ip : IP} (asks : Spells asked ip) :
    b.isIPBlocked asked = true ↔
      hostOf asked ∈ b.ips ∨ ∃ e ∈ b.networks, e.net.contains ip = true := by
  rw [isIPBlocked_eq, asks]
  dsimp only
  rw [Bool.or_eq_true, decide_eq_true_iff, List.any_eq_true]

/-- Blocking a spelling blocks the texts that are that very spelling without their port. -/
theorem isIPBlocked_blockIP_iff {b : Blocklist} {asked : String} {ip : IP} (asks : Spells asked ip)
    (spelling reason : String) :
    (b.blockIP spelling reason).isIPBlocked asked = true ↔
      hostOf asked = spelling ∨ b.isIPBlocked asked = true := by
  rw [isIPBlocked_iff asks, isIPBlocked_iff asks, ← or_assoc]
  exact or_congr_left (AList.mem_insert b.ips)

/-- Blocking a range that contains the address blocks every spelling of it. -/
theorem isIPBlocked_blockCIDR {b blocked : Blocklist} {asked cidr reason : String} {ip : IP}
    {net : Network} (asks : Spells asked ip) (added : b.blockCIDR cidr reason = some blocked)
    (parsed : parseCIDR cidr.toList = some net) (contains : net.contains ip = true) :
    blocked.isIPBlocked asked = true := by
  obtain ⟨e, named, -, rfl⟩ := blockCIDR_cases added
  have same : e.net = net := by
    have read := e.parsed
    rw [named] at read
    exact Option.some.inj (read.symm.trans parsed)
  refine (isIPBlocked_iff asks).mpr (.inr ⟨e, ?_, same ▸ contains⟩)
  exact List.mem_append_right _ List.mem_cons_self

/-- A line that is a spelling without a port is read as an entry with that text. -/
theorem readEntry_spelling {spelling : String} {ip : IP}
    (parsed : parseIP spelling.toList = some ip) :
    readEntry spelling.toList = some ⟨spelling, .ip, ""⟩ := by
  obtain ⟨address, read, -⟩ := Option.map_eq_some_iff.mp parsed
  have plain := isAddressChar_of_parseAddr read
  have notSpace : ∀ c ∈ spelling.toList, isSpace c = false := fun c member =>
    isSpace_of_isRangeChar (by rw [isRangeChar, plain c member, Bool.true_or])
  have absent : ∀ c, isAddressChar c = false → c ∉ spelling.toList := fun c other member =>
    Bool.false_ne_true (other.symm.trans (plain c member))
  have starts : Text.Starts isSpace spelling.toList := fun c first =>
    notSpace c (List.mem_of_mem_head? first)
  have ends : Text.Ends isSpace spelling.toList := fun c last =>
    notSpace c (List.mem_of_mem_getLast? last)
  have kept : ¬(spelling.toList = [] ∨ spelling.toList.head? = some '#') := by
    rintro (empty | hash)
    · rw [empty] at read
      exact (Option.some_ne_none address read.symm).elim
    · exact absent '#' (by decide) (List.mem_of_mem_head? hash)
  have split : splitEntry spelling.toList = (spelling.toList, []) := by
    rw [splitEntry, Text.cut_of_notMem (absent ',' (by decide))]
  rw [readEntry, Text.trim_eq_self starts ends]
  dsimp only
  rw [if_neg kept, split, if_neg (not_id_prefix_of_notMem (absent 'i' (by decide))),
    if_neg (absent '/' (by decide)), String.ofList_toList]

/-! ### Blocking a spelling -/

/-- Of two spellings of an address, blocking the first, by a call or by a line of a file, blocks the
second exactly when the second without its port is the same text as the first, or was blocked
before. A line with a spelling alone is such a line, and every range that contains the address
blocks the second. -/
theorem blocked_spelling_iff (b : Blocklist) (ip : IP) (spelling asked : String)
    (spells : Spells spelling ip) (asks : Spells asked ip) :
    (∀ reason, (b.blockIP spelling reason).isIPBlocked asked = true ↔
      hostOf asked = spelling ∨ b.isIPBlocked asked = true) ∧
    (∀ line reason, readEntry line = some ⟨spelling, .ip, reason⟩ →
      ((loadLine b line).isIPBlocked asked = true ↔
        hostOf asked = spelling ∨ b.isIPBlocked asked = true)) ∧
    (hostOf spelling = spelling → readEntry spelling.toList = some ⟨spelling, .ip, ""⟩) ∧
    ∀ cidr reason blocked net, b.blockCIDR cidr reason = some blocked →
      parseCIDR cidr.toList = some net → net.contains ip = true →
        blocked.isIPBlocked asked = true := by
  refine ⟨isIPBlocked_blockIP_iff asks spelling, fun line reason made => ?_, fun bare => ?_,
    fun cidr reason blocked net => isIPBlocked_blockCIDR asks⟩
  · have loaded : loadLine b line = b.blockIP spelling reason := by
      rw [loadLine, made]
      rfl
    rw [loaded]
    exact isIPBlocked_blockIP_iff asks spelling reason
  · have parsed : parseIP (hostOf spelling).toList = some ip := spells
    rw [bare] at parsed
    exact readEntry_spelling parsed

/-- An address and the same with a port. -/
theorem blocked_spelling_port :
    (newBlocklist.blockIP "10.0.0.7" "").isIPBlocked "10.0.0.7:21116" = true :=
  ((blocked_spelling_iff newBlocklist (.ofOctets 10 0 0 7) "10.0.0.7" "10.0.0.7:21116"
    (by decide +kernel) (by decide +kernel)).1 "").mpr (.inl (by decide +kernel))

/-- An address that was blocked in IPv6 form is not blocked as it is. -/
theorem mapped_spelling_open :
    ¬∀ b ip spelling asked reason, Spells spelling ip → Spells asked ip →
      (Blocklist.blockIP b spelling reason).isIPBlocked asked = true := by
  intro always
  have blocked := always newBlocklist (.ofOctets 10 0 0 7) "::ffff:10.0.0.7" "10.0.0.7" ""
    (by decide +kernel) (by decide +kernel)
  revert blocked
  decide +kernel

end SovaDesk.Security
