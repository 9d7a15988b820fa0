/-
This file models the server's blocklist of addresses, address ranges and device IDs, and the
file it is kept in.

The entries of one kind are a map from the value to the reason, or for ranges a list in the
order in which they were added. The file has one entry per line, a device ID behind the
prefix `id:`, and the reason behind a comma; nothing is escaped. Lines are read by a scanner
that trims them, drops comments and empty lines, and stops at the first line of 65536 bytes
or more. The file is its text: opening and writing it succeed. The time of an entry's
creation, which the file does not keep and no verdict reads, is left out.

The signal server's model of the blocklist is a view of this one: it asks about addresses
where the server passes on their text.

A blocklist survives being saved and loaded exactly when each of its entries can be written
on one line that is read back as that entry.
-/

import SovaDesk.Auth.Token
import SovaDesk.Lib.Table
import SovaDesk.Security.Addresses

namespace SovaDesk.Security

open Auth Signal

/-! ### Entries -/

/-- What kind of entry is blocked: `BlockIP`, `BlockID` and `BlockNet`. -/
inductive BlockType
  | ip
  | id
  | cidr
  deriving DecidableEq

structure BlockEntry where
  value : String
  type : BlockType
  reason : String
  deriving DecidableEq

/-- A blocked range with the text it was parsed from. -/
structure NetworkEntry where
  net : Network
  value : String
  reason : String
  parsed : parseCIDR value.toList = some net

structure Blocklist where
  ips : Table String String
  ids : Table String String
  networks : List NetworkEntry

/-- `NewBlocklist`. -/
def newBlocklist : Blocklist := ⟨∅, ∅, []⟩

namespace Blocklist

variable (b : Blocklist)

/-! ### Blocking and asking -/

def blockIP (ip reason : String) : Blocklist := { b with ips := b.ips.insert ip reason }

def blockID (id reason : String) : Blocklist := { b with ids := b.ids.insert id reason }

/-- `BlockCIDR`, which fails on a text that is no range. -/
def blockCIDR (cidr reason : String) : Option Blocklist :=
  match parsed : parseCIDR cidr.toList with
  | none => none
  | some net => some { b with networks := b.networks ++ [⟨net, cidr, reason, parsed⟩] }

def unblockIP (ip : String) : Option Blocklist :=
  if ip ∈ b.ips then some { b with ips := b.ips.erase ip } else none

def unblockID (id : String) : Option Blocklist :=
  if id ∈ b.ids then some { b with ids := b.ids.erase id } else none

/-- `UnblockCIDR` removes the first range that was added under the text. -/
def unblockCIDR (cidr : String) : Option Blocklist :=
  if b.networks.any (·.value == cidr) then
    some { b with networks := b.networks.eraseP (·.value == cidr) }
  else none

/-- `IsIPBlocked`: without its port, the text is looked up, then the address in the ranges. -/
def isIPBlocked (ipStr : String) : Bool :=
  let host :=
    match splitHostPort ipStr.toList with
    | some (host, _) => String.ofList host
    | none => ipStr
  decide (host ∈ b.ips) ||
    match parseIP host.toList with
    | none => false
    | some ip => b.networks.any (·.net.contains ip)

def isIDBlocked (id : String) : Bool := decide (id ∈ b.ids)

/-! ### Listing -/

def ipEntries : List BlockEntry := b.ips.entries.map fun e => ⟨e.1, .ip, e.2⟩

def idEntries : List BlockEntry := b.ids.entries.map fun e => ⟨e.1, .id, e.2⟩

def networkEntries : List BlockEntry := b.networks.map fun e => ⟨e.value, .cidr, e.reason⟩

/-- `List`, in one of the orders a map may be traversed in. -/
def list : List BlockEntry := b.ipEntries ++ b.idEntries ++ b.networkEntries

/-- The reasons given for a value of a type, in the order of the entries. -/
def reasons : BlockType → String → List String
  | .ip, value => (b.ips.lookup value).toList
  | .id, value => (b.ids.lookup value).toList
  | .cidr, value => (b.networks.filter (·.value = value)).map (·.reason)

/-! ### The file -/

/-- The order in which the two maps are traversed while they are saved. -/
structure Listing where
  ips : List BlockEntry
  ids : List BlockEntry
  ipsListed : ips.Perm b.ipEntries
  idsListed : ids.Perm b.idEntries

end Blocklist

/-- An entry's value as it stands in the file. -/
def BlockEntry.written (e : BlockEntry) : List Char :=
  if e.type = .id then "id:".toList ++ e.value.toList else e.value.toList

/-- An entry's line in the file. -/
def BlockEntry.line (e : BlockEntry) : List Char :=
  if e.reason = "" then e.written else e.written ++ ',' :: e.reason.toList

def header : List (List Char) :=
  ["# BetterDesk Blocklist (auto-generated)".toList,
    "# Format: IP, CIDR, or id:DEVICE_ID [,reason]".toList, []]

/-- `SaveToFile`: the header, the addresses, the ranges and the device IDs. -/
def saveToFile (b : Blocklist) (listing : b.Listing) : List Char :=
  Text.joinLines
    (header ++ (listing.ips ++ b.networkEntries ++ listing.ids).map BlockEntry.line)

/-- The value and the reason of a line. -/
def splitEntry (line : List Char) : List Char × List Char :=
  match Text.cut ',' line with
  | none => (line, [])
  | some (value, reason) => (Text.trim isSpace value, Text.trim isSpace reason)

/-- The entry that `LoadFromFile` makes of a line, if it makes one. -/
def readEntry (text : List Char) : Option BlockEntry :=
  let line := Text.trim isSpace text
  if line = [] ∨ line.head? = some '#' then none
  else
    let value := (splitEntry line).1
    let reason := String.ofList (splitEntry line).2
    if "id:".toList <+: value then some ⟨String.ofList (value.drop 3), .id, reason⟩
    else if '/' ∈ value then
      if (parseCIDR value).isSome then some ⟨String.ofList value, .cidr, reason⟩ else none
    else some ⟨String.ofList value, .ip, reason⟩

/-- An entry as each caller adds it: an address, a device ID or a range. -/
def Blocklist.add (b : Blocklist) (e : BlockEntry) : Option Blocklist :=
  match e.type with
  | .ip => some (b.blockIP e.value e.reason)
  | .id => some (b.blockID e.value e.reason)
  | .cidr => b.blockCIDR e.value e.reason

def loadLine (b : Blocklist) (text : List Char) : Blocklist :=
  ((readEntry text).bind b.add).getD b

/-- `bufio.MaxScanTokenSize`. -/
def maxScanTokenSize : Nat := 64 * 1024

/-- `LoadFromFile`, onto a blocklist. -/
def loadFromFile (b : Blocklist) (text : List Char) : Blocklist :=
  (Text.scanLines maxScanTokenSize text).foldl loadLine b

/-! ### The handlers -/

structure AddRequest where
  value : String
  type : String
  reason : String

/-- `handleAddBlocklist`, with the text of its error. -/
def handleAddBlocklist (b : Blocklist) (body : AddRequest) : Except String Blocklist :=
  if body.value = "" then .error "value is required"
  else if body.type = "ip" then .ok (b.blockIP body.value body.reason)
  else if body.type = "id" then .ok (b.blockID body.value body.reason)
  else if body.type = "cidr" then
    match b.blockCIDR body.value body.reason with
    | none => .error "Invalid CIDR notation"
    | some blocked => .ok blocked
  else .error "type must be ip, id, or cidr"

/-- `handleRemoveBlocklist`: the entry is removed where it is found first. -/
def handleRemoveBlocklist (b : Blocklist) (entry : String) : Except String Blocklist :=
  match b.unblockIP entry <|> b.unblockID entry <|> b.unblockCIDR entry with
  | none => .error "Entry not found"
  | some unblocked => .ok unblocked

/-- What changes a blocklist after the server has started. -/
inductive Operation
  | add (body : AddRequest)
  | remove (entry : String)
  | unblockIP (ip : String)
  | unblockID (id : String)
  | unblockCIDR (cidr : String)

/-- A failed operation leaves the blocklist as it is. -/
def perform (b : Blocklist) : Operation → Blocklist
  | .add body => (handleAddBlocklist b body).toOption.getD b
  | .remove entry => (handleRemoveBlocklist b entry).toOption.getD b
  | .unblockIP ip => (b.unblockIP ip).getD b
  | .unblockID id => (b.unblockID id).getD b
  | .unblockCIDR cidr => (b.unblockCIDR cidr).getD b

/-- The blocklist after a sequence of operations. -/
def reached (operations : List Operation) : Blocklist := operations.foldl perform newBlocklist

/-! ### What a line can hold -/

/-- A value of the type that the file's format leaves as it is: it is not cut off by trimming and
not taken for another kind of line. -/
def BlockType.Keeps : BlockType → List Char → Prop
  | .ip, value => Text.Starts isSpace value ∧ Text.Ends isSpace value ∧ value.head? ≠ some '#' ∧
      ¬ "id:".toList <+: value ∧ '/' ∉ value
  | .id, value => Text.Ends isSpace value
  | .cidr, _ => True

/-- An entry that can be written on one line. -/
structure Storable (e : BlockEntry) : Prop where
  oneLine : '\n' ∉ e.value.toList ∧ '\n' ∉ e.reason.toList
  noComma : ',' ∉ e.value.toList
  trimmed : Text.Starts isSpace e.reason.toList ∧ Text.Ends isSpace e.reason.toList
  short : Text.byteLength e.line < maxScanTokenSize
  keeps : e.type.Keeps e.value.toList

instance : ∀ (type : BlockType) (value : List Char), Decidable (type.Keeps value)
  | .ip, value => inferInstanceAs (Decidable (Text.Starts isSpace value ∧ Text.Ends isSpace value ∧
      value.head? ≠ some '#' ∧ ¬ "id:".toList <+: value ∧ '/' ∉ value))
  | .id, value => inferInstanceAs (Decidable (Text.Ends isSpace value))
  | .cidr, _ => .isTrue trivial

instance (e : BlockEntry) : Decidable (Storable e) :=
  decidable_of_iff
    (('\n' ∉ e.value.toList ∧ '\n' ∉ e.reason.toList) ∧ ',' ∉ e.value.toList ∧
      (Text.Starts isSpace e.reason.toList ∧ Text.Ends isSpace e.reason.toList) ∧
      Text.byteLength e.line < maxScanTokenSize ∧ e.type.Keeps e.value.toList)
    ⟨fun ⟨oneLine, noComma, trimmed, short, keeps⟩ => ⟨oneLine, noComma, trimmed, short, keeps⟩,
      fun ⟨oneLine, noComma, trimmed, short, keeps⟩ => ⟨oneLine, noComma, trimmed, short, keeps⟩⟩

example : Storable ⟨"10.0.0.7", .ip, "scans, many"⟩ := by decide
example : ¬ Storable ⟨"id:7", .ip, ""⟩ ∧ Storable ⟨"id:7", .id, ""⟩ := by decide

/-- The value of an entry of a range is the text of one. -/
def BlockEntry.Parsed (e : BlockEntry) : Prop :=
  e.type = .cidr → (parseCIDR e.value.toList).isSome

theorem isRangeChar_of_isSpace {c : Char} (space : isSpace c = true) : isRangeChar c = false := by
  have listed := of_decide_eq_true space
  rw [← Char.ofNat_toNat c]
  generalize c.toNat = n at listed
  revert n
  decide

theorem isSpace_of_isRangeChar {c : Char} (ranged : isRangeChar c = true) : isSpace c = false := by
  by_contra space
  rw [isRangeChar_of_isSpace (Bool.not_eq_false _ ▸ space)] at ranged
  exact Bool.false_ne_true ranged

section entry

variable {e : BlockEntry}

/-- The text of a range is free of everything that the format takes for something else. -/
theorem keeps_of_parseCIDR {value : List Char} (parsed : (parseCIDR value).isSome) :
    (∀ c ∈ value, isSpace c = false ∧ c ≠ '\n' ∧ c ≠ ',' ∧ c ≠ '#' ∧ c ≠ 'i') ∧ '/' ∈ value := by
  obtain ⟨net, parsed⟩ := Option.isSome_iff_exists.mp parsed
  obtain ⟨slash, ranged⟩ := isRangeChar_of_parseCIDR parsed
  refine ⟨fun c member => ⟨isSpace_of_isRangeChar (ranged c member), ?_, ?_, ?_, ?_⟩, slash⟩
  all_goals
    rintro rfl
    exact absurd (ranged _ member) (by decide)

theorem not_id_prefix_of_notMem {value : List Char} (fresh : 'i' ∉ value) :
    ¬ "id:".toList <+: value := by
  rintro ⟨rest, rfl⟩
  exact fresh (List.mem_append_left rest (by decide))

theorem written_id (value reason : String) :
    BlockEntry.written ⟨value, .id, reason⟩ = 'i' :: 'd' :: ':' :: value.toList := rfl

/-- The value as it is written begins and ends outside white space and is on one line without a
comma. -/
theorem written_clean (storable : Storable e) (parsed : e.Parsed) :
    Text.Starts isSpace e.written ∧ Text.Ends isSpace e.written ∧ '\n' ∉ e.written ∧
      ',' ∉ e.written := by
  obtain ⟨value, type, reason⟩ := e
  cases type with
  | ip =>
    exact ⟨storable.keeps.1, storable.keeps.2.1, storable.oneLine.1, storable.noComma⟩
  | id =>
    have ends : Text.Ends isSpace ("id:".toList ++ value.toList) :=
      Text.Ends.append storable.keeps fun _ => by decide
    refine ⟨?_, ends, ?_, ?_⟩
    · rw [written_id]
      simp only [Text.Starts, List.head?_cons, Option.mem_some_iff, forall_eq']
      decide
    · simpa [written_id] using storable.oneLine.1
    · simpa [written_id] using storable.noComma
  | cidr =>
    have clean := (keeps_of_parseCIDR (parsed rfl)).1
    exact ⟨fun c first => (clean c (List.mem_of_mem_head? first)).1,
      fun c last => (clean c (List.mem_of_mem_getLast? last)).1, storable.oneLine.1,
      storable.noComma⟩

/-- No line of an entry with a value is empty or a comment. -/
theorem head_written (storable : Storable e) (parsed : e.Parsed) (valued : e.value ≠ "") :
    e.written ≠ [] ∧ e.written.head? ≠ some '#' := by
  obtain ⟨value, type, reason⟩ := e
  have shown : value.toList ≠ [] := by simpa using valued
  cases type with
  | ip => exact ⟨shown, storable.keeps.2.2.1⟩
  | id => simp [written_id]
  | cidr =>
    refine ⟨shown, fun hash => ?_⟩
    exact ((keeps_of_parseCIDR (parsed rfl)).1 '#' (List.mem_of_mem_head? hash)).2.2.2.1 rfl

/-- A written line is trimmed, on one line and its own line without a carriage return. -/
theorem line_clean (storable : Storable e) (parsed : e.Parsed) :
    Text.Starts isSpace e.line ∧ Text.Ends isSpace e.line ∧ '\n' ∉ e.line := by
  obtain ⟨starts, ends, oneLine, _⟩ := written_clean storable parsed
  rw [BlockEntry.line]
  split
  · exact ⟨starts, ends, oneLine⟩
  · next given =>
    have shown : e.reason.toList ≠ [] := by simpa using given
    refine ⟨?_, ?_, ?_⟩
    · cases written : e.written with
      | nil => simp [Text.Starts]; decide
      | cons c rest =>
        rw [written] at starts
        exact starts
    · have last : Text.Ends isSpace ([','] ++ e.reason.toList) :=
        Text.Ends.append storable.trimmed.2 fun empty => (shown empty).elim
      exact Text.Ends.append last fun empty => (List.cons_ne_nil _ _ empty).elim
    · simp only [List.mem_append, List.mem_cons, not_or]
      exact ⟨oneLine, by decide, storable.oneLine.2⟩

theorem line_ne_nil (written : e.written ≠ []) : e.line ≠ [] := by
  rw [BlockEntry.line]
  split
  · exact written
  · exact List.append_ne_nil_of_left_ne_nil written _

theorem head_line (written : e.written ≠ []) : e.line.head? = e.written.head? := by
  rw [BlockEntry.line]
  split
  · rfl
  · exact List.head?_append_of_ne_nil _ written

theorem splitEntry_line (storable : Storable e) (parsed : e.Parsed) :
    splitEntry e.line = (e.written, e.reason.toList) := by
  obtain ⟨starts, ends, _, noComma⟩ := written_clean storable parsed
  rw [splitEntry, BlockEntry.line]
  split_ifs with none
  · rw [Text.cut_of_notMem noComma, none]
    rfl
  · rw [Text.cut_append noComma]
    simp only [Text.trim_eq_self starts ends,
      Text.trim_eq_self storable.trimmed.1 storable.trimmed.2]

theorem readEntry_line (storable : Storable e) (parsed : e.Parsed) (valued : e.value ≠ "") :
    readEntry e.line = some e := by
  obtain ⟨starts, ends, _⟩ := line_clean storable parsed
  obtain ⟨written, noComment⟩ := head_written storable parsed valued
  have kept : ¬ (e.line = [] ∨ e.line.head? = some '#') := by
    rw [head_line written]
    exact not_or.mpr ⟨line_ne_nil written, noComment⟩
  rw [readEntry, Text.trim_eq_self starts ends, if_neg kept, splitEntry_line storable parsed]
  simp only [String.ofList_toList]
  obtain ⟨value, type, reason⟩ := e
  cases type with
  | ip =>
    obtain ⟨_, _, _, noPrefix, noSlash⟩ := storable.keeps
    have value_eq : BlockEntry.written ⟨value, .ip, reason⟩ = value.toList := rfl
    rw [value_eq, if_neg noPrefix, if_neg noSlash, String.ofList_toList]
  | id =>
    have named : "id:".toList <+: BlockEntry.written ⟨value, .id, reason⟩ :=
      List.prefix_append _ value.toList
    rw [if_pos named, written_id]
    simp
  | cidr =>
    have ranged := parsed rfl
    obtain ⟨clean, slash⟩ := keeps_of_parseCIDR ranged
    have noPrefix := not_id_prefix_of_notMem fun member => (clean 'i' member).2.2.2.2 rfl
    have value_eq : BlockEntry.written ⟨value, .cidr, reason⟩ = value.toList := rfl
    rw [value_eq, if_neg noPrefix, if_pos slash, if_pos ranged, String.ofList_toList]

end entry

/-- What a value and a reason taken from a line are: trimmed, the value without a comma and at the
line's beginning, and written again no longer than the line. -/
structure Taken (line value reason : List Char) : Prop where
  valueTrimmed : Text.Starts isSpace value ∧ Text.Ends isSpace value
  reasonTrimmed : Text.Starts isSpace reason ∧ Text.Ends isSpace reason
  noComma : ',' ∉ value
  begins : value <+: line
  fits : (if reason = [] then value else value ++ ',' :: reason).Sublist line

theorem taken_splitEntry {line : List Char} (starts : Text.Starts isSpace line)
    (ends : Text.Ends isSpace line) : Taken line (splitEntry line).1 (splitEntry line).2 := by
  rw [splitEntry]
  split
  · next uncut =>
    have noReason : Text.Starts isSpace [] ∧ Text.Ends isSpace [] := by decide
    exact ⟨⟨starts, ends⟩, noReason, Text.notMem_of_cut uncut, List.prefix_rfl,
      List.Sublist.refl line⟩
  · next value reason found =>
    obtain ⟨rfl, noComma⟩ := Text.append_of_cut found
    have begins := Text.trim_prefix (starts.of_initial (List.prefix_append value _))
    refine ⟨⟨Text.starts_trim isSpace value, Text.ends_trim isSpace value⟩,
      ⟨Text.starts_trim isSpace reason, Text.ends_trim isSpace reason⟩,
      fun member => noComma (begins.subset member), begins.trans (List.prefix_append value _), ?_⟩
    dsimp only
    split
    · exact begins.sublist.trans (List.sublist_append_left value _)
    · exact begins.sublist.append ((Text.trim_sublist isSpace reason).cons_cons ',')

/-- The entry that is made of a line has the line's value and reason, and a type that keeps the
value. -/
theorem of_readEntry {text : List Char} {e : BlockEntry} (made : readEntry text = some e) :
    Taken (Text.trim isSpace text) e.written e.reason.toList ∧ e.type.Keeps e.value.toList := by
  rw [readEntry] at made
  have taken := taken_splitEntry (Text.starts_trim isSpace text) (Text.ends_trim isSpace text)
  generalize Text.trim isSpace text = line at made taken
  generalize splitEntry line = halves at made taken
  obtain ⟨value, reason⟩ := halves
  dsimp only at made taken
  split_ifs at made with skipped named slash ranged
  · obtain rfl := Option.some.inj made
    obtain ⟨rest, rfl⟩ := named
    have dropped : String.ofList (("id:".toList ++ rest).drop 3) = String.ofList rest := rfl
    have written : BlockEntry.written ⟨String.ofList rest, .id, String.ofList reason⟩ =
        "id:".toList ++ rest := by rw [written_id, String.toList_ofList]; rfl
    have reason_eq : (String.ofList reason).toList = reason := String.toList_ofList
    rw [dropped, written, reason_eq]
    refine ⟨taken, ?_⟩
    rw [BlockType.Keeps, String.toList_ofList]
    exact taken.valueTrimmed.2.of_append
  · obtain rfl := Option.some.inj made
    have written : BlockEntry.written ⟨String.ofList value, .cidr, String.ofList reason⟩ = value :=
      String.toList_ofList
    rw [written, String.toList_ofList]
    exact ⟨taken, trivial⟩
  · obtain rfl := Option.some.inj made
    have written : BlockEntry.written ⟨String.ofList value, .ip, String.ofList reason⟩ = value :=
      String.toList_ofList
    rw [written, String.toList_ofList]
    refine ⟨taken, ?_⟩
    rw [BlockType.Keeps, String.toList_ofList]
    refine ⟨taken.valueTrimmed.1, taken.valueTrimmed.2, fun hash => ?_, named, slash⟩
    obtain ⟨rest, rfl⟩ := taken.begins
    exact (not_or.mp skipped).2 (by rw [List.head?_append, hash, Option.some_or])

theorem value_sublist_written (e : BlockEntry) : e.value.toList.Sublist e.written := by
  rw [BlockEntry.written]
  split
  · exact List.sublist_append_right _ _
  · exact List.Sublist.refl _

/-- An entry that is made of a line can be written on one line again. -/
theorem storable_of_readEntry {text : List Char} {e : BlockEntry} (made : readEntry text = some e)
    (oneLine : '\n' ∉ text) (short : Text.byteLength text < maxScanTokenSize) : Storable e := by
  obtain ⟨taken, keeps⟩ := of_readEntry made
  have value_sublist := value_sublist_written e
  have line_eq : e.line = if e.reason.toList = [] then e.written
      else e.written ++ ',' :: e.reason.toList := by
    simp [BlockEntry.line]
  have fits : e.line.Sublist text := by
    rw [line_eq]
    exact taken.fits.trans (Text.trim_sublist isSpace text)
  have written_sublist : e.written.Sublist e.line := by
    rw [BlockEntry.line]
    split
    · exact List.Sublist.refl _
    · exact List.sublist_append_left _ _
  refine ⟨⟨fun member => ?_, fun member => ?_⟩, fun member => ?_, taken.reasonTrimmed,
    (Text.byteLength_le_of_sublist fits).trans_lt short, keeps⟩
  · exact oneLine (fits.subset (written_sublist.subset (value_sublist.subset member)))
  · refine oneLine (fits.subset ?_)
    rw [line_eq, if_neg (List.ne_nil_of_mem member)]
    exact List.mem_append_right _ (List.mem_cons_of_mem _ member)
  · exact taken.noComma (value_sublist.subset member)

/-! ### The entries of a blocklist -/

variable {b : Blocklist}

/-- An entry is listed when its reason is one of those given for its value. -/
theorem mem_list_iff {e : BlockEntry} :
    e ∈ b.list ↔ e.reason ∈ b.reasons e.type e.value := by
  obtain ⟨value, type, reason⟩ := e
  simp only [Blocklist.list, Blocklist.ipEntries, Blocklist.idEntries, Blocklist.networkEntries,
    List.mem_append, List.mem_map, BlockEntry.mk.injEq]
  cases type with
  | ip => simp [Blocklist.reasons, ← Table.mem_entries_iff]
  | id => simp [Blocklist.reasons, ← Table.mem_entries_iff]
  | cidr => simp [Blocklist.reasons, and_assoc]

theorem not_mem_list_newBlocklist (e : BlockEntry) : e ∉ newBlocklist.list := List.not_mem_nil

theorem parsed_of_mem_list {e : BlockEntry} (listed : e ∈ b.list) : e.Parsed := by
  intro ranged
  rw [mem_list_iff, ranged] at listed
  obtain ⟨entry, found, _⟩ := List.mem_map.mp listed
  have value_eq : entry.value = e.value := of_decide_eq_true (List.mem_filter.mp found).2
  rw [← value_eq, entry.parsed]
  rfl

/-- `BlockCIDR` of the text of a range adds that range. -/
theorem blockCIDR_entry (b : Blocklist) (e : NetworkEntry) :
    b.blockCIDR e.value e.reason = some { b with networks := b.networks ++ [e] } := by
  obtain ⟨net, value, reason, parsed⟩ := e
  rw [Blocklist.blockCIDR]
  split
  · next unparsed => rw [parsed] at unparsed; cases unparsed
  · next other same =>
    obtain rfl : net = other := Option.some.inj (parsed.symm.trans same)
    rfl

theorem blockCIDR_cases {blocked : Blocklist} {cidr reason : String}
    (added : b.blockCIDR cidr reason = some blocked) : ∃ e : NetworkEntry,
      e.value = cidr ∧ e.reason = reason ∧ blocked = { b with networks := b.networks ++ [e] } := by
  rw [Blocklist.blockCIDR] at added
  split at added
  · cases added
  · next net parsed => exact ⟨⟨net, cidr, reason, parsed⟩, rfl, rfl, (Option.some.inj added).symm⟩

/-- Adding an entry lists no other new one. -/
theorem mem_list_of_add {added : Blocklist} {e other : BlockEntry} (result : b.add e = some added)
    (listed : other ∈ added.list) : other = e ∨ other ∈ b.list := by
  obtain ⟨value, type, reason⟩ := e
  rw [mem_list_iff] at listed ⊢
  obtain ⟨otherValue, otherType, otherReason⟩ := other
  cases type with
  | ip =>
    obtain rfl := Option.some.inj result
    cases otherType with
    | ip =>
      simp only [Blocklist.reasons, Blocklist.blockIP, Option.mem_toList,
        Table.lookup_insert_iff] at listed ⊢
      rcases listed with ⟨rfl, rfl⟩ | ⟨_, kept⟩
      · exact Or.inl rfl
      · exact Or.inr kept
    | id => exact Or.inr listed
    | cidr => exact Or.inr listed
  | id =>
    obtain rfl := Option.some.inj result
    cases otherType with
    | id =>
      simp only [Blocklist.reasons, Blocklist.blockID, Option.mem_toList,
        Table.lookup_insert_iff] at listed ⊢
      rcases listed with ⟨rfl, rfl⟩ | ⟨_, kept⟩
      · exact Or.inl rfl
      · exact Or.inr kept
    | ip => exact Or.inr listed
    | cidr => exact Or.inr listed
  | cidr =>
    obtain ⟨entry, rfl, rfl, rfl⟩ := blockCIDR_cases result
    cases otherType with
    | cidr =>
      simp only [Blocklist.reasons, List.filter_append, List.map_append, List.mem_append]
        at listed ⊢
      rcases listed with kept | new
      · exact Or.inr kept
      · obtain ⟨found, member, rfl⟩ := List.mem_map.mp new
        obtain ⟨single, named⟩ := List.mem_filter.mp member
        obtain rfl := List.mem_singleton.mp single
        exact Or.inl (by rw [of_decide_eq_true named])
    | ip => exact Or.inr listed
    | id => exact Or.inr listed

/-- `UnblockIP`, `UnblockID` or `UnblockCIDR`. -/
def Blocklist.unblock (b : Blocklist) : BlockType → String → Option Blocklist
  | .ip, value => b.unblockIP value
  | .id, value => b.unblockID value
  | .cidr, value => b.unblockCIDR value

/-- Removing an entry lists no new one. -/
theorem mem_list_of_unblock {unblocked : Blocklist} {type : BlockType} {value : String}
    {e : BlockEntry} (result : b.unblock type value = some unblocked)
    (listed : e ∈ unblocked.list) : e ∈ b.list := by
  obtain ⟨text, kind, reason⟩ := e
  rw [mem_list_iff] at listed ⊢
  cases type with
  | ip =>
    obtain rfl := Option.some.inj (Option.ite_none_right_eq_some.mp result).2
    cases kind with
    | ip => exact Option.mem_toList.mpr (Table.lookup_erase_iff.mp (Option.mem_toList.mp listed)).2
    | id => exact listed
    | cidr => exact listed
  | id =>
    obtain rfl := Option.some.inj (Option.ite_none_right_eq_some.mp result).2
    cases kind with
    | id => exact Option.mem_toList.mpr (Table.lookup_erase_iff.mp (Option.mem_toList.mp listed)).2
    | ip => exact listed
    | cidr => exact listed
  | cidr =>
    obtain rfl := Option.some.inj (Option.ite_none_right_eq_some.mp result).2
    cases kind with
    | cidr => exact (((List.eraseP_sublist).filter _).map _).subset listed
    | ip => exact listed
    | id => exact listed

/-- What the API adds has a value. -/
theorem valued_of_handleAddBlocklist {blocked : Blocklist} {body : AddRequest} {e : BlockEntry}
    (result : handleAddBlocklist b body = .ok blocked) (listed : e ∈ blocked.list) :
    e.value ≠ "" ∨ e ∈ b.list := by
  have new : ∀ type, b.add ⟨body.value, type, body.reason⟩ = some blocked → body.value ≠ "" →
      e.value ≠ "" ∨ e ∈ b.list := by
    intro type added valued
    rcases mem_list_of_add added listed with rfl | kept
    · exact Or.inl valued
    · exact Or.inr kept
  rw [handleAddBlocklist] at result
  split_ifs at result with empty ip id cidr
  · exact new .ip (congrArg some (Except.ok.inj result)) empty
  · exact new .id (congrArg some (Except.ok.inj result)) empty
  · split at result
    · cases result
    · next added =>
      exact new .cidr (added.trans (congrArg some (Except.ok.inj result))) empty

theorem mem_list_of_handleRemoveBlocklist {unblocked : Blocklist} {entry : String}
    {e : BlockEntry} (result : handleRemoveBlocklist b entry = .ok unblocked)
    (listed : e ∈ unblocked.list) : e ∈ b.list := by
  rw [handleRemoveBlocklist] at result
  split at result
  · cases result
  · next found =>
    obtain rfl := Except.ok.inj result
    cases inIPs : b.unblockIP entry with
    | some next =>
      rw [inIPs] at found
      obtain rfl := Option.some.inj found
      exact @mem_list_of_unblock _ _ .ip _ _ inIPs listed
    | none =>
      cases inIDs : b.unblockID entry with
      | some next =>
        rw [inIPs, inIDs] at found
        obtain rfl := Option.some.inj found
        exact @mem_list_of_unblock _ _ .id _ _ inIDs listed
      | none =>
        rw [inIPs, inIDs] at found
        exact @mem_list_of_unblock _ _ .cidr _ _ found listed

theorem mem_list_getD {result : Option Blocklist} {e : BlockEntry}
    (listed : e ∈ (result.getD b).list) :
    e ∈ b.list ∨ ∃ next, result = some next ∧ e ∈ next.list := by
  cases result with
  | none => exact Or.inl listed
  | some next => exact Or.inr ⟨next, rfl, listed⟩

theorem mem_list_of_getD_unblock {type : BlockType} {value : String}
    {e : BlockEntry} (listed : e ∈ ((b.unblock type value).getD b).list) : e ∈ b.list := by
  rcases mem_list_getD listed with kept | ⟨next, result, listed⟩
  · exact kept
  · exact mem_list_of_unblock result listed

/-- An operation lists no new entry without a value. -/
theorem valued_perform (valued : ∀ e ∈ b.list, e.value ≠ "") (o : Operation) :
    ∀ e ∈ (perform b o).list, e.value ≠ "" := by
  intro e listed
  cases o with
  | add body =>
    rw [perform] at listed
    cases answer : handleAddBlocklist b body with
    | error text =>
      rw [answer] at listed
      exact valued e listed
    | ok blocked =>
      rw [answer] at listed
      exact (valued_of_handleAddBlocklist answer listed).elim id (valued e)
  | remove entry =>
    rw [perform] at listed
    cases answer : handleRemoveBlocklist b entry with
    | error text =>
      rw [answer] at listed
      exact valued e listed
    | ok unblocked =>
      rw [answer] at listed
      exact valued e (mem_list_of_handleRemoveBlocklist answer listed)
  | unblockIP ip => exact valued e (@mem_list_of_getD_unblock _ .ip _ _ listed)
  | unblockID id => exact valued e (@mem_list_of_getD_unblock _ .id _ _ listed)
  | unblockCIDR cidr => exact valued e (@mem_list_of_getD_unblock _ .cidr _ _ listed)

theorem valued_foldl_perform : ∀ (operations : List Operation) {b : Blocklist},
    (∀ e ∈ b.list, e.value ≠ "") → ∀ e ∈ (operations.foldl perform b).list, e.value ≠ ""
  | [], _, valued => valued
  | o :: operations, _, valued => valued_foldl_perform operations (valued_perform valued o)

/-- Every entry of a blocklist that is reached has a value. -/
theorem valued_reached (operations : List Operation) :
    ∀ e ∈ (reached operations).list, e.value ≠ "" :=
  valued_foldl_perform operations fun e listed => (not_mem_list_newBlocklist e listed).elim

/-! ### What is loaded -/

/-- Everything that is loaded can be stored. -/
theorem storable_foldl_loadLine : ∀ {lines : List (List Char)} {b : Blocklist},
    (∀ line ∈ lines, '\n' ∉ line ∧ Text.byteLength line < maxScanTokenSize) →
      (∀ e ∈ b.list, Storable e) → ∀ e ∈ (lines.foldl loadLine b).list, Storable e
  | [], _, _, storable => storable
  | line :: lines, b, clean, storable => by
    have next : ∀ e ∈ (loadLine b line).list, Storable e := by
      intro e listed
      rcases mem_list_getD listed with kept | ⟨loaded, result, listed⟩
      · exact storable e kept
      · obtain ⟨made, read, added⟩ := Option.bind_eq_some_iff.mp result
        obtain ⟨oneLine, short⟩ := clean line List.mem_cons_self
        rcases mem_list_of_add added listed with rfl | kept
        · exact storable_of_readEntry read oneLine short
        · exact storable e kept
    rw [List.foldl_cons]
    exact storable_foldl_loadLine
      (fun other member => clean other (List.mem_cons_of_mem line member)) next

theorem storable_loadFromFile (text : List Char) :
    ∀ e ∈ (loadFromFile newBlocklist text).list, Storable e :=
  storable_foldl_loadLine (fun _ given => Text.of_mem_scanLines given)
    fun e listed => (not_mem_list_newBlocklist e listed).elim

/-! ### Saving and loading -/

/-- The same verdicts for every address and every device ID, and the same reasons. -/
structure Agrees (saved loaded : Blocklist) : Prop where
  ips : ∀ ipStr, loaded.isIPBlocked ipStr = saved.isIPBlocked ipStr
  ids : ∀ id, loaded.isIDBlocked id = saved.isIDBlocked id
  reasons : ∀ type value, loaded.reasons type value = saved.reasons type value

theorem storable_of_agrees {saved loaded : Blocklist} (agrees : Agrees saved loaded)
    (storable : ∀ e ∈ loaded.list, Storable e) : ∀ e ∈ saved.list, Storable e := by
  intro e listed
  refine storable e (mem_list_iff.mpr ?_)
  rw [agrees.reasons]
  exact mem_list_iff.mp listed

/-- A blocklist is known by what its maps look up and by its ranges. -/
theorem agrees_of_lookup {saved loaded : Blocklist}
    (ips : ∀ ip, loaded.ips.lookup ip = saved.ips.lookup ip)
    (ids : ∀ id, loaded.ids.lookup id = saved.ids.lookup id)
    (networks : loaded.networks = saved.networks) : Agrees saved loaded where
  ips ipStr := by
    have held : ∀ ip, (ip ∈ loaded.ips) = (ip ∈ saved.ips) := fun ip => by
      rw [← AList.lookup_isSome, ips, AList.lookup_isSome]
    simp only [Blocklist.isIPBlocked, held, networks]
  ids id := by
    have held : (id ∈ loaded.ids) = (id ∈ saved.ids) := by
      rw [← AList.lookup_isSome, ids, AList.lookup_isSome]
    simp only [Blocklist.isIDBlocked, held]
  reasons type value := by
    cases type with
    | ip => rw [Blocklist.reasons, ips, Blocklist.reasons]
    | id => rw [Blocklist.reasons, ids, Blocklist.reasons]
    | cidr => rw [Blocklist.reasons, networks, Blocklist.reasons]

/-- An entry put into a blocklist, which stays as it is where the entry is refused. -/
def Blocklist.put (b : Blocklist) (e : BlockEntry) : Blocklist := (b.add e).getD b

theorem loadLine_line {e : BlockEntry} (storable : Storable e) (parsed : e.Parsed)
    (valued : e.value ≠ "") (b : Blocklist) : loadLine b e.line = b.put e := by
  rw [loadLine, readEntry_line storable parsed valued]
  rfl

theorem foldl_loadLine_of_skipped : ∀ {lines : List (List Char)},
    (∀ line ∈ lines, readEntry line = none) → ∀ b : Blocklist, lines.foldl loadLine b = b
  | [], _, _ => rfl
  | line :: lines, skipped, b => by
    have same : loadLine b line = b := by
      rw [loadLine, skipped line List.mem_cons_self]
      rfl
    rw [List.foldl_cons, same]
    exact foldl_loadLine_of_skipped
      (fun other member => skipped other (List.mem_cons_of_mem line member)) b

theorem header_clean : ∀ line ∈ header,
    '\n' ∉ line ∧ Text.byteLength line < maxScanTokenSize ∧ line.getLast? ≠ some '\r' := by
  decide

theorem header_skipped : ∀ line ∈ header, readEntry line = none := by decide

/-- Loading what was saved puts the entries in the order of the listing. -/
theorem loadFromFile_saveToFile (listing : b.Listing)
    (storable : ∀ e ∈ b.list, Storable e) (valued : ∀ e ∈ b.list, e.value ≠ "") (c : Blocklist) :
    loadFromFile c (saveToFile b listing) =
      (listing.ips ++ b.networkEntries ++ listing.ids).foldl Blocklist.put c := by
  have listed : ∀ e ∈ listing.ips ++ b.networkEntries ++ listing.ids, e ∈ b.list := by
    intro e member
    simp only [List.mem_append, listing.ipsListed.mem_iff, listing.idsListed.mem_iff] at member
    simp only [Blocklist.list, List.mem_append]
    tauto
  generalize entries_eq : listing.ips ++ b.networkEntries ++ listing.ids = entries at listed ⊢
  have clean : ∀ line ∈ header ++ entries.map BlockEntry.line,
      '\n' ∉ line ∧ Text.byteLength line < maxScanTokenSize ∧ line.getLast? ≠ some '\r' := by
    intro line member
    rcases List.mem_append.mp member with member | member
    · exact header_clean line member
    · obtain ⟨e, saved, rfl⟩ := List.mem_map.mp member
      have saved := listed e saved
      obtain ⟨_, ends, oneLine⟩ := line_clean (storable e saved) (parsed_of_mem_list saved)
      exact ⟨oneLine, (storable e saved).short,
        fun carriage => absurd (ends '\r' carriage) (by decide)⟩
  rw [loadFromFile, saveToFile, entries_eq, Text.scanLines_joinLines clean, List.foldl_append,
    foldl_loadLine_of_skipped header_skipped, List.foldl_map]
  refine List.foldl_ext _ _ c fun blocked e member => ?_
  exact loadLine_line (storable e (listed e member)) (parsed_of_mem_list (listed e member))
    (valued e (listed e member)) blocked

/-- Entries of addresses fill the map of addresses only. -/
theorem foldl_put_ips : ∀ {entries : List BlockEntry}, (∀ e ∈ entries, e.type = .ip) →
    ∀ b : Blocklist, entries.foldl Blocklist.put b =
      { b with
        ips := (entries.map fun e => (e.value, e.reason)).foldl
          (fun filled e => filled.insert e.1 e.2) b.ips }
  | [], _, _ => rfl
  | e :: entries, typed, b => by
    have put_eq : b.put e = b.blockIP e.value e.reason := by
      rw [Blocklist.put, Blocklist.add, typed e List.mem_cons_self]
      rfl
    rw [List.foldl_cons, put_eq,
      foldl_put_ips fun other member => typed other (List.mem_cons_of_mem e member)]
    rfl

theorem foldl_put_ids : ∀ {entries : List BlockEntry}, (∀ e ∈ entries, e.type = .id) →
    ∀ b : Blocklist, entries.foldl Blocklist.put b =
      { b with
        ids := (entries.map fun e => (e.value, e.reason)).foldl
          (fun filled e => filled.insert e.1 e.2) b.ids }
  | [], _, _ => rfl
  | e :: entries, typed, b => by
    have put_eq : b.put e = b.blockID e.value e.reason := by
      rw [Blocklist.put, Blocklist.add, typed e List.mem_cons_self]
      rfl
    rw [List.foldl_cons, put_eq,
      foldl_put_ids fun other member => typed other (List.mem_cons_of_mem e member)]
    rfl

theorem foldl_put_networks : ∀ (networks : List NetworkEntry) (b : Blocklist),
    (networks.map fun e => (⟨e.value, .cidr, e.reason⟩ : BlockEntry)).foldl Blocklist.put b =
      { b with networks := b.networks ++ networks }
  | [], b => by rw [List.append_nil]; rfl
  | e :: networks, b => by
    have put_eq : b.put ⟨e.value, .cidr, e.reason⟩ = { b with networks := b.networks ++ [e] } := by
      rw [Blocklist.put, Blocklist.add, blockCIDR_entry]
      rfl
    rw [List.map_cons, List.foldl_cons, put_eq, foldl_put_networks networks, List.append_assoc]
    rfl

/-- A blocklist whose entries can all be stored is the same after it is saved and loaded. -/
theorem agrees_of_storable (listing : b.Listing)
    (storable : ∀ e ∈ b.list, Storable e) (valued : ∀ e ∈ b.list, e.value ≠ "") :
    Agrees b (loadFromFile newBlocklist (saveToFile b listing)) := by
  have typedIPs : ∀ e ∈ listing.ips, e.type = .ip := by
    intro e member
    obtain ⟨entry, _, rfl⟩ := List.mem_map.mp (listing.ipsListed.mem_iff.mp member)
    rfl
  have typedIDs : ∀ e ∈ listing.ids, e.type = .id := by
    intro e member
    obtain ⟨entry, _, rfl⟩ := List.mem_map.mp (listing.idsListed.mem_iff.mp member)
    rfl
  rw [loadFromFile_saveToFile listing storable valued, List.foldl_append, List.foldl_append,
    foldl_put_ips typedIPs, Blocklist.networkEntries, foldl_put_networks, foldl_put_ids typedIDs]
  refine agrees_of_lookup (fun ip => ?_) (fun id => ?_) (List.nil_append _)
  · refine Table.lookup_foldl_insert ?_ ip
    have listed := listing.ipsListed.map fun e => (e.value, e.reason)
    rwa [Blocklist.ipEntries, List.map_map] at listed
  · refine Table.lookup_foldl_insert ?_ id
    have listed := listing.idsListed.map fun e => (e.value, e.reason)
    rwa [Blocklist.idEntries, List.map_map] at listed

/-- After any sequence of operations, in whichever order the maps are written, the blocklist that is
loaded from the saved file gives the same verdicts and reasons if and only if every entry can be
written on one line. -/
theorem survivesReload_iff_storable (operations : List Operation)
    (listing : (reached operations).Listing) :
    Agrees (reached operations)
        (loadFromFile newBlocklist (saveToFile (reached operations) listing)) ↔
      ∀ e ∈ (reached operations).list, Storable e := by
  constructor
  · intro agrees
    exact storable_of_agrees agrees (storable_loadFromFile _)
  · intro storable
    exact agrees_of_storable listing storable (valued_reached operations)

/-- The one operation that blocks the device ID `a,b`. -/
def commaID : List Operation := [.add ⟨"a,b", "id", ""⟩]

/-- The device ID `a,b` is blocked through the API, and no longer after saving and loading. -/
theorem reloadedID_unblocked : ∃ listing : (reached commaID).Listing,
    (reached commaID).isIDBlocked "a,b" = true ∧
      (loadFromFile newBlocklist (saveToFile (reached commaID) listing)).isIDBlocked "a,b" = false ∧
      ¬ Agrees (reached commaID)
          (loadFromFile newBlocklist (saveToFile (reached commaID) listing)) := by
  have blocked : (reached commaID).isIDBlocked "a,b" = true := by decide
  refine ⟨⟨_, _, List.Perm.refl _, List.Perm.refl _⟩, blocked, by decide, fun agrees => ?_⟩
  have same := agrees.ids "a,b"
  rw [blocked] at same
  revert same
  decide

end SovaDesk.Security
