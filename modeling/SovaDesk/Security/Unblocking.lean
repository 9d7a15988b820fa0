/-
This file settles when removing a value from the blocklist removes all of it.

A blocklist is built by loading files and by blocking and unblocking. Addresses and device IDs are
kept in maps, so one removal takes an entry away for good. Ranges are kept in a list: the same text
can be in it several times, by blocking it twice or by loading a file again, and a removal takes
only the first away. The handler of the API stops at the first kind under which it finds the value.
What a removal ought to leave is the blocklist that the same operations build without any blocking
of the value, be it a call or a line of a file.
-/

import SovaDesk.Security.Blocklist

namespace SovaDesk.Security

/-! ### Operations -/

/-- What builds a blocklist: loading a file, blocking an entry and unblocking a value. -/
inductive ListOperation
  | load (text : List Char)
  | block (e : BlockEntry)
  | unblock (type : BlockType) (value : String)

/-- The blocklist after an operation; one that fails leaves it as it is. -/
def ListOperation.perform (b : Blocklist) : ListOperation → Blocklist
  | .load text => loadFromFile b text
  | .block e => b.put e
  | .unblock type value => (b.unblock type value).getD b

def built (operations : List ListOperation) : Blocklist :=
  operations.foldl ListOperation.perform newBlocklist

/-- An entry that blocks the value under the type. -/
def BlockEntry.blocks (type : BlockType) (value : String) (e : BlockEntry) : Bool :=
  decide (e.type = type ∧ e.value = value)

/-- Put an entry into a blocklist unless it blocks the value. -/
def Blocklist.putOther (type : BlockType) (value : String) (b : Blocklist) (e : BlockEntry) :
    Blocklist :=
  if e.blocks type value then b else b.put e

/-- Load a line unless it blocks the value. -/
def loadLineOther (type : BlockType) (value : String) (b : Blocklist) (text : List Char) :
    Blocklist :=
  ((readEntry text).map (b.putOther type value)).getD b

/-- An operation without any blocking of the value under the type. -/
def ListOperation.performOther (type : BlockType) (value : String) (b : Blocklist) :
    ListOperation → Blocklist
  | .load text =>
    (Text.scanLines maxScanTokenSize text).foldl (loadLineOther type value) b
  | .block e => b.putOther type value e
  | .unblock type value => (b.unblock type value).getD b

/-- The blocklist that the operations build without any blocking of the value under the type. -/
def builtOther (type : BlockType) (value : String) (operations : List ListOperation) : Blocklist :=
  operations.foldl (ListOperation.performOther type value) newBlocklist

/-- A blocklist without the value under the type. -/
structure Cleared (type : BlockType) (value : String) (b cleared : Blocklist) : Prop where
  ips : ∀ ip, cleared.ips.lookup ip =
    if type = .ip ∧ ip = value then none else b.ips.lookup ip
  ids : ∀ id, cleared.ids.lookup id =
    if type = .id ∧ id = value then none else b.ids.lookup id
  networks : cleared.networks =
    if type = .cidr then b.networks.filter fun e => e.value != value else b.networks

/-- The reasons given for a value under any type, one for each entry. -/
def Blocklist.entriesOf (b : Blocklist) (value : String) : List String :=
  b.reasons .ip value ++ b.reasons .id value ++ b.reasons .cidr value

/-- Removing a value leaves no entry of its kind, and then the blocklist answers as if the value had
never been blocked under it; the handler of the API leaves no entry of any kind. -/
structure Unblocks (operations : List ListOperation) (value : String) : Prop where
  gone : ∀ type after, (built operations).unblock type value = some after →
    ∀ e ∈ after.list, e.blocks type value = false
  answers : ∀ type after, (built operations).unblock type value = some after →
    (∀ ipStr, after.isIPBlocked ipStr = (builtOther type value operations).isIPBlocked ipStr) ∧
      ∀ id, after.isIDBlocked id = (builtOther type value operations).isIDBlocked id
  handled : ∀ after, handleRemoveBlocklist (built operations) value = .ok after →
    ∀ e ∈ after.list, e.value ≠ value

/-! ### Lists of ranges -/

section ranges

variable {networks : List NetworkEntry} {value : String}

/-- Removing the first range with a text commutes with leaving out those with another. -/
theorem filter_eraseP (networks : List NetworkEntry) (value other : String) :
    (networks.eraseP (·.value == other)).filter (fun e => e.value != value) =
      (networks.filter fun e => e.value != value).eraseP (·.value == other) := by
  induction networks with
  | nil => rfl
  | cons e rest inductionHypothesis =>
    by_cases isOther : e.value = other
    · by_cases isValue : e.value = value
      · -- Nothing is left under the text, so there is nothing to remove.
        have none : ∀ found ∈ rest.filter (fun e => e.value != value),
            ¬(found.value == other) = true := by
          intro found member same
          obtain ⟨-, kept⟩ := List.mem_filter.mp member
          exact bne_iff_ne.mp kept ((beq_iff_eq.mp same).trans (isOther.symm.trans isValue))
        rw [List.filter_cons, List.eraseP_cons]
        simp only [isOther, beq_self_eq_true, isOther.symm.trans isValue, bne_self_eq_false,
          Bool.false_eq_true, if_false]
        exact (List.eraseP_of_forall_not (isOther.symm.trans isValue ▸ none)).symm
      · simp [isOther, isOther ▸ isValue]
    · by_cases isValue : e.value = value
      · simp [isValue, ← inductionHypothesis, isValue ▸ isOther]
      · simp [isOther, isValue, inductionHypothesis]

/-- Removing the first of one removes all. -/
theorem eraseP_eq_filter (single : (networks.filter (·.value = value)).length ≤ 1) :
    networks.eraseP (·.value == value) = networks.filter fun e => e.value != value := by
  induction networks with
  | nil => rfl
  | cons e rest inductionHypothesis =>
    by_cases isValue : e.value = value
    · have none : ∀ found ∈ rest, found.value ≠ value := by
        simp only [List.filter_cons, isValue, decide_true, if_true, List.length_cons] at single
        have empty := List.eq_nil_of_length_eq_zero (Nat.le_zero.mp (Nat.le_of_succ_le_succ single))
        exact fun found member same =>
          List.filter_eq_nil_iff.mp empty found member (decide_eq_true same)
      simp only [List.eraseP_cons, List.filter_cons, isValue, beq_self_eq_true, bne_self_eq_false,
        cond_true, Bool.false_eq_true, if_false]
      exact (List.filter_eq_self.mpr fun found member =>
        bne_iff_ne.mpr (none found member)).symm
    · have rest' : (rest.filter (·.value = value)).length ≤ 1 := by
        simpa [isValue] using single
      simp [isValue, inductionHypothesis rest']

/-- One range less has the text. -/
theorem length_filter_eraseP (listed : networks.any (·.value == value) = true) :
    ((networks.eraseP (·.value == value)).filter (·.value = value)).length + 1 =
      (networks.filter (·.value = value)).length := by
  induction networks with
  | nil => exact absurd listed Bool.false_ne_true
  | cons e rest inductionHypothesis =>
    by_cases isValue : e.value = value
    · simp [isValue]
    · have listed' : rest.any (·.value == value) = true := by
        simpa [isValue] using listed
      simp [isValue, inductionHypothesis listed']

end ranges

/-! ### The blocklist without a value -/

section cleared

variable {type : BlockType} {value : String} {b c : Blocklist}

/-- What putting an entry does to the two maps and the list. -/
theorem put_cases (e : BlockEntry) :
    (e.type = .ip ∧ ∀ b : Blocklist, b.put e = { b with ips := b.ips.insert e.value e.reason }) ∨
      (e.type = .id ∧
        ∀ b : Blocklist, b.put e = { b with ids := b.ids.insert e.value e.reason }) ∨
      (e.type = .cidr ∧ ∃ new : List NetworkEntry, (∀ net ∈ new, net.value = e.value) ∧
        ∀ b : Blocklist, b.put e = { b with networks := b.networks ++ new }) := by
  obtain ⟨value, type, reason⟩ := e
  cases type with
  | ip => exact .inl ⟨rfl, fun _ => rfl⟩
  | id => exact .inr (.inl ⟨rfl, fun _ => rfl⟩)
  | cidr =>
    refine .inr (.inr ⟨rfl, ?_⟩)
    cases parsed : parseCIDR value.toList with
    | none =>
      refine ⟨[], fun _ member => absurd member List.not_mem_nil, fun b => ?_⟩
      have refused : b.blockCIDR value reason = none := by
        rw [Blocklist.blockCIDR]
        split
        · rfl
        · next net same => exact (Option.some_ne_none net (same.symm.trans parsed)).elim
      rw [Blocklist.put, Blocklist.add]
      dsimp only
      rw [refused, List.append_nil]
      rfl
    | some net =>
      refine ⟨[⟨net, value, reason, parsed⟩], ?_, fun b => ?_⟩
      · intro found member
        rw [List.mem_singleton.mp member]
      · have added := blockCIDR_entry b ⟨net, value, reason, parsed⟩
        rw [Blocklist.put, Blocklist.add]
        dsimp only at added ⊢
        rw [added]
        rfl

section maps

variable {isType : Prop} [Decidable isType] {held kept : Table String String} {reason : String}

section

variable (without : ∀ x, kept.lookup x = if isType ∧ x = value then none else held.lookup x)

include without

/-- Inserting the value itself changes nothing else. -/
theorem lookup_insert_value (typed : isType) (x : String) : kept.lookup x =
      if isType ∧ x = value then none else (held.insert value reason).lookup x := by
  rw [without x, Table.lookup_insert_if]
  by_cases same : x = value
  · rw [if_pos ⟨typed, same⟩, if_pos ⟨typed, same⟩]
  · rw [if_neg same]

/-- Inserting another value does the same to both. -/
theorem lookup_insert_other {other : String} (differs : ¬(isType ∧ other = value)) (x : String) :
    (kept.insert other reason).lookup x =
      if isType ∧ x = value then none else (held.insert other reason).lookup x := by
  rw [Table.lookup_insert_if, Table.lookup_insert_if, without x]
  by_cases same : x = other
  · rw [if_pos same, if_pos same, if_neg (same ▸ differs)]
  · rw [if_neg same, if_neg same]

/-- Erasing a value does the same to both. -/
theorem lookup_erase_both (other x : String) : (kept.erase other).lookup x =
      if isType ∧ x = value then none else (held.erase other).lookup x := by
  rw [Table.lookup_erase_if, Table.lookup_erase_if, without x]
  split <;> split <;> rfl

end

end maps

theorem Cleared.put (cleared : Cleared type value b c) (e : BlockEntry) :
    Cleared type value (b.put e) (c.putOther type value e) := by
  obtain ⟨ips, ids, networks⟩ := cleared
  unfold Blocklist.putOther BlockEntry.blocks
  rcases put_cases e with ⟨typed, put⟩ | ⟨typed, put⟩ | ⟨typed, new, named, put⟩
  · split
    · next blocks =>
      obtain ⟨sameType, sameValue⟩ := of_decide_eq_true blocks
      rw [put, sameValue]
      exact ⟨lookup_insert_value ips (sameType.symm.trans typed), ids, networks⟩
    · next other =>
      rw [put, put]
      refine ⟨lookup_insert_other ips fun same => other (decide_eq_true ?_), ids, networks⟩
      exact ⟨typed.trans same.1.symm, same.2⟩
  · split
    · next blocks =>
      obtain ⟨sameType, sameValue⟩ := of_decide_eq_true blocks
      rw [put, sameValue]
      exact ⟨ips, lookup_insert_value ids (sameType.symm.trans typed), networks⟩
    · next other =>
      rw [put, put]
      refine ⟨ips, lookup_insert_other ids fun same => other (decide_eq_true ?_), networks⟩
      exact ⟨typed.trans same.1.symm, same.2⟩
  · split
    · next blocks =>
      obtain ⟨sameType, sameValue⟩ := of_decide_eq_true blocks
      have isRange : type = .cidr := sameType.symm.trans typed
      have none : new.filter (fun e => e.value != value) = [] :=
        List.filter_eq_nil_iff.mpr fun net member => by
          rw [named net member, sameValue, bne_self_eq_false]
          exact Bool.false_ne_true
      rw [put]
      refine ⟨ips, ids, ?_⟩
      rw [networks, if_pos isRange, if_pos isRange, List.filter_append, none, List.append_nil]
    · next other =>
      rw [put, put]
      refine ⟨ips, ids, ?_⟩
      dsimp only
      rw [networks]
      split
      · next isRange =>
        have all : new.filter (fun e => e.value != value) = new :=
          List.filter_eq_self.mpr fun net member => bne_iff_ne.mpr fun same =>
            other (decide_eq_true ⟨typed.trans isRange.symm, (named net member).symm.trans same⟩)
        rw [List.filter_append, all]
      · rfl

theorem erase_of_notMem {table : Table String String} {key : String} (absent : key ∉ table) :
    table.erase key = table := AList.ext (List.kerase_of_notMem_keys absent)

/-- What removing a value leaves, whether it is found or not. -/
theorem getD_unblockIP (b : Blocklist) (ip : String) :
    (b.unblockIP ip).getD b = { b with ips := b.ips.erase ip } := by
  unfold Blocklist.unblockIP
  split
  · rfl
  · next absent => rw [erase_of_notMem absent]; rfl

theorem getD_unblockID (b : Blocklist) (id : String) :
    (b.unblockID id).getD b = { b with ids := b.ids.erase id } := by
  unfold Blocklist.unblockID
  split
  · rfl
  · next absent => rw [erase_of_notMem absent]; rfl

theorem getD_unblockCIDR (b : Blocklist) (cidr : String) :
    (b.unblockCIDR cidr).getD b = { b with networks := b.networks.eraseP (·.value == cidr) } := by
  unfold Blocklist.unblockCIDR
  split
  · rfl
  · next absent =>
    have none : ∀ net ∈ b.networks, ¬(net.value == cidr) = true := fun net member same =>
      absent (List.any_eq_true.mpr ⟨net, member, same⟩)
    rw [List.eraseP_of_forall_not none]
    rfl

theorem Cleared.unblock (cleared : Cleared type value b c) (other : BlockType) (text : String) :
    Cleared type value ((b.unblock other text).getD b) ((c.unblock other text).getD c) := by
  obtain ⟨ips, ids, networks⟩ := cleared
  cases other with
  | ip =>
    rw [Blocklist.unblock, Blocklist.unblock, getD_unblockIP, getD_unblockIP]
    exact ⟨lookup_erase_both ips text, ids, networks⟩
  | id =>
    rw [Blocklist.unblock, Blocklist.unblock, getD_unblockID, getD_unblockID]
    exact ⟨ips, lookup_erase_both ids text, networks⟩
  | cidr =>
    rw [Blocklist.unblock, Blocklist.unblock, getD_unblockCIDR, getD_unblockCIDR]
    refine ⟨ips, ids, ?_⟩
    dsimp only
    rw [networks]
    split
    · exact (filter_eraseP b.networks value text).symm
    · rfl

theorem Cleared.loadLines {lines : List (List Char)} (cleared : Cleared type value b c) :
    Cleared type value (lines.foldl loadLine b) (lines.foldl (loadLineOther type value) c) := by
  induction lines generalizing b c with
  | nil => exact cleared
  | cons line rest inductionHypothesis =>
    refine inductionHypothesis ?_
    unfold loadLine loadLineOther
    cases readEntry line with
    | none => exact cleared
    | some e => exact cleared.put e

theorem Cleared.perform (cleared : Cleared type value b c) (operation : ListOperation) :
    Cleared type value (operation.perform b) (operation.performOther type value c) := by
  cases operation with
  | load text => exact cleared.loadLines
  | block e => exact cleared.put e
  | unblock other text => exact cleared.unblock other text

/-- The blocklist without a value is the one that is built without blocking it. -/
theorem cleared_built (type : BlockType) (value : String) (operations : List ListOperation) :
    Cleared type value (built operations) (builtOther type value operations) := by
  have folds : ∀ {b c : Blocklist}, Cleared type value b c →
      Cleared type value (operations.foldl ListOperation.perform b)
        (operations.foldl (ListOperation.performOther type value) c) := by
    induction operations with
    | nil => exact fun cleared => cleared
    | cons operation rest inductionHypothesis =>
      exact fun cleared => inductionHypothesis (cleared.perform operation)
  refine folds ⟨fun ip => ?_, fun id => ?_, ?_⟩
  · split <;> rfl
  · split <;> rfl
  · split <;> rfl

end cleared

/-! ### Removals -/

section removals

variable {b after : Blocklist} {value : String} {type : BlockType}

/-- What a removal that succeeds leaves of the value under its type. -/
theorem length_reasons_unblock (removed : b.unblock type value = some after) :
    (after.reasons type value).length + 1 = (b.reasons type value).length ∧
      ∀ other, other ≠ type → after.reasons other value = b.reasons other value := by
  cases type with
  | ip =>
    obtain ⟨listed, same⟩ := Option.ite_none_right_eq_some.mp removed
    obtain ⟨reason, found⟩ := Option.isSome_iff_exists.mp (AList.lookup_isSome.mpr listed)
    rw [← Option.some.inj same]
    constructor
    · simp [Blocklist.reasons, found]
    · intro other differs
      cases other with
      | ip => exact absurd rfl differs
      | id => rfl
      | cidr => rfl
  | id =>
    obtain ⟨listed, same⟩ := Option.ite_none_right_eq_some.mp removed
    obtain ⟨reason, found⟩ := Option.isSome_iff_exists.mp (AList.lookup_isSome.mpr listed)
    rw [← Option.some.inj same]
    constructor
    · simp [Blocklist.reasons, found]
    · intro other differs
      cases other with
      | id => exact absurd rfl differs
      | ip => rfl
      | cidr => rfl
  | cidr =>
    obtain ⟨listed, same⟩ := Option.ite_none_right_eq_some.mp removed
    rw [← Option.some.inj same]
    constructor
    · rw [Blocklist.reasons, Blocklist.reasons, List.length_map, List.length_map]
      exact length_filter_eraseP listed
    · intro other differs
      cases other with
      | cidr => exact absurd rfl differs
      | ip => rfl
      | id => rfl

/-- A removal fails exactly when nothing is blocked under the type. -/
theorem unblock_eq_none_iff :
    b.unblock type value = none ↔ b.reasons type value = [] := by
  cases type with
  | ip => simp [Blocklist.unblock, Blocklist.unblockIP, Blocklist.reasons, AList.lookup_eq_none]
  | id => simp [Blocklist.unblock, Blocklist.unblockID, Blocklist.reasons, AList.lookup_eq_none]
  | cidr => simp [Blocklist.unblock, Blocklist.unblockCIDR, Blocklist.reasons]

/-- A removal that succeeds leaves one entry less of the value. -/
theorem length_entriesOf_unblock (removed : b.unblock type value = some after) :
    (after.entriesOf value).length + 1 = (b.entriesOf value).length := by
  obtain ⟨fewer, others⟩ := length_reasons_unblock removed
  unfold Blocklist.entriesOf
  simp only [List.length_append]
  cases type with
  | ip => rw [others .id nofun, others .cidr nofun]; omega
  | id => rw [others .ip nofun, others .cidr nofun]; omega
  | cidr => rw [others .ip nofun, others .id nofun]; omega

/-- The handler of the API removes the value under one of the types, if it is blocked at all. -/
theorem handleRemoveBlocklist_cases (b : Blocklist) (value : String) :
    (b.entriesOf value = [] ∧ handleRemoveBlocklist b value = .error "Entry not found") ∨
      ∃ type after, b.unblock type value = some after ∧
        handleRemoveBlocklist b value = .ok after := by
  cases ip : b.unblock .ip value with
  | some after =>
    refine .inr ⟨.ip, after, ip, ?_⟩
    have found : b.unblockIP value = some after := ip
    rw [handleRemoveBlocklist, found]
    rfl
  | none =>
    have noIP : b.unblockIP value = none := ip
    cases id : b.unblock .id value with
    | some after =>
      refine .inr ⟨.id, after, id, ?_⟩
      have found : b.unblockID value = some after := id
      rw [handleRemoveBlocklist, noIP, found]
      rfl
    | none =>
      have noID : b.unblockID value = none := id
      cases cidr : b.unblock .cidr value with
      | some after =>
        refine .inr ⟨.cidr, after, cidr, ?_⟩
        have found : b.unblockCIDR value = some after := cidr
        rw [handleRemoveBlocklist, noIP, noID, found]
        rfl
      | none =>
        have noCIDR : b.unblockCIDR value = none := cidr
        refine .inl ⟨?_, ?_⟩
        · rw [Blocklist.entriesOf, unblock_eq_none_iff.mp ip, unblock_eq_none_iff.mp id,
            unblock_eq_none_iff.mp cidr]
          rfl
        · rw [handleRemoveBlocklist, noIP, noID, noCIDR]
          rfl

/-- An entry is listed under a type exactly when a reason is given for its value. -/
theorem not_blocks_iff :
    (∀ e ∈ b.list, e.blocks type value = false) ↔ b.reasons type value = [] := by
  constructor
  · intro none
    refine List.eq_nil_iff_forall_not_mem.mpr fun reason given => ?_
    have listed : (⟨value, type, reason⟩ : BlockEntry) ∈ b.list := mem_list_iff.mpr given
    exact absurd (decide_eq_true ⟨rfl, rfl⟩) (ne_true_of_eq_false (none _ listed))
  · intro empty e listed
    refine decide_eq_false fun same => ?_
    have given := mem_list_iff.mp listed
    rw [same.1, same.2, empty] at given
    exact absurd given List.not_mem_nil

theorem value_ne_iff : (∀ e ∈ b.list, e.value ≠ value) ↔ b.entriesOf value = [] := by
  rw [Blocklist.entriesOf, List.append_eq_nil_iff, List.append_eq_nil_iff, ← not_blocks_iff,
    ← not_blocks_iff, ← not_blocks_iff]
  constructor
  · intro none
    exact ⟨⟨fun e listed => decide_eq_false fun same => none e listed same.2,
      fun e listed => decide_eq_false fun same => none e listed same.2⟩,
      fun e listed => decide_eq_false fun same => none e listed same.2⟩
  · rintro ⟨⟨ips, ids⟩, networks⟩ e listed same
    cases typed : e.type with
    | ip => exact of_decide_eq_false (ips e listed) ⟨typed, same⟩
    | id => exact of_decide_eq_false (ids e listed) ⟨typed, same⟩
    | cidr => exact of_decide_eq_false (networks e listed) ⟨typed, same⟩

/-- After a removal that leaves nothing under the type, the blocklist is the one without it. -/
theorem answers_of_cleared {cleared : Blocklist}
    (without : Cleared type value b cleared) (removed : b.unblock type value = some after)
    (single : (b.reasons type value).length ≤ 1) :
    (∀ ipStr, after.isIPBlocked ipStr = cleared.isIPBlocked ipStr) ∧
      ∀ id, after.isIDBlocked id = cleared.isIDBlocked id := by
  obtain ⟨ips, ids, networks⟩ := without
  have agrees : Agrees cleared after := by
    cases type with
    | ip =>
      obtain ⟨-, same⟩ := Option.ite_none_right_eq_some.mp removed
      rw [← Option.some.inj same]
      refine agrees_of_lookup (fun ip => ?_) (fun id => ?_) ?_
      · rw [ips, Table.lookup_erase_if]
        exact if_congr (by simp) rfl rfl
      · rw [ids, if_neg (by simp)]
      · rw [networks, if_neg (by simp)]
    | id =>
      obtain ⟨-, same⟩ := Option.ite_none_right_eq_some.mp removed
      rw [← Option.some.inj same]
      refine agrees_of_lookup (fun ip => ?_) (fun id => ?_) ?_
      · rw [ips, if_neg (by simp)]
      · rw [ids, Table.lookup_erase_if]
        exact if_congr (by simp) rfl rfl
      · rw [networks, if_neg (by simp)]
    | cidr =>
      obtain ⟨-, same⟩ := Option.ite_none_right_eq_some.mp removed
      rw [← Option.some.inj same]
      rw [Blocklist.reasons, List.length_map] at single
      refine agrees_of_lookup (fun ip => ?_) (fun id => ?_) ?_
      · rw [ips, if_neg (by simp)]
      · rw [ids, if_neg (by simp)]
      · rw [networks, if_pos rfl]
        exact eraseP_eq_filter single
  exact ⟨fun ipStr => agrees.ips ipStr, fun id => agrees.ids id⟩

end removals

/-- A value is unblocked for good exactly when the blocklist has no more than one entry with it,
over all types. -/
theorem unblocks_iff (operations : List ListOperation) (value : String) :
    Unblocks operations value ↔ ((built operations).entriesOf value).length ≤ 1 := by
  constructor
  · intro unblocks
    rcases handleRemoveBlocklist_cases (built operations) value with
      ⟨none, -⟩ | ⟨type, after, removed, handled⟩
    · rw [none]
      exact Nat.zero_le 1
    · have left := value_ne_iff.mp (unblocks.handled after handled)
      rw [← length_entriesOf_unblock removed, left]
      rfl
  · intro single
    have small : ∀ type, ((built operations).reasons type value).length ≤ 1 := fun type => by
      unfold Blocklist.entriesOf at single
      simp only [List.length_append] at single
      cases type <;> omega
    refine ⟨fun type after removed => ?_, fun type after removed => ?_, fun after handled => ?_⟩
    · have fewer := (length_reasons_unblock removed).1
      exact not_blocks_iff.mpr (List.eq_nil_of_length_eq_zero (by have := small type; omega))
    · exact answers_of_cleared (cleared_built type value operations) removed (small type)
    · rcases handleRemoveBlocklist_cases (built operations) value with
        ⟨-, failed⟩ | ⟨type, found, removed, ok⟩
      · exact nomatch failed.symm.trans handled
      · obtain rfl : found = after := Except.ok.inj (ok.symm.trans handled)
        have fewer := length_entriesOf_unblock removed
        exact value_ne_iff.mpr (List.eq_nil_of_length_eq_zero (by omega))

/-- A file with one range that is loaded twice. -/
def reloaded : List ListOperation :=
  [.load "10.0.0.0/8".toList, .load "10.0.0.0/8".toList]

/-- The range is still blocked after it was unblocked. -/
theorem reloaded_range_stays : ¬∀ operations value, Unblocks operations value := by
  intro always
  have gone := (always reloaded "10.0.0.0/8").gone .cidr
  have still : ((built reloaded).unblock .cidr "10.0.0.0/8").any
      (fun after => after.list.any (·.blocks .cidr "10.0.0.0/8")) = true := by decide +kernel
  obtain ⟨after, removed, listed⟩ := Option.any_eq_true _ _ |>.mp still
  obtain ⟨e, member, blocks⟩ := List.any_eq_true.mp listed
  exact ne_true_of_eq_false (gone after removed e member) blocks

end SovaDesk.Security
