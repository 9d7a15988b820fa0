/-
This file settles whether a registration finds its device through the history of renames.

The resolver looks at the newest rename recorded for the ID it is given, and no further.
A device renamed twice is not found under its first ID: the intermediate ID has no row,
and the resolver takes that for a device that was removed. A device that took over an ID
another device was renamed from is not found under its own current ID while the other one
is live. A registration finds its device exactly when the newest rename leads directly to
it, or the ID is its own and no rename leads from it to a live row.
-/

import SovaDesk.Signal.Server

namespace SovaDesk.Signal

open Transition

/-! ### Histories of the store -/

/-- An operation on the devices of the store. -/
inductive StoreOp
  | changePeerID (oldID newID reason : String)
  | deletePeer (id : String)
  | hardDeletePeer (id : String)
  | restorePeer (id : String)
  deriving DecidableEq

/-- The tables, and for each device, by its current ID, the IDs it has held before. -/
structure Devices where
  db : PeerDB
  formerIDs : Table String (List String)

/-- The IDs a device has held before its current one. -/
def Devices.heldBefore (s : Devices) (current : String) : List String :=
  (s.formerIDs.lookup current).getD []

/-- An operation the store accepts. Its callers let no empty ID through. -/
def storeStep (s : Devices) : StoreOp → Option Devices
  | .changePeerID oldID newID reason =>
    if newID = "" then none
    else
      match s.db.changePeerID oldID newID reason with
      | .error _ => none
      | .ok db =>
        some {
          db
          formerIDs :=
            (s.formerIDs.erase oldID).insert newID (oldID :: s.heldBefore oldID) }
  | .deletePeer id => some { s with db := s.db.deletePeer id }
  | .hardDeletePeer id =>
    some { db := s.db.hardDeletePeer id, formerIDs := s.formerIDs.erase id }
  | .restorePeer id => some { s with db := s.db.restorePeer id }

/-- The store, started with devices none of which has been renamed. -/
def peerStore : System Devices StoreOp where
  start s := (∀ id row, s.db.peers.lookup id = some row → id ≠ "") ∧ s.db.history = [] ∧
    s.formerIDs = ∅
  step := storeStep

/-! ### The property and the condition -/

/-- A registration presents the device's own public key or its own UUID. -/
def PeerRow.Presents (row : PeerRow) (uuid pk : Bytes) : Prop :=
  (pk ≠ [] ∧ pk = row.pk) ∨
    (uuid ≠ [] ∧ row.uuid ≠ "" ∧ peerUUIDEqual (peerUUIDFromDB row.uuid) uuid = true)

/-- A registration with any ID the device holds or has held, and with its own UUID or key, resolves
to its current ID. -/
def ResolvesToCurrent (s : Devices) : Prop :=
  ∀ current row, s.db.getPeer current = some row →
    ∀ presented ∈ current :: s.heldBefore current, ∀ host uuid pk, row.Presents uuid pk →
      resolveRegistrationPeerID s.db presented host uuid pk = some current

/-- The newest rename of an ID leads to a device directly, or the ID is the device's own and no
rename leads from it to a live row. -/
def LeadsTo (db : PeerDB) (presented current : String) : Prop :=
  db.getLatestRenameTarget presented = current ∨
    (presented = current ∧ (db.isRenamedPeerID presented = false ∨
      db.getPeer (db.getLatestRenameTarget presented) = none))

/-! ### Names -/

/-- No device and no rename has an empty ID. -/
structure Named (db : PeerDB) : Prop where
  row : ∀ id row, db.peers.lookup id = some row → id ≠ ""
  target : ∀ change ∈ db.history, change.newID ≠ ""

section names

variable {s after : Devices} {db : PeerDB} {id presented current host : String}

/-- A renamed ID has a newest rename in the history. -/
theorem exists_latestRename (renamed : db.isRenamedPeerID id = true) :
    ∃ change ∈ db.history, change.oldID = id ∧ db.getLatestRenameTarget id = change.newID := by
  obtain ⟨change, member, old⟩ := List.any_eq_true.mp renamed
  have some : (db.history.reverse.find? fun change => change.oldID == id).isSome :=
    List.find?_isSome.mpr ⟨change, List.mem_reverse.mpr member, old⟩
  obtain ⟨newest, found⟩ := Option.isSome_iff_exists.mp some
  refine ⟨newest, List.mem_reverse.mp (List.mem_of_find?_eq_some found), ?_, ?_⟩
  · have matched := List.find?_some found
    exact beq_iff_eq.mp matched
  · rw [PeerDB.getLatestRenameTarget, found]
    rfl

theorem latestRename_of_not_renamed (fresh : db.isRenamedPeerID id = false) :
    db.getLatestRenameTarget id = "" := by
  have none : db.history.reverse.find? (fun change => change.oldID == id) = none := by
    refine List.find?_eq_none.mpr fun change member => ?_
    exact List.any_eq_false.mp fresh change (List.mem_reverse.mp member)
  rw [PeerDB.getLatestRenameTarget, none]
  rfl

/-- Updating a row in place makes no ID. -/
theorem Named.update (named : Named db) (change : PeerRow → PeerRow) :
    Named { db with peers := db.peers.update id change } := by
  refine ⟨fun other row found => ?_, named.target⟩
  rw [Table.lookup_update] at found
  split at found
  · next same =>
    obtain ⟨old, stored, _⟩ := Option.map_eq_some_iff.mp found
    exact same ▸ named.row id old stored
  · exact named.row other row found

theorem Named.step (named : Named s.db) {op : StoreOp} (taken : storeStep s op = some after) :
    Named after.db := by
  cases op with
  | changePeerID oldID newID reason =>
    rw [storeStep, Option.ite_none_left_eq_some] at taken
    obtain ⟨valid, taken⟩ := taken
    split at taken
    · exact nomatch taken
    · next db changed =>
      obtain rfl := Option.some.inj taken
      obtain ⟨free, ⟨row, found, lookups⟩, history⟩ := PeerDB.changePeerID_ok changed
      constructor
      · intro id row stored
        rw [lookups] at stored
        by_cases new : id = newID
        · exact new ▸ valid
        · rw [if_neg new] at stored
          split at stored
          · exact nomatch stored
          · obtain ⟨old, before, _⟩ := Option.map_eq_some_iff.mp stored
            exact named.row id old before
      · intro change member
        rw [history] at member
        rcases List.mem_append.mp member with older | newest
        · exact named.target change older
        · obtain rfl := List.mem_singleton.mp newest
          exact valid
  | deletePeer id =>
    obtain rfl := Option.some.inj taken
    exact named.update _
  | restorePeer id =>
    obtain rfl := Option.some.inj taken
    exact named.update _
  | hardDeletePeer id =>
    obtain rfl := Option.some.inj taken
    refine ⟨fun other row found => ?_, fun change member => ?_⟩
    · exact named.row other row (Table.lookup_erase_iff.mp found).2
    · exact named.target change (List.mem_of_mem_filter member)

theorem named_of_reachable (reached : Reachable peerStore s) : Named s.db := by
  refine reached.invariant (fun s => Named s.db) ?_ ?_
  · rintro s ⟨rows, history, _⟩
    refine ⟨rows, fun change member => ?_⟩
    rw [history] at member
    exact absurd member List.not_mem_nil
  · intro before op after named _ taken
    exact named.step taken

end names

/-! ### The resolver -/

section resolver

variable {s : Devices} {db : PeerDB} {presented current host : String} {row : PeerRow}
  {uuid pk : Bytes}

/-- A device matches its own UUID and its own key. -/
theorem identityMatches_of_presents (own : row.Presents uuid pk) (host : String) :
    renamedPeerIdentityMatches row host uuid pk = true := by
  unfold renamedPeerIdentityMatches
  rcases own with ⟨present, rfl⟩ | ⟨present, known, same⟩
  · have length := List.length_pos_iff.mpr present
    simp [length]
  · have length := List.length_pos_iff.mpr present
    simp [length, known, same]

/-- A registration with the device's own identity resolves to it exactly when the presented ID leads
to it. -/
theorem resolves_iff_leadsTo (named : Named db) (live : db.getPeer current = some row)
    (own : row.Presents uuid pk) :
    resolveRegistrationPeerID db presented host uuid pk = some current ↔
      LeadsTo db presented current := by
  have matching := identityMatches_of_presents own host
  have currentName : current ≠ "" := named.row current row (PeerDB.getPeer_eq_some.mp live).1
  unfold resolveRegistrationPeerID LeadsTo
  cases renamed : db.isRenamedPeerID presented with
  | false =>
    have target := latestRename_of_not_renamed renamed
    simp only [target, Bool.not_false, if_true, Option.some_inj, true_or, and_true]
    exact ⟨.inr, fun leads => leads.resolve_left currentName.symm⟩
  | true =>
    obtain ⟨change, member, _, target⟩ := exists_latestRename renamed
    have targetName := named.target change member
    rw [← target] at targetName
    simp only [Bool.not_true, Bool.false_eq_true, if_false, targetName, reduceCtorEq, false_or]
    cases successor : db.getPeer (db.getLatestRenameTarget presented) with
    | none =>
      -- a target that is not live is not the device, whose row is live
      have other : db.getLatestRenameTarget presented ≠ current := by
        intro same
        exact Option.some_ne_none row ((same ▸ live).symm.trans successor)
      simp only [Option.some_inj, other, false_or, and_true]
    | some found =>
      simp only [reduceCtorEq, and_false, or_false]
      constructor
      · intro resolved
        exact Option.some.inj (Option.ite_none_right_eq_some.mp resolved).2
      · intro same
        obtain rfl := Option.some.inj ((same ▸ live).symm.trans successor)
        rw [if_pos matching, same]

end resolver

/-! ### Renames that do not resolve -/

/-- A device with a UUID of one byte. -/
def device (id : String) (uuid : UInt8) : PeerRow := { emptyRow id with uuid := hexText [uuid] }

/-- Two devices, "alpha1" and "gamma1". -/
def twoDevices : Devices where
  db := { emptyDB with
    peers :=
      AList.insert "gamma1" (device "gamma1" 2) (AList.insert "alpha1" (device "alpha1" 1) ∅) }
  formerIDs := ∅

theorem twoDevices_start : peerStore.start twoDevices := by
  refine ⟨fun id row found => ?_, rfl, rfl⟩
  rcases Table.lookup_insert_iff.mp found with ⟨rfl, _⟩ | ⟨_, rest⟩
  · decide
  · rcases Table.lookup_insert_iff.mp rest with ⟨rfl, _⟩ | ⟨_, missing⟩
    · decide
    · exact nomatch missing

/-- "alpha1" becomes "beta11" and then "delta1": its first ID no longer leads to it. -/
theorem renamedTwice_unresolved : ¬ ∀ s, Reachable peerStore s → ResolvesToCurrent s := by
  intro always
  have ends : (peerStore.run twoDevices [.changePeerID "alpha1" "beta11" "panel",
      .changePeerID "beta11" "delta1" "panel"]).any (fun (s : Devices) =>
        s.db.getPeer "delta1" == some { device "alpha1" 1 with id := "delta1" } &&
          s.heldBefore "delta1" == ["beta11", "alpha1"] &&
          resolveRegistrationPeerID s.db "alpha1" "" [1] [] == some "alpha1") = true := by decide
  obtain ⟨s, reached, passed⟩ := exists_reachable_of_run twoDevices_start ends
  simp only [Bool.and_eq_true, beq_iff_eq] at passed
  obtain ⟨⟨live, held⟩, resolved⟩ := passed
  have expected := always s reached "delta1" _ live "alpha1" (by rw [held]; decide) "" [1] []
    (.inr ⟨by decide, by decide, by decide⟩)
  rw [resolved] at expected
  exact absurd expected (by decide)

/-- "gamma1" takes over the ID that "alpha1" was renamed from: its own ID is refused. -/
example : (peerStore.run twoDevices [.changePeerID "alpha1" "beta11" "panel",
    .changePeerID "gamma1" "alpha1" "panel"]).any (fun (s : Devices) =>
      (s.db.getPeer "alpha1").isSome &&
        resolveRegistrationPeerID s.db "alpha1" "" [2] [] == none) = true := by decide

/-! ### Every history -/

/-- After every history of the store, a registration that presents an ID its device holds or has
held, with the device's own UUID or key, resolves to the current ID exactly when that ID leads
to the device. -/
theorem resolvesToCurrent_iff_leadsTo {s : Devices} (reached : Reachable peerStore s) :
    ∀ current row, s.db.getPeer current = some row →
      ∀ presented ∈ current :: s.heldBefore current, ∀ host uuid pk, row.Presents uuid pk →
        (resolveRegistrationPeerID s.db presented host uuid pk = some current ↔
          LeadsTo s.db presented current) :=
  fun _ _ live _ _ _ _ _ own => resolves_iff_leadsTo (named_of_reachable reached) live own

/-- A device renamed once is found under its former ID. -/
theorem renamedOnce_resolved :
    ∃ s : Devices, s.db.getPeer "beta11" = some { device "alpha1" 1 with id := "beta11" } ∧
      "alpha1" ∈ s.heldBefore "beta11" ∧
      (resolveRegistrationPeerID s.db "alpha1" "" [1] [] = some "beta11" ↔
        LeadsTo s.db "alpha1" "beta11") ∧ LeadsTo s.db "alpha1" "beta11" := by
  have ends : (peerStore.run twoDevices [.changePeerID "alpha1" "beta11" "panel"]).any
      (fun (s : Devices) =>
        s.db.getPeer "beta11" == some { device "alpha1" 1 with id := "beta11" } &&
        s.heldBefore "beta11" == ["alpha1"] &&
        s.db.getLatestRenameTarget "alpha1" == "beta11") = true := by decide
  obtain ⟨s, reached, passed⟩ := exists_reachable_of_run twoDevices_start ends
  simp only [Bool.and_eq_true, beq_iff_eq] at passed
  obtain ⟨⟨live, held⟩, target⟩ := passed
  have member : "alpha1" ∈ s.heldBefore "beta11" := by
    rw [held]
    decide
  refine ⟨s, live, member, ?_, .inl target⟩
  exact resolvesToCurrent_iff_leadsTo reached "beta11" _ live "alpha1"
    (List.mem_cons_of_mem _ member) "" [1] [] (.inr ⟨by decide, by decide, by decide⟩)

end SovaDesk.Signal
