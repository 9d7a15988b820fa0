/-
This file compares what belongs to a device before and after its ID was changed.

A device owns its row and the records of the other tables that name it: enrolment tokens,
places in organizations, the devices linked to it, contracts for it alone, the strategy
under its GUID, and its access policy. A change that fails leaves all of them as they are.
A change that succeeds moves the tokens, the places and the links, and every column that
its list names. It has no statement for the contracts and the policies, and its list lacks
the GUID, so a device keeps what belongs to it exactly when it has none of these yet.
-/

import Mathlib.Data.List.Find
import SovaDesk.Db.Peers

namespace SovaDesk.Db

open Auth Billing

/-! ### What belongs to a device -/

/-- The strategy that is assigned to a device under its GUID. -/
def strategyOf (db : Database) (id : String) : Option String :=
  (db.peers.lookup id).bind fun row => db.strategyAssignments.lookup (strategyTargetPeer, row.guid)

/-- Whether a contract is for one device alone. -/
def IsFor (contract : BillingContract) (id : String) : Prop :=
  contract.targetType = targetDevice ∧ contract.targetKey = id

instance (contract : BillingContract) (id : String) : Decidable (IsFor contract id) :=
  inferInstanceAs (Decidable (_ ∧ _))

/-- A contract as it reads when the old ID is called the new one. -/
def rekeyed (oldID newID : String) (contract : BillingContract) : BillingContract :=
  if IsFor contract oldID then { contract with targetKey := newID } else contract

/-- What belonged to the device under its old ID is found under the new one, in the tables and
through the three queries that start from an ID. -/
structure BelongingsKept (lower : String → String) (before after : Database)
    (oldID newID : String) : Prop where
  row : after.peers.lookup newID = before.peers.lookup oldID
  deviceTokens : ∀ id token, before.deviceTokens.lookup id = some token → token.peerID = oldID →
    after.deviceTokens.lookup id = some { token with peerID := newID }
  organizations : ∀ orgID, (orgID, oldID) ∈ before.billing.orgDevices →
    (orgID, newID) ∈ after.billing.orgDevices
  linkedPeers : ∀ id row, id ≠ oldID → before.peers.lookup id = some row →
    row.linkedPeerID = oldID → after.peers.lookup id = some { row with linkedPeerID := newID }
  contracts : ∀ id contract, before.billing.contracts.lookup id = some contract →
    IsFor contract oldID →
    after.billing.contracts.lookup id = some { contract with targetKey := newID }
  strategy : strategyOf after newID = strategyOf before oldID
  accessPolicy : after.getAccessPolicy newID = before.getAccessPolicy oldID
  resolvesContract : resolveContractForDevice after.billing newID =
    (resolveContractForDevice before.billing oldID).map (rekeyed oldID newID)
  resolvesKey : ∀ fresh, (after.resolvePeerAssignmentKey lower newID fresh).map (·.1) =
    (before.resolvePeerAssignmentKey lower oldID fresh).map (·.1)

/-- The device has nothing of what the change leaves behind: a GUID, a link to itself, a contract
of its own, an access policy that the new ID does not have as well. -/
structure Movable (db : Database) (oldID newID : String) : Prop where
  guid : ∀ row, db.peers.lookup oldID = some row → row.guid = ""
  link : ∀ row, db.peers.lookup oldID = some row → row.linkedPeerID ≠ oldID
  contracts : ∀ id contract, db.billing.contracts.lookup id = some contract →
    ¬ IsFor contract oldID
  accessPolicy : db.getAccessPolicy newID = db.getAccessPolicy oldID

/-- The panel, which the change does not reach, leads from both IDs to the same contract, where the
one of the device's organization comes last. -/
def PanelAgrees (db : Database) (oldID newID : String) : Prop :=
  (folderContract db.billing newID).or
      ((groupContract db.billing newID).or (orgContract db.billing oldID)) =
    (folderContract db.billing oldID).or
      ((groupContract db.billing oldID).or (orgContract db.billing oldID))

/-- Neither ID is used for anything but the device: both are IDs that a query can look for, and no
record of an earlier device waits under the new one. -/
structure Unshared (db : Database) (oldID newID : String) : Prop where
  ids : ∀ id ∈ [oldID, newID], trimSpace id = id ∧ id ≠ ""
  contract : db.billing.getActiveBillingContract targetDevice newID = none
  organization : ∀ orgID, (orgID, newID) ∉ db.billing.orgDevices
  references : ∀ id row, id ≠ oldID → db.peers.lookup id = some row →
    row.guid ≠ oldID ∧ row.guid ≠ newID ∧ row.uuid ≠ oldID ∧ row.uuid ≠ newID

/-! ### The tables after a change -/

variable {lower : String → String} {db : Database} {row : Peer} {oldID newID reason : String}

theorem moved_of_ne {id : String} (other : id ≠ oldID) : moved oldID newID id = id :=
  if_neg other

theorem lookup_peers_renamed (id : String) :
    (db.renamed row oldID newID reason).peers.lookup id =
      if id = oldID then none
      else if id = newID then
        some { copiedRow row with linkedPeerID := moved oldID newID row.linkedPeerID }
      else
        (db.peers.lookup id).map fun row =>
          { row with linkedPeerID := moved oldID newID row.linkedPeerID } := by
  unfold Database.renamed
  rw [Table.lookup_mapValues, Table.lookup_erase_if, Table.lookup_insert_if]
  split
  · rfl
  · split
    · rfl
    · rfl

/-- A row arrives as it was when the columns that the change rewrites were as it writes them. -/
theorem copiedRow_eq_iff (different : newID ≠ oldID) :
    { copiedRow row with linkedPeerID := moved oldID newID row.linkedPeerID } = row ↔
      row.guid = "" ∧ row.linkedPeerID ≠ oldID := by
  constructor
  · intro same
    have guid : "" = row.guid := congrArg Peer.guid same
    have link : moved oldID newID row.linkedPeerID = row.linkedPeerID :=
      congrArg Peer.linkedPeerID same
    refine ⟨guid.symm, fun linked => different ?_⟩
    rw [linked, moved, if_pos rfl] at link
    exact link
  · rintro ⟨guid, link⟩
    rw [moved_of_ne link]
    cases row
    simp only [copiedRow]
    exact congrArg _ guid.symm

/-- The row under the new ID is the former row exactly when it had no GUID and no link to
itself. -/
theorem lookup_new_renamed_iff (different : newID ≠ oldID) :
    (db.renamed row oldID newID reason).peers.lookup newID = some row ↔
      row.guid = "" ∧ row.linkedPeerID ≠ oldID := by
  rw [lookup_peers_renamed, if_neg different, if_pos rfl, Option.some_inj]
  exact copiedRow_eq_iff different

theorem deviceTokens_renamed {id : Int} {token : Tokens.DeviceToken}
    (found : db.deviceTokens.lookup id = some token) (named : token.peerID = oldID) :
    (db.renamed row oldID newID reason).deviceTokens.lookup id =
      some { token with peerID := newID } := by
  unfold Database.renamed
  rw [Table.lookup_mapValues, found, Option.map_some, named, moved, if_pos rfl]

theorem organizations_renamed {orgID : String} (listed : (orgID, oldID) ∈ db.billing.orgDevices) :
    (orgID, newID) ∈ (db.renamed row oldID newID reason).billing.orgDevices := by
  refine List.mem_map.mpr ⟨(orgID, oldID), listed, ?_⟩
  rw [moved, if_pos rfl]

theorem linkedPeers_renamed (free : db.peers.lookup newID = none) {id : String} {linked : Peer}
    (other : id ≠ oldID) (found : db.peers.lookup id = some linked)
    (link : linked.linkedPeerID = oldID) :
    (db.renamed row oldID newID reason).peers.lookup id =
      some { linked with linkedPeerID := newID } := by
  have elsewhere : id ≠ newID := by
    rintro rfl
    exact absurd (found.symm.trans free) nofun
  rw [lookup_peers_renamed, if_neg other, if_neg elsewhere, found, Option.map_some, link, moved,
    if_pos rfl]

/-! ### The queries after a change -/

/-- No device listed under the new ID before, the first place of the old one is that of the
new one. -/
theorem getDeviceOrgID_renamed
    (unlisted : ∀ orgID, (orgID, newID) ∉ db.billing.orgDevices) :
    (db.renamed row oldID newID reason).billing.getDeviceOrgID newID =
      db.billing.getDeviceOrgID oldID := by
  have sameTest : ∀ entry ∈ db.billing.orgDevices,
      (moved oldID newID entry.2 == newID) = (entry.2 == oldID) := by
    rintro ⟨orgID, deviceID⟩ listed
    by_cases device : deviceID = oldID
    · simp [moved, device]
    · have elsewhere : deviceID ≠ newID := by
        rintro rfl
        exact unlisted orgID listed
      simp [moved, device, elsewhere]
  have first : (db.billing.orgDevices.find? fun entry => moved oldID newID entry.2 == newID) =
      db.billing.orgDevices.find? fun entry => entry.2 == oldID :=
    List.find?_congr sameTest
  show (((db.billing.orgDevices.map fun entry =>
    (entry.1, moved oldID newID entry.2)).find? fun entry =>
      entry.2 == newID).map (·.1)).getD "" = _
  rw [List.find?_map, Option.map_map]
  show ((db.billing.orgDevices.find? fun entry => moved oldID newID entry.2 == newID).map
    (·.1)).getD "" = _
  rw [first]
  rfl

/-- The contract found for the new ID, when no device was listed under it before and it has no
contract of its own. -/
theorem resolveContract_renamed (unshared : Unshared db oldID newID) :
    resolveContractForDevice (db.renamed row oldID newID reason).billing newID =
      (folderContract db.billing newID).or
        ((groupContract db.billing newID).or (orgContract db.billing oldID)) := by
  have own : (db.renamed row oldID newID reason).billing.getActiveBillingContract targetDevice
      newID = none := unshared.contract
  have org : orgContract (db.renamed row oldID newID reason).billing newID =
      orgContract db.billing oldID := by
    unfold orgContract
    rw [getDeviceOrgID_renamed unshared.organization]
    rfl
  rw [resolveContractForDevice, if_neg (unshared.ids newID (by simp)).2, own, org, Option.none_or]
  rfl

/-- The contract found for a device that has none of its own. -/
theorem resolveContract_of_movable (unshared : Unshared db oldID newID)
    (movable : Movable db oldID newID) :
    (resolveContractForDevice db.billing oldID).map (rekeyed oldID newID) =
      (folderContract db.billing oldID).or
        ((groupContract db.billing oldID).or (orgContract db.billing oldID)) := by
  have keyed : (resolveContractForDevice db.billing oldID).map (rekeyed oldID newID) =
      resolveContractForDevice db.billing oldID := by
    cases resolved : resolveContractForDevice db.billing oldID with
    | none => rfl
    | some contract =>
      obtain ⟨⟨id, found⟩, _⟩ := resolveContractForDevice_mem resolved
      rw [Option.map_some, rekeyed, if_neg (movable.contracts id contract found)]
  have own : db.billing.getActiveBillingContract targetDevice oldID = none := by
    cases found : db.billing.getActiveBillingContract targetDevice oldID with
    | none => rfl
    | some contract =>
      obtain ⟨⟨id, lookup⟩, _⟩ := getActiveBillingContract_mem found
      exact absurd (getActiveBillingContract_target found) (movable.contracts id contract lookup)
  rw [keyed, resolveContractForDevice, if_neg (unshared.ids oldID (by simp)).2, own,
    Option.none_or]

/-- A device that alone answers to its ID is the one the query finds. -/
theorem find_names {id : String} (found : db.peers.lookup id = some row)
    (alone : ∀ other another, other ≠ id → db.peers.lookup other = some another →
      another.guid ≠ id ∧ another.uuid ≠ id) :
    (db.peers.entries.find? fun entry => Database.names id entry.1 entry.2) = some ⟨id, row⟩ := by
  cases first : db.peers.entries.find? fun entry => Database.names id entry.1 entry.2 with
  | none =>
    have missed := List.find?_eq_none.mp first ⟨id, row⟩ (Table.mem_entries_iff.mpr found)
    simp [Database.names] at missed
  | some entry =>
    obtain ⟨other, another⟩ := entry
    have lookup : db.peers.lookup other = some another :=
      Table.mem_entries_iff.mp (List.mem_of_find?_eq_some first)
    have named := List.find?_some first
    simp only [Database.names, Bool.or_eq_true, beq_iff_eq] at named
    by_cases same : other = id
    · subst same
      rw [found] at lookup
      rw [Option.some.inj lookup]
    · obtain ⟨guid, uuid⟩ := alone other another same lookup
      exact absurd named (by simp [same, guid, uuid])

/-- The key under which strategies are assigned to a device that alone answers to its ID. -/
theorem resolvePeerAssignmentKey_of_alone {id fresh : String}
    (trimmed : trimSpace id = id ∧ id ≠ "") (found : db.peers.lookup id = some row)
    (alone : ∀ other another, other ≠ id → db.peers.lookup other = some another →
      another.guid ≠ id ∧ another.uuid ≠ id) :
    (db.resolvePeerAssignmentKey lower id fresh).map (·.1) =
      some (if row.guid ≠ "" then row.guid
        else if isUUIDLike row.uuid then lower row.uuid else fresh) := by
  unfold Database.resolvePeerAssignmentKey
  rw [trimmed.1, if_neg trimmed.2, find_names found alone]
  show (db.ensurePeerGUID lower id fresh).map (·.1) = _
  unfold Database.ensurePeerGUID
  rw [trimmed.1, if_neg trimmed.2, found]
  dsimp only
  by_cases stored : row.guid ≠ ""
  · rw [if_pos stored, if_pos stored, Option.map_some]
  · rw [if_neg stored, if_neg stored, Option.map_some]

/-- The other devices keep their GUIDs and UUIDs. -/
theorem references_renamed {id : String} {other : Peer} (elsewhere : id ≠ newID)
    (found : (db.renamed row oldID newID reason).peers.lookup id = some other) :
    ∃ before, id ≠ oldID ∧ db.peers.lookup id = some before ∧ other.guid = before.guid ∧
      other.uuid = before.uuid := by
  rw [lookup_peers_renamed] at found
  split at found
  · exact absurd found nofun
  · next different =>
    obtain ⟨before, lookup, rfl⟩ := Option.map_eq_some_iff.mp found
    exact ⟨before, different, lookup, rfl, rfl⟩

theorem resolvesKey_renamed {fresh : String} (unshared : Unshared db oldID newID)
    (found : db.peers.lookup oldID = some row)
    (arrived : (db.renamed row oldID newID reason).peers.lookup newID = some row) :
    ((db.renamed row oldID newID reason).resolvePeerAssignmentKey lower newID fresh).map (·.1) =
      (db.resolvePeerAssignmentKey lower oldID fresh).map (·.1) := by
  rw [resolvePeerAssignmentKey_of_alone (unshared.ids oldID (by simp)) found,
    resolvePeerAssignmentKey_of_alone (unshared.ids newID (by simp)) arrived]
  · intro id other elsewhere lookup
    obtain ⟨before, different, earlier, guid, uuid⟩ := references_renamed elsewhere lookup
    have apart := unshared.references id before different earlier
    rw [guid, uuid]
    exact ⟨apart.2.1, apart.2.2.2⟩
  · intro id other different lookup
    have apart := unshared.references id other different lookup
    exact ⟨apart.1, apart.2.2.1⟩

/-! ### The change and the belongings -/

/-- What a change leaves behind is lost. -/
theorem movable_of_kept (different : newID ≠ oldID) (found : db.peers.lookup oldID = some row)
    (kept : BelongingsKept lower db (db.renamed row oldID newID reason) oldID newID) :
    Movable db oldID newID := by
  have arrived := (lookup_new_renamed_iff different).mp (kept.row.trans found)
  refine ⟨fun other lookup => ?_, fun other lookup => ?_, fun id contract lookup owned => ?_,
    kept.accessPolicy⟩
  · rw [Option.some.inj (lookup.symm.trans found)]
    exact arrived.1
  · rw [Option.some.inj (lookup.symm.trans found)]
    exact arrived.2
  · -- No statement writes the contracts, so the contract would name both IDs.
    have unchanged : db.billing.contracts.lookup id = some { contract with targetKey := newID } :=
      kept.contracts id contract lookup owned
    have same := congrArg BillingContract.targetKey (Option.some.inj (lookup.symm.trans unchanged))
    exact different (same.symm.trans owned.2)

theorem panelAgrees_of_kept (unshared : Unshared db oldID newID) (movable : Movable db oldID newID)
    (kept : BelongingsKept lower db (db.renamed row oldID newID reason) oldID newID) :
    PanelAgrees db oldID newID :=
  (resolveContract_renamed unshared).symm.trans
    (kept.resolvesContract.trans (resolveContract_of_movable unshared movable))

/-- Nothing is lost of a device that has nothing of what the change leaves behind. -/
theorem kept_of_movable (found : db.peers.lookup oldID = some row)
    (free : db.peers.lookup newID = none) (unshared : Unshared db oldID newID)
    (movable : Movable db oldID newID) (panel : PanelAgrees db oldID newID) :
    BelongingsKept lower db (db.renamed row oldID newID reason) oldID newID := by
  have different : newID ≠ oldID := by
    rintro rfl
    exact absurd (found.symm.trans free) nofun
  have arrived : (db.renamed row oldID newID reason).peers.lookup newID = some row :=
    (lookup_new_renamed_iff different).mpr ⟨movable.guid row found, movable.link row found⟩
  refine
    { row := arrived.trans found.symm
      deviceTokens := fun id token lookup named => deviceTokens_renamed lookup named
      organizations := fun orgID listed => organizations_renamed listed
      linkedPeers := fun id linked other lookup link => linkedPeers_renamed free other lookup link
      contracts := fun id contract lookup owned =>
        absurd owned (movable.contracts id contract lookup)
      strategy := ?_
      accessPolicy := movable.accessPolicy
      resolvesContract := ?_
      resolvesKey := fun fresh => resolvesKey_renamed unshared found arrived }
  · unfold strategyOf
    rw [arrived, found]
    rfl
  · rw [resolveContract_renamed unshared, resolveContract_of_movable unshared movable]
    exact panel

/-- A change of a device's ID that fails changes nothing. One that succeeds keeps everything that
belongs to the device only if the device has no GUID, no link to itself, no contract of its own
and no access policy that the new ID lacks; when neither ID is used for anything else, it does so
exactly if, besides, the panel leads from both IDs to the same contract. -/
theorem belongingsKept_iff_movable (lower : String → String) (faulty : Statement → Bool)
    (db : Database) (oldID newID reason : String) :
    (∀ error, (changePeerID faulty db oldID newID reason).1 = .error error →
      (changePeerID faulty db oldID newID reason).2 = db) ∧
    ((changePeerID faulty db oldID newID reason).1 = .ok () →
      (BelongingsKept lower db (changePeerID faulty db oldID newID reason).2 oldID newID →
        Movable db oldID newID) ∧
      (Unshared db oldID newID →
        (BelongingsKept lower db (changePeerID faulty db oldID newID reason).2 oldID newID ↔
          Movable db oldID newID ∧ PanelAgrees db oldID newID))) := by
  refine ⟨fun error failed => changePeerID_error failed, fun changed => ?_⟩
  obtain ⟨row, found, free, after⟩ := changePeerID_ok changed
  have different : newID ≠ oldID := by
    rintro rfl
    exact absurd (found.symm.trans free) nofun
  rw [after]
  refine ⟨movable_of_kept different found, fun unshared => ⟨fun kept => ?_, ?_⟩⟩
  · have movable := movable_of_kept different found kept
    exact ⟨movable, panelAgrees_of_kept unshared movable kept⟩
  · rintro ⟨movable, panel⟩
    exact kept_of_movable found free unshared movable panel

/-- The tables of a server with one device and nothing else that names it. -/
def plainTables : Database where
  peers := AList.insert "DEV1" { uuid := "u-1", hostname := "front-desk" } ∅
  deviceTokens := ∅
  billing :=
    { kind := .sqlite, packages := ∅, contracts := ∅, sessions := ∅, ledger := [],
      orgDevices := [("org-1", "DEV1")], panel := none }
  strategyAssignments := ∅
  accessPolicies := ∅
  idChangeHistory := []

/-- The device's belongings are kept while it has a row and a place in an organization only. -/
theorem belongingsKept_iff_movable_plain :
    (changePeerID (fun _ => false) plainTables "DEV1" "DEV2" "renamed").1 = .ok () ∧
    BelongingsKept id plainTables
      (changePeerID (fun _ => false) plainTables "DEV1" "DEV2" "renamed").2 "DEV1" "DEV2" := by
  have changed : (changePeerID (fun _ => false) plainTables "DEV1" "DEV2" "renamed").1 = .ok () :=
    by rfl
  have only : ∀ id row, plainTables.peers.lookup id = some row →
      id = "DEV1" ∧ row = { uuid := "u-1", hostname := "front-desk" } := by
    intro id row found
    rcases Table.lookup_insert_iff.mp found with same | ⟨_, missing⟩
    · exact same
    · exact nomatch missing
  have unshared : Unshared plainTables "DEV1" "DEV2" := by
    refine ⟨by decide, rfl, fun orgID listed => ?_, fun id row other found => ?_⟩
    · simp [plainTables] at listed
    · exact absurd (only id row found).1 other
  have movable : Movable plainTables "DEV1" "DEV2" := by
    refine ⟨fun row found => ?_, fun row found => ?_, fun _ _ found => (nomatch found), rfl⟩
    · rw [(only "DEV1" row found).2]
    · rw [(only "DEV1" row found).2]
      decide
  exact ⟨changed, (((belongingsKept_iff_movable id (fun _ => false) plainTables "DEV1" "DEV2"
    "renamed").2 changed).2 unshared).mpr ⟨movable, rfl⟩⟩

/-- The tables of a server with a device under a contract of its own, with a strategy and an access
policy. -/
def customerTables : Database where
  peers := AList.insert "DEV1" { uuid := "u-1", guid := "g-1" } ∅
  deviceTokens := ∅
  billing :=
    { kind := .sqlite
      packages := ∅
      contracts := AList.insert "c-1"
        { id := "c-1", targetType := targetDevice, targetKey := "DEV1", packageID := "p-1",
          status := contractActive, remainingMinutes := 60, overageRate := none, hourlyRate := 0,
          currency := "PLN", validFrom := none, validUntil := none, updatedAt := 0 } ∅
      sessions := ∅
      ledger := []
      orgDevices := []
      panel := none }
  strategyAssignments := AList.insert (strategyTargetPeer, "g-1") "strict" ∅
  accessPolicies := AList.insert "DEV1" { unattendedEnabled := true } ∅
  idChangeHistory := []

/-- The device that is renamed loses its contract, its strategy, its policy and its GUID. -/
theorem belongings_lost :
    (changePeerID (fun _ => false) customerTables "DEV1" "DEV2" "renamed").1 = .ok () ∧
    (let after := (changePeerID (fun _ => false) customerTables "DEV1" "DEV2" "renamed").2
    ((resolveContractForDevice customerTables.billing "DEV1").map (·.id) = some "c-1" ∧
      resolveContractForDevice after.billing "DEV2" = none) ∧
    (strategyOf customerTables "DEV1" = some "strict" ∧ strategyOf after "DEV2" = none) ∧
    (customerTables.getAccessPolicy "DEV1" = some { unattendedEnabled := true } ∧
      after.getAccessPolicy "DEV2" = none) ∧
    ((customerTables.resolvePeerAssignmentKey id "DEV1" "fresh").map (·.1) = some "g-1" ∧
      (after.resolvePeerAssignmentKey id "DEV2" "fresh").map (·.1) = some "fresh") ∧
    ¬ BelongingsKept id customerTables after "DEV1" "DEV2") := by
  refine ⟨rfl, ⟨by decide, by decide⟩, ⟨by decide, by decide⟩, ⟨by decide, by decide⟩,
    ⟨by decide, by decide⟩, fun kept => absurd kept.strategy (by decide)⟩

end SovaDesk.Db
