/-
This file models the tables that registration reads and writes: the peers, the history of
their renames, the device tokens and the server's configuration.

A rename moves the peer's row to the new ID and appends one row to the history; a soft
delete leaves the row in place and hides it from `getPeer`; a hard delete removes the row
and every history row that mentions the ID. The history is kept in the order of its row
ids. Columns that no modelled function reads, such as the times of creation and deletion,
are left out.
-/

import SovaDesk.Lib.Table
import SovaDesk.Signal.DeviceUUID

namespace SovaDesk.Signal

/-! ### Rows -/

/-- A row of the peers table. A public key that is NULL is the empty list. -/
structure PeerRow where
  id : String
  uuid : String
  pk : Bytes
  ip : String
  user : String
  hostname : String
  os : String
  version : String
  status : String
  natType : Int
  disabled : Bool
  banned : Bool
  softDeleted : Bool
  note : String
  tags : String
  heartbeatSeq : Int
  deviceType : String
  linkedPeerID : String
  displayName : String
  deriving DecidableEq

/-- A row with only an ID; the other columns have their defaults. -/
def emptyRow (id : String) : PeerRow where
  id := id
  uuid := ""
  pk := []
  ip := ""
  user := ""
  hostname := ""
  os := ""
  version := ""
  status := "OFFLINE"
  natType := 0
  disabled := false
  banned := false
  softDeleted := false
  note := ""
  tags := ""
  heartbeatSeq := 0
  deviceType := ""
  linkedPeerID := ""
  displayName := ""

/-- A row of the history of renames. -/
structure IDChange where
  oldID : String
  newID : String
  reason : String
  deriving DecidableEq

structure DeviceToken where
  name : String
  peerID : String
  status : String
  deriving DecidableEq

def tokenStatusPending : String := "pending"
def tokenStatusActive : String := "active"

inductive PeerIDState
  | missing
  | active
  | softDeleted
  deriving DecidableEq

inductive ChangeError
  | peerIDSoftDeleted
  | peerIDExists
  | peerNotFound
  deriving DecidableEq

structure PeerDB where
  peers : Table String PeerRow
  history : List IDChange
  deviceTokens : List DeviceToken
  orgDevices : List (String × String)
  serverConfig : Table String String

namespace PeerDB

/-! ### Queries -/

/-- `GetPeer`: a row that is not soft-deleted. -/
def getPeer (db : PeerDB) (id : String) : Option PeerRow :=
  (db.peers.lookup id).filter fun row => !row.softDeleted

/-- `GetPeerByUUID`: the first row with a UUID, read back through `GetPeer`. -/
def getPeerByUUID (db : PeerDB) (uuid : String) : Option PeerRow :=
  (db.peers.entries.find? fun entry => entry.2.uuid == uuid).bind fun entry => db.getPeer entry.1

def getPeerIDState (db : PeerDB) (id : String) : PeerIDState :=
  match db.peers.lookup id with
  | none => .missing
  | some row => if row.softDeleted then .softDeleted else .active

def isPeerBanned (db : PeerDB) (id : String) : Bool := (db.peers.lookup id).any (·.banned)

def isPeerSoftDeleted (db : PeerDB) (id : String) : Bool := (db.peers.lookup id).any (·.softDeleted)

def isRenamedPeerID (db : PeerDB) (id : String) : Bool :=
  db.history.any fun change => change.oldID == id

/-- `GetLatestRenameTarget`: the new ID of the newest history row for an old one, or the empty
string. -/
def getLatestRenameTarget (db : PeerDB) (oldID : String) : String :=
  ((db.history.reverse.find? fun change => change.oldID == oldID).map (·.newID)).getD ""

/-- `GetDeviceTokenByPeerID`: a token of the peer that is active or pending. -/
def getDeviceTokenByPeerID (db : PeerDB) (peerID : String) : Option DeviceToken :=
  db.deviceTokens.find? fun token => token.peerID == peerID &&
    (token.status == tokenStatusActive || token.status == tokenStatusPending)

def getConfig (db : PeerDB) (key : String) : String := (db.serverConfig.lookup key).getD ""

/-! ### Updates -/

def setConfig (db : PeerDB) (key value : String) : PeerDB :=
  { db with serverConfig := db.serverConfig.insert key value }

/-- `COALESCE(NULLIF(new, ''), old)`. -/
def keepIfEmpty (new old : String) : String := if new = "" then old else new

/-- What an upsert writes over the row of the same ID. It neither bans nor restores. -/
def mergeRow (old new : PeerRow) : PeerRow :=
  { old with
    uuid := keepIfEmpty new.uuid old.uuid
    pk := if new.pk = [] then old.pk else new.pk
    ip := new.ip
    user := keepIfEmpty new.user old.user
    hostname := keepIfEmpty new.hostname old.hostname
    os := keepIfEmpty new.os old.os
    version := keepIfEmpty new.version old.version
    status := new.status
    natType := new.natType
    disabled := new.disabled
    note := keepIfEmpty new.note old.note
    tags := keepIfEmpty new.tags old.tags
    heartbeatSeq := new.heartbeatSeq
    deviceType := keepIfEmpty new.deviceType old.deviceType
    linkedPeerID := keepIfEmpty new.linkedPeerID old.linkedPeerID
    displayName := keepIfEmpty new.displayName old.displayName }

/-- `UpsertPeer`. -/
def upsertPeer (db : PeerDB) (row : PeerRow) : PeerDB :=
  { db with
    peers := db.peers.insert row.id <|
      match db.peers.lookup row.id with
      | none => { row with banned := false, softDeleted := false }
      | some old => mergeRow old row }

/-- `UpdatePeerStatus`: only rows that are not soft-deleted. -/
def updatePeerStatus (db : PeerDB) (id status ip : String) : PeerDB :=
  { db with
    peers := db.peers.update id fun row =>
      if row.softDeleted then row else { row with status, ip } }

/-- `BatchUpdatePeerStatus`. -/
def batchUpdatePeerStatus (db : PeerDB) (ids : List String) (status : String) : PeerDB :=
  { db with
    peers := db.peers.mapValues fun id row =>
      if ids.contains id && !row.softDeleted then { row with status } else row }

/-- `UpdatePeerFields` for the owner's column. -/
def updatePeerUser (db : PeerDB) (id user : String) : PeerDB :=
  { db with
    peers := db.peers.update id fun row => if row.softDeleted then row else { row with user } }

/-- `DeletePeer`: a soft delete. -/
def deletePeer (db : PeerDB) (id : String) : PeerDB :=
  { db with peers := db.peers.update id fun row => { row with softDeleted := true } }

def restorePeer (db : PeerDB) (id : String) : PeerDB :=
  { db with peers := db.peers.update id fun row => { row with softDeleted := false } }

def banPeer (db : PeerDB) (id : String) : PeerDB :=
  { db with peers := db.peers.update id fun row => { row with banned := true } }

def unbanPeer (db : PeerDB) (id : String) : PeerDB :=
  { db with peers := db.peers.update id fun row => { row with banned := false } }

def hardDeletePeer (db : PeerDB) (id : String) : PeerDB :=
  { db with
    peers := db.peers.erase id
    history := db.history.filter fun change => !(change.oldID == id || change.newID == id) }

/-- `GetLinkedPeers`: the IDs of the rows that are linked to a peer and not soft-deleted. -/
def getLinkedPeers (db : PeerDB) (id : String) : List String :=
  (db.peers.entries.filter fun entry =>
    entry.2.linkedPeerID == id && !entry.2.softDeleted).map (·.1)

/-- The ID a reference to the old ID becomes. -/
def cascade (oldID newID id : String) : String := if id = oldID then newID else id

/-- A row whose references to the old ID are moved to the new one. -/
def relink (oldID newID : String) (row : PeerRow) : PeerRow :=
  { row with linkedPeerID := cascade oldID newID row.linkedPeerID }

/-- `ChangePeerID`: move a row to an ID that is free, with the references to it, and record the
change. -/
def changePeerID (db : PeerDB) (oldID newID reason : String) : Except ChangeError PeerDB :=
  match db.peers.lookup newID with
  | some row => .error (if row.softDeleted then .peerIDSoftDeleted else .peerIDExists)
  | none =>
    match db.getPeer oldID with
    | none => .error .peerNotFound
    | some row =>
      let moved : Table String PeerRow :=
        (db.peers.insert newID { row with id := newID }).erase oldID
      .ok { db with
        peers := moved.mapValues fun _ => relink oldID newID
        deviceTokens := db.deviceTokens.map fun token =>
          { token with peerID := cascade oldID newID token.peerID }
        orgDevices := db.orgDevices.map fun entry => (entry.1, cascade oldID newID entry.2)
        history := db.history ++ [{ oldID, newID, reason }] }

/-! ### Specifications -/

variable {db after : PeerDB} {id oldID newID reason : String} {row : PeerRow}

theorem getPeer_eq_some :
    db.getPeer id = some row ↔ db.peers.lookup id = some row ∧ row.softDeleted = false := by
  rw [getPeer, Option.filter_eq_some_iff, Bool.not_eq_true']

theorem lookup_upsertPeer (db : PeerDB) (row : PeerRow) (id : String) :
    (db.upsertPeer row).peers.lookup id =
      if id = row.id then
        some (match db.peers.lookup row.id with
          | none => { row with banned := false, softDeleted := false }
          | some old => mergeRow old row)
      else db.peers.lookup id :=
  Table.lookup_insert_if _ _ _ _

/-- An accepted change moves a live row to an ID without one and appends to the history. -/
theorem changePeerID_ok (changed : db.changePeerID oldID newID reason = .ok after) :
    db.peers.lookup newID = none ∧
      (∃ row, db.getPeer oldID = some row ∧
        ∀ id, after.peers.lookup id =
          if id = oldID then none
          else if id = newID then some (relink oldID newID { row with id := newID })
          else (db.peers.lookup id).map (relink oldID newID)) ∧
      after.history = db.history ++ [IDChange.mk oldID newID reason] := by
  unfold changePeerID at changed
  cases free : db.peers.lookup newID with
  | some taken => simp only [free, reduceCtorEq] at changed
  | none =>
    cases found : db.getPeer oldID with
    | none => simp only [free, found, reduceCtorEq] at changed
    | some row =>
      simp only [free, found] at changed
      obtain rfl := Except.ok.inj changed
      refine ⟨rfl, ⟨row, rfl, fun id => ?_⟩, rfl⟩
      simp only [Table.lookup_mapValues, Table.lookup_erase_if, Table.lookup_insert_if]
      by_cases old : id = oldID
      · simp only [old, if_true, Option.map_none]
      · by_cases new : id = newID
        · have different : newID ≠ oldID := new ▸ old
          simp only [new, different, if_true, if_false, Option.map_some]
        · simp only [old, new, if_false]

/-- A change is accepted when the old ID has a live row and the new one has none. -/
theorem exists_changePeerID (found : db.getPeer oldID = some row)
    (free : db.peers.lookup newID = none) :
    ∃ after, db.changePeerID oldID newID reason = .ok after := by
  rw [changePeerID, free, found]
  exact ⟨_, rfl⟩

end PeerDB

end SovaDesk.Signal
