/-
This file models what the database keeps about a device, over all tables that name it,
and the change of a device's ID.

The row of a device has every column of the peers table, the one added last among them:
the GUID under which strategies are assigned to the device. The change copies the row
to the new ID in the columns of a list written out by hand, deletes the old row, and
moves the references that three other statements name. All of it is one
transaction, which is rolled back when a statement fails.
-/

import SovaDesk.Auth.Token
import SovaDesk.Billing.Store
import SovaDesk.Signal.PeerStore
import SovaDesk.Tokens.Store

namespace SovaDesk.Db

open Auth Billing

/-! ### Rows -/

/-- The columns of the peers table beside its key, the ID; a flag that legacy rows leave unset is
NULL. -/
structure Peer where
  uuid : String := ""
  pk : Option (List UInt8) := none
  ip : String := ""
  user : String := ""
  hostname : String := ""
  os : String := ""
  version : String := ""
  status : String := "OFFLINE"
  natType : Int := 0
  lastOnline : String := ""
  createdAt : String := ""
  disabled : Bool := false
  banned : Bool := false
  banReason : String := ""
  bannedAt : Option String := none
  softDeleted : Option Bool := some false
  deletedAt : Option String := none
  note : String := ""
  tags : String := ""
  heartbeatSeq : Int := 0
  deviceType : String := ""
  linkedPeerID : String := ""
  displayName : String := ""
  guid : String := ""
  deriving DecidableEq

/-- The columns of the access policies beside their key, the ID of the device. -/
structure AccessPolicy where
  unattendedEnabled : Bool := false
  passwordHash : String := ""
  scheduleEnabled : Bool := false
  scheduleDays : String := ""
  scheduleStartTime : String := ""
  scheduleEndTime : String := ""
  scheduleTimezone : String := ""
  allowedOperators : String := ""
  updatedAt : String := ""
  updatedBy : String := ""
  deriving DecidableEq

/-- The target type of a strategy that is assigned to a device, under the device's GUID. -/
def strategyTargetPeer : String := "peer"

/-- The tables that name devices; the billing tables hold the organizations' device list. -/
structure Database where
  peers : Table String Peer
  deviceTokens : Table Int Tokens.DeviceToken
  billing : BillingDB
  strategyAssignments : Table (String × String) String
  accessPolicies : Table String AccessPolicy
  idChangeHistory : List Signal.IDChange

/-! ### Queries -/

/-- A text that looks like a UUID. -/
def isUUIDLike (text : String) : Bool :=
  (trimSpace text).utf8ByteSize == 36 && (trimSpace text).toList.count '-' == 4

namespace Database

/-- The GUID of a device, made from its UUID or afresh when it has none yet; the table then holds
it. -/
def ensurePeerGUID (db : Database) (lower : String → String) (id fresh : String) :
    Option (String × Database) :=
  let id := trimSpace id
  if id = "" then none
  else
    match db.peers.lookup id with
    | none => none
    | some row =>
      if row.guid ≠ "" then some (row.guid, db)
      else
        let guid := if isUUIDLike row.uuid then lower row.uuid else fresh
        some (guid, { db with peers := db.peers.update id fun row => { row with guid } })

/-- Whether a reference names a device by its ID, its GUID or its UUID. -/
def names (ref id : String) (row : Peer) : Bool :=
  id == ref || row.guid == ref || row.uuid == ref

/-- The GUID of the first device that a reference names. -/
def resolvePeerAssignmentKey (db : Database) (lower : String → String) (ref fresh : String) :
    Option (String × Database) :=
  let ref := trimSpace ref
  if ref = "" then none
  else
    match db.peers.entries.find? fun entry => names ref entry.1 entry.2 with
    | none => none
    | some entry => db.ensurePeerGUID lower entry.1 fresh

def getAccessPolicy (db : Database) (peerID : String) : Option AccessPolicy :=
  db.accessPolicies.lookup peerID

end Database

/-! ### The change of an ID -/

/-- The statements of the transaction, each of which the database may fail. -/
inductive Statement
  | begin
  | selectTarget
  | insertRow
  | deleteRow
  | cascade
  | insertHistory
  | commit
  deriving DecidableEq

inductive ChangeError
  | peerIDSoftDeleted
  | peerIDExists
  | peerNotFound
  | database (statement : Statement)
  deriving DecidableEq

/-- The row that is inserted: the columns that are copied, and the default in all others. -/
def copiedRow (row : Peer) : Peer where
  uuid := row.uuid
  pk := row.pk
  ip := row.ip
  user := row.user
  hostname := row.hostname
  os := row.os
  version := row.version
  status := row.status
  natType := row.natType
  lastOnline := row.lastOnline
  createdAt := row.createdAt
  disabled := row.disabled
  banned := row.banned
  banReason := row.banReason
  bannedAt := row.bannedAt
  softDeleted := row.softDeleted
  deletedAt := row.deletedAt
  note := row.note
  tags := row.tags
  heartbeatSeq := row.heartbeatSeq
  deviceType := row.deviceType
  linkedPeerID := row.linkedPeerID
  displayName := row.displayName

/-- The ID that a reference to the old ID becomes. -/
def moved (oldID newID id : String) : String := if id = oldID then newID else id

/-- The tables after the row was copied and deleted and the references were moved. -/
def Database.renamed (db : Database) (row : Peer) (oldID newID reason : String) : Database where
  peers :=
    Table.mapValues (fun _ row => { row with linkedPeerID := moved oldID newID row.linkedPeerID })
      (AList.erase oldID (AList.insert newID (copiedRow row) db.peers))
  deviceTokens := db.deviceTokens.mapValues fun _ token =>
    { token with peerID := moved oldID newID token.peerID }
  billing := { db.billing with
    orgDevices := db.billing.orgDevices.map fun entry => (entry.1, moved oldID newID entry.2) }
  strategyAssignments := db.strategyAssignments
  accessPolicies := db.accessPolicies
  idChangeHistory := db.idChangeHistory ++ [{ oldID, newID, reason }]

/-- Whether moving the old ID in the organizations' device list breaks its primary key. -/
def orgConflict (db : Database) (oldID newID : String) : Bool :=
  db.billing.orgDevices.any fun entry =>
    entry.2 == oldID && db.billing.orgDevices.contains (entry.1, newID)

/-- The statements between the begin and the commit of the transaction. -/
def changePeerIDInTx (faulty : Statement → Bool) (db : Database) (oldID newID reason : String) :
    Except ChangeError Database :=
  if faulty .selectTarget then .error (.database .selectTarget)
  else
    match db.peers.lookup newID with
    | some { softDeleted := some true, .. } => .error .peerIDSoftDeleted
    | some { softDeleted := some false, .. } => .error .peerIDExists
    -- NULL cannot be read as a flag.
    | some { softDeleted := none, .. } => .error (.database .selectTarget)
    | none =>
      if faulty .insertRow then .error (.database .insertRow)
      else
        match (db.peers.lookup oldID).filter fun row => row.softDeleted ≠ some true with
        | none => .error .peerNotFound
        | some row =>
          if faulty .deleteRow then .error (.database .deleteRow)
          else if faulty .cascade || orgConflict db oldID newID then .error (.database .cascade)
          else if faulty .insertHistory then .error (.database .insertHistory)
          else .ok (db.renamed row oldID newID reason)

/-- `ChangePeerID`: the outcome, and the tables after the commit or the rollback. -/
def changePeerID (faulty : Statement → Bool) (db : Database) (oldID newID reason : String) :
    Except ChangeError Unit × Database :=
  if faulty .begin then (.error (.database .begin), db)
  else
    match changePeerIDInTx faulty db oldID newID reason with
    | .error error => (.error error, db)
    | .ok after => if faulty .commit then (.error (.database .commit), db) else (.ok (), after)

/-! ### Specifications -/

variable {faulty : Statement → Bool} {db after : Database} {oldID newID reason : String}

/-- A change that fails leaves all tables as they are. -/
theorem changePeerID_error {error : ChangeError}
    (failed : (changePeerID faulty db oldID newID reason).1 = .error error) :
    (changePeerID faulty db oldID newID reason).2 = db := by
  unfold changePeerID at failed ⊢
  split
  · rfl
  · next started =>
    rw [if_neg started] at failed
    cases outcome : changePeerIDInTx faulty db oldID newID reason with
    | error error => rfl
    | ok after =>
      rw [outcome] at failed
      dsimp only at failed ⊢
      split
      · rfl
      · next committed =>
        rw [if_neg committed] at failed
        exact absurd failed nofun

theorem changePeerIDInTx_ok
    (changed : changePeerIDInTx faulty db oldID newID reason = .ok after) :
    ∃ row, db.peers.lookup oldID = some row ∧ db.peers.lookup newID = none ∧
      after = db.renamed row oldID newID reason := by
  unfold changePeerIDInTx at changed
  split at changed
  · exact absurd changed nofun
  · split at changed
    · exact absurd changed nofun
    · exact absurd changed nofun
    · exact absurd changed nofun
    · next free =>
      split at changed
      · exact absurd changed nofun
      · split at changed
        · exact absurd changed nofun
        · next row found =>
          split_ifs at changed
          exact ⟨row, (Option.filter_eq_some_iff.mp found).1, free, (Except.ok.inj changed).symm⟩

/-- A change that succeeds moves a row to an ID that had none. -/
theorem changePeerID_ok (changed : (changePeerID faulty db oldID newID reason).1 = .ok ()) :
    ∃ row, db.peers.lookup oldID = some row ∧ db.peers.lookup newID = none ∧
      (changePeerID faulty db oldID newID reason).2 = db.renamed row oldID newID reason := by
  unfold changePeerID at changed ⊢
  split at changed
  · exact absurd changed nofun
  · next started =>
    rw [if_neg started]
    cases outcome : changePeerIDInTx faulty db oldID newID reason with
    | error error =>
      rw [outcome] at changed
      exact absurd changed nofun
    | ok after =>
      rw [outcome] at changed
      dsimp only at changed ⊢
      split at changed
      · exact absurd changed nofun
      · next committed =>
        rw [if_neg committed]
        exact changePeerIDInTx_ok outcome

end SovaDesk.Db
