/-
This file models the billing tables and the resolution of a device's contract.

The rows carry the columns the billing service reads and writes; rates and amounts of
money are exact rationals. The two database back ends differ in one place the service
depends on: the SQLite store scans the end of a session into a plain string, and the
database driver reports an error for a column that is NULL, so a session that has not
ended cannot be read back from it.
-/

import Mathlib.Algebra.Order.Ring.Rat
import SovaDesk.Lib.Table

namespace SovaDesk.Billing

/-! ### Rows -/

structure BillingPackage where
  id : String
  includedMinutes : Int
  overageRate : Rat
  deriving DecidableEq

/-- A prepaid contract for a target: an organization, a device group, a folder or a device. -/
structure BillingContract where
  id : String
  targetType : String
  targetKey : String
  packageID : String
  status : String
  remainingMinutes : Int
  overageRate : Option Rat
  hourlyRate : Rat
  currency : String
  validFrom : Option Int
  validUntil : Option Int
  updatedAt : Int
  deriving DecidableEq

structure BillingSession where
  id : String
  orgID : String
  contractID : String
  operatorID : String
  deviceID : String
  relayUUID : String
  transport : String
  status : String
  billingPhase : String
  startedAt : Int
  endedAt : Option Int
  rawSeconds : Int
  billedMinutes : Int
  includedMinutesUsed : Int
  overageMinutes : Int
  amountIncluded : Rat
  amountOverage : Rat
  currency : String
  clockOffsetMSAtStart : Int
  clockSyncedAtStart : Bool
  deriving DecidableEq

structure LedgerEntry where
  sessionID : String
  eventType : String
  details : String
  deriving DecidableEq

def phaseIncluded : String := "included"
def phaseOverage : String := "overage"
def statusActive : String := "active"
def statusPendingReport : String := "pending_report"
def statusClosed : String := "closed"
def contractActive : String := "active"
def contractSuspended : String := "suspended"
def ledgerSessionStart : String := "session_start"
def ledgerPhaseChange : String := "phase_change"
def ledgerSessionEnd : String := "session_end"

/-! ### Tables -/

/-- Which database the server runs on. -/
inductive StoreKind
  | sqlite
  | postgres
  deriving DecidableEq

/-- The panel's membership data: the folder of each device, and the GUIDs of its device groups. -/
structure PanelContext where
  folderAssignments : Table String Int
  deviceGroups : String → List String

/-- The billing tables by primary key, the ledger in the order of its row ids, the organizations'
device list as pairs of organization and device, and the panel, if one is attached. -/
structure BillingDB where
  kind : StoreKind
  packages : Table String BillingPackage
  contracts : Table String BillingContract
  sessions : Table String BillingSession
  ledger : List LedgerEntry
  orgDevices : List (String × String)
  panel : Option PanelContext

/-- The columns an update of a contract writes. -/
def BillingContract.updated (row : BillingContract) (now : Int) (contract : BillingContract) :
    BillingContract :=
  { row with
    status := contract.status
    remainingMinutes := contract.remainingMinutes
    overageRate := contract.overageRate
    hourlyRate := contract.hourlyRate
    currency := contract.currency
    validFrom := contract.validFrom
    validUntil := contract.validUntil
    updatedAt := now }

/-- The columns an update of a session writes. -/
def BillingSession.updated (row sess : BillingSession) : BillingSession :=
  { row with
    status := sess.status
    billingPhase := sess.billingPhase
    endedAt := sess.endedAt
    rawSeconds := sess.rawSeconds
    billedMinutes := sess.billedMinutes
    includedMinutesUsed := sess.includedMinutesUsed
    overageMinutes := sess.overageMinutes
    amountIncluded := sess.amountIncluded
    amountOverage := sess.amountOverage }

namespace BillingDB

def getBillingPackage (db : BillingDB) (id : String) : Option BillingPackage :=
  db.packages.lookup id

def getBillingContract (db : BillingDB) (id : String) : Option BillingContract :=
  db.contracts.lookup id

/-- The active contract of a target; a target has at most one contract. -/
def getActiveBillingContract (db : BillingDB) (targetType targetKey : String) :
    Option BillingContract :=
  (db.contracts.entries.map (·.2)).find? fun contract =>
    contract.targetType == targetType && contract.targetKey == targetKey &&
      contract.status == contractActive

/-- The organization of a device, or the empty string. -/
def getDeviceOrgID (db : BillingDB) (deviceID : String) : String :=
  ((db.orgDevices.find? fun row => row.2 == deviceID).map (·.1)).getD ""

/-- An insertion fails on a primary key that exists. -/
def createBillingSession (db : BillingDB) (sess : BillingSession) : Option BillingDB :=
  if (db.sessions.lookup sess.id).isSome then none
  else some { db with sessions := db.sessions.insert sess.id sess }

/-- A session that has not ended is an error for SQLite. -/
def getBillingSession (db : BillingDB) (id : String) : Option BillingSession :=
  match db.kind, db.sessions.lookup id with
  | _, none => none
  | .postgres, some sess => some sess
  | .sqlite, some sess => if sess.endedAt.isSome then some sess else none

def updateBillingSession (db : BillingDB) (sess : BillingSession) : BillingDB :=
  { db with sessions := db.sessions.update sess.id fun row => row.updated sess }

def insertBillingLedgerEntry (db : BillingDB) (entry : LedgerEntry) : BillingDB :=
  { db with ledger := db.ledger ++ [entry] }

def updateBillingContract (db : BillingDB) (now : Int) (contract : BillingContract) : BillingDB :=
  { db with contracts := db.contracts.update contract.id fun row => row.updated now contract }

end BillingDB

/-! ### The contract of a device -/

def targetOrg : String := "org"
def targetDeviceGroup : String := "device_group"
def targetFolder : String := "folder"
def targetDevice : String := "device"

/-- The contract of a device's folder. -/
def folderContract (db : BillingDB) (deviceID : String) : Option BillingContract :=
  (db.panel.bind fun panel => panel.folderAssignments.lookup deviceID).bind fun folderID =>
    if 0 < folderID then db.getActiveBillingContract targetFolder (toString folderID) else none

/-- The contract of the first device group that has one. -/
def groupContract (db : BillingDB) (deviceID : String) : Option BillingContract :=
  db.panel.bind fun panel =>
    (panel.deviceGroups deviceID).findSome? fun guid =>
      if guid = "" then none else db.getActiveBillingContract targetDeviceGroup guid

def orgContract (db : BillingDB) (deviceID : String) : Option BillingContract :=
  if db.getDeviceOrgID deviceID = "" then none
  else db.getActiveBillingContract targetOrg (db.getDeviceOrgID deviceID)

/-- The most specific active contract of a device: its own, its folder's, one of its groups', its
organization's. -/
def resolveContractForDevice (db : BillingDB) (deviceID : String) : Option BillingContract :=
  if deviceID = "" then none
  else
    (db.getActiveBillingContract targetDevice deviceID).or <|
      (folderContract db deviceID).or <|
        (groupContract db deviceID).or (orgContract db deviceID)

variable {db : BillingDB} {contract : BillingContract}

theorem getActiveBillingContract_mem {targetType targetKey : String}
    (found : db.getActiveBillingContract targetType targetKey = some contract) :
    (∃ id, db.contracts.lookup id = some contract) ∧ contract.status = contractActive := by
  obtain ⟨entry, member, rfl⟩ := List.mem_map.mp (List.mem_of_find?_eq_some found)
  have passed := List.find?_some found
  simp only [Bool.and_eq_true, beq_iff_eq] at passed
  exact ⟨⟨entry.1, Table.mem_entries_iff.mp member⟩, passed.2⟩

theorem getActiveBillingContract_target {targetType targetKey : String}
    (found : db.getActiveBillingContract targetType targetKey = some contract) :
    contract.targetType = targetType ∧ contract.targetKey = targetKey := by
  have passed := List.find?_some found
  simp only [Bool.and_eq_true, beq_iff_eq] at passed
  exact passed.1

theorem resolveContractForDevice_mem {deviceID : String}
    (resolved : resolveContractForDevice db deviceID = some contract) :
    (∃ id, db.contracts.lookup id = some contract) ∧ contract.status = contractActive := by
  simp only [resolveContractForDevice, Option.ite_none_left_eq_some, Option.or_eq_some_iff]
    at resolved
  obtain ⟨_, own | ⟨_, folder | ⟨_, group | ⟨_, org⟩⟩⟩⟩ := resolved
  · exact getActiveBillingContract_mem own
  · obtain ⟨folderID, _, found⟩ := Option.bind_eq_some_iff.mp folder
    exact getActiveBillingContract_mem (Option.ite_none_right_eq_some.mp found).2
  · obtain ⟨_, _, first⟩ := Option.bind_eq_some_iff.mp group
    obtain ⟨guid, _, found⟩ := List.exists_of_findSome?_eq_some first
    exact getActiveBillingContract_mem (Option.ite_none_left_eq_some.mp found).2
  · exact getActiveBillingContract_mem (Option.ite_none_left_eq_some.mp org).2

end SovaDesk.Billing
