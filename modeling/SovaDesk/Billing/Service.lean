/-
This file models the billing service: the check before a connection, the metadata that
waits for a relay, and the goroutines that open, meter and finalize billable sessions.

The two maps of the service are guarded by a mutex, the tables by nothing: between two
database calls of one goroutine any other may run. Each goroutine is therefore a
thread with a stage for every database call and every critical section, and a step
advances one thread. Readings of the clock, and the ids the service draws, come with
the step that takes them.
-/

import SovaDesk.Lib.System
import SovaDesk.Billing.Store

namespace SovaDesk.Billing

open Transition

/-! ### The service's data -/

/-- What is known of a relay before it pairs. -/
structure PendingRelay where
  orgID : String
  deviceID : String
  operatorID : String
  contractID : String
  currency : String
  createdAt : Int
  deriving DecidableEq

/-- A session in progress. `remainingAtStart` is the contract's balance when the session was
opened. -/
structure ActiveSession where
  id : String
  orgID : String
  contractID : String
  relayUUID : String
  startedAt : Int
  remainingAtStart : Int
  overageRate : Rat
  hourlyRate : Rat
  currency : String
  phase : String
  lastBilledMin : Int
  deriving DecidableEq

/-- A reading of the billing clock, in nanoseconds, with the state of its synchronization. -/
structure ClockReading where
  now : Int
  synced : Bool
  offsetMS : Int
  deriving DecidableEq

/-- The service's settings: the rounding step and whether a work report is required. -/
structure Settings where
  roundMin : Int
  requireReport : Bool

/-- How long the metadata of a relay that never pairs is kept, in nanoseconds. -/
def pendingRelayTTL : Int := 10 * 60 * 1000000000

/-! ### Minutes -/

/-- The rounding step; a setting that is not positive counts as one minute. -/
def roundStep (roundMin : Int) : Int := if roundMin ≤ 0 then 1 else roundMin

theorem roundStep_pos (roundMin : Int) : 0 < roundStep roundMin := by
  unfold roundStep
  split <;> omega

/-- The minutes of a session, rounded up to a multiple of the step, dividing exactly. -/
def roundUpMinutes (seconds roundMin : Int) : Int :=
  -(-seconds / (60 * roundStep roundMin)) * roundStep roundMin

/-- Whole seconds from the start to a reading, never negative. -/
def rawSeconds (startedAt now : Int) : Int := max 0 ((now - startedAt).tdiv 1000000000)

theorem rawSeconds_nonneg (startedAt now : Int) : 0 ≤ rawSeconds startedAt now :=
  Int.le_max_left 0 _

theorem roundUpMinutes_nonneg {seconds : Int} (roundMin : Int) (nonneg : 0 ≤ seconds) :
    0 ≤ roundUpMinutes seconds roundMin := by
  have positive := roundStep_pos roundMin
  have quotient : -seconds / (60 * roundStep roundMin) ≤ 0 :=
    Int.ediv_nonpos_of_nonpos_of_neg (by omega) (by omega)
  exact Int.mul_nonneg (by omega) (by omega)

/-! ### Before the connection -/

/-- The answer to a connection request. -/
structure ConnectionCheckResult where
  allowed : Bool
  reason : String
  orgID : String
  hasBilling : Bool
  deriving DecidableEq

/-- `CheckConnection`: `synced` is the clock's `IsSynced`, true where no clock is attached. -/
def checkConnection (db : BillingDB) (synced : Bool) (deviceID : String) :
    ConnectionCheckResult :=
  let orgID := db.getDeviceOrgID deviceID
  match resolveContractForDevice db deviceID with
  | none => { allowed := true, reason := "", orgID, hasBilling := false }
  | some contract =>
    if !synced then { allowed := false, reason := "clock_unsynced", orgID, hasBilling := true }
    else if contract.status = contractSuspended then
      { allowed := false, reason := "billing_suspended", orgID, hasBilling := true }
    else { allowed := true, reason := "", orgID, hasBilling := true }

/-- `PrepareRelay`: record what is known of a relay under its UUID, if the target is billed and may
be connected to; the error is the reason of a refusal. -/
def prepareRelay (db : BillingDB) (synced : Bool) (now : Int)
    (relayUUID deviceID operatorID : String) (pending : Table String PendingRelay) :
    Except String (Table String PendingRelay) :=
  if relayUUID = "" then .ok pending
  else
    let check := checkConnection db synced deviceID
    if !check.allowed then .error ("billing: " ++ check.reason)
    else if !check.hasBilling then .ok pending
    else
      match resolveContractForDevice db deviceID with
      | none => .ok pending
      | some contract =>
        .ok (pending.insert relayUUID
          { orgID := check.orgID, deviceID, operatorID, contractID := contract.id,
            currency := contract.currency, createdAt := now })

section check

variable {db : BillingDB} {synced : Bool} {now : Int} {relayUUID deviceID operatorID : String}
  {pending : Table String PendingRelay}

theorem checkConnection_orgID :
    (checkConnection db synced deviceID).orgID = db.getDeviceOrgID deviceID := by
  unfold checkConnection
  grind

theorem checkConnection_hasBilling :
    (checkConnection db synced deviceID).hasBilling =
      (resolveContractForDevice db deviceID).isSome := by
  unfold checkConnection
  grind

/-- A device without a contract may be connected to. -/
theorem checkConnection_of_none (free : resolveContractForDevice db deviceID = none) :
    (checkConnection db synced deviceID).allowed = true := by
  rw [checkConnection, free]

/-- Where the check lets a connection pass, the relay is recorded under the contract that applies,
if there is one. -/
theorem prepareRelay_of_allowed (named : relayUUID ≠ "")
    (allowed : (checkConnection db synced deviceID).allowed = true) :
    prepareRelay db synced now relayUUID deviceID operatorID pending =
      .ok (match resolveContractForDevice db deviceID with
        | none => pending
        | some contract =>
          pending.insert relayUUID
            { orgID := db.getDeviceOrgID deviceID, deviceID, operatorID, contractID := contract.id,
              currency := contract.currency, createdAt := now }) := by
  unfold prepareRelay
  rw [if_neg named]
  simp only [allowed, checkConnection_hasBilling, checkConnection_orgID, Bool.not_true,
    Bool.false_eq_true, if_false]
  cases resolveContractForDevice db deviceID with
  | none => rfl
  | some contract => rfl

end check

/-- `sweepStalePending`. -/
def sweepStalePending (now : Int) (pending : Table String PendingRelay) :
    Table String PendingRelay :=
  pending.filter fun _ entry => !(entry.createdAt < now - pendingRelayTTL)

/-! ### Threads -/

/-- A goroutine of the service, named by what it does next. -/
inductive Thread
  | activateTake (relayUUID : String)
  | activateRead (relayUUID : String) (pending : PendingRelay)
  | activateCreate (relayUUID : String) (pending : PendingRelay) (contract : BillingContract)
      (overageRate : Rat)
  | activateLedger (relayUUID : String) (session : ActiveSession)
  | activateStore (relayUUID : String) (session : ActiveSession)
  | endTake (relayUUID : String)
  | endSplit (session : ActiveSession)
  | endRead (session : ActiveSession) (endedAt : Int)
  | endUpdate (session : ActiveSession) (row : BillingSession)
  | endLedger (session : ActiveSession) (includedUsed : Int)
  | endReadContract (session : ActiveSession) (includedUsed : Int)
  | endWriteContract (contract : BillingContract) (includedUsed : Int)
  | tickNext (snapshot : List ActiveSession)
  | tickLedger (sessionID phase : String) (snapshot : List ActiveSession)
  | done
  deriving DecidableEq

/-- The service and its tables. -/
structure State where
  db : BillingDB
  pending : Table String PendingRelay
  active : Table String ActiveSession
  threads : Table Nat Thread

/-- No row of a billing session goes. -/
def State.KeepsRows (s after : State) : Prop :=
  ∀ id, (s.db.sessions.lookup id).isSome → (after.db.sessions.lookup id).isSome

/-- What a step reads from outside: the clock, and a fresh session id. -/
structure Input where
  reading : ClockReading
  sessionID : String
  deriving DecidableEq

/-- A relay is prepared, a goroutine starts, or a goroutine takes its next step. -/
inductive Label
  | prepare (synced : Bool) (now : Int) (relayUUID deviceID operatorID : String)
  | sweepPending (now : Int)
  | activateRelay (t : Nat) (relayUUID : String)
  | endRelay (t : Nat) (relayUUID : String)
  | tickActive (t : Nat)
  | step (t : Nat) (input : Input)
  deriving DecidableEq

namespace State

def setThread (s : State) (t : Nat) (thread : Thread) : State :=
  { s with threads := s.threads.insert t thread }

end State

/-! ### `ActivateRelay` -/

/-- Take the metadata of the relay out of the pending map. -/
def activateTake (s : State) (t : Nat) (relayUUID : String) : State :=
  match s.pending.lookup relayUUID with
  | none => s.setThread t .done
  | some entry =>
    { s with pending := s.pending.erase relayUUID }.setThread t (.activateRead relayUUID entry)

/-- Read the contract and the rate that applies past its included minutes. -/
def activateRead (s : State) (t : Nat) (relayUUID : String) (entry : PendingRelay) : State :=
  match s.db.getBillingContract entry.contractID with
  | none => s.setThread t .done
  | some contract =>
    let overageRate :=
      match contract.overageRate with
      | some rate => rate
      | none =>
        match s.db.getBillingPackage contract.packageID with
        | some package => package.overageRate
        | none => contract.hourlyRate
    s.setThread t (.activateCreate relayUUID entry contract overageRate)

/-- The row of a session that starts. -/
def startedRow (relayUUID : String) (entry : PendingRelay) (input : Input) : BillingSession where
  id := input.sessionID
  orgID := entry.orgID
  contractID := entry.contractID
  operatorID := entry.operatorID
  deviceID := entry.deviceID
  relayUUID := relayUUID
  transport := "rustdesk"
  status := statusActive
  billingPhase := phaseIncluded
  startedAt := input.reading.now
  endedAt := none
  rawSeconds := 0
  billedMinutes := 0
  includedMinutesUsed := 0
  overageMinutes := 0
  amountIncluded := 0
  amountOverage := 0
  currency := entry.currency
  clockOffsetMSAtStart := input.reading.offsetMS
  clockSyncedAtStart := input.reading.synced

/-- The session in progress that goes with it. -/
def startedSession (relayUUID : String) (entry : PendingRelay) (contract : BillingContract)
    (overageRate : Rat) (input : Input) : ActiveSession where
  id := input.sessionID
  orgID := entry.orgID
  contractID := entry.contractID
  relayUUID := relayUUID
  startedAt := input.reading.now
  remainingAtStart := contract.remainingMinutes
  overageRate := overageRate
  hourlyRate := contract.hourlyRate
  currency := entry.currency
  phase := phaseIncluded
  lastBilledMin := 0

/-- Create the session row; an error ends the goroutine. -/
def activateCreate (s : State) (t : Nat) (relayUUID : String) (entry : PendingRelay)
    (contract : BillingContract) (overageRate : Rat) (input : Input) : State :=
  match s.db.createBillingSession (startedRow relayUUID entry input) with
  | none => s.setThread t .done
  | some db =>
    { s with db }.setThread t
      (.activateLedger relayUUID (startedSession relayUUID entry contract overageRate input))

def activateLedger (s : State) (t : Nat) (relayUUID : String) (session : ActiveSession) : State :=
  let entry := { sessionID := session.id, eventType := ledgerSessionStart, details := relayUUID }
  { s with db := s.db.insertBillingLedgerEntry entry }.setThread t
    (.activateStore relayUUID session)

def activateStore (s : State) (t : Nat) (relayUUID : String) (session : ActiveSession) : State :=
  { s with active := s.active.insert relayUUID session }.setThread t .done

/-! ### `EndRelay` and `finalizeSession` -/

def endTake (s : State) (t : Nat) (relayUUID : String) : State :=
  match s.active.lookup relayUUID with
  | none => s.setThread t .done
  | some session =>
    { s with active := s.active.erase relayUUID }.setThread t (.endSplit session)

/-- The row of a session that ends at a reading: its length, the split of the billed minutes at the
balance the session started with, and the amounts. -/
def finalRow (settings : Settings) (session : ActiveSession) (endedAt : Int)
    (row : BillingSession) : BillingSession :=
  let rawSecs := rawSeconds session.startedAt endedAt
  let billedMin := roundUpMinutes rawSecs settings.roundMin
  let includedUsed := min billedMin session.remainingAtStart
  let overageMin :=
    if billedMin > session.remainingAtStart then billedMin - session.remainingAtStart else 0
  { row with
    endedAt := some endedAt
    rawSeconds := rawSecs
    billedMinutes := billedMin
    includedMinutesUsed := includedUsed
    overageMinutes := overageMin
    billingPhase := if overageMin > 0 then phaseOverage else phaseIncluded
    amountIncluded := (includedUsed : Rat) / 60 * session.hourlyRate
    amountOverage := (overageMin : Rat) / 60 * session.overageRate
    status := if settings.requireReport then statusPendingReport else statusClosed }

/-- Read the session row; an error ends the goroutine before anything is charged. -/
def endRead (settings : Settings) (s : State) (t : Nat) (session : ActiveSession)
    (endedAt : Int) : State :=
  match s.db.getBillingSession session.id with
  | none => s.setThread t .done
  | some row => s.setThread t (.endUpdate session (finalRow settings session endedAt row))

def endUpdate (s : State) (t : Nat) (session : ActiveSession) (row : BillingSession) : State :=
  { s with db := s.db.updateBillingSession row }.setThread t
    (.endLedger session row.includedMinutesUsed)

def endLedger (s : State) (t : Nat) (session : ActiveSession) (includedUsed : Int) : State :=
  let entry := { sessionID := session.id, eventType := ledgerSessionEnd, details := "" }
  { s with db := s.db.insertBillingLedgerEntry entry }.setThread t
    (.endReadContract session includedUsed)

def endReadContract (s : State) (t : Nat) (session : ActiveSession) (includedUsed : Int) : State :=
  match s.db.getBillingContract session.contractID with
  | none => s.setThread t .done
  | some contract => s.setThread t (.endWriteContract contract includedUsed)

def endWriteContract (s : State) (t : Nat) (contract : BillingContract) (includedUsed now : Int) :
    State :=
  let newRemaining :=
    if contract.remainingMinutes - includedUsed < 0 then 0
    else contract.remainingMinutes - includedUsed
  let contract := { contract with remainingMinutes := newRemaining }
  { s with db := s.db.updateBillingContract now contract }.setThread t .done

/-! ### `tickActive` and `updateActiveProgress` -/

/-- The phase of a session after a number of billed minutes. -/
def progressPhase (session : ActiveSession) (billedMin : Int) : String :=
  if billedMin > session.remainingAtStart then phaseOverage else phaseIncluded

/-- The critical section of `updateActiveProgress` for the next session of the snapshot. -/
def tickNext (settings : Settings) (s : State) (t : Nat) (snapshot : List ActiveSession)
    (now : Int) : State :=
  match snapshot with
  | [] => s.setThread t .done
  | session :: rest =>
    let billedMin := roundUpMinutes (rawSeconds session.startedAt now) settings.roundMin
    match s.active.lookup session.relayUUID with
    | none => s.setThread t (.tickNext rest)
    | some current =>
      let newPhase := progressPhase current billedMin
      let updated := { current with lastBilledMin := billedMin, phase := newPhase }
      { s with active := s.active.insert session.relayUUID updated }.setThread t
        (if newPhase = current.phase then .tickNext rest else .tickLedger current.id newPhase rest)

def tickLedger (s : State) (t : Nat) (sessionID phase : String) (rest : List ActiveSession) :
    State :=
  let entry := { sessionID, eventType := ledgerPhaseChange, details := phase }
  { s with db := s.db.insertBillingLedgerEntry entry }.setThread t (.tickNext rest)

/-! ### The step function -/

/-- The next step of a thread. -/
def threadStep (settings : Settings) (s : State) (t : Nat) (input : Input) :
    Thread → Option State
  | .activateTake relayUUID => some (activateTake s t relayUUID)
  | .activateRead relayUUID entry => some (activateRead s t relayUUID entry)
  | .activateCreate relayUUID entry contract overageRate =>
    some (activateCreate s t relayUUID entry contract overageRate input)
  | .activateLedger relayUUID session => some (activateLedger s t relayUUID session)
  | .activateStore relayUUID session => some (activateStore s t relayUUID session)
  | .endTake relayUUID => some (endTake s t relayUUID)
  | .endSplit session => some (s.setThread t (.endRead session input.reading.now))
  | .endRead session endedAt => some (endRead settings s t session endedAt)
  | .endUpdate session row => some (endUpdate s t session row)
  | .endLedger session includedUsed => some (endLedger s t session includedUsed)
  | .endReadContract session includedUsed => some (endReadContract s t session includedUsed)
  | .endWriteContract contract includedUsed =>
    some (endWriteContract s t contract includedUsed input.reading.now)
  | .tickNext snapshot => some (tickNext settings s t snapshot input.reading.now)
  | .tickLedger sessionID phase rest => some (tickLedger s t sessionID phase rest)
  | .done => none

/-- Start a goroutine under a name that is not in use. -/
def spawn (s : State) (t : Nat) (thread : Thread) : Option State :=
  if (s.threads.lookup t).isSome then none else some (s.setThread t thread)

/-- The successor of a state under a label. `ActivateRelay` and `EndRelay` do nothing for an empty
UUID. -/
def step (settings : Settings) (s : State) : Label → Option State
  | .prepare synced now relayUUID deviceID operatorID =>
    match prepareRelay s.db synced now relayUUID deviceID operatorID s.pending with
    | .ok pending => some { s with pending }
    | .error _ => some s
  | .sweepPending now => some { s with pending := sweepStalePending now s.pending }
  | .activateRelay t relayUUID =>
    if relayUUID = "" then some s else spawn s t (.activateTake relayUUID)
  | .endRelay t relayUUID => if relayUUID = "" then some s else spawn s t (.endTake relayUUID)
  | .tickActive t => spawn s t (.tickNext (s.active.entries.map (·.2)))
  | .step t input => (s.threads.lookup t).bind (threadStep settings s t input)

/-- The service as it starts: no session has been opened, and no contract is overdrawn. -/
def fresh (db : BillingDB) : State :=
  { db, pending := ∅, active := ∅, threads := ∅ }

/-- The billing service over given tables, as a transition system. -/
def billing (settings : Settings) (db : BillingDB) : System State Label where
  start s := s = fresh db
  step := step settings

end SovaDesk.Billing
