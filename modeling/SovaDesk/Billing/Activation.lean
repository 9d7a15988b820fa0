/-
This file says what the billing service keeps of the relays that wait, and when a relay
session that starts under a UUID opens a billing session.

The goroutine that opens it takes the record of the relay, reads its contract, and writes
the session's row. If no other goroutine comes in between, this succeeds exactly when the
contract exists.
-/

import SovaDesk.Billing.Service

namespace SovaDesk.Billing

open Transition

variable {settings : Settings} {s after : State} {t : Nat} {relayUUID deviceID : String}

/-! ### What a step leaves -/

/-- Rows of contracts are stored under their ids. -/
def BillingDB.Keyed (db : BillingDB) : Prop :=
  ∀ id contract, db.contracts.lookup id = some contract → contract.id = id

/-- What waits for a relay was waiting before, and the contracts are still keyed. -/
structure Kept (s after : State) : Prop where
  pending : ∀ relayUUID entry, after.pending.lookup relayUUID = some entry →
    s.pending.lookup relayUUID = some entry
  keyed : s.db.Keyed → after.db.Keyed

theorem Kept.same (pending : after.pending = s.pending)
    (contracts : after.db.contracts = s.db.contracts) : Kept s after where
  pending _ _ found := pending ▸ found
  keyed keyed id contract found := keyed id contract (contracts ▸ found)

theorem kept_activateTake (s : State) (t : Nat) (relayUUID : String) :
    Kept s (activateTake s t relayUUID) := by
  unfold activateTake
  split
  · exact .same rfl rfl
  · exact ⟨fun _ _ found => (Table.lookup_erase_iff.mp found).2, fun keyed => keyed⟩

theorem kept_activateCreate (s : State) (t : Nat) (relayUUID : String) (entry : PendingRelay)
    (contract : BillingContract) (overageRate : Rat) (input : Input) :
    Kept s (activateCreate s t relayUUID entry contract overageRate input) := by
  unfold activateCreate BillingDB.createBillingSession
  split
  · exact .same rfl rfl
  · next created =>
    obtain ⟨_, rfl⟩ := of_guard_not created
    exact .same rfl rfl

theorem BillingDB.Keyed.updateBillingContract {db : BillingDB} (keyed : db.Keyed) (now : Int)
    (contract : BillingContract) : (db.updateBillingContract now contract).Keyed := by
  intro id row found
  rw [BillingDB.updateBillingContract, Table.lookup_update] at found
  split at found
  · next same =>
    obtain ⟨before, stored, rfl⟩ := Option.map_eq_some_iff.mp found
    exact keyed id before (same ▸ stored)
  · exact keyed id row found

theorem kept_endWriteContract (s : State) (t : Nat) (contract : BillingContract)
    (includedUsed now : Int) : Kept s (endWriteContract s t contract includedUsed now) where
  pending _ _ found := found
  keyed keyed := keyed.updateBillingContract now _

theorem kept_tickNext (settings : Settings) (s : State) (t : Nat) (snapshot : List ActiveSession)
    (now : Int) : Kept s (tickNext settings s t snapshot now) := by
  unfold tickNext
  split
  · exact .same rfl rfl
  · dsimp only
    split <;> exact .same rfl rfl

theorem kept_threadStep {thread : Thread} {input : Input}
    (taken : threadStep settings s t input thread = some after) : Kept s after := by
  cases thread with
  | done => exact absurd taken nofun
  | activateTake relayUUID =>
    obtain rfl := Option.some.inj taken
    exact kept_activateTake s t relayUUID
  | activateCreate relayUUID entry contract overageRate =>
    obtain rfl := Option.some.inj taken
    exact kept_activateCreate s t relayUUID entry contract overageRate input
  | endWriteContract contract includedUsed =>
    obtain rfl := Option.some.inj taken
    exact kept_endWriteContract s t contract includedUsed _
  | tickNext snapshot =>
    obtain rfl := Option.some.inj taken
    exact kept_tickNext settings s t snapshot _
  | activateRead relayUUID entry =>
    obtain rfl := Option.some.inj taken
    unfold activateRead
    split <;> exact .same rfl rfl
  | endTake relayUUID =>
    obtain rfl := Option.some.inj taken
    unfold endTake
    split <;> exact .same rfl rfl
  | endRead session endedAt =>
    obtain rfl := Option.some.inj taken
    unfold endRead
    split <;> exact .same rfl rfl
  | endReadContract session includedUsed =>
    obtain rfl := Option.some.inj taken
    unfold endReadContract
    split <;> exact .same rfl rfl
  | activateLedger | activateStore | endSplit | endUpdate | endLedger | tickLedger =>
    obtain rfl := Option.some.inj taken
    exact .same rfl rfl

theorem kept_spawn {thread : Thread} (taken : spawn s t thread = some after) : Kept s after := by
  obtain ⟨_, rfl⟩ := of_guard_not taken
  exact .same rfl rfl

/-- Only `PrepareRelay` records a relay. -/
theorem kept_step {label : Label} (other : ∀ synced now relayUUID deviceID operatorID,
      label ≠ .prepare synced now relayUUID deviceID operatorID)
    (taken : step settings s label = some after) : Kept s after := by
  cases label with
  | prepare synced now relayUUID deviceID operatorID => exact absurd rfl (other _ _ _ _ _)
  | sweepPending now =>
    obtain rfl := Option.some.inj taken
    exact ⟨fun _ _ found => (Table.lookup_filter_iff.mp found).1, fun keyed => keyed⟩
  | activateRelay t relayUUID | endRelay t relayUUID =>
    rw [step] at taken
    split at taken
    · obtain rfl := Option.some.inj taken
      exact .same rfl rfl
    · exact kept_spawn taken
  | tickActive t => exact kept_spawn taken
  | step t input =>
    obtain ⟨thread, _, stepped⟩ := Option.bind_eq_some_iff.mp taken
    exact kept_threadStep stepped

/-! ### A relay that starts -/

/-- A relay session that starts under a UUID opens a billing session for a device, if no other
goroutine comes in between: whichever name its goroutine has, and whichever new id is drawn for the
session. -/
def OpensSession (settings : Settings) (s : State) (relayUUID deviceID : String) : Prop :=
  ∀ t input, s.threads.lookup t = none → s.db.sessions.lookup input.sessionID = none →
    ∃ after, (billing settings s.db).run s
        [.activateRelay t relayUUID, .step t input, .step t input, .step t input] = some after ∧
      ∃ row, after.db.sessions.lookup input.sessionID = some row ∧
        row.relayUUID = relayUUID ∧ row.deviceID = deviceID

/-- A relay is recorded for a device, under a contract that exists. -/
def Recorded (s : State) (relayUUID deviceID : String) : Prop :=
  ∃ entry, s.pending.lookup relayUUID = some entry ∧ entry.deviceID = deviceID ∧
    (s.db.getBillingContract entry.contractID).isSome

/-- The next step of a goroutine that was just set to a stage. -/
theorem step_setThread (s : State) (t : Nat) (thread : Thread) (input : Input) :
    step settings (s.setThread t thread) (.step t input) =
      threadStep settings (s.setThread t thread) t input thread := by
  have stands : (s.setThread t thread).threads.lookup t = some thread :=
    AList.lookup_insert s.threads
  rw [step, stands]
  rfl

theorem step_activateRelay (named : relayUUID ≠ "") (unused : s.threads.lookup t = none) :
    step settings s (.activateRelay t relayUUID) =
      some (s.setThread t (.activateTake relayUUID)) := by
  rw [step, if_neg named, spawn, unused]
  rfl

variable {entry : PendingRelay}

theorem activateTake_of_waiting (waiting : s.pending.lookup relayUUID = some entry) :
    activateTake s t relayUUID =
      { s with pending := s.pending.erase relayUUID }.setThread t
        (.activateRead relayUUID entry) := by
  rw [activateTake, waiting]

theorem activateRead_of_found {contract : BillingContract}
    (found : s.db.getBillingContract entry.contractID = some contract) :
    ∃ rate, activateRead s t relayUUID entry =
      s.setThread t (.activateCreate relayUUID entry contract rate) := by
  rw [activateRead, found]
  exact ⟨_, rfl⟩

theorem activateCreate_of_fresh {contract : BillingContract} {rate : Rat}
    {input : Input} (fresh : s.db.sessions.lookup input.sessionID = none) :
    (activateCreate s t relayUUID entry contract rate input).db.sessions =
      s.db.sessions.insert input.sessionID (startedRow relayUUID entry input) := by
  have absent : s.db.sessions.lookup (startedRow relayUUID entry input).id = none := fresh
  rw [activateCreate, BillingDB.createBillingSession, absent]
  rfl

variable (settings) in
/-- The first two steps of a goroutine whose relay waits. -/
theorem run_activateTake (named : relayUUID ≠ "")
    (unused : s.threads.lookup t = none) (waiting : s.pending.lookup relayUUID = some entry)
    (input : Input) (rest : List Label) :
    ∃ taken, taken.db = s.db ∧
      (billing settings s.db).run s (.activateRelay t relayUUID :: .step t input :: rest) =
        (billing settings s.db).run (State.setThread taken t (.activateRead relayUUID entry))
          rest := by
  let begun := s.setThread t (.activateTake relayUUID)
  refine ⟨{ begun with pending := begun.pending.erase relayUUID }, rfl, ?_⟩
  have waits : begun.pending.lookup relayUUID = some entry := waiting
  show ((step settings s (.activateRelay t relayUUID)).bind fun next =>
    (step settings next (.step t input)).bind fun last =>
      (billing settings s.db).run last rest) = _
  rw [step_activateRelay named unused, Option.bind_some, step_setThread, threadStep,
    activateTake_of_waiting waits, Option.bind_some]

/-- A recorded relay opens a session. -/
theorem opensSession_of_recorded (named : relayUUID ≠ "")
    (recorded : Recorded s relayUUID deviceID) : OpensSession settings s relayUUID deviceID := by
  obtain ⟨entry, waiting, device, present⟩ := recorded
  obtain ⟨contract, found⟩ := Option.isSome_iff_exists.mp present
  intro t input unused fresh
  obtain ⟨taken, same, ran⟩ :=
    run_activateTake settings named unused waiting input
      [.step t input, .step t input]
  let before := State.setThread taken t (.activateRead relayUUID entry)
  have sameDB : before.db = s.db := same
  obtain ⟨rate, reads⟩ : ∃ rate, activateRead before t relayUUID entry =
      before.setThread t (.activateCreate relayUUID entry contract rate) :=
    activateRead_of_found (sameDB.symm ▸ found)
  let read := before.setThread t (.activateCreate relayUUID entry contract rate)
  have readDB : read.db = s.db := same
  refine ⟨activateCreate read t relayUUID entry contract rate input, ?_,
    startedRow relayUUID entry input, ?_, rfl, device⟩
  · rw [ran]
    show ((step settings before (.step t input)).bind fun next =>
      (step settings next (.step t input)).bind some) = _
    rw [step_setThread, threadStep, reads, Option.bind_some, step_setThread, threadStep,
      Option.bind_some]
  · rw [activateCreate_of_fresh (readDB.symm ▸ fresh), readDB]
    exact AList.lookup_insert s.db.sessions

/-- The contract under which a relay opens a session exists. -/
theorem recorded_of_opensSession (named : relayUUID ≠ "")
    (waiting : s.pending.lookup relayUUID = some entry) (device : entry.deviceID = deviceID)
    (opens : OpensSession settings s relayUUID deviceID) : Recorded s relayUUID deviceID := by
  refine ⟨entry, waiting, device, ?_⟩
  by_contra absent
  have missing : s.db.getBillingContract entry.contractID = none :=
    Option.not_isSome_iff_eq_none.mp absent
  obtain ⟨t, unused⟩ := Table.exists_lookup_eq_none s.threads
  obtain ⟨id, fresh⟩ := Table.exists_lookup_eq_none s.db.sessions
  let input : Input := ⟨⟨0, true, 0⟩, id⟩
  obtain ⟨after, ran, _⟩ := opens t input unused fresh
  obtain ⟨taken, same, took⟩ :=
    run_activateTake settings named unused waiting input
      [.step t input, .step t input]
  let before := State.setThread taken t (.activateRead relayUUID entry)
  have unread : activateRead before t relayUUID entry = before.setThread t .done := by
    have sameDB : before.db = s.db := same
    rw [activateRead, sameDB, missing]
  have stuck : (billing settings s.db).run before [.step t input, .step t input] = none := by
    show ((step settings before (.step t input)).bind fun next =>
      (step settings next (.step t input)).bind some) = _
    rw [step_setThread, threadStep, unread, Option.bind_some, step_setThread, threadStep]
    rfl
  rw [took, stuck] at ran
  exact Option.some_ne_none after ran.symm

end SovaDesk.Billing
