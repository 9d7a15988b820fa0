/-
This file settles whether the prepaid minutes of a contract are conserved.

A session is split at the balance its contract had when the session was opened, so two
sessions that overlap are both split at a balance that only one of them can use; and
the balance is read and written back in separate calls, so one finalization can
overwrite another. The runs in which a finalization is covered by what the balance
leaves, and writes back over the balance it read, conserve the minutes: what the
sessions used and what the contract still has, with the finalizations in flight, add
up to what it had.
-/

import SovaDesk.Billing.Service

namespace SovaDesk.Billing

open Transition

/-! ### The property -/

/-- The included minutes recorded in the session rows of a contract. -/
def recorded (s : State) (contractID : String) : Int :=
  s.db.sessions.sum fun _ row => if row.contractID = contractID then row.includedMinutesUsed else 0

/-- The minutes a thread has recorded and not yet taken from a contract's balance. -/
def Thread.uncharged (contractID : String) : Thread → Int
  | .endLedger session includedUsed => if session.contractID = contractID then includedUsed else 0
  | .endReadContract session includedUsed =>
    if session.contractID = contractID then includedUsed else 0
  | .endWriteContract contract includedUsed => if contract.id = contractID then includedUsed else 0
  | _ => 0

def uncharged (s : State) (contractID : String) : Int :=
  s.threads.sum fun _ thread => thread.uncharged contractID

/-- A thread stands between the update of a session of a contract and the end of its
finalization. -/
def Thread.charging (contractID : String) : Thread → Bool
  | .endLedger session _ => session.contractID == contractID
  | .endReadContract session _ => session.contractID == contractID
  | .endWriteContract contract _ => contract.id == contractID
  | _ => false

/-- No finalization of a contract's sessions is in flight. -/
def Settled (s : State) (contractID : String) : Prop :=
  ∀ t thread, s.threads.lookup t = some thread → thread.charging contractID = false

/-- The minutes of every contract are conserved: its sessions never use more than it had, and when
no finalization is in flight its balance is what they left. -/
def Conserved (opening : BillingDB) (s : State) : Prop :=
  ∀ id before, opening.contracts.lookup id = some before →
    recorded s id ≤ before.remainingMinutes ∧
      (Settled s id → ∃ now, s.db.contracts.lookup id = some now ∧
        now.remainingMinutes = max 0 (before.remainingMinutes - recorded s id))

/-- The tables before the first session: rows are stored under their ids. -/
structure Opening (db : BillingDB) : Prop where
  keyed : ∀ id contract, db.contracts.lookup id = some contract → contract.id = id
  unused : db.sessions = ∅

/-! ### Two overlapping sessions -/

def sampleContract : BillingContract where
  id := "c1"
  targetType := targetDevice
  targetKey := "dev"
  packageID := "p1"
  status := contractActive
  remainingMinutes := 10
  overageRate := none
  hourlyRate := 0
  currency := "PLN"
  validFrom := none
  validUntil := none
  updatedAt := 0

/-- One contract with ten minutes, on PostgreSQL. -/
def sampleDB : BillingDB where
  kind := .postgres
  packages := ∅
  contracts := AList.insert "c1" sampleContract ∅
  sessions := ∅
  ledger := []
  orgDevices := []
  panel := none

def sampleSettings : Settings where
  roundMin := 1
  requireReport := true

/-- An input at a time given in minutes, with a fresh id. -/
def atMinute (minutes : Int) (sessionID : String) : Input where
  reading := { now := minutes * 60 * 1000000000, synced := true, offsetMS := 0 }
  sessionID := sessionID

/-- A relay is prepared and its session opened, at a minute. -/
def openSession (t : Nat) (relayUUID sessionID : String) (minutes : Int) : List Label :=
  [.prepare true 0 relayUUID "dev" "op", .activateRelay t relayUUID] ++
    List.replicate 5 (.step t (atMinute minutes sessionID))

/-- A session ends at a minute and is finalized. -/
def closeSession (t : Nat) (relayUUID : String) (minutes : Int) : List Label :=
  .endRelay t relayUUID :: List.replicate 7 (.step t (atMinute minutes ""))

/-- Two sessions of eight minutes each, open at the same time, on a contract of ten minutes. -/
def overlapping : List Label :=
  openSession 0 "u1" "s1" 0 ++ openSession 1 "u2" "s2" 0 ++ closeSession 2 "u1" 8 ++
    closeSession 3 "u2" 8

/-- What a contract's balance leaves for one more finalization. -/
def available (s : State) (contract : BillingContract) : Int :=
  contract.remainingMinutes - uncharged s contract.id

/-- A step of a finalization is covered: when a session is recorded, the balance it started with or
its billed length is within what the contract's balance leaves after the finalizations in flight,
and a contract is written back over the balance that was read. -/
def covered (settings : Settings) (s : State) : Label → Bool
  | .step t _ =>
    match s.threads.lookup t with
    | some (.endUpdate session row) =>
      (s.db.contracts.lookup session.contractID).all fun contract =>
        session.remainingAtStart ≤ available s contract ||
          roundUpMinutes row.rawSeconds settings.roundMin ≤ available s contract
    | some (.endWriteContract contract _) =>
      (s.db.contracts.lookup contract.id).all fun stored =>
        stored.remainingMinutes == contract.remainingMinutes
    | _ => true
  | _ => true

/-! ### The invariant -/

/-- The session a thread is about to store, or to finalize and has not yet recorded. -/
def Thread.held : Thread → Option ActiveSession
  | .activateLedger _ session | .activateStore _ session | .endSplit session
  | .endRead session _ | .endUpdate session _ => some session
  | _ => none

/-- What a thread carries is consistent: balances it read are not negative, and the row it is about
to write is that of its session, split at the balance the session started with. -/
def Thread.Sound (settings : Settings) : Thread → Prop
  | .activateCreate _ _ contract _ => 0 ≤ contract.remainingMinutes
  | .endUpdate session row =>
    row.id = session.id ∧ row.contractID = session.contractID ∧ 0 ≤ row.rawSeconds ∧
      row.includedMinutesUsed =
        min (roundUpMinutes row.rawSeconds settings.roundMin) session.remainingAtStart
  | .endLedger _ includedUsed | .endReadContract _ includedUsed
  | .endWriteContract _ includedUsed => 0 ≤ includedUsed
  | _ => True

/-- Where a session that is not recorded yet can be: with a thread, or in the active map. -/
inductive Holder
  | thread (t : Nat)
  | entry (relayUUID : String)

/-- Who had the session of a holder before a thread stored its own. -/
def Holder.beforeStore (t : Nat) (relayUUID : String) : Holder → Holder
  | .thread u => .thread u
  | .entry other => if other = relayUUID then .thread t else .entry other

/-- Who had the session of a holder before a thread took one out of the active map. -/
def Holder.beforeTake (t : Nat) (relayUUID : String) : Holder → Holder
  | .thread u => if u = t then .entry relayUUID else .thread u
  | .entry other => .entry other

variable {holder : Holder}

/-- A thread that has stored its session has none any more. -/
theorem Holder.beforeStore_inj {t : Nat} {relayUUID : String} {other : Holder}
    (away : holder ≠ .thread t) (otherAway : other ≠ .thread t)
    (same : holder.beforeStore t relayUUID = other.beforeStore t relayUUID) : holder = other := by
  cases holder <;> cases other <;> grind [Holder.beforeStore]

/-- A session that was taken is not in the active map any more. -/
theorem Holder.beforeTake_inj {t : Nat} {relayUUID : String} {other : Holder}
    (away : holder ≠ .entry relayUUID) (otherAway : other ≠ .entry relayUUID)
    (same : holder.beforeTake t relayUUID = other.beforeTake t relayUUID) : holder = other := by
  cases holder <;> cases other <;> grind [Holder.beforeTake]

/-- The session a holder has. -/
def holding (s : State) : Holder → Option ActiveSession
  | .thread t => (s.threads.lookup t).bind Thread.held
  | .entry relayUUID => s.active.lookup relayUUID

/-- The accounts balance: every contract has what it had, less what its sessions recorded, plus
what is in flight, and what is in flight is within what it has. -/
structure Accounts (settings : Settings) (opening : BillingDB) (s : State) : Prop where
  keyed : ∀ id contract, s.db.contracts.lookup id = some contract → contract.id = id
  rows : ∀ id row, s.db.sessions.lookup id = some row → row.id = id
  balance : ∀ id before, opening.contracts.lookup id = some before → ∃ now,
    s.db.contracts.lookup id = some now ∧
      now.remainingMinutes = before.remainingMinutes - recorded s id + uncharged s id
  solvent : ∀ id contract, s.db.contracts.lookup id = some contract →
    uncharged s id ≤ contract.remainingMinutes
  sound : ∀ t thread, s.threads.lookup t = some thread → thread.Sound settings

/-- A session that is not recorded yet has one holder, a row with no minutes, and started with a
balance that is not negative. -/
structure Holdings (s : State) : Prop where
  snapshot : ∀ holder session, holding s holder = some session → 0 ≤ session.remainingAtStart
  row : ∀ holder session, holding s holder = some session →
    ∃ row, s.db.sessions.lookup session.id = some row ∧ row.contractID = session.contractID ∧
      row.includedMinutesUsed = 0
  one : ∀ holder other x y, holding s holder = some x → holding s other = some y →
    x.id = y.id → holder = other

structure Books (settings : Settings) (opening : BillingDB) (s : State) : Prop where
  accounts : Accounts settings opening s
  holdings : Holdings s

section books

variable {settings : Settings} {opening : BillingDB} {s after : State}

/-! ### Minutes in flight -/

theorem Thread.uncharged_nonneg {thread : Thread} (sound : thread.Sound settings) (id : String) :
    0 ≤ thread.uncharged id := by
  cases thread <;> simp only [Thread.uncharged, le_refl]
  all_goals
    split
    · exact sound
    · exact le_refl 0

/-- What one thread has in flight is within what all of them have. -/
theorem Accounts.le_uncharged (accounts : Accounts settings opening s) {t : Nat} {thread : Thread}
    (found : s.threads.lookup t = some thread) (id : String) :
    thread.uncharged id ≤ uncharged s id :=
  Table.le_sum (fun _ thread => thread.uncharged id)
    (fun other _ otherFound => Thread.uncharged_nonneg (accounts.sound other _ otherFound) id)
    found

theorem Accounts.uncharged_nonneg (accounts : Accounts settings opening s) (id : String) :
    0 ≤ uncharged s id := by
  refine List.sum_nonneg fun amount listed => ?_
  obtain ⟨entry, member, rfl⟩ := List.mem_map.mp listed
  exact Thread.uncharged_nonneg
    (accounts.sound entry.1 entry.2 (Table.mem_entries_iff.mp member)) id

/-- The minutes in flight after a thread has moved on. -/
theorem uncharged_of_insert {t : Nat} {thread : Thread}
    (threads : after.threads = s.threads.insert t thread) (id : String) :
    uncharged after id =
      uncharged s id - ((s.threads.lookup t).map (Thread.uncharged id)).getD 0 +
        thread.uncharged id := by
  rw [uncharged, threads]
  exact Table.sum_insert s.threads (fun _ thread => thread.uncharged id) t thread

/-- The threads after one has moved on are sound if it is. -/
theorem Accounts.sound_of_insert (accounts : Accounts settings opening s) {t : Nat}
    {thread : Thread} (threads : after.threads = s.threads.insert t thread)
    (sound : thread.Sound settings) :
    ∀ u other, after.threads.lookup u = some other → other.Sound settings := by
  intro u other found
  rw [threads] at found
  rcases Table.lookup_insert_iff.mp found with ⟨_, rfl⟩ | ⟨_, before⟩
  · exact sound
  · exact accounts.sound u other before

/-! ### Frame lemmas -/

/-- A step that leaves the contracts alone keeps the accounts, if what it records it also takes in
flight, within the balance. -/
theorem Accounts.record (accounts : Accounts settings opening s)
    (contracts : after.db.contracts = s.db.contracts)
    (rows : ∀ id row, after.db.sessions.lookup id = some row → row.id = id)
    (flow : ∀ id contract, s.db.contracts.lookup id = some contract →
      uncharged after id - recorded after id = uncharged s id - recorded s id ∧
        uncharged after id ≤ contract.remainingMinutes)
    (sound : ∀ t thread, after.threads.lookup t = some thread → thread.Sound settings) :
    Accounts settings opening after := by
  constructor
  case keyed =>
    rw [contracts]
    exact accounts.keyed
  case rows => exact rows
  case balance =>
    intro id before found
    obtain ⟨now, stored, balanced⟩ := accounts.balance id before found
    have same := (flow id now stored).1
    exact ⟨now, by rw [contracts, stored], by omega⟩
  case solvent =>
    intro id contract found
    rw [contracts] at found
    exact (flow id contract found).2
  case sound => exact sound

variable {ledger : List LedgerEntry} {pending : Table String PendingRelay}

/-- A thread that moves on without taking or letting go of a contract's minutes keeps the
accounts. -/
theorem Accounts.frame (accounts : Accounts settings opening s)
    {active : Table String ActiveSession} {t : Nat}
    {thread : Thread}
    (sameUncharged : ∀ id contract, s.db.contracts.lookup id = some contract →
      thread.uncharged id = ((s.threads.lookup t).map (Thread.uncharged id)).getD 0)
    (sound : thread.Sound settings) :
    Accounts settings opening
      ⟨{ s.db with ledger }, pending, active, s.threads.insert t thread⟩ := by
  refine accounts.record rfl accounts.rows (fun id contract found => ?_)
    (accounts.sound_of_insert rfl sound)
  rw [@uncharged_of_insert s _ t thread rfl, sameUncharged id contract found, sub_add_cancel]
  exact ⟨rfl, accounts.solvent id contract found⟩

/-- Sessions that change hands, each from a holder of its own, stay with one holder. -/
theorem Holdings.handOver (holdings : Holdings s) (origin : Holder → Holder)
    (came : ∀ holder x, holding after holder = some x → ∃ y, holding s (origin holder) = some y ∧
      y.id = x.id ∧ y.contractID = x.contractID ∧ y.remainingAtStart = x.remainingAtStart)
    (apart : ∀ holder other x y, holding after holder = some x → holding after other = some y →
      origin holder = origin other → holder = other)
    (rows : ∀ holder x, holding after holder = some x →
      after.db.sessions.lookup x.id = s.db.sessions.lookup x.id) : Holdings after := by
  constructor
  case snapshot =>
    intro holder x holds
    obtain ⟨y, held, _, _, sameSnapshot⟩ := came holder x holds
    rw [← sameSnapshot]
    exact holdings.snapshot _ y held
  case row =>
    intro holder x holds
    obtain ⟨y, held, sameId, sameContract, _⟩ := came holder x holds
    rw [rows holder x holds, ← sameId, ← sameContract]
    exact holdings.row _ y held
  case one =>
    intro holder other x y holdsX holdsY sameId
    obtain ⟨oldX, heldX, sameX, _⟩ := came holder x holdsX
    obtain ⟨oldY, heldY, sameY, _⟩ := came other y holdsY
    refine apart holder other x y holdsX holdsY (holdings.one _ _ oldX oldY heldX heldY ?_)
    rw [sameX, sameY, sameId]

/-- What the holders have after a thread has moved on. -/
theorem holding_of_insert {t : Nat} {thread : Thread}
    (threads : after.threads = s.threads.insert t thread) (u : Nat) :
    holding after (.thread u) = if u = t then thread.held else holding s (.thread u) := by
  rw [holding, threads, Table.lookup_insert_if]
  split
  · rfl
  · rfl

variable {session : ActiveSession} {row : BillingSession}

section

variable (books : Books settings opening s)

include books

/-- A thread that moves on and keeps its session, or has none, keeps the books, as long as it
neither takes nor lets go of a contract's minutes. -/
theorem Books.frame {t : Nat} {thread : Thread}
    (sameUncharged : ∀ id contract, s.db.contracts.lookup id = some contract →
      thread.uncharged id = ((s.threads.lookup t).map (Thread.uncharged id)).getD 0)
    (sound : thread.Sound settings)
    (sameHeld : ∀ session, thread.held = some session →
      holding s (.thread t) = some session) :
    Books settings opening
      { s with
        db := { s.db with ledger }
        pending
        threads := s.threads.insert t thread } := by
  refine ⟨books.accounts.frame sameUncharged sound, ?_⟩
  refine books.holdings.handOver id (fun holder x holds => ⟨x, ?_, rfl, rfl, rfl⟩)
    (fun _ _ _ _ _ _ same => same) fun _ _ _ => rfl
  cases holder with
  | thread u =>
    rw [holding_of_insert rfl] at holds
    split at holds
    · next same =>
      subst same
      exact sameHeld x holds
    · exact holds
  | entry relayUUID => exact holds

/-- A thread that moves on with as many minutes in flight as before, and no other session. -/
theorem Books.move {t : Nat} {thread previous : Thread} (found : s.threads.lookup t = some previous)
    (sameUncharged : ∀ id, thread.uncharged id = previous.uncharged id)
    (sound : thread.Sound settings)
    (sameHeld : ∀ session, thread.held = some session → previous.held = some session) :
    Books settings opening
      { s with
        db := { s.db with ledger }
        pending
        threads := s.threads.insert t thread } := by
  refine books.frame (fun id _ _ => ?_) sound fun session held => ?_
  · rw [found]
    exact sameUncharged id
  · rw [holding, found]
    exact sameHeld session held

/-! ### The stages of `ActivateRelay` -/

variable {t : Nat} {relayUUID : String}

theorem Books.activateTake (found : s.threads.lookup t = some (.activateTake relayUUID)) :
    Books settings opening (activateTake s t relayUUID) := by
  unfold Billing.activateTake
  split
  · exact books.move found (fun _ => rfl) trivial fun _ => nofun
  · exact books.move found (fun _ => rfl) trivial fun _ => nofun

theorem Books.activateRead {entry : PendingRelay}
    (found : s.threads.lookup t = some (.activateRead relayUUID entry)) :
    Books settings opening (activateRead s t relayUUID entry) := by
  unfold Billing.activateRead
  split
  · exact books.move found (fun _ => rfl) trivial fun _ => nofun
  · next contract read =>
    have balance : 0 ≤ contract.remainingMinutes :=
      le_trans (books.accounts.uncharged_nonneg _) (books.accounts.solvent _ contract read)
    exact books.move found (fun _ => rfl) balance fun _ => nofun

/-- A thread that opens a session keeps the books: the new row has no minutes, and the session is
held by nobody else. -/
theorem Books.open (absent : s.db.sessions.lookup row.id = none)
    (empty : row.includedMinutesUsed = 0) (sameId : row.id = session.id)
    (sameContract : row.contractID = session.contractID)
    (snapshot : 0 ≤ session.remainingAtStart)
    (free : ∀ id, ((s.threads.lookup t).map (Thread.uncharged id)).getD 0 = 0)
    (contracts : after.db.contracts = s.db.contracts)
    (sessions : after.db.sessions = s.db.sessions.insert row.id row)
    (active : after.active = s.active)
    (threads : after.threads = s.threads.insert t (.activateLedger relayUUID session)) :
    Books settings opening after := by
  -- a holder after the step is the thread with the new session, or held its session before
  have holders : ∀ holder x, holding after holder = some x →
      (holder = .thread t ∧ x = session) ∨ (holding s holder = some x ∧ x.id ≠ session.id) := by
    intro holder x holds
    have before : holding s holder = some x → x.id ≠ session.id := by
      intro held same
      obtain ⟨old, stored, _⟩ := books.holdings.row holder x held
      rw [same, ← sameId, absent] at stored
      exact Option.some_ne_none old stored.symm
    cases holder with
    | thread u =>
      rw [holding_of_insert threads] at holds
      split at holds
      · next same => exact .inl ⟨congrArg _ same, Option.some.inj holds.symm⟩
      · exact .inr ⟨holds, before holds⟩
    | entry other =>
      rw [holding, active] at holds
      exact .inr ⟨holds, before holds⟩
  refine ⟨books.accounts.record contracts ?_ ?_ (books.accounts.sound_of_insert threads trivial),
    ?_, ?_, ?_⟩
  · intro id other stored
    rw [sessions] at stored
    rcases Table.lookup_insert_iff.mp stored with ⟨rfl, rfl⟩ | ⟨_, before⟩
    · rfl
    · exact books.accounts.rows id other before
  · intro id contract found
    have sameUncharged : uncharged after id = uncharged s id := by
      have idle : (Thread.activateLedger relayUUID session).uncharged id = 0 := rfl
      rw [uncharged_of_insert threads, free id, idle]
      omega
    have sameRecorded : recorded after id = recorded s id := by
      rw [recorded, sessions, Table.sum_insert, absent, empty, ite_self, Option.map_none,
        Option.getD_none, sub_zero, add_zero]
      rfl
    rw [sameUncharged, sameRecorded]
    exact ⟨rfl, books.accounts.solvent id contract found⟩
  · intro holder x holds
    rcases holders holder x holds with ⟨_, rfl⟩ | ⟨held, _⟩
    · exact snapshot
    · exact books.holdings.snapshot holder x held
  · intro holder x holds
    rw [sessions]
    rcases holders holder x holds with ⟨_, rfl⟩ | ⟨held, different⟩
    · exact ⟨row, by rw [sameId, AList.lookup_insert], sameContract, empty⟩
    · rw [AList.lookup_insert_ne (sameId ▸ different)]
      exact books.holdings.row holder x held
  · intro holder other x y holdsX holdsY same
    rcases holders holder x holdsX with ⟨rfl, rfl⟩ | ⟨heldX, differentX⟩
    · rcases holders other y holdsY with ⟨rfl, _⟩ | ⟨_, differentY⟩
      · rfl
      · exact absurd same.symm differentY
    · rcases holders other y holdsY with ⟨rfl, rfl⟩ | ⟨heldY, _⟩
      · exact absurd same differentX
      · exact books.holdings.one holder other x y heldX heldY same

theorem Books.activateCreate {entry : PendingRelay}
    {contract : BillingContract} {overageRate : Rat} {input : Input}
    (found : s.threads.lookup t = some (.activateCreate relayUUID entry contract overageRate)) :
    Books settings opening
      (activateCreate s t relayUUID entry contract overageRate input) := by
  unfold Billing.activateCreate
  split
  · exact books.move found (fun _ => rfl) trivial fun _ => nofun
  · next db created =>
    rw [BillingDB.createBillingSession, Option.ite_none_left_eq_some, Option.some_inj] at created
    obtain ⟨present, rfl⟩ := created
    rw [Bool.not_eq_true, Option.isSome_eq_false_iff, Option.isNone_iff_eq_none] at present
    have balance : 0 ≤ contract.remainingMinutes := books.accounts.sound t _ found
    exact books.open present rfl rfl rfl balance (fun id => by rw [found]; rfl) rfl rfl rfl rfl

theorem Books.activateLedger
    (found : s.threads.lookup t = some (.activateLedger relayUUID session)) :
    Books settings opening (activateLedger s t relayUUID session) :=
  books.move found (fun _ => rfl) trivial fun _ held => held

end

/-- The session goes from the thread to the active map, in place of any that was there. -/
theorem holding_activateStore
    (stands : s.threads.lookup t = some (.activateStore relayUUID session))
    {x : ActiveSession}
    (holds : holding (activateStore s t relayUUID session) holder = some x) :
    holder ≠ .thread t ∧ holding s (holder.beforeStore t relayUUID) = some x := by
  cases holder with
  | thread u =>
    rw [holding_of_insert rfl] at holds
    split at holds
    · cases holds
    · next different => exact ⟨fun same => different (Holder.thread.inj same), holds⟩
  | entry other =>
    refine ⟨fun same => Holder.noConfusion same, ?_⟩
    rcases Table.lookup_insert_iff.mp holds with ⟨rfl, rfl⟩ | ⟨different, before⟩
    · rw [Holder.beforeStore, if_pos rfl, holding, stands]
      rfl
    · rw [Holder.beforeStore, if_neg different]
      exact before

theorem Books.activateStore (books : Books settings opening s)
    (found : s.threads.lookup t = some (.activateStore relayUUID session)) :
    Books settings opening (activateStore s t relayUUID session) := by
  refine ⟨books.accounts.frame (fun _ _ _ => by rw [found]; rfl) trivial, ?_⟩
  refine books.holdings.handOver (Holder.beforeStore t relayUUID)
    (fun holder x holds => ⟨x, (holding_activateStore found holds).2, rfl, rfl, rfl⟩) ?_
    (fun _ _ _ => rfl)
  intro holder other x y holdsX holdsY
  exact Holder.beforeStore_inj (holding_activateStore found holdsX).1
    (holding_activateStore found holdsY).1

/-! ### The stages of `EndRelay` -/

/-- The session goes from the active map to the thread. -/
theorem holding_endTake (found : s.active.lookup relayUUID = some session) {x : ActiveSession}
    (holds : holding (State.setThread { s with active := s.active.erase relayUUID } t
      (.endSplit session)) holder = some x) :
    holder ≠ .entry relayUUID ∧ holding s (holder.beforeTake t relayUUID) = some x := by
  cases holder with
  | thread u =>
    refine ⟨fun same => Holder.noConfusion same, ?_⟩
    rw [holding_of_insert rfl] at holds
    split at holds
    · next same =>
      rw [Holder.beforeTake, if_pos same]
      exact found.trans holds
    · next different =>
      rw [Holder.beforeTake, if_neg different]
      exact holds
  | entry other =>
    obtain ⟨different, before⟩ := Table.lookup_erase_iff.mp holds
    exact ⟨fun same => different (Holder.entry.inj same), before⟩

theorem Books.endTake (books : Books settings opening s)
    (found : s.threads.lookup t = some (.endTake relayUUID)) :
    Books settings opening (endTake s t relayUUID) := by
  unfold Billing.endTake
  split
  · exact books.move found (fun _ => rfl) trivial fun _ => nofun
  · next session active =>
    refine ⟨books.accounts.frame (fun _ _ _ => by rw [found]; rfl) trivial, ?_⟩
    refine books.holdings.handOver (Holder.beforeTake t relayUUID)
      (fun holder x holds => ⟨x, (holding_endTake active holds).2, rfl, rfl, rfl⟩) ?_
      (fun _ _ _ => rfl)
    intro holder other x y holdsX holdsY
    exact Holder.beforeTake_inj (holding_endTake active holdsX).1 (holding_endTake active holdsY).1

theorem Books.endSplit (books : Books settings opening s)
    (found : s.threads.lookup t = some (.endSplit session)) (endedAt : Int) :
    Books settings opening (s.setThread t (.endRead session endedAt)) :=
  books.move found (fun _ => rfl) trivial fun _ held => held

theorem getBillingSession_eq {db : BillingDB} {id : String}
    (read : db.getBillingSession id = some row) : db.sessions.lookup id = some row := by
  unfold BillingDB.getBillingSession at read
  grind

section

variable (books : Books settings opening s)

include books

theorem Books.endRead {endedAt : Int}
    (found : s.threads.lookup t = some (.endRead session endedAt)) :
    Books settings opening (endRead settings s t session endedAt) := by
  have held : holding s (.thread t) = some session := by
    rw [holding, found]
    rfl
  unfold Billing.endRead
  split
  · exact books.move found (fun _ => rfl) trivial fun _ => nofun
  · next row read =>
    have stored := getBillingSession_eq read
    obtain ⟨old, oldStored, sameContract, _⟩ := books.holdings.row _ session held
    rw [stored, Option.some_inj] at oldStored
    subst oldStored
    refine books.frame (fun _ _ _ => by rw [found]; rfl)
      ⟨books.accounts.rows _ row stored, sameContract, rawSeconds_nonneg _ _, rfl⟩ ?_
    intro other holds
    rw [held]
    exact holds

/-- A thread that records the minutes of its session keeps the books: what is recorded is in flight,
and the session is held no longer. -/
theorem Books.endUpdate (found : s.threads.lookup t = some (.endUpdate session row))
    (within : (s.db.contracts.lookup session.contractID).all (fun contract =>
      session.remainingAtStart ≤ available s contract ||
        roundUpMinutes row.rawSeconds settings.roundMin ≤ available s contract) = true) :
    Books settings opening (endUpdate s t session row) := by
  obtain ⟨sameId, sameContract, elapsed, used⟩ := books.accounts.sound t _ found
  have held : holding s (.thread t) = some session := by
    rw [holding, found]
    rfl
  obtain ⟨old, stored, oldContract, empty⟩ := books.holdings.row _ session held
  rw [← sameId] at stored
  have charged : 0 ≤ row.includedMinutesUsed := by
    rw [used]
    exact le_min (roundUpMinutes_nonneg _ elapsed) (books.holdings.snapshot _ session held)
  have recordedAfter : ∀ id, recorded (Billing.endUpdate s t session row) id =
      recorded s id + if session.contractID = id then row.includedMinutesUsed else 0 := by
    intro id
    have change := Table.sum_update (fun _ (row : BillingSession) =>
      if row.contractID = id then row.includedMinutesUsed else 0)
      (fun old => old.updated row) stored
    rw [empty, ite_self, sub_zero] at change
    rw [← oldContract]
    exact change
  have unchargedAfter : ∀ id, uncharged (Billing.endUpdate s t session row) id =
      uncharged s id + if session.contractID = id then row.includedMinutesUsed else 0 := by
    intro id
    rw [uncharged_of_insert rfl, found]
    exact congrArg (· + _) (sub_zero _)
  have lookups : ∀ id, (Billing.endUpdate s t session row).db.sessions.lookup id =
      if id = row.id then some (old.updated row) else s.db.sessions.lookup id := by
    intro id
    rw [← Option.map_some (f := fun old : BillingSession => old.updated row), ← stored]
    exact Table.lookup_update _ _ _ _
  refine ⟨books.accounts.record rfl ?_ ?_ (books.accounts.sound_of_insert rfl charged), ?_⟩
  · intro id other otherFound
    rw [lookups] at otherFound
    split at otherFound
    · next same =>
      cases otherFound
      exact (books.accounts.rows _ old stored).trans same.symm
    · exact books.accounts.rows id other otherFound
  · intro id contract contractFound
    refine ⟨by rw [recordedAfter, unchargedAfter]; omega, ?_⟩
    rw [unchargedAfter]
    have solvent := books.accounts.solvent id contract contractFound
    split
    · next same =>
      subst same
      have keyed := books.accounts.keyed _ contract contractFound
      rw [contractFound, Option.all_some, Bool.or_eq_true, decide_eq_true_iff, decide_eq_true_iff,
        available, keyed] at within
      omega
    · omega
  · -- the thread has let its session go, so the row that changed is nobody's
    have holders : ∀ holder x, holding (Billing.endUpdate s t session row) holder = some x →
        holder ≠ .thread t ∧ holding s holder = some x := by
      intro holder x holds
      cases holder with
      | thread u =>
        rw [holding_of_insert rfl] at holds
        split at holds
        · exact nomatch holds
        · next different => exact ⟨fun same => different (Holder.thread.inj same), holds⟩
      | entry relayUUID => exact ⟨Holder.noConfusion, holds⟩
    refine books.holdings.handOver id
      (fun holder x holds => ⟨x, (holders holder x holds).2, rfl, rfl, rfl⟩)
      (fun _ _ _ _ _ _ same => same) (fun holder x holds => ?_)
    obtain ⟨different, before⟩ := holders holder x holds
    rw [lookups, if_neg]
    intro same
    exact different (books.holdings.one holder _ x session before held (same.trans sameId))

variable {includedUsed : Int}

theorem Books.endLedger (found : s.threads.lookup t = some (.endLedger session includedUsed)) :
    Books settings opening (endLedger s t session includedUsed) := by
  have charged : 0 ≤ includedUsed := books.accounts.sound t _ found
  exact books.move found (fun _ => rfl) charged fun _ => nofun

theorem Books.endReadContract
    (found : s.threads.lookup t = some (.endReadContract session includedUsed)) :
    Books settings opening (endReadContract s t session includedUsed) := by
  have charged : 0 ≤ includedUsed := books.accounts.sound t _ found
  unfold Billing.endReadContract
  split
  · next missing =>
    refine books.frame (fun id contract stored => ?_) trivial
      (fun _ holds => nomatch holds)
    have other : session.contractID ≠ id := by
      rintro rfl
      exact Option.some_ne_none contract (stored.symm.trans missing)
    rw [found, Option.map_some, Option.getD_some, Thread.uncharged, if_neg other]
    rfl
  · next contract read =>
    have same : contract.id = session.contractID := books.accounts.keyed _ contract read
    refine books.frame (fun id _ _ => ?_) charged (fun _ holds => nomatch holds)
    rw [found, Option.map_some, Option.getD_some, Thread.uncharged, Thread.uncharged, same]

/-- A thread that writes the balance back over the one it read keeps the books: the minutes it had
in flight are taken from the balance, which covers them. -/
theorem Books.endWriteContract {contract : BillingContract}
    (found : s.threads.lookup t = some (.endWriteContract contract includedUsed))
    (current : (s.db.contracts.lookup contract.id).all (fun stored =>
      stored.remainingMinutes == contract.remainingMinutes) = true) (now : Int) :
    Books settings opening (endWriteContract s t contract includedUsed now) := by
  have threads : (Billing.endWriteContract s t contract includedUsed now).threads =
      s.threads.insert t .done := rfl
  have unchargedAfter : ∀ id,
      uncharged (Billing.endWriteContract s t contract includedUsed now) id =
        uncharged s id - if contract.id = id then includedUsed else 0 := by
    intro id
    rw [uncharged_of_insert threads, found]
    exact add_zero _
  have flight : includedUsed ≤ uncharged s contract.id := by
    have bound := books.accounts.le_uncharged found contract.id
    rwa [Thread.uncharged, if_pos rfl] at bound
  -- what the contract of an id holds afterwards
  have lookups : ∀ id after,
      (Billing.endWriteContract s t contract includedUsed now).db.contracts.lookup id =
        some after → ∃ stored, s.db.contracts.lookup id = some stored ∧ after.id = stored.id ∧
          after.remainingMinutes =
            stored.remainingMinutes - if contract.id = id then includedUsed else 0 := by
    intro id after afterFound
    rw [show (Billing.endWriteContract s t contract includedUsed now).db.contracts =
      s.db.contracts.update contract.id _ from rfl, Table.lookup_update] at afterFound
    split at afterFound
    · next same =>
      subst same
      obtain ⟨stored, storedFound, rfl⟩ := Option.map_eq_some_iff.mp afterFound
      rw [storedFound, Option.all_some, beq_iff_eq] at current
      have solvent := books.accounts.solvent _ stored storedFound
      refine ⟨stored, storedFound, rfl, ?_⟩
      simp only [BillingContract.updated, if_true]
      rw [if_neg (by omega)]
      omega
    · next different =>
      exact ⟨after, afterFound, rfl, by rw [if_neg (Ne.symm different), sub_zero]⟩
  have present : ∀ id stored, s.db.contracts.lookup id = some stored → ∃ after,
      (Billing.endWriteContract s t contract includedUsed now).db.contracts.lookup id =
        some after := by
    intro id stored storedFound
    rw [show (Billing.endWriteContract s t contract includedUsed now).db.contracts =
      s.db.contracts.update contract.id _ from rfl, Table.lookup_update]
    split
    · next same => exact ⟨_, by rw [← same, storedFound]; rfl⟩
    · exact ⟨stored, storedFound⟩
  constructor
  case accounts =>
    constructor
    case keyed =>
      intro id after afterFound
      obtain ⟨stored, storedFound, sameId, _⟩ := lookups id after afterFound
      rw [sameId]
      exact books.accounts.keyed id stored storedFound
    case rows => exact books.accounts.rows
    case balance =>
      intro id before opened
      obtain ⟨old, oldFound, balanced⟩ := books.accounts.balance id before opened
      obtain ⟨after, afterFound⟩ := present id old oldFound
      obtain ⟨stored, storedFound, _, remaining⟩ := lookups id after afterFound
      rw [oldFound, Option.some_inj] at storedFound
      subst storedFound
      refine ⟨after, afterFound, ?_⟩
      have same : recorded (Billing.endWriteContract s t contract includedUsed now) id =
        recorded s id := rfl
      rw [same, unchargedAfter, remaining]
      omega
    case solvent =>
      intro id after afterFound
      obtain ⟨stored, storedFound, _, remaining⟩ := lookups id after afterFound
      have solvent := books.accounts.solvent id stored storedFound
      rw [unchargedAfter, remaining]
      omega
    case sound => exact books.accounts.sound_of_insert threads trivial
  case holdings =>
    refine books.holdings.handOver id (fun holder x holds => ⟨x, ?_, rfl, rfl, rfl⟩)
      (fun _ _ _ _ _ _ same => same) (fun _ _ _ => rfl)
    cases holder with
    | thread u =>
      rw [holding_of_insert threads] at holds
      split at holds
      · exact nomatch holds
      · exact holds
    | entry relayUUID => exact holds

/-! ### The stages of `tickActive` -/

/-- A session in the active map may change in what is not charged: its phase and the minutes
shown. -/
theorem Books.retouch {thread : Thread}
    {current updated : ActiveSession} (active : s.active.lookup relayUUID = some current)
    (sameId : updated.id = current.id) (sameContract : updated.contractID = current.contractID)
    (sameSnapshot : updated.remainingAtStart = current.remainingAtStart)
    (sameUncharged : ∀ id, thread.uncharged id =
      ((s.threads.lookup t).map (Thread.uncharged id)).getD 0)
    (sound : thread.Sound settings) (free : thread.held = none) :
    Books settings opening
      { s with
        active := s.active.insert relayUUID updated
        threads := s.threads.insert t thread } := by
  refine ⟨books.accounts.frame (fun id _ _ => sameUncharged id) sound, ?_⟩
  refine books.holdings.handOver id (fun holder x holds => ?_) (fun _ _ _ _ _ _ same => same)
    fun _ _ _ => rfl
  cases holder with
  | thread u =>
    rw [holding_of_insert rfl] at holds
    split at holds
    · exact absurd (free.symm.trans holds) (Option.some_ne_none x).symm
    · exact ⟨x, holds, rfl, rfl, rfl⟩
  | entry other =>
    rcases Table.lookup_insert_iff.mp holds with ⟨rfl, rfl⟩ | ⟨_, before⟩
    · exact ⟨current, active, sameId.symm, sameContract.symm, sameSnapshot.symm⟩
    · exact ⟨x, before, rfl, rfl, rfl⟩

theorem Books.tickNext {snapshot : List ActiveSession}
    (found : s.threads.lookup t = some (.tickNext snapshot)) (now : Int) :
    Books settings opening (tickNext settings s t snapshot now) := by
  unfold Billing.tickNext
  split
  · exact books.move found (fun _ => rfl) trivial fun _ => nofun
  · next session rest =>
    simp only
    split
    · exact books.move found (fun _ => rfl) trivial fun _ => nofun
    · next current active =>
      split
      · exact books.retouch active rfl rfl rfl (fun _ => by rw [found]; rfl) trivial rfl
      · exact books.retouch active rfl rfl rfl (fun _ => by rw [found]; rfl) trivial rfl

theorem Books.tickLedger {sessionID phase : String} {rest : List ActiveSession}
    (found : s.threads.lookup t = some (.tickLedger sessionID phase rest)) :
    Books settings opening (tickLedger s t sessionID phase rest) :=
  books.move found (fun _ => rfl) trivial fun _ => nofun

/-! ### Runs -/

/-- A covered step of a thread keeps the books. -/
theorem Books.threadStep {thread : Thread} {input : Input}
    (found : s.threads.lookup t = some thread)
    (guard : covered settings s (.step t input) = true)
    (taken : threadStep settings s t input thread = some after) :
    Books settings opening after := by
  rw [covered, found] at guard
  cases thread with
  | done => exact nomatch taken
  | activateTake relayUUID => cases taken; exact books.activateTake found
  | activateRead relayUUID entry => cases taken; exact books.activateRead found
  | activateCreate relayUUID entry contract rate => cases taken; exact books.activateCreate found
  | activateLedger relayUUID session => cases taken; exact books.activateLedger found
  | activateStore relayUUID session => cases taken; exact books.activateStore found
  | endTake relayUUID => cases taken; exact books.endTake found
  | endSplit session => cases taken; exact books.endSplit found _
  | endRead session endedAt => cases taken; exact books.endRead found
  | endUpdate session row => cases taken; exact books.endUpdate found guard
  | endLedger session includedUsed => cases taken; exact books.endLedger found
  | endReadContract session includedUsed => cases taken; exact books.endReadContract found
  | endWriteContract contract includedUsed =>
    cases taken; exact books.endWriteContract found guard _
  | tickNext snapshot => cases taken; exact books.tickNext found _
  | tickLedger sessionID phase rest => cases taken; exact books.tickLedger found

/-- The books do not depend on the metadata of relays that have not paired. -/
theorem Books.withPending (pending : Table String PendingRelay) :
    Books settings opening { s with pending } :=
  ⟨⟨books.accounts.keyed, books.accounts.rows, books.accounts.balance, books.accounts.solvent,
    books.accounts.sound⟩, ⟨books.holdings.snapshot, books.holdings.row, books.holdings.one⟩⟩

/-- A goroutine that starts has nothing in flight and no session. -/
theorem Books.spawn {thread : Thread}
    (taken : spawn s t thread = some after) (idle : ∀ id, thread.uncharged id = 0)
    (sound : thread.Sound settings) (free : thread.held = none) :
    Books settings opening after := by
  rw [Billing.spawn, Option.ite_none_left_eq_some, Option.some_inj] at taken
  obtain ⟨unused, rfl⟩ := taken
  rw [Bool.not_eq_true, Option.isSome_eq_false_iff, Option.isNone_iff_eq_none] at unused
  exact books.frame (fun id _ _ => by rw [unused, idle id]; rfl) sound
    (fun _ holds => absurd (free.symm.trans holds) (Option.some_ne_none _).symm)

/-- A covered step keeps the books. -/
theorem Books.step {label : Label}
    (guard : covered settings s label = true) (taken : step settings s label = some after) :
    Books settings opening after := by
  cases label with
  | prepare synced now relayUUID deviceID operatorID =>
    simp only [Billing.step] at taken
    split at taken
    · cases taken
      exact books.withPending _
    · cases taken
      exact books
  | sweepPending now =>
    cases taken
    exact books.withPending _
  | activateRelay t relayUUID =>
    simp only [Billing.step] at taken
    split at taken
    · cases taken
      exact books
    · exact books.spawn taken (fun _ => rfl) trivial rfl
  | endRelay t relayUUID =>
    simp only [Billing.step] at taken
    split at taken
    · cases taken
      exact books
    · exact books.spawn taken (fun _ => rfl) trivial rfl
  | tickActive t => exact books.spawn taken (fun _ => rfl) trivial rfl
  | step t input =>
    obtain ⟨thread, found, moved⟩ := Option.bind_eq_some_iff.mp taken
    exact books.threadStep found guard moved

end

/-- Before the first session the books balance. -/
theorem books_fresh (settings : Settings) {db : BillingDB} (opening : Opening db)
    (nonneg : ∀ id contract, db.contracts.lookup id = some contract →
      0 ≤ contract.remainingMinutes) : Books settings db (fresh db) := by
  have noRecord : ∀ id, recorded (fresh db) id = 0 := by
    intro id
    rw [recorded, fresh, opening.unused]
    rfl
  have empty : ∀ holder, holding (fresh db) holder = none := by
    intro holder
    cases holder with
    | thread t => rfl
    | entry relayUUID => rfl
  have nothing : ∀ holder session, holding (fresh db) holder ≠ some session := by
    intro holder session holds
    exact Option.some_ne_none session (holds.symm.trans (empty holder))
  refine ⟨⟨opening.keyed, ?_, ?_, nonneg, fun _ thread found => nomatch found⟩, ⟨?_, ?_, ?_⟩⟩
  · intro id row found
    rw [fresh, opening.unused] at found
    exact nomatch found
  · intro id before found
    refine ⟨before, found, ?_⟩
    rw [noRecord]
    exact (sub_zero _).symm.trans (add_zero _).symm
  · exact fun holder session holds => absurd holds (nothing holder session)
  · exact fun holder session holds => absurd holds (nothing holder session)
  · exact fun holder _ session _ holds => absurd holds (nothing holder session)

/-- Books that balance conserve the minutes of every contract. -/
theorem Books.conserved (books : Books settings opening s) : Conserved opening s := by
  intro id before opened
  obtain ⟨now, stored, balanced⟩ := books.accounts.balance id before opened
  have solvent := books.accounts.solvent id now stored
  have flight := books.accounts.uncharged_nonneg id
  refine ⟨by omega, fun settled => ⟨now, stored, ?_⟩⟩
  have none : uncharged s id = 0 := by
    refine Table.sum_eq_zero fun t thread found => ?_
    have idle := settled t thread found
    cases thread <;> simp_all [Thread.uncharged, Thread.charging]
  omega

end books

/-- The same two sessions one after the other, and a tick during the first: the second is split at
the two minutes the first has left. -/
def consecutive : List Label :=
  openSession 0 "u1" "s1" 0 ++ [.tickActive 1, .step 1 (atMinute 3 ""), .step 1 (atMinute 3 "")] ++
    closeSession 2 "u1" 8 ++ openSession 3 "u2" "s2" 20 ++ closeSession 4 "u2" 28

end SovaDesk.Billing
