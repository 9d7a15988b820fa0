/-
This file settles what a device's own request to change its ID does to the database and
to the peer map.

The request is checked against the stored row before either is touched, and the
transaction comes before the map, so a request that is refused, or that the database
fails, leaves both as they are. The checks compare what is sent with what is stored and
pass over what is missing on either side: a request without a key whose UUID does not
have the sixteen bytes of the wire format, as stock clients send it, proves nothing and
is accepted. With the row go the references to it in other rows and tables.
-/

import SovaDesk.Db.Rename
import SovaDesk.Signal.Server

namespace SovaDesk.Db

open Signal (Bytes RegisterPk RegisterPkResult PeerRow PeerIDState Entry isValidPeerID idChangeKey
  idChangeUUIDMismatch peerUUIDEqual peerUUIDFromDB normalizePeerUUIDBytes)

/-! ### The request -/

/-- The database and the peers that are connected. -/
structure Stores where
  db : Database
  peers : Table String Entry

/-- Which of the calls of a request the database fails. -/
structure Faults where
  getPeer : Bool
  getPeerIDState : Bool
  statement : Statement → Bool

/-- The columns of a row that a query hands out. -/
def Peer.read (row : Peer) (id : String) : PeerRow where
  id := id
  uuid := row.uuid
  pk := row.pk.getD []
  ip := row.ip
  user := row.user
  hostname := row.hostname
  os := row.os
  version := row.version
  status := row.status
  natType := row.natType
  disabled := row.disabled
  banned := row.banned
  softDeleted := row.softDeleted.getD false
  note := row.note
  tags := row.tags
  heartbeatSeq := row.heartbeatSeq
  deviceType := row.deviceType
  linkedPeerID := row.linkedPeerID
  displayName := row.displayName

/-- `GetPeer`: the row of an ID that is not soft-deleted, if there is one. It is an error when the
flag is NULL. -/
def Database.getPeer (db : Database) (id : String) : Option (Option PeerRow) :=
  match db.peers.lookup id with
  | none => some none
  | some row =>
    match row.softDeleted with
    | none => none
    | some true => some none
    | some false => some (some (row.read id))

/-- `GetPeerIDState`. -/
def Database.getPeerIDState (db : Database) (id : String) : Option PeerIDState :=
  match db.peers.lookup id with
  | none => some .missing
  | some row => row.softDeleted.map fun deleted => if deleted then .softDeleted else .active

/-- The entry of a device that has changed its ID; its connections are closed. -/
def renamedEntry (newID : String) (effectivePK uuid : Bytes) (entry : Entry) : Entry :=
  { entry with
    id := newID
    pk := effectivePK
    uuid := if uuid.length > 0 then normalizePeerUUIDBytes uuid else entry.uuid
    wsConn := none }

/-- Move the entry of the old ID, if there is one. -/
def moveEntry (peers : Table String Entry) (oldID newID : String) (change : Entry → Entry) :
    Table String Entry :=
  match peers.lookup oldID with
  | none => AList.erase oldID peers
  | some entry => AList.insert newID (change entry) (AList.erase oldID peers)

/-- `processIDChange`. -/
def processIDChange (faults : Faults) (s : Stores) (msg : RegisterPk) :
    Stores × RegisterPkResult :=
  if !isValidPeerID msg.oldID then (s, .notSupport)
  else if !isValidPeerID msg.id then (s, .notSupport)
  else
    match if faults.getPeer then none else s.db.getPeer msg.oldID with
    | none => (s, .serverError)
    | some none => (s, .notSupport)
    | some (some oldPeer) =>
      match idChangeKey oldPeer msg.pk with
      | none => (s, .notSupport)
      | some effectivePK =>
        if idChangeUUIDMismatch oldPeer msg.uuid then (s, .uuidMismatch)
        else if (s.peers.lookup msg.id).isSome then (s, .idExists)
        else
          match if faults.getPeerIDState then none else s.db.getPeerIDState msg.id with
          | none => (s, .serverError)
          | some .active | some .softDeleted => (s, .idExists)
          | some .missing =>
            match changePeerID faults.statement s.db msg.oldID msg.id "client" with
            | (.error .peerIDExists, db) | (.error .peerIDSoftDeleted, db) =>
              ({ s with db }, .idExists)
            | (.error .peerNotFound, db) => ({ s with db }, .notSupport)
            | (.error (.database _), db) => ({ s with db }, .serverError)
            | (.ok (), db) =>
              ({ db,
                 peers := moveEntry s.peers msg.oldID msg.id
                  (renamedEntry msg.id effectivePK msg.uuid) }, .ok)

/-! ### The two laws -/

/-- The request shows the key or the UUID of the device with the old ID. -/
def Proves (s : Stores) (msg : RegisterPk) : Prop :=
  ∃ row, s.db.getPeer msg.oldID = some (some row) ∧
    ((msg.pk ≠ [] ∧ row.pk = msg.pk) ∨
      (msg.uuid ≠ [] ∧ row.uuid ≠ "" ∧ peerUUIDEqual (peerUUIDFromDB row.uuid) msg.uuid = true))

/-- The row and the entry of the old ID have moved to the new one, and no other row of the peers
table and no other entry differs. -/
structure OnlyMoved (before after : Stores) (oldID newID : String) : Prop where
  row : after.db.peers.lookup newID = before.db.peers.lookup oldID
  rowLeft : after.db.peers.lookup oldID = none
  rows : ∀ id, id ≠ oldID → id ≠ newID → after.db.peers.lookup id = before.db.peers.lookup id
  entry : (after.peers.lookup newID).isSome = (before.peers.lookup oldID).isSome
  entryLeft : after.peers.lookup oldID = none
  entries : ∀ id, id ≠ oldID → id ≠ newID → after.peers.lookup id = before.peers.lookup id

/-- A change is accepted only with proof and moves nothing else; what is refused changes nothing. -/
def ProvenAndAtomic (faults : Faults) (s : Stores) (msg : RegisterPk) : Prop :=
  ((processIDChange faults s msg).2 = .ok →
      Proves s msg ∧ OnlyMoved s (processIDChange faults s msg).1 msg.oldID msg.id) ∧
    ((processIDChange faults s msg).2 ≠ .ok → (processIDChange faults s msg).1 = s)

/-- What the request shows of the device with the old ID is not wrong: a key that is sent where one
is stored, and a UUID of sixteen bytes where one is stored. -/
def Uncontradicted (row : PeerRow) (msg : RegisterPk) : Prop :=
  (msg.pk ≠ [] → row.pk ≠ [] → row.pk = msg.pk) ∧
    (msg.uuid.length = 16 → row.uuid ≠ "" →
      peerUUIDEqual (peerUUIDFromDB row.uuid) msg.uuid = true)

/-- The key the device has from now on: the one that was sent, or the stored one. -/
def keyAfter (row : PeerRow) (msg : RegisterPk) : Bytes := if msg.pk = [] then row.pk else msg.pk

/-- A row that names the new ID where it named the old one. -/
def relinked (oldID newID : String) (row : Peer) : Peer :=
  { row with linkedPeerID := moved oldID newID row.linkedPeerID }

/-- The row and the entry of the old ID have moved to the new one, and the references to the old ID
with them; nothing else differs. The row's GUID is left open. -/
structure MovedWithReferences (before after : Stores) (msg : RegisterPk) (oldRow : Peer) :
    Prop where
  row : ∃ guid, after.db.peers.lookup msg.id =
    some { relinked msg.oldID msg.id oldRow with guid }
  rowLeft : after.db.peers.lookup msg.oldID = none
  rows : ∀ id, id ≠ msg.oldID → id ≠ msg.id →
    after.db.peers.lookup id = (before.db.peers.lookup id).map (relinked msg.oldID msg.id)
  deviceTokens : ∀ id, after.db.deviceTokens.lookup id =
    (before.db.deviceTokens.lookup id).map fun token =>
      { token with peerID := moved msg.oldID msg.id token.peerID }
  billing : after.db.billing =
    { before.db.billing with
      orgDevices := before.db.billing.orgDevices.map fun entry =>
        (entry.1, moved msg.oldID msg.id entry.2) }
  strategyAssignments : after.db.strategyAssignments = before.db.strategyAssignments
  accessPolicies : after.db.accessPolicies = before.db.accessPolicies
  idChangeHistory : after.db.idChangeHistory =
    before.db.idChangeHistory ++ [{ oldID := msg.oldID, newID := msg.id, reason := "client" }]
  entry : after.peers.lookup msg.id = (before.peers.lookup msg.oldID).map
    (renamedEntry msg.id (keyAfter (oldRow.read msg.oldID) msg) msg.uuid)
  entryLeft : after.peers.lookup msg.oldID = none
  entries : ∀ id, id ≠ msg.oldID → id ≠ msg.id → after.peers.lookup id = before.peers.lookup id

/-! ### What a request does -/

section request

variable {faults : Faults} {s : Stores} {msg : RegisterPk} {db : Database} {id : String}
  {row : Peer}

theorem getPeer_some {read : PeerRow} (found : db.getPeer id = some (some read)) :
    ∃ row, db.peers.lookup id = some row ∧ read = row.read id := by
  unfold Database.getPeer at found
  cases stored : db.peers.lookup id with
  | none => simp only [stored, Option.some_inj, reduceCtorEq] at found
  | some row =>
    simp only [stored] at found
    cases flag : row.softDeleted with
    | none => simp only [flag, reduceCtorEq] at found
    | some deleted =>
      cases deleted with
      | true => simp only [flag, Option.some_inj, reduceCtorEq] at found
      | false =>
        simp only [flag, Option.some_inj] at found
        exact ⟨row, rfl, found.symm⟩

/-- A key passes if it is not another than the stored one. -/
theorem idChangeKey_some {read : PeerRow} {pk effectivePK : Bytes}
    (passed : idChangeKey read pk = some effectivePK) :
    (pk ≠ [] → read.pk ≠ [] → read.pk = pk) ∧
      effectivePK = if pk = [] then read.pk else pk := by
  unfold idChangeKey at passed
  simp only [List.length_eq_zero_iff, gt_iff_lt, List.length_pos_iff] at passed
  split at passed
  · next omitted =>
    rw [if_pos omitted]
    exact ⟨fun sent => absurd omitted sent, (Option.some.inj passed).symm⟩
  · next sent =>
    rw [if_neg sent]
    split at passed
    · cases passed
    · next same =>
      refine ⟨fun _ stored => ?_, (Option.some.inj passed).symm⟩
      by_contra other
      exact same ⟨stored, other⟩

theorem idChangeUUIDMismatch_false {read : PeerRow} {uuid : Bytes}
    (passed : idChangeUUIDMismatch read uuid = false) (wire : uuid.length = 16)
    (stored : read.uuid ≠ "") : peerUUIDEqual (peerUUIDFromDB read.uuid) uuid = true := by
  unfold idChangeUUIDMismatch at passed
  simp only [wire, beq_self_eq_true, Bool.true_and, Bool.and_eq_false_iff, bne_eq_false_iff_eq,
    Bool.not_eq_false'] at passed
  exact passed.resolve_left stored

/-- A request that is accepted: the row it was checked against, and what it left. -/
structure Accepted (faults : Faults) (s : Stores) (msg : RegisterPk) (row : Peer) : Prop where
  found : s.db.getPeer msg.oldID = some (some (row.read msg.oldID))
  stored : s.db.peers.lookup msg.oldID = some row
  uncontradicted : Uncontradicted (row.read msg.oldID) msg
  rowFree : s.db.peers.lookup msg.id = none
  entryFree : s.peers.lookup msg.id = none
  result : processIDChange faults s msg =
    ({ db := s.db.renamed row msg.oldID msg.id "client"
       peers := moveEntry s.peers msg.oldID msg.id
        (renamedEntry msg.id (keyAfter (row.read msg.oldID) msg) msg.uuid) }, .ok)

/-- A request is accepted, or changes nothing and is answered otherwise. -/
theorem accepted_or_unchanged (faults : Faults) (s : Stores) (msg : RegisterPk) :
    (∃ row, Accepted faults s msg row) ∨
      ((processIDChange faults s msg).1 = s ∧ (processIDChange faults s msg).2 ≠ .ok) := by
  cases result : processIDChange faults s msg with | mk after answer =>
  have handled := result
  unfold processIDChange at result
  have unchanged : ∀ other : RegisterPkResult, other ≠ .ok → (s, other) = (after, answer) →
      (after, answer).1 = s ∧ (after, answer).2 ≠ .ok := by
    rintro other refused same
    exact ⟨(congrArg Prod.fst same).symm, (congrArg Prod.snd same) ▸ refused⟩
  split at result
  · exact .inr (unchanged _ (by decide) result)
  split at result
  · exact .inr (unchanged _ (by decide) result)
  split at result
  · exact .inr (unchanged _ (by decide) result)
  · exact .inr (unchanged _ (by decide) result)
  next read loaded =>
  split at result
  · exact .inr (unchanged _ (by decide) result)
  next effectivePK passedKey =>
  split at result
  · exact .inr (unchanged _ (by decide) result)
  next passedUUID =>
  split at result
  · exact .inr (unchanged _ (by decide) result)
  next entryFree =>
  split at result
  · exact .inr (unchanged _ (by decide) result)
  · exact .inr (unchanged _ (by decide) result)
  · exact .inr (unchanged _ (by decide) result)
  have failed : ∀ error db, changePeerID faults.statement s.db msg.oldID msg.id "client" =
      (.error error, db) → db = s.db := by
    intro error db outcome
    have same := changePeerID_error (congrArg Prod.fst outcome)
    rwa [outcome] at same
  split at result
  · next outcome =>
    obtain rfl := failed _ _ outcome
    exact .inr (unchanged _ (by decide) result)
  · next outcome =>
    obtain rfl := failed _ _ outcome
    exact .inr (unchanged _ (by decide) result)
  · next outcome =>
    obtain rfl := failed _ _ outcome
    exact .inr (unchanged _ (by decide) result)
  · next outcome =>
    obtain rfl := failed _ _ outcome
    exact .inr (unchanged _ (by decide) result)
  · next db outcome =>
    obtain ⟨row, stored, rowFree, same⟩ := changePeerID_ok (congrArg Prod.fst outcome)
    rw [outcome] at same
    have found := (Option.ite_none_left_eq_some.mp loaded).2
    obtain ⟨other, otherStored, readAs⟩ := getPeer_some found
    obtain rfl := Option.some.inj (stored.symm.trans otherStored)
    obtain ⟨keys, effective⟩ := idChangeKey_some passedKey
    subst readAs
    refine .inl ⟨row, found, stored, ⟨keys, fun wire known => ?_⟩, rowFree, ?_, ?_⟩
    · rw [Bool.not_eq_true] at passedUUID
      exact idChangeUUIDMismatch_false passedUUID wire known
    · rwa [Bool.not_eq_true, Option.isSome_eq_false_iff, Option.isNone_iff_eq_none] at entryFree
    · have tables : db = s.db.renamed row msg.oldID msg.id "client" := same
      rw [handled, ← result, effective, tables]
      rfl

/-- The entry of the old ID is moved to an ID without one. -/
theorem lookup_moveEntry {peers : Table String Entry} {oldID newID : String}
    (different : newID ≠ oldID) (free : peers.lookup newID = none) (change : Entry → Entry)
    (id : String) :
    (moveEntry peers oldID newID change).lookup id =
      if id = oldID then none
      else if id = newID then (peers.lookup oldID).map change
      else peers.lookup id := by
  unfold moveEntry
  cases found : peers.lookup oldID with
  | none =>
    simp only [Option.map_none, Table.lookup_erase_if]
    split
    · rfl
    · split
      · next new => rw [new, free]
      · rfl
  | some entry =>
    simp only [Option.map_some, Table.lookup_insert_if, Table.lookup_erase_if]
    split
    · next new => rw [new, if_neg different]
    · rfl

theorem Accepted.different (accepted : Accepted faults s msg row) : msg.id ≠ msg.oldID := by
  intro same
  have free := accepted.rowFree
  rw [same, accepted.stored] at free
  cases free

/-- What is left after an accepted request. -/
theorem Accepted.moved (accepted : Accepted faults s msg row) :
    MovedWithReferences s (processIDChange faults s msg).1 msg row := by
  have different := accepted.different
  rw [accepted.result]
  refine
    { row := ⟨"", ?_⟩
      rowLeft := ?_
      rows := fun id old new => ?_
      deviceTokens := fun id => Table.lookup_mapValues _ _ _
      billing := rfl
      strategyAssignments := rfl
      accessPolicies := rfl
      idChangeHistory := rfl
      entry := ?_
      entryLeft := ?_
      entries := fun id old new => ?_ }
  · rw [lookup_peers_renamed, if_neg different, if_pos rfl]
    rfl
  · rw [lookup_peers_renamed, if_pos rfl]
  · rw [lookup_peers_renamed, if_neg old, if_neg new]
    rfl
  · rw [lookup_moveEntry different accepted.entryFree, if_neg different, if_pos rfl]
  · rw [lookup_moveEntry different accepted.entryFree, if_pos rfl]
  · rw [lookup_moveEntry different accepted.entryFree, if_neg old, if_neg new]

end request

/-! ### A request of a stock client -/

/-- A device with a key and a UUID. -/
def ownedStores : Stores where
  db :=
    { plainTables with
      peers := (∅ : Table String Peer).insert "MACPRO1"
        { uuid := "aabbccddeeff00112233445566778899", pk := some [0x42] } }
  peers := ∅

/-- A change that is sent without a key, and with a UUID of seventeen bytes. -/
def stockRequest : RegisterPk where
  id := "MACPRO"
  oldID := "MACPRO1"
  uuid := "machine-uid-bytes".toUTF8.data.toList
  pk := []
  noRegisterDevice := false

def noFaults : Faults where
  getPeer := false
  getPeerIDState := false
  statement _ := false

/-- Anyone may send it. -/
theorem stockRequest_unproven :
    ¬ ∀ faults s msg, ProvenAndAtomic faults s msg := by
  intro always
  have accepted : (processIDChange noFaults ownedStores stockRequest).2 = .ok := by decide
  obtain ⟨row, found, proof⟩ := ((always noFaults ownedStores stockRequest).1 accepted).1
  have stored : (ownedStores.db.getPeer stockRequest.oldID).map (·.map fun row => row.uuid) =
      some (some "aabbccddeeff00112233445566778899") := by decide
  rw [found] at stored
  have uuid : row.uuid = "aabbccddeeff00112233445566778899" :=
    Option.some.inj (Option.some.inj stored)
  rcases proof with ⟨sent, _⟩ | ⟨_, _, same⟩
  · exact sent rfl
  · rw [uuid] at same
    exact absurd same (by decide)

/-! ### Every request -/

/-- An accepted change contradicts nothing that is stored of the device, and moves its row and its
entry with the references to it; every other request changes nothing. -/
theorem processIDChange_uncontradicted (faults : Faults) (s : Stores) (msg : RegisterPk) :
    ((processIDChange faults s msg).2 = .ok →
        ∃ row, s.db.peers.lookup msg.oldID = some row ∧
          Uncontradicted (row.read msg.oldID) msg ∧
          MovedWithReferences s (processIDChange faults s msg).1 msg row) ∧
      ((processIDChange faults s msg).2 ≠ .ok → (processIDChange faults s msg).1 = s) := by
  rcases accepted_or_unchanged faults s msg with ⟨row, accepted⟩ | ⟨same, refused⟩
  · refine ⟨fun _ => ⟨row, accepted.stored, accepted.uncontradicted, accepted.moved⟩,
      fun refused => absurd ?_ refused⟩
    rw [accepted.result]
  · exact ⟨fun answered => absurd answered refused, fun _ => same⟩

end SovaDesk.Db
