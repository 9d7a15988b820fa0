/-
This file settles whether the identity of a registered device can be taken over.

The UUID a key registration presents is compared with the UUID in the peer map, never
with the one in the database. A device whose entry has expired, was lost in a restart,
was made by a WebSocket heartbeat or has forgotten its UUID is therefore open to any
UUID: the row's UUID and key are overwritten. A key registration keeps the identity of
every registered device exactly when it is refused before that comparison, or the map
remembers a UUID that differs from the one presented.
-/

import SovaDesk.Signal.Server

namespace SovaDesk.Signal

open Transition

/-! ### The property -/

/-- A row that is not deleted and holds a UUID and a key. -/
def PeerRow.Registered (row : PeerRow) : Prop :=
  row.softDeleted = false ∧ row.uuid ≠ "" ∧ row.pk ≠ []

/-- A UUID was presented, and it is not that of the row. -/
def PeerRow.Foreign (row : PeerRow) (uuid : Bytes) : Prop :=
  uuid ≠ [] ∧ peerUUIDEqual (peerUUIDFromDB row.uuid) uuid = false

/-- What identifies the device of a row. -/
def PeerRow.identity (row : PeerRow) : String × Bytes := (row.uuid, row.pk)

/-- The row of an ID keeps its identity over a key registration, in place or under the new ID the
message moves it to. -/
def IdentityKept (after : Server) (msg : RegisterPk) (id : String) (row : PeerRow) : Prop :=
  ∃ id' row', after.db.peers.lookup id' = some row' ∧ row'.identity = row.identity ∧
    (id' = id ∨ (msg.oldID = id ∧ id' = msg.id))

/-- No registered device loses its identity to a key registration with another UUID. -/
def NotTakenOver (taken : Taken Server Label) : Prop :=
  ∀ env msg addr transport, taken.label = .registerPk env msg addr transport →
    ∀ id row, taken.before.db.peers.lookup id = some row → row.Registered → row.Foreign msg.uuid →
      IdentityKept taken.after msg id row

/-! ### The condition -/

/-- The peer map remembers a UUID for the ID, and it is not the one presented. -/
def Remembered (s : Server) (id : String) (uuid : Bytes) : Prop :=
  ∃ entry, s.peers.lookup id = some entry ∧ entry.uuid ≠ [] ∧ peerUUIDEqual entry.uuid uuid = false

/-- A key registration with another UUID that reaches the row of a registered device, one that is
not banned, finds the device's UUID remembered. -/
def Checked (taken : Taken Server Label) : Prop :=
  ∀ env msg addr transport, taken.label = .registerPk env msg addr transport →
    ∀ id row, registersAt taken.before msg addr = some id →
      taken.before.db.peers.lookup id = some row → row.Registered → row.Foreign msg.uuid →
      row.banned = false → Remembered taken.before id msg.uuid

/-! ### What a registration writes -/

section identity

variable {config : Config} {s : Server} {env : Env} {msg : RegisterPk} {addr : Addr} {id : String}
  {uuid pk : Bytes} {row : PeerRow}

/-- Binding an owner changes the owner's column only. -/
theorem lookup_bindPeerOwner {Value : Type} (view : PeerRow → Value)
    (blind : ∀ row user, view { row with user } = view row) (db : PeerDB)
    (clientID clientUUID username : String) (id : String) :
    ((bindPeerOwner db clientID clientUUID username).peers.lookup id).map view =
      (db.peers.lookup id).map view := by
  unfold bindPeerOwner
  split
  · rfl
  · split
    · rfl
    · split
      · rfl
      · next found _ =>
        rw [PeerDB.updatePeerUser, Table.lookup_update]
        split
        · next same =>
          subst same
          rw [Option.map_map]
          congr 1
          funext row
          simp only [Function.comp_apply]
          split
          · rfl
          · exact blind row _
        · rfl

theorem lookup_applyActiveSessionOwner {Value : Type} (view : PeerRow → Value)
    (blind : ∀ row user, view { row with user } = view row) (config : Config) (db : PeerDB)
    (peerID peerUUID : String) (id : String) :
    ((applyActiveSessionOwner config db peerID peerUUID).peers.lookup id).map view =
      (db.peers.lookup id).map view := by
  unfold applyActiveSessionOwner
  split
  · rfl
  · exact lookup_bindPeerOwner view blind db _ _ _ id

theorem identity_mergeRow (old new : PeerRow) :
    (PeerDB.mergeRow old new).identity =
      (PeerDB.keepIfEmpty new.uuid old.uuid, if new.pk = [] then old.pk else new.pk) := rfl

/-- The row a stored key leaves under an ID: that of the ID itself takes the UUID and the key, any
other keeps its own. -/
theorem identity_storeKey (config : Config) (env : Env) (addr : Addr) (uuid pk : Bytes)
    (stored : s.db.peers.lookup id = some row) (target : String) :
    (((storeKey config s env target uuid pk addr).db.peers.lookup id).map PeerRow.identity) =
      some (if id = target then
        (PeerDB.keepIfEmpty (hexText uuid) row.uuid, if pk = [] then row.pk else pk)
      else row.identity) := by
  have written : (storeKey config s env target uuid pk addr).db =
      applyActiveSessionOwner config (s.db.upsertPeer (registeredRow target uuid pk)) target
        (hexText uuid) := by
    unfold storeKey bindTCPSessionPeer
    split
    · rfl
    · rfl
  rw [written, lookup_applyActiveSessionOwner PeerRow.identity (fun _ _ => rfl),
    PeerDB.lookup_upsertPeer]
  have target_id : (registeredRow target uuid pk).id = target := rfl
  rw [target_id]
  split
  · next same =>
    subst same
    simp only [stored, Option.map_some, identity_mergeRow]
    rfl
  · rw [stored, Option.map_some]

/-- A stored key with another UUID changes the identity of the row. -/
theorem identity_storeKey_ne (foreign : row.Foreign uuid) :
    (PeerDB.keepIfEmpty (hexText uuid) row.uuid, if pk = [] then row.pk else pk) ≠
      row.identity := by
  intro same
  have text : hexText uuid ≠ "" := fun empty => foreign.1 (hexText_eq_empty.mp empty)
  have sameUUID : hexText uuid = row.uuid := by
    have first := congrArg Prod.fst same
    rwa [PeerDB.keepIfEmpty, if_neg text] at first
  have differs := foreign.2
  rw [← sameUUID, peerUUIDFromDB_hexText, peerUUIDEqual_refl] at differs
  exact Bool.noConfusion differs

theorem identity_changePeerID {db after : PeerDB} {oldID newID reason : String}
    (changed : db.changePeerID oldID newID reason = .ok after)
    (stored : db.peers.lookup id = some row) :
    ∃ id' row', after.peers.lookup id' = some row' ∧ row'.identity = row.identity ∧
      (id' = id ∨ (oldID = id ∧ id' = newID)) := by
  obtain ⟨free, ⟨old, found, lookups⟩, _⟩ := PeerDB.changePeerID_ok changed
  have taken := (PeerDB.getPeer_eq_some.mp found).1
  have other : id ≠ newID := by
    rintro rfl
    exact Option.some_ne_none row (stored.symm.trans free)
  by_cases renamed : id = oldID
  · subst renamed
    obtain rfl := Option.some.inj (stored.symm.trans taken)
    refine ⟨newID, PeerDB.relink id newID { row with id := newID }, ?_, rfl, .inr ⟨rfl, rfl⟩⟩
    rw [lookups, if_neg other.symm, if_pos rfl]
  · refine ⟨id, PeerDB.relink oldID newID row, ?_, rfl, .inl rfl⟩
    rw [lookups, if_neg renamed, if_neg other, stored, Option.map_some]

/-- What an ID change of a client does to the tables: nothing, or the change of the store. -/
theorem processIDChange_db (s : Server) (msg : RegisterPk) :
    (processIDChange s msg).1.db = s.db ∨
      ∃ db, s.db.changePeerID msg.oldID msg.id "client" = .ok db ∧
        (processIDChange s msg).1.db = db := by
  have moved : ∀ (t : Server) old new change, (moveEntry t old new change).db = t.db := by
    intro t old new change
    unfold moveEntry removeEntry
    grind
  unfold processIDChange
  grind

/-! ### One step -/

theorem registersAt_ne_empty (target : registersAt s msg addr = some id) : id ≠ "" := by
  rw [registersAt, Option.ite_none_left_eq_some] at target
  obtain ⟨passed, resolved⟩ := target
  have named : msg.id ≠ "" := fun empty => passed (.inl empty)
  unfold resolveRegistrationPeerID at resolved
  grind

theorem registersAt_oldID (target : registersAt s msg addr = some id) : msg.oldID = "" := by
  rw [registersAt, Option.ite_none_left_eq_some] at target
  by_contra change
  exact target.1 (.inr (.inr (.inr (.inl change))))

/-- The row of a registered device is not written when the checks fail, and its checks are the ban
and the UUID remembered. -/
theorem storesKey_registered (stored : s.db.peers.lookup id = some row) (live : row.Registered)
    (foreign : row.Foreign uuid) :
    storesKey config s env id uuid = true ↔ row.banned = false ∧ ¬ Remembered s id uuid := by
  have present : s.db.getPeer id = some row := PeerDB.getPeer_eq_some.mpr ⟨stored, live.1⟩
  have remembered : uuidMismatch (entryForPk s env id) uuid = true ↔ Remembered s id uuid := by
    unfold uuidMismatch entryForPk Remembered
    cases found : s.peers.lookup id with
    | none => simp
    | some entry =>
      simp only [Option.getD_some, Bool.and_eq_true, decide_eq_true_eq, Bool.not_eq_true',
        List.length_pos_iff, Option.some_inj, exists_eq_left', ne_eq]
      exact ⟨fun h => ⟨h.1.1, h.2⟩, fun h => ⟨⟨h.1, foreign.1⟩, h.2⟩⟩
  have notDeleted : s.db.isPeerSoftDeleted id = false := by
    rw [PeerDB.isPeerSoftDeleted, stored, Option.any_some, live.1]
  have ban : s.db.isPeerBanned id = row.banned := by
    rw [PeerDB.isPeerBanned, stored, Option.any_some]
  rw [← remembered]
  simp only [storesKey, notDeleted, present, ban, Option.isSome_some, Bool.not_false, Bool.true_or,
    Bool.true_and, Bool.and_eq_true, Bool.not_eq_true', Bool.not_eq_true]

/-- The database after a key registration, whatever carried it. -/
theorem registerPkOver_db (transport : Transport) :
    (registerPkOver config s env msg addr transport).db =
      (processRegisterPk config s env msg addr).1.db := by
  have bound : ∀ (t : Server) peerID conn, (bindPeerWSConn t peerID conn).db = t.db := by
    intro t peerID conn
    unfold bindPeerWSConn
    split
    · rfl
    · rfl
  cases transport with
  | udp => rfl
  | tcp => rfl
  | ws conn =>
    simp only [registerPkOver]
    split
    · next after result => rw [bound, result]
    · next result => rw [result]

/-- A key registration with another UUID keeps the identity of a registered device exactly when it
does not reach its row, the row is banned, or the device's UUID is remembered. -/
theorem identityKept_iff (stored : s.db.peers.lookup id = some row) (live : row.Registered)
    (foreign : row.Foreign msg.uuid) (transport : Transport) :
    IdentityKept (registerPkOver config s env msg addr transport) msg id row ↔
      (registersAt s msg addr = some id → row.banned = false → Remembered s id msg.uuid) := by
  unfold IdentityKept
  rw [registerPkOver_db]
  cases target : registersAt s msg addr with
  | none =>
    refine iff_of_true ?_ (fun reaches => nomatch reaches)
    rcases processRegisterPk_of_none target with same | ⟨_, change⟩
    · rw [same]
      exact ⟨id, row, stored, rfl, .inl rfl⟩
    · rw [change]
      rcases processIDChange_db s msg with same | ⟨db, changed, same⟩
      · rw [same]
        exact ⟨id, row, stored, rfl, .inl rfl⟩
      · rw [same]
        exact identity_changePeerID changed stored
  | some reached =>
    rw [processRegisterPk_of_registersAt target]
    cases stores : storesKey config s env reached msg.uuid with
    | false =>
      -- nothing is written, and the check that failed is the ban or the UUID remembered
      rw [(registerKey_of_not_stores _ _ stores).1]
      refine iff_of_true ⟨id, row, stored, rfl, .inl rfl⟩ (fun same unbanned => ?_)
      obtain rfl := Option.some.inj same
      by_contra forgotten
      exact Bool.eq_false_iff.mp stores
        ((storesKey_registered stored live foreign).mpr ⟨unbanned, forgotten⟩)
    | true =>
      rw [registerKey_of_stores stores]
      have written := identity_storeKey config env addr msg.uuid msg.pk stored reached
      obtain ⟨row', found, same⟩ := Option.map_eq_some_iff.mp written
      by_cases here : id = reached
      · subst here
        rw [if_pos rfl] at same
        obtain ⟨unbanned, forgotten⟩ := (storesKey_registered stored live foreign).mp stores
        refine iff_of_false ?_ (fun checked => forgotten (checked rfl unbanned))
        rintro ⟨id', other, otherFound, kept, rfl | ⟨renamed, _⟩⟩
        · obtain rfl := Option.some.inj (otherFound.symm.trans found)
          exact identity_storeKey_ne foreign (same.symm.trans kept)
        · exact registersAt_ne_empty target (renamed.symm.trans (registersAt_oldID target))
      · rw [if_neg here] at same
        exact iff_of_true ⟨id, row', found, same, .inl rfl⟩
          (fun reaches => absurd (Option.some.inj reaches).symm here)

end identity

/-! ### A device that was away -/

/-- Every device may enroll, and no client is logged in. -/
def openConfig : Config where
  enrollmentMode := enrollmentModeOpen
  sessionOwner _ _ := none

/-- An empty server without a blocklist. -/
def newServer : Server where
  db := emptyDB
  peers := ∅
  tcpSessions := ∅
  blocklist := none

/-- A message's surroundings at a time given in seconds. -/
def atSecond (seconds : Int) : Env where
  now := seconds * 1000000000
  timestamp := ""
  limiterAllows := true

def homeAddr : Addr := ⟨.ofOctets 198 51 100 7, 40000⟩

/-- A key registration of "device1" with a UUID and a key of one byte each. -/
def registerDevice (uuid pk : UInt8) : RegisterPk where
  id := "device1"
  oldID := ""
  uuid := [uuid]
  pk := [pk]
  noRegisterDevice := false

/-- "device1" registers its key. -/
def devicePresent : Server :=
  registerPkOver openConfig newServer (atSecond 0) (registerDevice 1 1) homeAddr .tcp

/-- It sends no heartbeat for a minute. -/
def deviceAway : Server := expire devicePresent (60 * 1000000000)

/-- Another UUID and key are then accepted for it. -/
def impostorRegistered : Server :=
  registerPkOver openConfig deviceAway (atSecond 61) (registerDevice 2 2) homeAddr .tcp

theorem awayDevice_takenOver :
    ¬ ∀ steps final, History (signal openConfig) steps final →
      ∀ taken ∈ steps, NotTakenOver taken := by
  intro always
  have history : History (signal openConfig) [⟨deviceAway, .registerPk (atSecond 61)
      (registerDevice 2 2) homeAddr .tcp, impostorRegistered⟩,
      ⟨devicePresent, .expire (60 * 1000000000), deviceAway⟩,
      ⟨newServer, .registerPk (atSecond 0) (registerDevice 1 1) homeAddr .tcp, devicePresent⟩]
      impostorRegistered :=
    .step (.step (.step (.start ⟨fun _ _ found => (nomatch found), rfl⟩) rfl) rfl) rfl
  have registered : (deviceAway.db.peers.lookup "device1").any (fun row =>
      !row.softDeleted && row.identity == ("01", [1])) = true := by decide
  obtain ⟨row, stored, holds⟩ := Option.any_eq_true _ _ |>.mp registered
  rw [Bool.and_eq_true, Bool.not_eq_true', beq_iff_eq] at holds
  have uuid : row.uuid = "01" := congrArg Prod.fst holds.2
  have pk : row.pk = [1] := congrArg Prod.snd holds.2
  obtain ⟨id, after, found, same, here | ⟨renamed, _⟩⟩ :=
    always _ _ history _ List.mem_cons_self _ _ _ _ rfl "device1" row stored
      ⟨holds.1, by rw [uuid]; decide, by rw [pk]; decide⟩
      ⟨by decide, by rw [uuid]; decide⟩
  · subst here
    have overwritten : (impostorRegistered.db.peers.lookup "device1").map PeerRow.identity =
        some ("02", [2]) := by decide
    rw [found, Option.map_some, same, holds.2] at overwritten
    exact absurd overwritten (by decide)
  · exact absurd renamed (by decide)

/-! ### Every run -/

/-- In every run the registered devices keep their identities exactly when each key registration of
the run is checked. -/
theorem notTakenOver_iff_checked (config : Config) {steps : List (Taken Server Label)}
    {final : Server} (history : History (signal config) steps final) :
    (∀ taken ∈ steps, NotTakenOver taken) ↔ ∀ taken ∈ steps, Checked taken := by
  refine history.forall_iff fun taken _ stepped => ?_
  obtain ⟨before, label, after⟩ := taken
  unfold NotTakenOver Checked
  refine forall₅_congr fun env msg addr transport same => ?_
  subst same
  have moved : registerPkOver config before env msg addr transport = after :=
    Option.some.inj stepped
  subst moved
  refine forall₂_congr fun id row => ?_
  constructor
  · intro kept target stored live foreign
    exact (identityKept_iff stored live foreign transport).mp (kept stored live foreign) target
  · intro checked stored live foreign
    refine (identityKept_iff stored live foreign transport).mpr fun target => ?_
    exact checked target stored live foreign

/-- While the device is in the map, the same message is refused. -/
def impostorRefused : List (Taken Server Label) :=
  [⟨devicePresent, .registerPk (atSecond 1) (registerDevice 2 2) homeAddr .tcp,
      registerPkOver openConfig devicePresent (atSecond 1) (registerDevice 2 2) homeAddr .tcp⟩,
    ⟨newServer, .registerPk (atSecond 0) (registerDevice 1 1) homeAddr .tcp, devicePresent⟩]

theorem presentDevice_notTakenOver : impostorRefused.Forall NotTakenOver := by
  have history : History (signal openConfig) impostorRefused _ :=
    .step (.step (.start ⟨fun _ _ found => (nomatch found), rfl⟩) rfl) rfl
  refine List.forall_iff_forall_mem.mpr ?_
  refine (notTakenOver_iff_checked openConfig history).mpr fun taken member => ?_
  rcases List.mem_cons.mp member with rfl | older
  · intro env msg addr transport same id row target _ _ _ _
    obtain ⟨rfl, rfl, rfl, rfl⟩ := Label.registerPk.inj same
    have reached : registersAt devicePresent (registerDevice 2 2) homeAddr = some "device1" := by
      decide
    obtain rfl := Option.some.inj (reached.symm.trans target)
    have remembered : (devicePresent.peers.lookup "device1").any (fun entry =>
        entry.uuid != [] && !peerUUIDEqual entry.uuid (registerDevice 2 2).uuid) = true := by decide
    obtain ⟨entry, found, holds⟩ := Option.any_eq_true _ _ |>.mp remembered
    rw [Bool.and_eq_true, bne_iff_ne, Bool.not_eq_true'] at holds
    exact ⟨entry, found, holds⟩
  · obtain rfl := List.mem_singleton.mp older
    intro env msg addr transport same id row _ stored
    exact nomatch stored

end SovaDesk.Signal
