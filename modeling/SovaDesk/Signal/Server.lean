/-
This file models key registrations and ID changes, what operators do to devices, and the
signal server as a transition system over all of these.

A key registration is the only signalling message that writes a device's UUID and public
key to the database. It compares the UUID it is given with the one in the peer map, if
there is an entry and both are known; otherwise it stores what it was given.
-/

import SovaDesk.Signal.Registration

namespace SovaDesk.Signal

open Transition

/-! ### Owners -/

def resolvePeerForClient (db : PeerDB) (clientID clientUUID : String) : Option PeerRow :=
  ((if clientID = "" then none else db.getPeer clientID).or
    (if clientUUID = "" then none else db.getPeerByUUID clientUUID))

/-- `BindPeerOwner`: set the owner of a device found by its ID or its UUID. -/
def bindPeerOwner (db : PeerDB) (clientID clientUUID username : String) : PeerDB :=
  if username = "" ∨ (clientID = "" ∧ clientUUID = "") then db
  else
    match resolvePeerForClient db clientID clientUUID with
    | none => db
    | some row => if row.user = username then db else db.updatePeerUser row.id username

/-- `ApplyActiveSessionOwner`: the owner is the user of the newest active client session. -/
def applyActiveSessionOwner (config : Config) (db : PeerDB) (peerID peerUUID : String) : PeerDB :=
  match config.sessionOwner peerID peerUUID with
  | none => db
  | some username => bindPeerOwner db peerID peerUUID username

/-! ### ID changes -/

/-- The key an ID change goes with: the one that was sent, or the stored one. A key that differs
from the stored one is refused. -/
def idChangeKey (oldPeer : PeerRow) (pk : Bytes) : Option Bytes :=
  if pk.length = 0 then some oldPeer.pk
  else if oldPeer.pk.length > 0 ∧ oldPeer.pk ≠ pk then none
  else some pk

/-- The UUID is only compared if it has the sixteen bytes of the wire format. -/
def idChangeUUIDMismatch (oldPeer : PeerRow) (uuid : Bytes) : Bool :=
  uuid.length == 16 && oldPeer.uuid != "" && !peerUUIDEqual (peerUUIDFromDB oldPeer.uuid) uuid

/-- Take an entry out of the map; `Remove` closes its connections. -/
def removeEntry (s : Server) (id : String) : Option Entry × Server :=
  ((s.peers.lookup id).map fun entry => { entry with wsConn := none },
    { s with peers := s.peers.erase id })

/-- Move an entry of the map to a new ID. -/
def moveEntry (s : Server) (oldID newID : String) (change : Entry → Entry) : Server :=
  match removeEntry s oldID with
  | (none, s) => s
  | (some entry, s) => { s with peers := s.peers.insert newID (change { entry with id := newID }) }

/-- `processIDChange`. -/
def processIDChange (s : Server) (msg : RegisterPk) : Server × RegisterPkResult :=
  if !isValidPeerID msg.oldID then (s, .notSupport)
  else if !isValidPeerID msg.id then (s, .notSupport)
  else
    match s.db.getPeer msg.oldID with
    | none => (s, .notSupport)
    | some oldPeer =>
      match idChangeKey oldPeer msg.pk with
      | none => (s, .notSupport)
      | some effectivePK =>
        if idChangeUUIDMismatch oldPeer msg.uuid then (s, .uuidMismatch)
        else if (s.peers.lookup msg.id).isSome then (s, .idExists)
        else if s.db.getPeerIDState msg.id ≠ .missing then (s, .idExists)
        else
          match s.db.changePeerID msg.oldID msg.id "client" with
          | .error .peerNotFound => (s, .notSupport)
          | .error _ => (s, .idExists)
          | .ok db =>
            (moveEntry { s with db } msg.oldID msg.id fun entry =>
              { entry with
                pk := effectivePK
                uuid := if msg.uuid.length > 0 then normalizePeerUUIDBytes msg.uuid
                  else entry.uuid },
              .ok)

/-! ### Key registrations -/

/-- The entry a key registration works on: the one in the map, or a new one. -/
def entryForPk (s : Server) (env : Env) (id : String) : Entry :=
  (s.peers.lookup id).getD
    { id, uuid := [], pk := [], ip := none, serial := 0, connType := .udp, udpAddr := none,
      wsConn := none, lastReg := env.now, banned := false, lastDBSync := none }

/-- The UUID given differs from the one remembered; an unknown one differs from none. -/
def uuidMismatch (entry : Entry) (uuid : Bytes) : Bool :=
  entry.uuid.length > 0 && uuid.length > 0 && !peerUUIDEqual entry.uuid uuid

/-- `bindTCPSessionPeer`. -/
def bindTCPSessionPeer (s : Server) (addr : Addr) (peerID : String) : Server :=
  if peerID = "" then s else { s with tcpSessions := s.tcpSessions.update addr fun _ => peerID }

/-- The row a key registration upserts. -/
def registeredRow (id : String) (uuid pk : Bytes) : PeerRow :=
  { emptyRow id with uuid := hexText uuid, pk := pk, status := "ONLINE" }

/-- Store the UUID and the key in the map and in the database. -/
def storeKey (config : Config) (s : Server) (env : Env) (id : String) (uuid pk : Bytes)
    (addr : Addr) : Server :=
  let entry := entryForPk s env id
  let stored : Entry :=
    { entry with
      uuid, pk, lastReg := env.now, ip := some addr,
      connType := if entry.udpAddr.isNone && entry.connType ≠ .ws then .tcp else entry.connType }
  let s := bindTCPSessionPeer { s with peers := s.peers.insert id stored } addr id
  { s with
    db := applyActiveSessionOwner config (s.db.upsertPeer (registeredRow id uuid pk)) id
      (hexText uuid) }

/-- `processRegisterPk` once the effective ID is known and the device is to be registered. -/
def registerKey (config : Config) (s : Server) (env : Env) (id : String) (uuid pk : Bytes)
    (addr : Addr) : Server × RegisterPkResult :=
  if s.db.isPeerSoftDeleted id then ({ s with peers := s.peers.erase id }, .notSupport)
  else
    let (permitted, db) :=
      if (s.db.getPeer id).isSome then (true, s.db)
      else checkEnrollmentPermission config s.db env id addr.ip.text
    if !permitted then ({ s with db, peers := s.peers.erase id }, .notSupport)
    else if db.isPeerBanned id then ({ s with db }, .notSupport)
    else
      -- an entry that has just been made has no UUID to differ from
      if uuidMismatch (entryForPk s env id) uuid then ({ s with db }, .uuidMismatch)
      else (storeKey config { s with db } env id uuid pk addr, .ok)

/-- `processRegisterPk`. -/
def processRegisterPk (config : Config) (s : Server) (env : Env) (msg : RegisterPk) (addr : Addr) :
    Server × RegisterPkResult :=
  if msg.id = "" then (s, .serverError)
  else if !isValidPeerID msg.id then (s, .notSupport)
  else if s.blocks addr.ip msg.id then (s, .notSupport)
  else if msg.oldID ≠ "" then processIDChange s msg
  else
    match resolveRegistrationPeerID s.db msg.id addr.ip.text msg.uuid msg.pk with
    | none => (s, .notSupport)
    | some id =>
      if msg.noRegisterDevice then (s, .ok)
      else registerKey config s env id msg.uuid msg.pk addr

/-! ### Operators -/

/-- `handleChangePeerID` of the panel. -/
def handleChangePeerID (s : Server) (oldID newID : String) : Server :=
  if newID = "" ∨ !isValidPeerID newID then s
  else if s.db.getPeerIDState newID ≠ .missing then s
  else
    match s.db.changePeerID oldID newID "panel" with
    | .error _ => s
    | .ok db => moveEntry { s with db } oldID newID fun entry => entry

/-- Delete one device, softly or for good; a revocation also bans it and blocks its ID. -/
def deleteDevice (s : Server) (id : String) (hard revoke : Bool) : Server :=
  let deleted := if hard then s.db.hardDeletePeer id else s.db.deletePeer id
  { s with
    db := if revoke && !hard then deleted.banPeer id else deleted
    peers := s.peers.erase id
    blocklist := if revoke then s.blocklist.map fun list => { list with ids := id :: list.ids }
      else s.blocklist }

/-- `handleDeletePeer`: with the cascade, the devices linked to it are deleted as well. -/
def handleDeletePeer (s : Server) (id : String) (hard revoke cascade : Bool) : Server :=
  let linked := if cascade then s.db.getLinkedPeers id else []
  (id :: linked).foldl (fun s id => deleteDevice s id hard revoke) s

/-- `handleRestorePeer`. -/
def handleRestorePeer (s : Server) (id : String) : Server :=
  if s.db.isPeerSoftDeleted id then { s with db := s.db.restorePeer id } else s

/-- `handleBanPeer`. -/
def handleBanPeer (s : Server) (id : String) : Server :=
  { s with
    db := (s.db.banPeer id).updatePeerStatus id "OFFLINE" ""
    peers := s.peers.erase id }

/-- The console's `ban` and `unban` (and the panel's `unban`) mark the entry in the map. -/
def setBanned (s : Server) (id : String) (banned : Bool) : Server :=
  { s with
    db := if banned then s.db.banPeer id else s.db.unbanPeer id
    peers := s.peers.update id fun entry => { entry with banned } }

/-- The console's `kick`. -/
def kick (s : Server) (id : String) : Server :=
  if (s.peers.lookup id).isSome then
    { s with db := s.db.updatePeerStatus id "OFFLINE" "", peers := s.peers.erase id }
  else s

/-! ### The clock and restarts -/

/-- Peers without a heartbeat leave the map. -/
def expire (s : Server) (now : Int) : Server :=
  let (expired, peers) := cleanExpired s.peers now
  { s with db := s.db.batchUpdatePeerStatus expired "OFFLINE", peers }

/-- The server starts again on the same database: the map is empty and every peer is offline. -/
def restart (s : Server) (blocklist : Option Blocklist) : Server where
  db := { s.db with peers := s.db.peers.mapValues fun _ row => { row with status := "OFFLINE" } }
  peers := ∅
  tcpSessions := ∅
  blocklist := blocklist

/-! ### The step function -/

/-- How a message arrived. A WebSocket is bound to the peer it registers. -/
inductive Transport
  | udp
  | tcp
  | ws (conn : Nat)
  deriving DecidableEq

inductive Label
  | registerPeer (env : Env) (msg : RegisterPeer) (raddr : Addr)
  | registerPeerWS (env : Env) (msg : RegisterPeer) (remoteAddr : Addr) (conn : Nat)
  | registerPk (env : Env) (msg : RegisterPk) (addr : Addr) (transport : Transport)
  | keepAlive (id : String) (now : Int)
  | openTCP (addr : Addr)
  | closeTCP (addr : Addr)
  | expire (now : Int)
  | restart (blocklist : Option Blocklist)
  | changePeerID (oldID newID : String)
  | deletePeer (id : String) (hard revoke cascade : Bool)
  | restorePeer (id : String)
  | banPeer (id : String)
  | setBanned (id : String) (banned : Bool)
  | kick (id : String)

/-- A heartbeat that is answered binds the WebSocket to the ID in the message. -/
def registerPeerOverWS (config : Config) (s : Server) (env : Env) (msg : RegisterPeer)
    (remoteAddr : Addr) (conn : Nat) : Server :=
  match handleRegisterPeerWS config s env msg remoteAddr with
  | (s, none) => s
  | (s, some _) => bindPeerWSConn s msg.id conn

/-- A key registration over a transport; one over WebSocket that succeeds binds it. -/
def registerPkOver (config : Config) (s : Server) (env : Env) (msg : RegisterPk) (addr : Addr) :
    Transport → Server
  | .ws conn =>
    match processRegisterPk config s env msg addr with
    | (s, .ok) => bindPeerWSConn s msg.id conn
    | (s, _) => s
  | _ => (processRegisterPk config s env msg addr).1

def step (config : Config) (s : Server) : Label → Option Server
  | .registerPeer env msg raddr => some (handleRegisterPeer config s env msg raddr).1
  | .registerPeerWS env msg remoteAddr conn =>
    some (registerPeerOverWS config s env msg remoteAddr conn)
  | .registerPk env msg addr transport => some (registerPkOver config s env msg addr transport)
  | .keepAlive id now =>
    some { s with peers := s.peers.update id fun entry => { entry with lastReg := now } }
  | .openTCP addr => some { s with tcpSessions := s.tcpSessions.insert addr "" }
  | .closeTCP addr => some { s with tcpSessions := s.tcpSessions.erase addr }
  | .expire now => some (expire s now)
  | .restart blocklist => some (restart s blocklist)
  | .changePeerID oldID newID => some (handleChangePeerID s oldID newID)
  | .deletePeer id hard revoke cascade => some (handleDeletePeer s id hard revoke cascade)
  | .restorePeer id => some (handleRestorePeer s id)
  | .banPeer id => some (handleBanPeer s id)
  | .setBanned id banned => some (setBanned s id banned)
  | .kick id => some (kick s id)

/-- The tables of a new installation. -/
def emptyDB : PeerDB where
  peers := ∅
  history := []
  deviceTokens := []
  orgDevices := []
  serverConfig := ∅

/-- The signal server, started on tables in which every row is stored under its ID. -/
def signal (config : Config) : System Server Label where
  start s := (∀ id row, s.db.peers.lookup id = some row → row.id = id) ∧ s.peers = ∅
  step := step config

/-! ### What a key registration does -/

section registration

variable {config : Config} {s : Server} {env : Env} {msg : RegisterPk} {addr : Addr} {id : String}
  {uuid pk : Bytes}

theorem checkEnrollmentPermission_fst (config : Config) (db : PeerDB) (env : Env)
    (peerID clientIP : String) :
    (checkEnrollmentPermission config db env peerID clientIP).1 =
      enrollmentPermits config db peerID := by
  unfold checkEnrollmentPermission
  split
  · next permits => exact permits.symm
  · next refuses =>
    split
    · exact (Bool.eq_false_iff.mpr refuses).symm
    · exact (Bool.eq_false_iff.mpr refuses).symm

theorem recordPendingEnrollment_tables (db : PeerDB) (env : Env) (peerID clientIP : String) :
    (recordPendingEnrollment db env peerID clientIP).peers = db.peers ∧
      (recordPendingEnrollment db env peerID clientIP).history = db.history := by
  unfold recordPendingEnrollment
  split
  · exact ⟨rfl, rfl⟩
  · split
    · exact ⟨rfl, rfl⟩
    · exact ⟨rfl, rfl⟩

/-- The enrollment check may queue a device, and writes nothing else. -/
theorem checkEnrollmentPermission_tables (config : Config) (db : PeerDB) (env : Env)
    (peerID clientIP : String) :
    (checkEnrollmentPermission config db env peerID clientIP).2.peers = db.peers ∧
      (checkEnrollmentPermission config db env peerID clientIP).2.history = db.history := by
  unfold checkEnrollmentPermission
  split
  · exact ⟨rfl, rfl⟩
  · split
    · exact recordPendingEnrollment_tables db env peerID clientIP
    · exact ⟨rfl, rfl⟩

/-- The effective ID a message asks to register a key for, if it gets that far. -/
def registersAt (s : Server) (msg : RegisterPk) (addr : Addr) : Option String :=
  if msg.id = "" ∨ !isValidPeerID msg.id ∨ s.blocks addr.ip msg.id ∨ msg.oldID ≠ "" ∨
      msg.noRegisterDevice then none
  else resolveRegistrationPeerID s.db msg.id addr.ip.text msg.uuid msg.pk

/-- The checks that stand between the effective ID and the database: deletion, enrollment, the ban
and the UUID in the peer map. -/
def storesKey (config : Config) (s : Server) (env : Env) (id : String) (uuid : Bytes) : Bool :=
  !s.db.isPeerSoftDeleted id && ((s.db.getPeer id).isSome || enrollmentPermits config s.db id) &&
    !s.db.isPeerBanned id && !uuidMismatch (entryForPk s env id) uuid

theorem processRegisterPk_of_registersAt (target : registersAt s msg addr = some id) :
    processRegisterPk config s env msg addr =
      registerKey config s env id msg.uuid msg.pk addr := by
  rw [registersAt, Option.ite_none_left_eq_some] at target
  obtain ⟨passed, resolved⟩ := target
  simp only [not_or] at passed
  obtain ⟨named, valid, unblocked, noChange, registers⟩ := passed
  simp only [processRegisterPk, named, valid, unblocked, noChange, registers, resolved,
    Bool.false_eq_true, if_false]

/-- A message that does not get that far leaves the server as it is, or changes an ID. -/
theorem processRegisterPk_of_none (target : registersAt s msg addr = none) :
    (processRegisterPk config s env msg addr).1 = s ∨
      ((msg.id ≠ "" ∧ isValidPeerID msg.id = true ∧ s.blocks addr.ip msg.id = false ∧
        msg.oldID ≠ "") ∧ processRegisterPk config s env msg addr = processIDChange s msg) := by
  unfold processRegisterPk
  split
  · exact .inl rfl
  split
  · exact .inl rfl
  split
  · exact .inl rfl
  next named valid unblocked =>
  split
  · next change =>
    rw [Bool.not_eq_true', Bool.not_eq_false] at valid
    exact .inr ⟨⟨named, valid, Bool.eq_false_iff.mpr unblocked, change⟩, rfl⟩
  · next noChange =>
    split
    · exact .inl rfl
    · next id resolved =>
      split
      · exact .inl rfl
      · next registers =>
        -- nothing else stops a registration before its effective ID
        rw [registersAt, if_neg (by simp only [named, valid, unblocked, noChange, registers,
          Bool.false_eq_true, or_self, not_false_eq_true])] at target
        exact nomatch target.symm.trans resolved

theorem registerKey_of_stores (stores : storesKey config s env id uuid = true) :
    registerKey config s env id uuid pk addr = (storeKey config s env id uuid pk addr, .ok) := by
  simp only [storesKey, Bool.and_eq_true, Bool.not_eq_true', Bool.or_eq_true] at stores
  obtain ⟨⟨⟨live, enrolled⟩, unbanned⟩, matching⟩ := stores
  have verdict : (if (s.db.getPeer id).isSome then (true, s.db)
      else checkEnrollmentPermission config s.db env id addr.ip.text) = (true, s.db) := by
    split
    · rfl
    · next unknown =>
      rw [checkEnrollmentPermission, if_pos (enrolled.resolve_left unknown)]
  simp only [registerKey, live, verdict, unbanned, matching, Bool.false_eq_true, Bool.not_true,
    if_false]

variable (pk addr) in
/-- A registration that fails a check writes no peer's row, and at most takes the entry out of the
map. -/
theorem registerKey_of_not_stores (refused : storesKey config s env id uuid = false) :
    (registerKey config s env id uuid pk addr).1.db.peers = s.db.peers ∧
      (registerKey config s env id uuid pk addr).1.db.history = s.db.history ∧
      ((registerKey config s env id uuid pk addr).1.peers = s.peers ∨
        (registerKey config s env id uuid pk addr).1.peers = s.peers.erase id) ∧
      (registerKey config s env id uuid pk addr).2 ≠ .ok := by
  have tables := checkEnrollmentPermission_tables config s.db env id addr.ip.text
  have verdict := checkEnrollmentPermission_fst config s.db env id addr.ip.text
  unfold storesKey at refused
  unfold registerKey PeerDB.isPeerBanned
  unfold PeerDB.isPeerBanned at refused
  grind

end registration

end SovaDesk.Signal
