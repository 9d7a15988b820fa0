/-
This file models the registration of devices: the map of the peers that are connected, the
heartbeats and key registrations that fill it, and the operations that empty it.

A registration reaches the server over UDP, TCP or WebSocket and may find the device in
the map, in the database, in both or in neither. One message is handled in one step.
What comes from outside with a message, the time and the rate limiter's answer, is its
`Env`. Of the entries of the map the fields are left out that only the display of a
peer's status reads, and of the answers the text that is logged.
-/

import SovaDesk.Lib.System
import SovaDesk.Signal.Address
import SovaDesk.Signal.PeerStore

namespace SovaDesk.Signal

open Transition

/-! ### The peer map -/

inductive ConnType
  | udp
  | tcp
  | ws
  deriving DecidableEq

/-- A connected peer. `lastDBSync` is nothing before the first synchronization. -/
structure Entry where
  id : String
  uuid : Bytes
  pk : Bytes
  ip : Option Addr
  serial : Int
  connType : ConnType
  udpAddr : Option Addr
  wsConn : Option Nat
  lastReg : Int
  banned : Bool
  lastDBSync : Option Int
  deriving DecidableEq

/-- How long a peer stays in the map without a heartbeat, in nanoseconds. -/
def regTimeout : Int := 30 * 1000000000

/-- How long an entry's status is not written again to the database. -/
def dbSyncInterval : Int := 60 * 1000000000

def Entry.isExpired (entry : Entry) (now : Int) : Bool := now - entry.lastReg > regTimeout

/-- `UpdateHeartbeat`. -/
def updateHeartbeat (peers : Table String Entry) (id : String) (addr : Addr) (serial now : Int) :
    Table String Entry :=
  peers.update id fun entry =>
    { entry with lastReg := now, serial, udpAddr := some addr, ip := some addr }

/-- `CleanExpired`: the IDs that are removed and the entries that stay. -/
def cleanExpired (peers : Table String Entry) (now : Int) : List String × Table String Entry :=
  ((peers.entries.filter fun entry => entry.2.isExpired now).map (·.1),
    peers.filter fun _ entry => !entry.isExpired now)

/-! ### The server -/

structure Config where
  enrollmentMode : String
  sessionOwner : String → String → Option String

/-- The signal server: its tables, the peers connected, the device bound to each open TCP session,
and the blocklist, if there is one. -/
structure Server where
  db : PeerDB
  peers : Table String Entry
  tcpSessions : Table Addr String
  blocklist : Option Blocklist

/-- What comes with a message from outside: the time, as a number and as text, and the answer of
the rate limiter to a device it does not know. -/
structure Env where
  now : Int
  timestamp : String
  limiterAllows : Bool
  deriving DecidableEq

structure RegisterPeer where
  id : String
  serial : Int
  deriving DecidableEq

structure RegisterPk where
  id : String
  oldID : String
  uuid : Bytes
  pk : Bytes
  noRegisterDevice : Bool
  deriving DecidableEq

inductive RegisterPkResult
  | ok
  | uuidMismatch
  | idExists
  | notSupport
  | serverError
  deriving DecidableEq

/-- `isValidPeerID`: 6 to 16 letters, digits, hyphens and underscores. -/
def isValidPeerID (id : String) : Bool :=
  6 ≤ id.toList.length && id.toList.length ≤ 16 &&
    id.toList.all fun c => ('A' ≤ c && c ≤ 'Z') || ('a' ≤ c && c ≤ 'z') || ('0' ≤ c && c ≤ '9') ||
      c == '_' || c == '-'

/-- The blocklist refuses a sender or an ID. -/
def Server.blocks (s : Server) (ip : IP) (id : String) : Bool :=
  s.blocklist.any fun blocklist => blocklist.isIPBlocked ip || blocklist.isIDBlocked id

/-! ### Renamed devices -/

/-- `renamedPeerIdentityMatches`: the key, the UUID, or, if neither was sent, the address. -/
def renamedPeerIdentityMatches (successor : PeerRow) (clientHost : String) (uuid pk : Bytes) :
    Bool :=
  if pk.length > 0 && successor.pk.length > 0 && successor.pk == pk then true
  else if uuid.length > 0 && successor.uuid != "" &&
      peerUUIDEqual (peerUUIDFromDB successor.uuid) uuid then true
  else if pk.length == 0 && uuid.length == 0 && clientHost != "" &&
      peerIPMatches clientHost successor.ip then true
  else false

/-- `resolveRegistrationPeerID`: the effective ID of a registration, or nothing if it is
rejected. -/
def resolveRegistrationPeerID (db : PeerDB) (id clientHost : String) (uuid pk : Bytes) :
    Option String :=
  if !db.isRenamedPeerID id then some id
  else
    let newID := db.getLatestRenameTarget id
    if newID = "" then none
    else
      match db.getPeer newID with
      | none => some id
      | some successor =>
        if renamedPeerIdentityMatches successor clientHost uuid pk then some newID else none

/-! ### Enrollment -/

def enrollmentModeOpen : String := "open"
def enrollmentModeManaged : String := "managed"
def enrollmentModeLocked : String := "locked"

/-- The stored form of a device that waits for approval. -/
def pendingEnrollmentJSON (deviceID ip createdAt : String) : String :=
  "\x7b\"device_id\":\"" ++ deviceID ++
    "\",\"hostname\":\"\",\"platform\":\"\",\"version\":\"\"," ++
    "\"ip\":\"" ++ ip ++ "\",\"created_at\":\"" ++ createdAt ++ "\"\x7d"

/-- `recordPendingEnrollment`: queue an unknown device once, and never one that was rejected. -/
def recordPendingEnrollment (db : PeerDB) (env : Env) (peerID clientIP : String) : PeerDB :=
  if db.getConfig ("rejected_device_" ++ peerID) ≠ "" then db
  else if db.getConfig ("pending_device_" ++ peerID) ≠ "" then db
  else
    db.setConfig ("pending_device_" ++ peerID)
      (pendingEnrollmentJSON peerID clientIP env.timestamp)

/-- The enrollment policy lets a device register. -/
def enrollmentPermits (config : Config) (db : PeerDB) (peerID : String) : Bool :=
  let mode := if config.enrollmentMode = "" then enrollmentModeOpen else config.enrollmentMode
  if mode = enrollmentModeOpen then true
  else if (db.getPeer peerID).isSome then true
  else if mode = enrollmentModeManaged ∨ mode = enrollmentModeLocked then
    (db.getDeviceTokenByPeerID peerID).isSome
  else true

/-- `checkEnrollmentPermission`: the verdict, and the tables with the device queued if it has to
wait for approval. -/
def checkEnrollmentPermission (config : Config) (db : PeerDB) (env : Env)
    (peerID clientIP : String) : Bool × PeerDB :=
  if enrollmentPermits config db peerID then (true, db)
  else if config.enrollmentMode = enrollmentModeManaged then
    (false, recordPendingEnrollment db env peerID clientIP)
  else (false, db)

/-! ### Heartbeats -/

/-- A peer that is not in the map passes the checks of a heartbeat: the rate limiter, deletion,
enrollment and the ban. -/
def admitNewPeer (config : Config) (s : Server) (env : Env) (id clientHost : String) :
    Bool × PeerDB :=
  if !((s.db.getPeer id).isSome || env.limiterAllows) then (false, s.db)
  else if s.db.isPeerSoftDeleted id then (false, s.db)
  else
    let (permitted, db) := checkEnrollmentPermission config s.db env id clientHost
    (permitted && !db.isPeerBanned id, db)

/-- `handleRegisterPeer`: a heartbeat over UDP. The answer, if there is one, says whether the server
asks for the public key. -/
def handleRegisterPeer (config : Config) (s : Server) (env : Env) (msg : RegisterPeer)
    (raddr : Addr) : Server × Option Bool :=
  if msg.id = "" then (s, none)
  else if !isValidPeerID msg.id then (s, none)
  else if s.blocks raddr.ip msg.id then (s, none)
  else
    match resolveRegistrationPeerID s.db msg.id raddr.ip.text [] [] with
    | none => (s, none)
    | some id =>
      match s.peers.lookup id with
      | some existing =>
        if existing.banned then (s, none)
        else
          let peers := updateHeartbeat s.peers id raddr msg.serial env.now
          let requestPk := existing.pk.length == 0
          if existing.lastDBSync.all fun last => env.now - last > dbSyncInterval then
            ({ s with
                db := s.db.updatePeerStatus id "ONLINE" raddr.ip.text
                peers := peers.update id fun entry => { entry with lastDBSync := some env.now } },
              some requestPk)
          else ({ s with peers }, some requestPk)
      | none =>
        let (admitted, db) := admitNewPeer config s env id raddr.ip.text
        if !admitted then ({ s with db }, none)
        else
          -- the key and the UUID survive a restart of the server in the database
          let row := db.getPeer id
          let entry : Entry :=
            { id, uuid := peerUUIDFromDB ((row.map (·.uuid)).getD ""),
              pk := (row.map (·.pk)).getD [], ip := some raddr, serial := msg.serial,
              connType := .udp, udpAddr := some raddr, wsConn := none, lastReg := env.now,
              banned := false, lastDBSync := none }
          ({ s with
              db := db.updatePeerStatus id "ONLINE" raddr.ip.text
              peers := s.peers.insert id entry },
            some (entry.pk.length == 0))

/-- `handleRegisterPeerWS`: a heartbeat over WebSocket. A peer that is already in the map is checked
again, and a new entry has neither key nor UUID. -/
def handleRegisterPeerWS (config : Config) (s : Server) (env : Env) (msg : RegisterPeer)
    (remoteAddr : Addr) : Server × Option Bool :=
  if msg.id = "" then (s, none)
  else if !isValidPeerID msg.id then (s, none)
  else if s.blocks remoteAddr.ip msg.id then (s, none)
  else
    match resolveRegistrationPeerID s.db msg.id remoteAddr.ip.text [] [] with
    | none => (s, none)
    | some id =>
      match s.peers.lookup id with
      | some existing =>
        if existing.banned then (s, none)
        else if s.db.isPeerSoftDeleted id then (s, none)
        else if s.db.isPeerBanned id then (s, none)
        else
          ({ s with
              db := s.db.updatePeerStatus id "ONLINE" remoteAddr.text
              peers := s.peers.update id fun entry =>
                { entry with
                  lastReg := env.now, serial := msg.serial, connType := .ws,
                  ip := some remoteAddr } },
            some (existing.pk.length == 0))
      | none =>
        let (admitted, db) := admitNewPeer config s env id remoteAddr.ip.text
        if !admitted then ({ s with db }, none)
        else
          let entry : Entry :=
            { id, uuid := [], pk := [], ip := some remoteAddr, serial := msg.serial,
              connType := .ws, udpAddr := none, wsConn := none, lastReg := env.now,
              banned := false, lastDBSync := none }
          ({ s with
              db := db.updatePeerStatus id "ONLINE" remoteAddr.text
              peers := s.peers.insert id entry },
            some true)

/-- `bindPeerWSConn`. -/
def bindPeerWSConn (s : Server) (peerID : String) (conn : Nat) : Server :=
  if peerID = "" then s
  else
    { s with
      peers := s.peers.update peerID fun entry =>
        { entry with connType := .ws, wsConn := some conn } }

end SovaDesk.Signal
