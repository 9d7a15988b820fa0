/-
This file models what the signal server does for a connection between two peers: the
requests to punch a hole and the requests for a relay.

Both come over UDP, TCP or WebSocket, and each has one handler for UDP and one for the
other two, with the same gates written out twice: the initiator is authorized, the target
is in the map, alive and not banned, the transports fit. Only some of the handlers ask the
billing service and the network policy. A relay is named by a UUID that both peers show to
the relay server; a handler hands it to the initiator in a relay response. Addresses are
kept as they are where the wire has their encoded form, and the nat type of the target,
which no gate reads, is left out of the answers.
-/

import SovaDesk.Auth.Token
import SovaDesk.Billing.Service
import SovaDesk.Signal.Server

namespace SovaDesk.Signal

open Auth Transition

/-! ### Network policy -/

structure NetworkSettings where
  blockDirectP2P : Bool
  allowedRelayServers : List String

/-- `ShouldForceRelay`: some device's organization blocks direct connections. -/
def shouldForceRelay (settings : String → NetworkSettings) (deviceIDs : List String) : Bool :=
  deviceIDs.any fun id => id != "" && (settings id).blockDirectP2P

/-- An entry of the allowlist is the default, or a beginning of it. -/
def allowsRelay (normalizedDefault entry : String) : Bool :=
  let entry := trimSpace entry
  entry != "" && (entry == normalizedDefault ||
    (normalizedDefault != "" && entry.toList.isPrefixOf normalizedDefault.toList))

/-- `ResolveRelay`: the allowlist is that of the first device that has one; a default it does not
allow is replaced by its first entry. -/
def resolveRelay (settings : String → NetworkSettings) (defaultRelay : String)
    (deviceIDs : List String) : String :=
  let allowed := (deviceIDs.filter (· != "")).map fun id => (settings id).allowedRelayServers
  match allowed.find? fun list => !list.isEmpty with
  | some (first :: rest) =>
    if (first :: rest).any (allowsRelay (trimSpace defaultRelay)) then defaultRelay
    else trimSpace first
  | _ => defaultRelay

/-! ### Messages -/

structure RequestRelay where
  id : String
  uuid : String
  relayServer : String
  socketAddr : Option Addr
  secure : Bool
  connType : Int
  token : String
  controlPermissions : Bytes
  deriving DecidableEq

structure PunchHoleRequest where
  id : String
  natType : Int
  connType : Int
  token : String
  udpPort : Int
  forceRelay : Bool
  upnpPort : Int
  socketAddrV6 : Bytes
  deriving DecidableEq

structure PunchHole where
  socketAddr : Addr
  relayServer : String
  natType : Int
  udpPort : Int
  forceRelay : Bool
  upnpPort : Int
  socketAddrV6 : Bytes
  deriving DecidableEq

inductive PunchFailure
  | idNotExist
  | offline
  deriving DecidableEq

/-- What the initiator is told about the way to the target. -/
inductive PunchNat
  | isLocal
  | symmetric
  | ofTarget
  deriving DecidableEq

/-- A punch hole response has no field for a relay UUID. -/
structure PunchHoleResponse where
  failure : Option PunchFailure
  socketAddr : Option Addr
  pk : Bytes
  relayServer : String
  nat : Option PunchNat
  deriving DecidableEq

structure RelayResponse where
  uuid : String
  relayServer : String
  pk : Bytes
  refuseReason : String
  deriving DecidableEq

/-- A message to the peer under an ID, over the connection its entry has, or to an address. -/
inductive Sent
  | requestRelay (id : String) (msg : RequestRelay)
  | punchHole (id : String) (msg : PunchHole)
  | relayResponse (raddr : Addr) (msg : RelayResponse)
  | punchHoleResponse (raddr : Addr) (msg : PunchHoleResponse)
  deriving DecidableEq

/-! ### The server -/

/-- A login session of a client. -/
structure ClientSession where
  clientID : String
  userID : Int

/-- The settings of the server, with the client session behind a login token and the signature of
a peer's key. -/
structure RelayConfig extends Config where
  relayServers : List String
  relayPort : Nat
  sameNATRelay : Bool
  alwaysUseRelay : Bool
  p2pFirst : Bool
  panelSignalProxyCIDRs : List Network
  clientSession : String → Option ClientSession
  signIdPk : String → Bytes → Option Bytes

/-- A relay UUID that was sent to a target. -/
structure PendingUUID where
  uuid : String
  createdAt : Int
  deriving DecidableEq

/-- The signal server with what it needs to arrange connections. -/
structure SignalServer extends Server where
  pendingRelayUUIDs : Table String PendingUUID
  pendingPunches : Table Addr PunchHoleResponse
  localIP : Option String
  lanIP : Option IP
  networkPolicy : Option (String → NetworkSettings)
  billing : Option Billing.State

/-- The time, the billing clock and the UUID that is drawn where one is needed. -/
structure RelayEnv where
  now : Int
  clockSynced : Bool
  newUUID : { text : String // text.utf8ByteSize = 36 }

/-- `FindByIP`: a peer whose UDP address has the IP, or else one without a UDP address that was last
seen there. -/
def findByIP (peers : Table String Entry) (ip : IP) : Option Entry :=
  let entries := peers.entries.map (·.2)
  (entries.find? fun entry => entry.udpAddr.any (·.ip == ip)).or
    (entries.find? fun entry => entry.udpAddr.isNone && entry.ip.any (·.ip == ip))

def peerIDForAddr (s : SignalServer) (raddr : Addr) : String :=
  ((findByIP s.peers raddr.ip).map (·.id)).getD ""

/-! ### Authorized initiators -/

def refuseRelayProtocolMismatch : String :=
  "Protocol mismatch: WebSocket and native TCP/UDP cannot share a relay session"

def refuseInitiatorNotAuthorized : String := "Not authorized"

def panelWebRemoteInitiatorID : String := "panel-web-remote"

/-- `finalizeAuthorizedInitiator`: the initiator is neither banned nor deleted nor waiting for
approval, and where enrollment is required it is enrolled. -/
def finalizeAuthorizedInitiator (config : RelayConfig) (s : SignalServer) (initiatorID : String)
    (memoryBanned : Bool) : Option String :=
  if memoryBanned then none
  else if s.db.isPeerSoftDeleted initiatorID then none
  else if s.db.getConfig ("pending_device_" ++ initiatorID) ≠ "" then none
  else if config.enrollmentMode = enrollmentModeManaged ∨
      config.enrollmentMode = enrollmentModeLocked then
    match s.db.getPeer initiatorID with
    | none => none
    | some row => if row.banned then none else some initiatorID
  else some initiatorID

/-- A login token is sixty-four hexadecimal digits. -/
def isOpaqueClientToken (token : String) : Bool :=
  token.toList.length == 64 && token.toList.all fun c => (hexValue c).isSome

def authorizeViaClientToken (config : RelayConfig) (s : SignalServer) (token : String) :
    Option String :=
  let token := trimSpace token
  if token = "" ∨ !isOpaqueClientToken token then none
  else
    match config.clientSession token with
    | none => none
    | some session =>
      let initiatorID := trimSpace session.clientID
      if initiatorID = "" then
        if config.enrollmentMode = enrollmentModeManaged ∨
            config.enrollmentMode = enrollmentModeLocked then none
        else some ("session-user-" ++ toString session.userID)
      else finalizeAuthorizedInitiator config s initiatorID false

/-- The live peer that a request comes from: by its IP, or by the TCP session it registered on. -/
def liveInitiator (s : SignalServer) (now : Int) (raddr : Addr) : Option Entry :=
  ((findByIP s.peers raddr.ip).filter fun entry => !entry.isExpired now).or
    (((s.tcpSessions.lookup raddr).filter (· != "")).bind fun id =>
      (s.peers.lookup id).filter fun entry => !entry.isExpired now)

/-- `requireAuthorizedInitiator`: a live peer, the panel's proxy, or the bearer of a login token. -/
def requireAuthorizedInitiator (config : RelayConfig) (s : SignalServer) (now : Int) (raddr : Addr)
    (token : String) : Option String :=
  match liveInitiator s now raddr with
  | some initiator => finalizeAuthorizedInitiator config s initiator.id initiator.banned
  | none =>
    if config.panelSignalProxyCIDRs.any (·.contains raddr.ip) then some panelWebRemoteInitiatorID
    else authorizeViaClientToken config s token

/-! ### Relay servers -/

def hostPort (host : String) (port : Nat) : String := host ++ ":" ++ toString port

/-- `getRelayServer`: the first configured server, or the public address, or the LAN address. -/
def getRelayServer (config : RelayConfig) (s : SignalServer) : String :=
  match config.relayServers.head? with
  | some server => server
  | none =>
    match s.localIP with
    | some ip => hostPort ip config.relayPort
    | none =>
      match s.lanIP with
      | some ip => hostPort ip.text config.relayPort
      | none => hostPort "" config.relayPort

/-- `strconv.Atoi`, where the number is positive: it may have a sign and has to fit into 64 bits. -/
def positiveNumber (text : List Char) : Option Nat :=
  let digits := if text.head? = some '+' then text.drop 1 else text
  let value := digits.foldl (fun value digit => 10 * value + (digit.toNat - 48)) 0
  if digits ≠ [] ∧ digits.all (·.isDigit) ∧ 0 < value ∧ value < 2 ^ 63 then some value else none

/-- `getLANRelayServer`: the server's LAN address, if it is in the peers' subnet. -/
def getLANRelayServer (config : RelayConfig) (s : SignalServer) (defaultRelay : String)
    (peers : List Addr) : String :=
  let defaultRelay := if defaultRelay = "" then getRelayServer config s else defaultRelay
  match s.lanIP with
  | none => defaultRelay
  | some ip =>
    if !isLANRelayReachableFromPeers ip peers then defaultRelay
    else
      let configured := (config.relayServers.head?.bind fun server =>
        splitHostPort server.toList).bind fun parts => positiveNumber parts.2
      hostPort ip.text (configured.getD config.relayPort)

/-- `selectPeerRelayServer`: the relay server for two addresses, whether they are on one LAN, and
whether they share a public address. -/
def selectPeerRelayServer (config : RelayConfig) (s : SignalServer) (defaultRelay : String)
    (a : Addr) (b : Option Addr) : String × Bool × Bool :=
  let defaultRelay := if defaultRelay = "" then getRelayServer config s else defaultRelay
  match b with
  | none => (defaultRelay, false, false)
  | some b =>
    if config.sameNATRelay && isSamePublicIP a b then (getRelayServer config s, false, true)
    else if isSameNetwork a b then (getLANRelayServer config s defaultRelay [a, b], true, false)
    else (defaultRelay, false, false)

def shouldForceRelayForPeers (s : SignalServer) (peerIDs : List String) : Bool :=
  s.networkPolicy.any fun settings => shouldForceRelay settings peerIDs

def applyNetworkRelayPolicy (s : SignalServer) (defaultRelay : String) (peerIDs : List String) :
    String :=
  match s.networkPolicy with
  | none => defaultRelay
  | some settings => resolveRelay settings defaultRelay peerIDs

/-! ### The gates of a relay request -/

/-- A peer that is in the map, alive and not banned. -/
def SignalServer.online (s : SignalServer) (now : Int) (id : String) : Option Entry :=
  (s.peers.lookup id).filter fun entry => !entry.isExpired now && !entry.banned

/-- `relayTransportMismatch`: WebSocket peers and native ones cannot share a relay session. -/
def relayTransportMismatch (initiator target : ConnType) : Bool :=
  (initiator == .ws) != (target == .ws)

/-- How the initiator is connected: as its entry says, or else as the handler assumes. -/
def initiatorType (s : SignalServer) (raddr : Addr) (assumed : ConnType) : ConnType :=
  ((findByIP s.peers raddr.ip).map (·.connType)).getD assumed

/-- The relay server a request starts from: its own wish or the server's default. -/
def requestedRelay (config : RelayConfig) (s : SignalServer) (msg : RequestRelay) : String :=
  if msg.relayServer = "" then getRelayServer config s else msg.relayServer

/-- The UUID of a request, or a new one where it has none. -/
def relayUUIDFor (env : RelayEnv) (msg : RequestRelay) : String :=
  if msg.uuid = "" then env.newUUID else msg.uuid

/-- The gates both relay handlers have: authorization, the target, the transports. A refusal is its
reason. -/
def admitRelay (config : RelayConfig) (s : SignalServer) (env : RelayEnv) (msg : RequestRelay)
    (raddr : Addr) (assumed : ConnType) : Except String Entry :=
  if (requireAuthorizedInitiator config s env.now raddr msg.token).isNone then
    .error refuseInitiatorNotAuthorized
  else
    match s.online env.now msg.id with
    | none => .error "Target offline"
    | some target =>
      if relayTransportMismatch (initiatorType s raddr assumed) target.connType then
        .error refuseRelayProtocolMismatch
      else .ok target

/-- The billing gate: `CheckConnection` and then `PrepareRelay`. -/
def billRelay (s : SignalServer) (env : RelayEnv) (relayUUID targetID initiatorID : String) :
    Except String (Option Billing.State) :=
  match s.billing with
  | none => .ok none
  | some billing =>
    if !(Billing.checkConnection billing.db env.clockSynced targetID).allowed then
      .error "Billing suspended"
    else
      match Billing.prepareRelay billing.db env.clockSynced env.now relayUUID targetID initiatorID
          billing.pending with
      | .error _ => .error "Billing blocked"
      | .ok pending => .ok (some { billing with pending })

/-! ### Relay requests -/

/-- What a handler leaves and sends, in order, and whether it panicked after that. -/
structure Outcome where
  server : SignalServer
  sent : List Sent
  crashed : Bool

def refuseRelay (s : SignalServer) (raddr : Addr) (relayServer refuseReason : String) :
    Outcome where
  server := s
  sent := [.relayResponse raddr { uuid := "", relayServer, pk := [], refuseReason }]
  crashed := false

/-- The signed key of a target; an unknown one, and one that cannot be signed, is empty. -/
def signedPk (config : RelayConfig) (target : Entry) (targetID : String) : Bytes :=
  if target.pk.length > 0 then (config.signIdPk targetID target.pk).getD [] else []

def storePendingUUID (s : SignalServer) (now : Int) (targetID uuid : String) : SignalServer :=
  { s with pendingRelayUUIDs := s.pendingRelayUUIDs.insert targetID { uuid, createdAt := now } }

/-- Remember the UUID, forward the request to the target and answer the initiator. Between the two
the first eight bytes of the UUID are logged, and a shorter UUID is a panic. -/
def assignRelay (config : RelayConfig) (s : SignalServer) (env : RelayEnv) (raddr : Addr)
    (target : Entry) (forwarded : RequestRelay) : Outcome :=
  let server := storePendingUUID s env.now forwarded.id forwarded.uuid
  if forwarded.uuid.utf8ByteSize < 8 then
    { server, sent := [.requestRelay forwarded.id forwarded], crashed := true }
  else
    { server
      sent :=
        [.requestRelay forwarded.id forwarded,
          .relayResponse raddr
            { uuid := forwarded.uuid, relayServer := forwarded.relayServer,
              pk := signedPk config target forwarded.id, refuseReason := "" }]
      crashed := false }

/-- `handleRequestRelay`: a relay request over UDP. -/
def handleRequestRelay (config : RelayConfig) (s : SignalServer) (env : RelayEnv)
    (msg : RequestRelay) (raddr : Addr) : Outcome :=
  let relayServer := requestedRelay config s msg
  match admitRelay config s env msg raddr .udp with
  | .error reason => refuseRelay s raddr relayServer reason
  | .ok target =>
    let initiatorID := peerIDForAddr s raddr
    match billRelay s env (relayUUIDFor env msg) msg.id initiatorID with
    | .error reason => refuseRelay s raddr relayServer reason
    | .ok billing =>
      let selected := (selectPeerRelayServer config s relayServer raddr target.udpAddr).1
      assignRelay config { s with billing } env raddr target
        { id := msg.id, uuid := relayUUIDFor env msg,
          relayServer := applyNetworkRelayPolicy s selected [initiatorID, msg.id],
          socketAddr := some raddr, secure := false, connType := 0, token := "",
          controlPermissions := [] }

/-- `handleRequestRelayTCP`: a relay request over TCP or WebSocket. -/
def handleRequestRelayTCP (config : RelayConfig) (s : SignalServer) (env : RelayEnv)
    (msg : RequestRelay) (raddr : Addr) (initiatorHint : ConnType) : Outcome :=
  let relayServer := requestedRelay config s msg
  match admitRelay config s env msg raddr initiatorHint with
  | .error reason => refuseRelay s raddr relayServer reason
  | .ok target =>
    assignRelay config s env raddr target
      { id := msg.id, uuid := relayUUIDFor env msg,
        relayServer := (selectPeerRelayServer config s relayServer raddr target.udpAddr).1,
        socketAddr := some raddr, secure := msg.secure, connType := msg.connType,
        token := msg.token, controlPermissions := msg.controlPermissions }

end SovaDesk.Signal
