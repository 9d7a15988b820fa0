/-
This file models the requests to punch a hole, and the answers of the targets that the
signal server passes on to the initiators.

A request over UDP that has to go over a relay is answered with a relay UUID at once; over
TCP and WebSocket the initiator is told to ask for a relay itself. Where direct connections
are preferred, the answer waits until the target has punched its hole, or a timer sends it.
A target answers with the address of the initiator; the ID it may leave out is looked up by
the IP it sends from, and the relay UUID it may leave out by its ID. Over which connection
an answer reaches an address is left out.
-/

import SovaDesk.Signal.Relay

namespace SovaDesk.Signal

/-! ### The gates of a punch-hole request -/

def punchHoleUnauthorizedResponse : PunchHoleResponse where
  failure := some .idNotExist
  socketAddr := none
  pk := []
  relayServer := ""
  nat := none

/-- The answer for a target that cannot be connected to. -/
def offlineResponse (relayServer : String) : PunchHoleResponse where
  failure := some .offline
  socketAddr := none
  pk := []
  relayServer := relayServer
  nat := none

/-- The gates both handlers have: authorization and the target. -/
def admitPunch (config : RelayConfig) (s : SignalServer) (env : RelayEnv) (msg : PunchHoleRequest)
    (raddr : Addr) : Except PunchHoleResponse Entry :=
  if (requireAuthorizedInitiator config s env.now raddr msg.token).isNone then
    .error punchHoleUnauthorizedResponse
  else
    match (s.peers.lookup msg.id).filter fun entry => !entry.isExpired env.now with
    | none => .error (offlineResponse (getRelayServer config s))
    | some target => if target.banned then .error (offlineResponse "") else .ok target

/-- `CheckConnection`, where the billing service is attached. -/
def billingAllows (s : SignalServer) (env : RelayEnv) (targetID : String) : Bool :=
  s.billing.all fun billing =>
    (Billing.checkConnection billing.db env.clockSynced targetID).allowed

/-- The relay server for two peers, whether they are on one network, and whether they have to use
the relay. -/
structure PunchRoute where
  relayServer : String
  sameNetwork : Bool
  forced : Bool

def punchRoute (config : RelayConfig) (s : SignalServer) (msg : PunchHoleRequest) (raddr : Addr)
    (target : Entry) : PunchRoute :=
  let (selected, sameNetwork, hairpin) :=
    selectPeerRelayServer config s (getRelayServer config s) raddr target.udpAddr
  let peerIDs := [peerIDForAddr s raddr, msg.id]
  { relayServer := applyNetworkRelayPolicy s selected peerIDs
    sameNetwork
    forced := msg.forceRelay || config.alwaysUseRelay || hairpin ||
      shouldForceRelayForPeers s peerIDs }

/-! ### Punch-hole requests -/

/-- What the target is told. -/
def punchHoleFor (msg : PunchHoleRequest) (raddr : Addr) (relayServer : String) : PunchHole where
  socketAddr := raddr
  relayServer := relayServer
  natType := msg.natType
  udpPort := msg.udpPort
  forceRelay := msg.forceRelay
  upnpPort := msg.upnpPort
  socketAddrV6 := msg.socketAddrV6

/-- What the initiator is told of a target. -/
def punchResponse (config : RelayConfig) (target : Entry) (targetID relayServer : String)
    (nat : PunchNat) : PunchHoleResponse where
  failure := none
  socketAddr := target.udpAddr
  pk := signedPk config target targetID
  relayServer := relayServer
  nat := some nat

def refusePunch (s : SignalServer) (raddr : Addr) (response : PunchHoleResponse) : Outcome where
  server := s
  sent := [.punchHoleResponse raddr response]
  crashed := false

/-- `sendRelayResponse`: a new UUID for both peers; a target without a UDP address is not told. -/
def sendRelayResponse (config : RelayConfig) (s : SignalServer) (env : RelayEnv) (target : Entry)
    (raddr : Addr) (msg : PunchHoleRequest) (relay : String) : Outcome :=
  let answer := Sent.relayResponse raddr
    { uuid := env.newUUID, relayServer := relay, pk := signedPk config target target.id,
      refuseReason := "" }
  if target.udpAddr.isNone then { server := s, sent := [answer], crashed := false }
  else
    { server := storePendingUUID s env.now target.id env.newUUID
      sent := [answer, .requestRelay target.id
        { id := msg.id, uuid := env.newUUID, relayServer := relay, socketAddr := some raddr,
          secure := false, connType := msg.connType, token := "", controlPermissions := [] }]
      crashed := false }

/-- Tell the target and answer the initiator, or let the answer wait for the target. -/
def punch (config : RelayConfig) (s : SignalServer) (msg : PunchHoleRequest) (raddr : Addr)
    (target : Entry) (route : PunchRoute) : Outcome :=
  let request := Sent.punchHole msg.id (punchHoleFor msg raddr route.relayServer)
  let response := punchResponse config target msg.id route.relayServer
    (if route.sameNetwork then .isLocal else .ofTarget)
  if config.p2pFirst && !route.sameNetwork then
    { server := { s with pendingPunches := s.pendingPunches.insert raddr response }
      sent := [request]
      crashed := false }
  else { server := s, sent := [request, .punchHoleResponse raddr response], crashed := false }

/-- `handlePunchHoleRequest`: over UDP. -/
def handlePunchHoleRequest (config : RelayConfig) (s : SignalServer) (env : RelayEnv)
    (msg : PunchHoleRequest) (raddr : Addr) : Outcome :=
  if msg.id = "" then { server := s, sent := [], crashed := false }
  else
    match admitPunch config s env msg raddr with
    | .error response => refusePunch s raddr response
    | .ok target =>
      if !billingAllows s env msg.id then refusePunch s raddr (offlineResponse "")
      else
        let route := punchRoute config s msg raddr target
        if route.forced then
          sendRelayResponse config s env target raddr msg route.relayServer
        else punch config s msg raddr target route

/-- `handlePunchHoleRequestTCP`: over TCP or WebSocket. -/
def handlePunchHoleRequestTCP (config : RelayConfig) (s : SignalServer) (env : RelayEnv)
    (msg : PunchHoleRequest) (raddr : Addr) : Outcome :=
  if msg.id = "" then { server := s, sent := [], crashed := false }
  else
    match admitPunch config s env msg raddr with
    | .error response => refusePunch s raddr response
    | .ok target =>
      let route := punchRoute config s msg raddr target
      if route.forced then
        { server := s
          sent := [.punchHoleResponse raddr
            (punchResponse config target target.id route.relayServer .symmetric)]
          crashed := false }
      else punch config s msg raddr target route

/-- The timer of a waiting answer fires. -/
def firePunchFallback (s : SignalServer) (raddr : Addr) : Option Outcome :=
  (s.pendingPunches.lookup raddr).map fun response =>
    { server := { s with pendingPunches := s.pendingPunches.erase raddr }
      sent := [.punchHoleResponse raddr response]
      crashed := false }

/-! ### The answers of targets -/

/-- `peerEntryMatchesIP`. -/
def peerEntryMatchesIP (entry : Entry) (ip : IP) : Bool :=
  entry.udpAddr.any (·.ip == ip) || entry.ip.any (·.ip == ip)

def countByIP (peers : Table String Entry) (ip : IP) : Nat :=
  (peers.entries.map (·.2)).countP (peerEntryMatchesIP · ip)

/-- The target an answer comes from: the one it names, or the only one at the sender's IP. -/
def answeringTarget (s : SignalServer) (id : String) (senderAddr : Addr) : String :=
  if id ≠ "" then id
  else if countByIP s.peers senderAddr.ip > 1 then ""
  else ((findByIP s.peers senderAddr.ip).map (·.id)).getD ""

/-- The signed key of the peer under an ID; it is empty where there is none. -/
def signedPkOf (config : RelayConfig) (s : SignalServer) (targetID : String) : Bytes :=
  if targetID = "" then []
  else ((s.peers.lookup targetID).map fun target => signedPk config target targetID).getD []

/-- A target has punched a hole for the initiator at an address; an address that cannot be decoded
is none. -/
structure PunchHoleSent where
  socketAddr : Option Addr
  id : String
  relayServer : String

/-- `handlePunchHoleSent`: the waiting answer is not sent any more. -/
def handlePunchHoleSent (config : RelayConfig) (s : SignalServer) (phs : PunchHoleSent)
    (senderAddr : Addr) : Outcome :=
  match phs.socketAddr with
  | none => { server := s, sent := [], crashed := false }
  | some initiatorAddr =>
    let relayServer :=
      if phs.relayServer = "" then getRelayServer config s else phs.relayServer
    let selected := selectPeerRelayServer config s relayServer senderAddr (some initiatorAddr)
    { server := { s with pendingPunches := s.pendingPunches.erase initiatorAddr }
      sent := [.punchHoleResponse initiatorAddr
        { failure := none
          socketAddr := some senderAddr
          pk := signedPkOf config s (answeringTarget s phs.id senderAddr)
          relayServer := selected.1
          nat := some (if selected.2.1 then .isLocal else .ofTarget) }]
      crashed := false }

/-- A target has connected to the relay server for the initiator at an address. -/
structure RelayAnswer where
  socketAddr : Option Addr
  id : String
  uuid : String
  refuseReason : String
  deriving DecidableEq

/-- `getPendingUUID`. -/
def getPendingUUID (s : SignalServer) (targetID : String) : String :=
  ((s.pendingRelayUUIDs.lookup targetID).map (·.uuid)).getD ""

/-- What the initiator gets of a target's answer. -/
def forwardedAnswer (config : RelayConfig) (s : SignalServer) (rr : RelayAnswer)
    (senderAddr initiatorAddr : Addr) (targetID uuid : String) : RelayResponse where
  uuid := uuid
  relayServer :=
    (selectPeerRelayServer config s (getRelayServer config s) senderAddr (some initiatorAddr)).1
  pk := signedPkOf config s targetID
  refuseReason := rr.refuseReason

/-- `handleRelayResponseForward`: an answer without a UUID gets the one that was sent to its target
last, or a new one. The first eight bytes of a stored UUID are logged, and a shorter one is a
panic. -/
def handleRelayResponseForward (config : RelayConfig) (s : SignalServer) (env : RelayEnv)
    (rr : RelayAnswer) (senderAddr : Addr) : Outcome :=
  match rr.socketAddr with
  | none => { server := s, sent := [], crashed := false }
  | some initiatorAddr =>
    let targetID := answeringTarget s rr.id senderAddr
    let forward (uuid : String) : Outcome :=
      { server := s
        sent := [.relayResponse initiatorAddr
          (forwardedAnswer config s rr senderAddr initiatorAddr targetID uuid)]
        crashed := false }
    if rr.uuid ≠ "" then forward rr.uuid
    else
      let stored := getPendingUUID s targetID
      if stored = "" then forward env.newUUID
      else if stored.utf8ByteSize < 8 then { server := s, sent := [], crashed := true }
      else forward stored

end SovaDesk.Signal
