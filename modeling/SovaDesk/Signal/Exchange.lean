/-
This file models the handlers that share the relay UUIDs sent to targets as programs: the
relay requests on both transports, the punch-hole requests over UDP, the answers of the
targets, and the cleaner.

Each looks at the server in several calls, and between two of them anything else may change
it. What other handlers do to the rest of the server is any change at all, as none of them
touches the UUIDs. A panic ends its own handler here, and the runs in which the others go
on after it are more than those of the code.
-/

import SovaDesk.Lib.Interleave
import SovaDesk.Signal.Punch

namespace SovaDesk.Signal.Exchange

open Interleave

/-! ### Calls -/

/-- How long a relay UUID that was sent to a target is kept, in nanoseconds. -/
def maxTTL : Int := 2 * 60 * 1000000000

/-- What the handlers read and write. The cleaner reads the UUIDs as it walks through them. -/
inductive RelayCall
  | requireAuthorizedInitiator (now : Int) (raddr : Addr) (token : String)
  | getPeer (id : String)
  | findByIP (ip : IP)
  | countByIP (ip : IP)
  | checkConnection (clockSynced : Bool) (targetID : String)
  | prepareRelay (clockSynced : Bool) (now : Int) (relayUUID targetID initiatorID : String)
  | getRelayServer
  | selectPeerRelayServer (defaultRelay : String) (a : Addr) (b : Option Addr)
  | applyNetworkRelayPolicy (defaultRelay : String) (peerIDs : List String)
  | shouldForceRelayForPeers (peerIDs : List String)
  | schedulePunchFallback (raddr : Addr) (response : PunchHoleResponse)
  | storePendingUUID (now : Int) (targetID uuid : String)
  | getPendingUUID (targetID : String)
  | visitPendingUUID (targetID : String)
  | deletePendingUUID (targetID : String)
  | send (sent : Sent)
  | change (others : SignalServer → SignalServer)

@[reducible] def RelayCall.Answer : RelayCall → Type
  | .requireAuthorizedInitiator _ _ _ => Option String
  | .getPeer _ | .findByIP _ => Option Entry
  | .countByIP _ => Nat
  | .checkConnection _ _ | .prepareRelay _ _ _ _ _ | .shouldForceRelayForPeers _ => Bool
  | .getRelayServer | .applyNetworkRelayPolicy _ _ => String
  | .selectPeerRelayServer _ _ _ => String × Bool × Bool
  | .getPendingUUID _ | .visitPendingUUID _ => Option PendingUUID
  | .schedulePunchFallback _ _ | .storePendingUUID _ _ _ | .deletePendingUUID _ | .send _
  | .change _ => Unit

/-- The calls that may fail: those that ask the database. -/
def RelayCall.mayFail : RelayCall → Bool
  | .requireAuthorizedInitiator _ _ _ | .checkConnection _ _ | .prepareRelay _ _ _ _ _ => true
  | _ => false

section perform

variable (config : RelayConfig)

def perform : (call : RelayCall) → SignalServer → call.Answer × SignalServer
  | .requireAuthorizedInitiator now raddr token, s =>
    (Signal.requireAuthorizedInitiator config s now raddr token, s)
  | .getPeer id, s => (s.peers.lookup id, s)
  | .findByIP ip, s => (Signal.findByIP s.peers ip, s)
  | .countByIP ip, s => (Signal.countByIP s.peers ip, s)
  | .checkConnection clockSynced targetID, s =>
    (s.billing.all fun billing =>
      (Billing.checkConnection billing.db clockSynced targetID).allowed, s)
  | .prepareRelay clockSynced now relayUUID targetID initiatorID, s =>
    match s.billing with
    | none => (true, s)
    | some billing =>
      match Billing.prepareRelay billing.db clockSynced now relayUUID targetID initiatorID
          billing.pending with
      | .error _ => (false, s)
      | .ok pending => (true, { s with billing := some { billing with pending } })
  | .getRelayServer, s => (Signal.getRelayServer config s, s)
  | .selectPeerRelayServer defaultRelay a b, s =>
    (Signal.selectPeerRelayServer config s defaultRelay a b, s)
  | .applyNetworkRelayPolicy defaultRelay peerIDs, s =>
    (Signal.applyNetworkRelayPolicy s defaultRelay peerIDs, s)
  | .shouldForceRelayForPeers peerIDs, s => (Signal.shouldForceRelayForPeers s peerIDs, s)
  | .schedulePunchFallback raddr response, s =>
    ((), { s with pendingPunches := s.pendingPunches.insert raddr response })
  | .storePendingUUID now targetID uuid, s => ((), Signal.storePendingUUID s now targetID uuid)
  | .getPendingUUID targetID, s | .visitPendingUUID targetID, s =>
    (s.pendingRelayUUIDs.lookup targetID, s)
  | .deletePendingUUID targetID, s =>
    ((), { s with pendingRelayUUIDs := s.pendingRelayUUIDs.erase targetID })
  | .send _, s => ((), s)
  | .change others, s => ((), { others s with pendingRelayUUIDs := s.pendingRelayUUIDs })

@[reducible] def relayCalls : Interface where
  Store := SignalServer
  Call := RelayCall
  Answer := RelayCall.Answer
  perform call s := some (perform config call s)

end perform

/-! ### Requests -/

/-- How a handler ends. -/
inductive End
  | finished
  | panicked
  deriving DecidableEq

variable {config : RelayConfig}

variable (config) in
abbrev Steps := Program (relayCalls config) End

/-- Make a call whose outcome is not looked at. -/
def andThen (call : RelayCall) (rest : Steps config) : Steps config := .call call fun _ => rest

/-- Send messages, and end. -/
def answer : List Sent → Steps config
  | [] => .done .finished
  | sent :: rest => andThen (.send sent) (answer rest)

def refuse (raddr : Addr) (relayServer refuseReason : String) : Steps config :=
  answer [.relayResponse raddr { uuid := "", relayServer, pk := [], refuseReason }]

/-- The relay server of a request. -/
def requestedRelay (msg : RequestRelay) (rest : String → Steps config) : Steps config :=
  .call .getRelayServer fun relayServer =>
    rest (if msg.relayServer = "" then relayServer.getD "" else msg.relayServer)

/-- `peerIDForAddr`. -/
def peerIDForAddr (raddr : Addr) (rest : String → Steps config) : Steps config :=
  .call (.findByIP raddr.ip) fun entry => rest ((entry.join.map (·.id)).getD "")

/-- The gates of both relay handlers. -/
def admitRelay (env : RelayEnv) (msg : RequestRelay) (raddr : Addr) (assumed : ConnType)
    (relayServer : String) (rest : Entry → Steps config) : Steps config :=
  .call (.requireAuthorizedInitiator env.now raddr msg.token) fun authorized =>
  if authorized.join.isNone then refuse raddr relayServer refuseInitiatorNotAuthorized
  else
    .call (.getPeer msg.id) fun found =>
    match found.join.filter fun entry => !entry.isExpired env.now && !entry.banned with
    | none => refuse raddr relayServer "Target offline"
    | some target =>
      .call (.findByIP raddr.ip) fun initiator =>
      if relayTransportMismatch ((initiator.join.map (·.connType)).getD assumed) target.connType
      then refuse raddr relayServer refuseRelayProtocolMismatch
      else rest target

/-- Remember the UUID, forward the request to the target and answer the initiator; a UUID of fewer
than eight bytes is a panic in between. -/
def assignRelay (env : RelayEnv) (raddr : Addr) (target : Entry) (forwarded : RequestRelay) :
    Steps config :=
  andThen (.storePendingUUID env.now forwarded.id forwarded.uuid) <|
  andThen (.send (.requestRelay forwarded.id forwarded)) <|
  if forwarded.uuid.utf8ByteSize < 8 then .done .panicked
  else
    answer [.relayResponse raddr
      { uuid := forwarded.uuid, relayServer := forwarded.relayServer,
        pk := signedPk config target forwarded.id, refuseReason := "" }]

/-- `handleRequestRelay`; an error of the billing tables lets the request pass. -/
def handleRequestRelay (env : RelayEnv) (msg : RequestRelay) (raddr : Addr) : Steps config :=
  requestedRelay msg fun relayServer =>
  admitRelay env msg raddr .udp relayServer fun target =>
  peerIDForAddr raddr fun initiatorID =>
  .call (.checkConnection env.clockSynced msg.id) fun allowed =>
  if allowed = some false then refuse raddr relayServer "Billing suspended"
  else
    .call (.prepareRelay env.clockSynced env.now (relayUUIDFor env msg) msg.id initiatorID)
      fun prepared =>
    if prepared = some false then refuse raddr relayServer "Billing blocked"
    else
      .call (.selectPeerRelayServer relayServer raddr target.udpAddr) fun selected =>
      .call (.applyNetworkRelayPolicy ((selected.map (·.1)).getD "") [initiatorID, msg.id])
        fun relayServer =>
      assignRelay env raddr target
        { id := msg.id, uuid := relayUUIDFor env msg, relayServer := relayServer.getD "",
          socketAddr := some raddr, secure := false, connType := 0, token := "",
          controlPermissions := [] }

/-- `handleRequestRelayTCP`. -/
def handleRequestRelayTCP (env : RelayEnv) (msg : RequestRelay) (raddr : Addr)
    (initiatorHint : ConnType) : Steps config :=
  requestedRelay msg fun relayServer =>
  admitRelay env msg raddr initiatorHint relayServer fun target =>
  .call (.selectPeerRelayServer relayServer raddr target.udpAddr) fun selected =>
  assignRelay env raddr target
    { id := msg.id, uuid := relayUUIDFor env msg, relayServer := (selected.map (·.1)).getD "",
      socketAddr := some raddr, secure := msg.secure, connType := msg.connType,
      token := msg.token, controlPermissions := msg.controlPermissions }

/-- `sendRelayResponse`. -/
def sendRelayResponse (env : RelayEnv) (target : Entry) (raddr : Addr) (msg : PunchHoleRequest)
    (relay : String) : Steps config :=
  andThen (.send (.relayResponse raddr
    { uuid := env.newUUID, relayServer := relay, pk := signedPk config target target.id,
      refuseReason := "" })) <|
  if target.udpAddr.isNone then .done .finished
  else
    andThen (.storePendingUUID env.now target.id env.newUUID) <|
    answer [.requestRelay target.id
      { id := msg.id, uuid := env.newUUID, relayServer := relay, socketAddr := some raddr,
        secure := false, connType := msg.connType, token := "", controlPermissions := [] }]

/-- Tell the target and answer the initiator, or let the answer wait for the target. -/
def punch (msg : PunchHoleRequest) (raddr : Addr) (target : Entry) (relayServer : String)
    (sameNetwork : Bool) : Steps config :=
  let response := punchResponse config target msg.id relayServer
    (if sameNetwork then .isLocal else .ofTarget)
  andThen (.send (.punchHole msg.id (punchHoleFor msg raddr relayServer))) <|
  if config.p2pFirst && !sameNetwork then
    andThen (.schedulePunchFallback raddr response) (.done .finished)
  else answer [.punchHoleResponse raddr response]

/-- `handlePunchHoleRequest`. -/
def handlePunchHoleRequest (env : RelayEnv) (msg : PunchHoleRequest) (raddr : Addr) :
    Steps config :=
  if msg.id = "" then .done .finished
  else
    .call (.requireAuthorizedInitiator env.now raddr msg.token) fun authorized =>
    if authorized.join.isNone then
      answer [.punchHoleResponse raddr punchHoleUnauthorizedResponse]
    else
      .call (.getPeer msg.id) fun found =>
      .call .getRelayServer fun defaultRelay =>
      match found.join.filter fun entry => !entry.isExpired env.now with
      | none => answer [.punchHoleResponse raddr (offlineResponse (defaultRelay.getD ""))]
      | some target =>
        if target.banned then answer [.punchHoleResponse raddr (offlineResponse "")]
        else
          .call (.checkConnection env.clockSynced msg.id) fun allowed =>
          if allowed = some false then answer [.punchHoleResponse raddr (offlineResponse "")]
          else
            .call (.selectPeerRelayServer (defaultRelay.getD "") raddr target.udpAddr)
              fun selected =>
            let (selected, sameNetwork, hairpin) := selected.getD ("", false, false)
            peerIDForAddr raddr fun initiatorID =>
            .call (.applyNetworkRelayPolicy selected [initiatorID, msg.id]) fun relayServer =>
            .call (.shouldForceRelayForPeers [initiatorID, msg.id]) fun forced =>
            if msg.forceRelay || config.alwaysUseRelay || hairpin || forced.getD false then
              sendRelayResponse env target raddr msg (relayServer.getD "")
            else punch msg raddr target (relayServer.getD "") sameNetwork

/-- The target an answer comes from. -/
def answeringTarget (id : String) (senderAddr : Addr) (rest : String → Steps config) :
    Steps config :=
  if id ≠ "" then rest id
  else
    .call (.countByIP senderAddr.ip) fun count =>
    if count.getD 0 > 1 then rest ""
    else .call (.findByIP senderAddr.ip) fun entry => rest ((entry.join.map (·.id)).getD "")

/-- Sign the target's key, choose the relay server and forward the answer. -/
def forwardAnswer (rr : RelayAnswer) (senderAddr initiatorAddr : Addr) (targetID uuid : String) :
    Steps config :=
  .call (.getPeer targetID) fun target =>
  .call .getRelayServer fun defaultRelay =>
  .call (.selectPeerRelayServer (defaultRelay.getD "") senderAddr (some initiatorAddr))
    fun selected =>
  answer [.relayResponse initiatorAddr
    { uuid := uuid
      relayServer := (selected.map (·.1)).getD ""
      pk :=
        if targetID = "" then []
        else (target.join.map fun target => signedPk config target targetID).getD []
      refuseReason := rr.refuseReason }]

/-- `handleRelayResponseForward`. -/
def handleRelayResponseForward (env : RelayEnv) (rr : RelayAnswer) (senderAddr : Addr) :
    Steps config :=
  match rr.socketAddr with
  | none => .done .finished
  | some initiatorAddr =>
    answeringTarget rr.id senderAddr fun targetID =>
    if rr.uuid ≠ "" then forwardAnswer rr senderAddr initiatorAddr targetID rr.uuid
    else
      .call (.getPendingUUID targetID) fun stored =>
      let stored := (stored.join.map (·.uuid)).getD ""
      if stored = "" then forwardAnswer rr senderAddr initiatorAddr targetID env.newUUID
      else if stored.utf8ByteSize < 8 then .done .panicked
      else forwardAnswer rr senderAddr initiatorAddr targetID stored

/-- The cleaner deletes what it saw to be too old, whatever is stored there by then. -/
def cleanup (now : Int) : List String → Steps config
  | [] => .done .finished
  | targetID :: rest =>
    .call (.visitPendingUUID targetID) fun stored =>
    if stored.join.any fun pending => now - pending.createdAt > maxTTL then
      andThen (.deletePendingUUID targetID) (cleanup now rest)
    else cleanup now rest

/-- What goroutines are started for. -/
inductive Request
  | requestRelay (env : RelayEnv) (msg : RequestRelay) (raddr : Addr)
  | requestRelayTCP (env : RelayEnv) (msg : RequestRelay) (raddr : Addr) (hint : ConnType)
  | punchHoleRequest (env : RelayEnv) (msg : PunchHoleRequest) (raddr : Addr)
  | relayResponse (env : RelayEnv) (rr : RelayAnswer) (senderAddr : Addr)
  | cleanup (now : Int) (targets : List String)
  | other (others : SignalServer → SignalServer)

variable (config) in
def run : Request → Steps config
  | .requestRelay env msg raddr => handleRequestRelay env msg raddr
  | .requestRelayTCP env msg raddr hint => handleRequestRelayTCP env msg raddr hint
  | .punchHoleRequest env msg raddr => handlePunchHoleRequest env msg raddr
  | .relayResponse env rr senderAddr => handleRelayResponseForward env rr senderAddr
  | .cleanup now targets => cleanup now targets
  | .other others => andThen (.change others) (.done .finished)

end SovaDesk.Signal.Exchange
