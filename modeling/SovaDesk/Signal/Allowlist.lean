/-
This file settles which relay servers are named to the devices of organizations with a
relay allowlist.

The network policy replaces a relay server that an allowlist does not permit. The handlers
of punch-hole requests apply it once a request has passed its gates, and so does the handler
of relay requests over UDP; relay requests over TCP and WebSocket, refusals and whatever is
passed on for a target get the address as it was asked for or configured. Where the policy
is applied, the allowlist is that of the first device that has one, so the initiator's comes
before the target's. The runs are those of the signal server with all its handlers; an
answer that waits for a hole to be punched keeps the devices it was made for.
-/

import SovaDesk.Lib.Text
import SovaDesk.Signal.Unbilled

namespace SovaDesk.Signal

open Auth Transition

/-! ### What the allowlists permit -/

def HasAllowlist (settings : String → NetworkSettings) (deviceID : String) : Prop :=
  deviceID ≠ "" ∧ (settings deviceID).allowedRelayServers ≠ []

instance (settings : String → NetworkSettings) (deviceID : String) :
    Decidable (HasAllowlist settings deviceID) :=
  inferInstanceAs (Decidable (_ ∧ _))

/-- `ResolveRelay` leaves the relay server as it is for the device. -/
def Permits (settings : String → NetworkSettings) (deviceID relayServer : String) : Prop :=
  resolveRelay settings relayServer [deviceID] = relayServer

/-- The policy permits a relay server for all devices of a connection; no address at all is no relay
server. -/
def Allowed (s : SignalServer) (relayServer : String) (deviceIDs : List String) : Prop :=
  relayServer ≠ "" → ∀ settings ∈ s.networkPolicy, ∀ deviceID ∈ deviceIDs,
    HasAllowlist settings deviceID → Permits settings deviceID relayServer

section policy

variable {settings : String → NetworkSettings} {initiatorID targetID deviceID : String}

theorem trimSpace_trimSpace (text : String) : trimSpace (trimSpace text) = trimSpace text := by
  have trimmed : ∀ text : String,
      trimSpace text = String.ofList (Text.trim isSpace text.toList) := fun _ => rfl
  rw [trimmed (trimSpace text), trimmed text, String.toList_ofList, Text.trim_trim]

/-- The allowlist of the first device comes first. -/
theorem resolveRelay_cons_of_has (has : HasAllowlist settings initiatorID) (defaultRelay : String)
    (deviceIDs : List String) :
    resolveRelay settings defaultRelay (initiatorID :: deviceIDs) =
      resolveRelay settings defaultRelay [initiatorID] := by
  obtain ⟨named, listed⟩ := has
  obtain ⟨first, rest, list⟩ := List.exists_cons_of_ne_nil listed
  simp [resolveRelay, named, list]

/-- A device without an allowlist is passed over. -/
theorem resolveRelay_cons_of_none (free : ¬ HasAllowlist settings initiatorID)
    (defaultRelay : String) (deviceIDs : List String) :
    resolveRelay settings defaultRelay (initiatorID :: deviceIDs) =
      resolveRelay settings defaultRelay deviceIDs := by
  rcases eq_or_ne initiatorID "" with rfl | named
  · rfl
  · have empty : (settings initiatorID).allowedRelayServers = [] := by
      by_contra listed
      exact free ⟨named, listed⟩
    simp [resolveRelay, named, empty]

/-- The answer for a device with an allowlist. -/
theorem resolveRelay_of_list {first : String} {rest : List String} (named : deviceID ≠ "")
    (list : (settings deviceID).allowedRelayServers = first :: rest) (defaultRelay : String) :
    resolveRelay settings defaultRelay [deviceID] =
      if (first :: rest).any (allowsRelay (trimSpace defaultRelay)) then defaultRelay
      else trimSpace first := by
  simp [resolveRelay, named, list]

/-- What `ResolveRelay` returns for a device is permitted for it. -/
theorem permits_resolveRelay (settings : String → NetworkSettings)
    (deviceID defaultRelay : String) :
    Permits settings deviceID (resolveRelay settings defaultRelay [deviceID]) := by
  unfold Permits
  by_cases has : HasAllowlist settings deviceID
  · obtain ⟨named, listed⟩ := has
    obtain ⟨first, rest, list⟩ := List.exists_cons_of_ne_nil listed
    rw [resolveRelay_of_list named list defaultRelay]
    split
    · next allowed => rw [resolveRelay_of_list named list, if_pos allowed]
    · rw [resolveRelay_of_list named list, trimSpace_trimSpace, ite_self]
  · rw [resolveRelay_cons_of_none has, resolveRelay_cons_of_none has]
    rfl

end policy

/-! ### The system -/

/-- A target tells a peer its local address; an address that cannot be decoded is none. -/
structure LocalAddr where
  socketAddr : Option Addr
  localAddr : Bytes
  relayServer : String
  id : String
  version : String
  socketAddrV6 : Bytes

/-- `handleLocalAddr`: the message is passed on with the address it came from. -/
def handleLocalAddr (msg : LocalAddr) (raddr : Addr) : Option (Addr × LocalAddr) :=
  msg.socketAddr.map fun requesterAddr => (requesterAddr, { msg with socketAddr := some raddr })

inductive PolicyLabel
  | relay (label : RelayLabel)
  | localAddr (msg : LocalAddr) (raddr : Addr)

/-- The signal server with the devices for which an answer waits. -/
structure Pledged where
  server : SignalServer
  waitingFor : Table Addr (List String)
  crashed : Bool

/-- The initiator and the target that a handler connects. -/
def connected (s : Pledged) : PolicyLabel → List String
  | .relay (.requestRelay _ _ msg raddr) | .relay (.requestRelayTCP _ msg raddr _) =>
    [peerIDForAddr s.server raddr, msg.id]
  | .relay (.punchHoleRequest _ _ msg raddr) | .relay (.punchHoleRequestTCP _ msg raddr) =>
    [peerIDForAddr s.server raddr, msg.id]
  | .relay (.punchFallback raddr) => (s.waitingFor.lookup raddr).getD []
  | .relay (.punchHoleSent phs senderAddr) =>
    [(phs.socketAddr.map (peerIDForAddr s.server)).getD "",
      answeringTarget s.server phs.id senderAddr]
  | .relay (.relayResponse _ rr senderAddr) =>
    [(rr.socketAddr.map (peerIDForAddr s.server)).getD "",
      answeringTarget s.server rr.id senderAddr]
  | .relay _ => []
  | .localAddr msg _ => [(msg.socketAddr.map (peerIDForAddr s.server)).getD "", msg.id]

def Sent.relayServer : Sent → String
  | .requestRelay _ msg => msg.relayServer
  | .punchHole _ msg => msg.relayServer
  | .relayResponse _ msg => msg.relayServer
  | .punchHoleResponse _ msg => msg.relayServer

/-- The relay servers that a handler sends. -/
def sentRelays (config : RelayConfig) (s : SignalServer) : PolicyLabel → List String
  | .relay label => ((handled config s label).map fun outcome =>
      outcome.sent.map (·.relayServer)).getD []
  | .localAddr msg raddr => ((handleLocalAddr msg raddr).map (·.2.relayServer)).toList

/-- The address whose answer waits after a punch-hole request: the target alone has been told. -/
def answerWaits (outcome : Outcome) : RelayLabel → Option Addr
  | .punchHoleRequest _ _ _ raddr | .punchHoleRequestTCP _ _ raddr =>
    match outcome.sent with
    | [.punchHole _ _] => some raddr
    | _ => none
  | _ => none

/-- A panic ends the server. -/
def policyStep (settings : Billing.Settings) (config : RelayConfig) (s : Pledged)
    (label : PolicyLabel) : Option Pledged :=
  if s.crashed then none
  else
    match label with
    | .localAddr _ _ => some s
    | .relay label =>
      match handled config s.server label with
      | some outcome =>
        some
          { server := outcome.server
            waitingFor :=
              match answerWaits outcome label with
              | some raddr => s.waitingFor.insert raddr (connected s (.relay label))
              | none => s.waitingFor
            crashed := outcome.crashed }
      | none =>
        (silentStep settings config s.server label).map fun server => { s with server := server }

/-- Runs from a server that has just started. -/
def naming (settings : Billing.Settings) (config : RelayConfig) : System Pledged PolicyLabel where
  start s := s.server.pendingPunches = ∅ ∧ s.crashed = false
  step := policyStep settings config

/-! ### The property -/

/-- Every relay server that is sent is permitted for the devices it is sent for. -/
def NamesPermitted (config : RelayConfig) (taken : Taken Pledged PolicyLabel) : Prop :=
  ∀ relayServer ∈ sentRelays config taken.before.server taken.label,
    Allowed taken.before.server relayServer (connected taken.before taken.label)

/-! ### The condition -/

/-- What a handler does about the relay server: it names none itself, or one that the policy is not
asked about, or what the policy makes of one. -/
inductive RelayChoice
  | silent
  | unasked (relayServer : String)
  | resolved (defaultRelay : String)
  deriving DecidableEq

/-- The relay server for two peers where the handler starts from an address. -/
def relayBetween (config : RelayConfig) (s : SignalServer) (relayServer : String) (a : Addr)
    (b : Option Addr) : String :=
  (selectPeerRelayServer config s relayServer a b).1

/-- The choice of each handler, by the gates the message passes. -/
def relayChoice (config : RelayConfig) (s : SignalServer) : PolicyLabel → RelayChoice
  | .relay (.requestRelay env readable msg raddr) =>
    match admitRelay config s env msg raddr .udp with
    | .error _ => .unasked (requestedRelay config s msg)
    | .ok target =>
      match billRelay (s.seeing readable) env (relayUUIDFor env msg) msg.id
        (peerIDForAddr s raddr) with
      | .error _ => .unasked (requestedRelay config s msg)
      | .ok _ =>
        .resolved (relayBetween config s (requestedRelay config s msg) raddr target.udpAddr)
  | .relay (.requestRelayTCP env msg raddr hint) =>
    match admitRelay config s env msg raddr hint with
    | .error _ => .unasked (requestedRelay config s msg)
    | .ok target =>
      .unasked (relayBetween config s (requestedRelay config s msg) raddr target.udpAddr)
  | .relay (.punchHoleRequest env readable msg raddr) =>
    if msg.id = "" then .silent
    else
      match admitPunch config s env msg raddr with
      | .error response => .unasked response.relayServer
      | .ok target =>
        if !billingAllows (s.seeing readable) env msg.id then .unasked ""
        else .resolved (relayBetween config s (getRelayServer config s) raddr target.udpAddr)
  | .relay (.punchHoleRequestTCP env msg raddr) =>
    if msg.id = "" then .silent
    else
      match admitPunch config s env msg raddr with
      | .error response => .unasked response.relayServer
      | .ok target =>
        .resolved (relayBetween config s (getRelayServer config s) raddr target.udpAddr)
  | .relay (.punchHoleSent phs senderAddr) =>
    match phs.socketAddr with
    | none => .silent
    | some initiatorAddr =>
      .unasked (relayBetween config s
        (if phs.relayServer = "" then getRelayServer config s else phs.relayServer) senderAddr
        (some initiatorAddr))
  | .relay (.relayResponse _ rr senderAddr) =>
    match rr.socketAddr with
    | none => .silent
    | some initiatorAddr =>
      let stored := getPendingUUID s (answeringTarget s rr.id senderAddr)
      if rr.uuid = "" ∧ stored ≠ "" ∧ stored.utf8ByteSize < 8 then .silent
      else .unasked (relayBetween config s (getRelayServer config s) senderAddr
        (some initiatorAddr))
  | .relay _ => .silent
  | .localAddr msg _ => if msg.socketAddr.isNone then .silent else .unasked msg.relayServer

/-- Where the initiator has an allowlist, the relay server that it leads to is permitted for the
target as well. -/
def ListsAgree (s : SignalServer) (defaultRelay initiatorID targetID : String) : Prop :=
  ∀ settings ∈ s.networkPolicy, HasAllowlist settings initiatorID →
    Allowed s (resolveRelay settings defaultRelay [initiatorID]) [targetID]

/-- The condition: where the policy is not asked, the relay server that is asked for or configured
is on the allowlists already; where it is asked, the two allowlists agree. -/
def PathPermits (config : RelayConfig) (s : Pledged) (label : PolicyLabel) : Prop :=
  match relayChoice config s.server label with
  | .silent => True
  | .unasked relayServer => Allowed s.server relayServer (connected s label)
  | .resolved defaultRelay =>
    ∀ initiatorID targetID, connected s label = [initiatorID, targetID] →
      ListsAgree s.server defaultRelay initiatorID targetID

/-! ### What the handlers name -/

/-- The relay server that a choice comes to. -/
def RelayChoice.named (s : SignalServer) (deviceIDs : List String) : RelayChoice → Option String
  | .silent => none
  | .unasked relayServer => some relayServer
  | .resolved defaultRelay => some (applyNetworkRelayPolicy s defaultRelay deviceIDs)

/-- What a handler leaves and sends, when it names one relay server or none: an answer that waits
afterwards either waited before or names that relay server. -/
structure NamesOne (s : SignalServer) (label : RelayLabel) (relayServer : Option String)
    (outcome : Outcome) : Prop where
  policy : outcome.server.networkPolicy = s.networkPolicy
  only : ∀ sent ∈ outcome.sent, relayServer = some sent.relayServer
  sends : relayServer ≠ none → outcome.sent ≠ []
  waits : ∀ raddr response, outcome.server.pendingPunches.lookup raddr = some response →
    if answerWaits outcome label = some raddr then relayServer = some response.relayServer
    else s.pendingPunches.lookup raddr = some response

section handlers

variable {config : RelayConfig} {s : SignalServer} {env : RelayEnv} {raddr : Addr}
  {target : Entry} {label : RelayLabel} {outcome : Outcome} {relayServer : String}

/-- A handler that lets no answer wait. -/
theorem NamesOne.of_kept {relayServer : Option String}
    (policy : outcome.server.networkPolicy = s.networkPolicy)
    (only : ∀ sent ∈ outcome.sent, relayServer = some sent.relayServer)
    (sends : relayServer ≠ none → outcome.sent ≠ [])
    (kept : outcome.server.pendingPunches = s.pendingPunches)
    (answered : answerWaits outcome label = none) : NamesOne s label relayServer outcome where
  policy := policy
  only := only
  sends := sends
  waits raddr response found := by
    rw [answered, if_neg nofun, ← kept]
    exact found

theorem namesOne_silent (same : outcome.server = s) (silent : outcome.sent = []) :
    NamesOne s label none outcome := by
  refine .of_kept (by rw [same]) ?_ (fun named => absurd rfl named) (by rw [same]) ?_
  · rw [silent]
    exact fun _ member => absurd member List.not_mem_nil
  · cases label with
    | punchHoleRequest | punchHoleRequestTCP => rw [answerWaits, silent]
    | _ => rfl

theorem namesOne_refuseRelay (reason : String)
    (answered : ∀ outcome, answerWaits outcome label = none) :
    NamesOne s label (some relayServer) (refuseRelay s raddr relayServer reason) := by
  refine .of_kept rfl (fun sent member => ?_) (fun _ => List.cons_ne_nil _ _) rfl (answered _)
  rw [List.mem_singleton.mp member]
  rfl

theorem namesOne_assignRelay {server : SignalServer} {forwarded : RequestRelay}
    (named : forwarded.relayServer = relayServer)
    (policy : server.networkPolicy = s.networkPolicy)
    (kept : server.pendingPunches = s.pendingPunches)
    (answered : ∀ outcome, answerWaits outcome label = none) :
    NamesOne s label (some relayServer)
      (assignRelay config server env raddr target forwarded) := by
  subst named
  unfold assignRelay
  dsimp only
  split
  · refine .of_kept policy (fun sent member => ?_) (fun _ => List.cons_ne_nil _ _) kept (answered _)
    rw [List.mem_singleton.mp member]
    rfl
  · refine .of_kept policy (fun sent member => ?_) (fun _ => List.cons_ne_nil _ _) kept (answered _)
    rcases List.mem_cons.mp member with rfl | second
    · rfl
    · rw [List.mem_singleton.mp second]
      rfl

theorem namesOne_refusePunch (response : PunchHoleResponse) :
    NamesOne s label (some response.relayServer) (refusePunch s raddr response) := by
  refine .of_kept rfl (fun sent member => ?_) (fun _ => List.cons_ne_nil _ _) rfl ?_
  · rw [List.mem_singleton.mp member]
    rfl
  · cases label <;> rfl

theorem namesOne_sendRelayResponse (request : PunchHoleRequest) (relay : String) :
    NamesOne s label (some relay)
      (sendRelayResponse config s env target raddr request relay) := by
  unfold sendRelayResponse
  dsimp only
  split
  · refine .of_kept rfl (fun sent member => ?_) (fun _ => List.cons_ne_nil _ _) rfl ?_
    · rw [List.mem_singleton.mp member]
      rfl
    · cases label <;> rfl
  · refine .of_kept rfl (fun sent member => ?_) (fun _ => List.cons_ne_nil _ _) rfl ?_
    · rcases List.mem_cons.mp member with rfl | second
      · rfl
      · rw [List.mem_singleton.mp second]
        rfl
    · cases label <;> rfl

/-- A request of a punch hole names its relay server, and so does the answer that waits. -/
theorem namesOne_punch (request : PunchHoleRequest) (route : PunchRoute)
    (isRequest : ∀ outcome, answerWaits outcome label =
      match outcome.sent with
      | [.punchHole _ _] => some raddr
      | _ => none) :
    NamesOne s label (some route.relayServer) (punch config s request raddr target route) := by
  unfold punch
  dsimp only
  split
  · refine ⟨rfl, fun sent member => ?_, fun _ => List.cons_ne_nil _ _,
      fun other response found => ?_⟩
    · rw [List.mem_singleton.mp member]
      rfl
    · rw [isRequest]
      rcases Table.lookup_insert_iff.mp found with ⟨rfl, rfl⟩ | ⟨different, older⟩
      · rw [if_pos rfl]
        rfl
      · rw [if_neg fun same => different (Option.some.inj same).symm]
        exact older
  · refine .of_kept rfl (fun sent member => ?_) (fun _ => List.cons_ne_nil _ _) rfl (isRequest _)
    rcases List.mem_cons.mp member with rfl | second
    · rfl
    · rw [List.mem_singleton.mp second]
      rfl

/-- What a handler can read of the contracts has no part in it. -/
theorem NamesOne.reading {readable : Readable} {handler : SignalServer → Outcome}
    {relayServer : Option String}
    (names : NamesOne (s.seeing readable) label relayServer (handler (s.seeing readable))) :
    NamesOne s label relayServer (reading s readable handler) := by
  refine ⟨names.policy, names.only, names.sends, fun raddr response found => ?_⟩
  have same : answerWaits (Signal.reading s readable handler) label =
      answerWaits (handler (s.seeing readable)) label := by
    cases label <;> rfl
  rw [same]
  exact names.waits raddr response found

theorem namesOne_requestRelay (config : RelayConfig) (s : Pledged) (env : RelayEnv)
    (readable : Readable) (msg : RequestRelay) (raddr : Addr) :
    NamesOne s.server (.requestRelay env readable msg raddr)
      ((relayChoice config s.server (.relay (.requestRelay env readable msg raddr))).named s.server
        [peerIDForAddr s.server raddr, msg.id])
      (Signal.reading s.server readable fun s => handleRequestRelay config s env msg raddr) := by
  refine .reading ?_
  unfold handleRequestRelay relayChoice
  dsimp only
  have same : admitRelay config (s.server.seeing readable) env msg raddr .udp =
      admitRelay config s.server env msg raddr .udp := rfl
  rw [same]
  cases admitRelay config s.server env msg raddr .udp with
  | error reason => exact namesOne_refuseRelay reason fun _ => rfl
  | ok target =>
    have caller : peerIDForAddr (s.server.seeing readable) raddr =
        peerIDForAddr s.server raddr := rfl
    dsimp only
    rw [caller]
    cases billRelay (s.server.seeing readable) env (relayUUIDFor env msg) msg.id
        (peerIDForAddr s.server raddr) with
    | error reason => exact namesOne_refuseRelay reason fun _ => rfl
    | ok billing =>
      refine namesOne_assignRelay ?_ ?_ ?_ fun _ => ?_
      · rfl
      · rfl
      · rfl
      · rfl

theorem namesOne_requestRelayTCP (config : RelayConfig) (s : Pledged) (env : RelayEnv)
    (msg : RequestRelay) (raddr : Addr) (hint : ConnType) :
    NamesOne s.server (.requestRelayTCP env msg raddr hint)
      ((relayChoice config s.server (.relay (.requestRelayTCP env msg raddr hint))).named s.server
        [peerIDForAddr s.server raddr, msg.id])
      (handleRequestRelayTCP config s.server env msg raddr hint) := by
  unfold handleRequestRelayTCP relayChoice
  dsimp only
  cases admitRelay config s.server env msg raddr hint with
  | error reason => exact namesOne_refuseRelay reason fun _ => rfl
  | ok target =>
    refine namesOne_assignRelay ?_ ?_ ?_ fun _ => ?_
    · rfl
    · rfl
    · rfl
    · rfl

theorem namesOne_punchHoleRequest (config : RelayConfig) (s : Pledged) (env : RelayEnv)
    (readable : Readable) (msg : PunchHoleRequest) (raddr : Addr) :
    NamesOne s.server (.punchHoleRequest env readable msg raddr)
      ((relayChoice config s.server (.relay (.punchHoleRequest env readable msg raddr))).named
        s.server [peerIDForAddr s.server raddr, msg.id])
      (Signal.reading s.server readable fun s =>
        handlePunchHoleRequest config s env msg raddr) := by
  refine .reading ?_
  unfold handlePunchHoleRequest relayChoice
  dsimp only
  have same : admitPunch config (s.server.seeing readable) env msg raddr =
      admitPunch config s.server env msg raddr := rfl
  rw [same]
  split
  · exact namesOne_silent rfl rfl
  cases admitPunch config s.server env msg raddr with
  | error response => exact namesOne_refusePunch response
  | ok target =>
    dsimp only
    split
    · exact namesOne_refusePunch (offlineResponse "")
    · show NamesOne _ _ (some (punchRoute config s.server msg raddr target).relayServer) _
      split
      · exact namesOne_sendRelayResponse msg _
      · exact namesOne_punch msg _ fun _ => rfl

theorem namesOne_punchHoleRequestTCP (config : RelayConfig) (s : Pledged) (env : RelayEnv)
    (msg : PunchHoleRequest) (raddr : Addr) :
    NamesOne s.server (.punchHoleRequestTCP env msg raddr)
      ((relayChoice config s.server (.relay (.punchHoleRequestTCP env msg raddr))).named s.server
        [peerIDForAddr s.server raddr, msg.id])
      (handlePunchHoleRequestTCP config s.server env msg raddr) := by
  unfold handlePunchHoleRequestTCP relayChoice
  dsimp only
  split
  · exact namesOne_silent rfl rfl
  cases admitPunch config s.server env msg raddr with
  | error response => exact namesOne_refusePunch response
  | ok target =>
    show NamesOne _ _ (some (punchRoute config s.server msg raddr target).relayServer) _
    dsimp only
    split
    · exact namesOne_refusePunch (punchResponse config target target.id _ .symmetric)
    · exact namesOne_punch msg _ fun _ => rfl

theorem namesOne_punchHoleSent (config : RelayConfig) (s : Pledged) (phs : PunchHoleSent)
    (senderAddr : Addr) (deviceIDs : List String) :
    NamesOne s.server (.punchHoleSent phs senderAddr)
      ((relayChoice config s.server (.relay (.punchHoleSent phs senderAddr))).named s.server
        deviceIDs)
      (handlePunchHoleSent config s.server phs senderAddr) := by
  unfold handlePunchHoleSent relayChoice
  dsimp only
  cases phs.socketAddr with
  | none =>
    have silent : NamesOne s.server (.punchHoleSent phs senderAddr) none ⟨s.server, [], false⟩ :=
      namesOne_silent rfl rfl
    exact silent
  | some initiatorAddr =>
    refine ⟨rfl, fun sent member => ?_, fun _ => List.cons_ne_nil _ _,
      fun raddr response found => ?_⟩
    · rw [List.mem_singleton.mp member]
      rfl
    · exact (Table.lookup_erase_iff.mp found).2

theorem namesOne_relayResponse (config : RelayConfig) (s : Pledged) (env : RelayEnv)
    (rr : RelayAnswer) (senderAddr : Addr) (deviceIDs : List String) :
    NamesOne s.server (.relayResponse env rr senderAddr)
      ((relayChoice config s.server (.relay (.relayResponse env rr senderAddr))).named s.server
        deviceIDs)
      (handleRelayResponseForward config s.server env rr senderAddr) := by
  unfold handleRelayResponseForward relayChoice
  dsimp only
  cases rr.socketAddr with
  | none => exact namesOne_silent rfl rfl
  | some initiatorAddr =>
    have forwards : ∀ uuid, NamesOne s.server (.relayResponse env rr senderAddr)
        (some (relayBetween config s.server (getRelayServer config s.server) senderAddr
          (some initiatorAddr)))
        { server := s.server
          sent := [.relayResponse initiatorAddr (forwardedAnswer config s.server rr senderAddr
            initiatorAddr (answeringTarget s.server rr.id senderAddr) uuid)]
          crashed := false } := by
      intro uuid
      refine .of_kept rfl (fun sent member => ?_) (fun _ => List.cons_ne_nil _ _) rfl rfl
      rw [List.mem_singleton.mp member]
      rfl
    dsimp only
    by_cases named : rr.uuid = ""
    · rw [if_neg (not_not_intro named)]
      by_cases stored : getPendingUUID s.server (answeringTarget s.server rr.id senderAddr) = ""
      · rw [if_pos stored, if_neg fun silent => silent.2.1 stored]
        exact forwards _
      · rw [if_neg stored]
        by_cases short :
            (getPendingUUID s.server (answeringTarget s.server rr.id senderAddr)).utf8ByteSize < 8
        · rw [if_pos short, if_pos ⟨named, stored, short⟩]
          exact namesOne_silent rfl rfl
        · rw [if_neg short, if_neg fun silent => short silent.2.2]
          exact forwards _
    · rw [if_pos named, if_neg fun silent => named silent.1]
      exact forwards _

/-- Every handler names one relay server, that of its choice, or none. The timer of a waiting answer
sends what was chosen earlier. -/
theorem namesOne_handled {s : Pledged} (found : handled config s.server label = some outcome)
    (noTimer : ∀ raddr, label ≠ .punchFallback raddr) :
    NamesOne s.server label
      ((relayChoice config s.server (.relay label)).named s.server (connected s (.relay label)))
      outcome := by
  cases label with
  | requestRelay env readable msg raddr =>
    obtain rfl := Option.some.inj found
    exact namesOne_requestRelay config s env readable msg raddr
  | requestRelayTCP env msg raddr hint =>
    obtain rfl := Option.some.inj found
    exact namesOne_requestRelayTCP config s env msg raddr hint
  | punchHoleRequest env readable msg raddr =>
    obtain rfl := Option.some.inj found
    exact namesOne_punchHoleRequest config s env readable msg raddr
  | punchHoleRequestTCP env msg raddr =>
    obtain rfl := Option.some.inj found
    exact namesOne_punchHoleRequestTCP config s env msg raddr
  | punchFallback raddr => exact absurd rfl (noTimer raddr)
  | punchHoleSent phs senderAddr =>
    obtain rfl := Option.some.inj found
    exact namesOne_punchHoleSent config s phs senderAddr _
  | relayResponse env rr senderAddr =>
    obtain rfl := Option.some.inj found
    exact namesOne_relayResponse config s env rr senderAddr _
  | signal | billing | billingTables => exact (nomatch found)

end handlers

/-! ### The condition on what is named -/

section condition

variable {config : RelayConfig} {s : Pledged}

/-- What the policy makes of an address is permitted for both peers exactly when the allowlists
agree. -/
theorem allowed_resolved_iff (s : SignalServer) (defaultRelay initiatorID targetID : String) :
    Allowed s (applyNetworkRelayPolicy s defaultRelay [initiatorID, targetID])
        [initiatorID, targetID] ↔ ListsAgree s defaultRelay initiatorID targetID := by
  unfold Allowed ListsAgree applyNetworkRelayPolicy
  cases policy : s.networkPolicy with
  | none => exact iff_of_true (fun _ _ none => nomatch none) fun _ none => nomatch none
  | some settings =>
    dsimp only
    by_cases has : HasAllowlist settings initiatorID
    · rw [resolveRelay_cons_of_has has]
      constructor
      · rintro allowed _ ⟨⟩ _ named other isSame deviceID isTarget
        rw [policy] at isSame
        obtain rfl := Option.some.inj (Option.mem_def.mp isSame)
        exact allowed named settings rfl deviceID (List.mem_cons_of_mem _ isTarget)
      · rintro agree named _ ⟨⟩ deviceID isPeer listed
        rcases List.mem_cons.mp isPeer with rfl | isTarget
        · exact permits_resolveRelay settings deviceID defaultRelay
        · exact agree settings rfl has named settings policy deviceID isTarget listed
    · rw [resolveRelay_cons_of_none has]
      refine iff_of_true ?_ fun _ isSame listed => ?_
      · rintro _ _ ⟨⟩ deviceID isPeer listed
        rcases List.mem_cons.mp isPeer with rfl | isTarget
        · exact absurd listed has
        · obtain rfl := List.mem_singleton.mp isTarget
          exact permits_resolveRelay settings deviceID defaultRelay
      · obtain rfl := Option.some.inj (Option.mem_def.mp isSame)
        exact absurd listed has

/-- The policy is asked for two peers. -/
theorem connected_of_resolved {label : PolicyLabel} {defaultRelay : String}
    (resolved : relayChoice config s.server label = .resolved defaultRelay) :
    ∃ initiatorID targetID, connected s label = [initiatorID, targetID] := by
  cases label with
  | localAddr msg raddr => exact ⟨_, _, rfl⟩
  | relay label =>
    cases label with
    | punchFallback | signal | billing | billingTables => exact (nomatch resolved)
    | _ => exact ⟨_, _, rfl⟩

theorem pathPermits_iff (label : PolicyLabel) :
    PathPermits config s label ↔
      ∀ relayServer ∈ (relayChoice config s.server label).named s.server (connected s label),
        Allowed s.server relayServer (connected s label) := by
  unfold PathPermits
  cases choice : relayChoice config s.server label with
  | silent => exact iff_of_true trivial fun _ none => nomatch none
  | unasked relayServer =>
    refine ⟨fun allowed _ isNamed => ?_, fun allowed => allowed relayServer rfl⟩
    obtain rfl := Option.some.inj (Option.mem_def.mp isNamed)
    exact allowed
  | resolved defaultRelay =>
    obtain ⟨initiatorID, targetID, peers⟩ := connected_of_resolved choice
    dsimp only
    rw [peers]
    constructor
    · rintro agree _ ⟨⟩
      exact (allowed_resolved_iff _ _ _ _).mpr (agree initiatorID targetID rfl)
    · rintro allowed _ _ ⟨⟩
      exact (allowed_resolved_iff _ _ _ _).mp (allowed _ rfl)

end condition

/-! ### Every run -/

section runs

variable {settings : Billing.Settings} {config : RelayConfig} {before after : Pledged}
  {label : RelayLabel} {outcome : Outcome}

/-- An answer that waits names a relay server that is permitted for the devices it is for. -/
def AnswersPermitted (s : Pledged) : Prop :=
  ∀ raddr response, s.server.pendingPunches.lookup raddr = some response →
    ∃ deviceIDs, s.waitingFor.lookup raddr = some deviceIDs ∧
      Allowed s.server response.relayServer deviceIDs

variable {s : SignalServer}

/-- A step that sends nothing changes neither the policy nor, but for a restart, the answers that
wait. -/
theorem silentStep_kept {after : SignalServer}
    (stepped : silentStep settings config s label = some after) :
    after.networkPolicy = s.networkPolicy ∧
      ∀ raddr response, after.pendingPunches.lookup raddr = some response →
        s.pendingPunches.lookup raddr = some response := by
  cases label with
  | signal label =>
    obtain ⟨server, _, rfl⟩ := Option.map_eq_some_iff.mp stepped
    cases label with
    | restart => exact ⟨rfl, fun _ _ found => nomatch found⟩
    | _ => exact ⟨rfl, fun _ _ found => found⟩
  | billing label =>
    cases label with
    | prepare => exact (nomatch stepped)
    | _ =>
      obtain ⟨billing, _, moved⟩ := Option.bind_eq_some_iff.mp stepped
      obtain ⟨_, _, rfl⟩ := Option.map_eq_some_iff.mp moved
      exact ⟨rfl, fun _ _ found => found⟩
  | billingTables db =>
    obtain ⟨billing, _, rfl⟩ := Option.map_eq_some_iff.mp stepped
    exact ⟨rfl, fun _ _ found => found⟩
  | _ => exact (nomatch stepped)

theorem allowed_congr {after : SignalServer} (same : after.networkPolicy = s.networkPolicy)
    {relayServer : String} {deviceIDs : List String} (allowed : Allowed s relayServer deviceIDs) :
    Allowed after relayServer deviceIDs := by
  unfold Allowed at allowed ⊢
  rwa [same]

/-- The timer of an answer sends what waited. -/
theorem punchFallback_sends {raddr : Addr} (fired : firePunchFallback s raddr = some outcome) :
    ∃ response, s.pendingPunches.lookup raddr = some response ∧
      outcome.sent = [.punchHoleResponse raddr response] ∧
      outcome.server.networkPolicy = s.networkPolicy ∧
      outcome.server.pendingPunches = AList.erase raddr s.pendingPunches := by
  obtain ⟨response, waits, rfl⟩ := Option.map_eq_some_iff.mp fired
  exact ⟨response, waits, rfl, rfl, rfl⟩

/-- The state after a handler. -/
theorem policyStep_of_handled (found : handled config before.server label = some outcome)
    (taken : policyStep settings config before (.relay label) = some after) :
    after = ⟨outcome.server, match answerWaits outcome label with
      | some raddr => before.waitingFor.insert raddr (connected before (.relay label))
      | none => before.waitingFor, outcome.crashed⟩ := by
  unfold policyStep at taken
  obtain ⟨_, same⟩ := Option.ite_none_left_eq_some.mp taken
  dsimp only at same
  rw [found] at same
  exact (Option.some.inj same).symm

theorem policyStep_of_silent (found : handled config before.server label = none)
    (taken : policyStep settings config before (.relay label) = some after) :
    ∃ server, silentStep settings config before.server label = some server ∧
      after = { before with server } := by
  unfold policyStep at taken
  obtain ⟨_, same⟩ := Option.ite_none_left_eq_some.mp taken
  dsimp only at same
  rw [found] at same
  obtain ⟨server, stepped, rfl⟩ := Option.map_eq_some_iff.mp same
  exact ⟨server, stepped, rfl⟩

/-- A step that meets the condition leaves only permitted answers waiting. -/
theorem answersPermitted_step {label : PolicyLabel} (kept : AnswersPermitted before)
    (permits : PathPermits config before label)
    (taken : policyStep settings config before label = some after) : AnswersPermitted after := by
  cases label with
  | localAddr msg raddr =>
    unfold policyStep at taken
    obtain ⟨_, rfl⟩ := Transition.of_guard_not taken
    exact kept
  | relay label =>
  cases found : handled config before.server label with
  | none =>
    obtain ⟨server, stepped, rfl⟩ := policyStep_of_silent found taken
    obtain ⟨policy, waited⟩ := silentStep_kept stepped
    intro raddr response waits
    obtain ⟨deviceIDs, noted, allowed⟩ := kept raddr response (waited raddr response waits)
    exact ⟨deviceIDs, noted, allowed_congr policy allowed⟩
  | some outcome =>
    obtain rfl := policyStep_of_handled found taken
    by_cases isTimer : ∃ raddr, label = .punchFallback raddr
    · obtain ⟨raddr, rfl⟩ := isTimer
      obtain ⟨_, _, _, policy, erased⟩ := punchFallback_sends found
      intro other response waits
      dsimp only at waits
      rw [erased] at waits
      obtain ⟨deviceIDs, noted, allowed⟩ :=
        kept other response (Table.lookup_erase_iff.mp waits).2
      exact ⟨deviceIDs, noted, allowed_congr policy allowed⟩
    · have names := namesOne_handled found fun raddr same => isTimer ⟨raddr, same⟩
      intro other response waits
      have either := names.waits other response waits
      split at either
      · next now =>
        refine ⟨connected before (.relay label), ?_, ?_⟩
        · dsimp only
          rw [now]
          exact AList.lookup_insert _
        · exact allowed_congr names.policy ((pathPermits_iff _).mp permits _ either)
      · next earlier =>
        obtain ⟨deviceIDs, noted, allowed⟩ := kept other response either
        refine ⟨deviceIDs, ?_, allowed_congr names.policy allowed⟩
        dsimp only
        split
        · next raddr now =>
          have different : other ≠ raddr := by
            rintro rfl
            exact earlier now
          rw [Table.lookup_insert_if, if_neg different]
          exact noted
        · exact noted

theorem sentRelays_of_handled (found : handled config s label = some outcome) :
    sentRelays config s (.relay label) = outcome.sent.map (·.relayServer) := by
  unfold sentRelays
  dsimp only
  rw [found]
  rfl

theorem sentRelays_of_none (found : handled config s label = none) :
    sentRelays config s (.relay label) = [] := by
  unfold sentRelays
  dsimp only
  rw [found]
  rfl

/-- A local address is passed on with the relay server it names. -/
theorem sentRelays_localAddr (msg : LocalAddr) (raddr : Addr) (deviceIDs : List String) :
    sentRelays config s (.localAddr msg raddr) =
      ((relayChoice config s (.localAddr msg raddr)).named s deviceIDs).toList := by
  unfold sentRelays handleLocalAddr relayChoice
  dsimp only
  cases msg.socketAddr <;> rfl

/-- What a step sends is permitted exactly when it meets the condition. -/
theorem namesPermitted_iff {label : PolicyLabel} (kept : AnswersPermitted before) :
    NamesPermitted config ⟨before, label, after⟩ ↔ PathPermits config before label := by
  unfold NamesPermitted
  dsimp only
  cases label with
  | localAddr msg raddr =>
    rw [pathPermits_iff, sentRelays_localAddr msg raddr (connected before _)]
    exact forall_congr' fun _ => imp_congr_left Option.mem_toList
  | relay label =>
  by_cases isTimer : ∃ raddr, label = .punchFallback raddr
  · obtain ⟨raddr, rfl⟩ := isTimer
    refine iff_of_true (fun relayServer isSent => ?_) trivial
    cases fired : handled config before.server (.punchFallback raddr) with
    | none =>
      rw [sentRelays_of_none fired] at isSent
      exact absurd isSent List.not_mem_nil
    | some outcome =>
      obtain ⟨response, waits, sent, _⟩ := punchFallback_sends fired
      rw [sentRelays_of_handled fired, sent] at isSent
      obtain rfl := List.mem_singleton.mp isSent
      obtain ⟨deviceIDs, noted, allowed⟩ := kept raddr response waits
      unfold connected
      dsimp only
      rw [noted]
      exact allowed
  · rw [pathPermits_iff]
    cases found : handled config before.server label with
    | none =>
      have silent : relayChoice config before.server (.relay label) = .silent := by
        cases label with
        | punchFallback raddr => exact absurd ⟨raddr, rfl⟩ isTimer
        | signal | billing | billingTables => rfl
        | _ => exact (nomatch found)
      rw [silent, sentRelays_of_none found]
      exact iff_of_true (fun _ isSent => absurd isSent List.not_mem_nil) fun _ none => nomatch none
    | some outcome =>
      have names := namesOne_handled found fun raddr same => isTimer ⟨raddr, same⟩
      rw [sentRelays_of_handled found]
      constructor
      · intro allowed relayServer isNamed
        obtain ⟨sent, rest, nonempty⟩ := List.exists_cons_of_ne_nil
          (names.sends (Option.ne_none_iff_exists'.mpr ⟨relayServer, isNamed⟩))
        have isSent : sent ∈ outcome.sent := nonempty ▸ List.mem_cons_self
        have same := (names.only sent isSent).symm.trans isNamed
        exact allowed relayServer (List.mem_map.mpr ⟨sent, isSent, Option.some.inj same⟩)
      · intro allowed relayServer isSent
        obtain ⟨sent, member, rfl⟩ := List.mem_map.mp isSent
        exact allowed _ (names.only sent member)

/-- In every run, all relay servers that are sent are permitted exactly when all steps meet the
condition. -/
theorem namesPermitted_iff_pathPermits (settings : Billing.Settings) (config : RelayConfig)
    {steps : List (Taken Pledged PolicyLabel)} {final : Pledged}
    (history : History (naming settings config) steps final) :
    (∀ taken ∈ steps, NamesPermitted config taken) ↔
      ∀ taken ∈ steps, PathPermits config taken.before taken.label := by
  refine history.forall_iff_when fun step reached _ => namesPermitted_iff ?_
  refine reached.invariant AnswersPermitted ?_ fun _ _ _ kept permits taken =>
    answersPermitted_step kept permits taken
  rintro s ⟨empty, _⟩ raddr response waits
  rw [empty] at waits
  exact (nomatch waits)

end runs

/-! ### A customer with a relay of its own -/

/-- The organization of the customer's device allows its own relay server only. -/
def customerPolicy (deviceID : String) : NetworkSettings where
  blockDirectP2P := false
  allowedRelayServers := if deviceID = "device-1" then ["relay.corp:21117"] else []

def policyServer : Pledged where
  server := { customerServer with networkPolicy := some customerPolicy, billing := none }
  waitingFor := ∅
  crashed := false

/-- A run of one step from this server. -/
theorem policyServer_history {label : PolicyLabel} {after : Pledged}
    (taken : policyStep minuteSettings openRelayConfig policyServer label = some after) :
    History (naming minuteSettings openRelayConfig) [⟨policyServer, label, after⟩] after :=
  .step (.start ⟨rfl, rfl⟩) taken

/-- A relay request over TCP is answered with the default relay server, also for a device whose
organization does not allow it. -/
theorem defaultRelay_notPermitted :
    ¬ ∀ (settings : Billing.Settings) (config : RelayConfig) steps final,
      History (naming settings config) steps final →
        ∀ taken ∈ steps, NamesPermitted config taken := by
  intro always
  obtain ⟨after, taken⟩ := Option.isSome_iff_exists.mp (show (policyStep minuteSettings
    openRelayConfig policyServer (.relay (.requestRelayTCP (relayEnv true) toCustomer operatorAddr
      .tcp))).isSome by decide)
  have permitted := always minuteSettings openRelayConfig _ after (policyServer_history taken) _
    List.mem_cons_self
  have sent : "relay.example:21117" ∈ sentRelays openRelayConfig policyServer.server
      (.relay (.requestRelayTCP (relayEnv true) toCustomer operatorAddr .tcp)) := by decide
  have concerned : "device-1" ∈ connected policyServer
      (.relay (.requestRelayTCP (relayEnv true) toCustomer operatorAddr .tcp)) := by decide
  have permits := permitted _ sent (by decide) customerPolicy rfl _ concerned (by decide)
  exact absurd permits (by unfold Permits; decide)

/-- The same request over UDP is answered with the customer's own relay server. -/
theorem namesPermitted_iff_pathPermits_udp :
    ∃ steps final, History (naming minuteSettings openRelayConfig) steps final ∧
      (∃ taken ∈ steps, "relay.corp:21117" ∈ sentRelays openRelayConfig taken.before.server
        taken.label) ∧
      ∀ taken ∈ steps, NamesPermitted openRelayConfig taken := by
  obtain ⟨after, taken⟩ := Option.isSome_iff_exists.mp (show (policyStep minuteSettings
    openRelayConfig policyServer (.relay (.requestRelay (relayEnv true) .all toCustomer
      operatorAddr))).isSome by decide)
  have sent : "relay.corp:21117" ∈ sentRelays openRelayConfig policyServer.server
      (.relay (.requestRelay (relayEnv true) .all toCustomer operatorAddr)) := by decide
  refine ⟨_, after, policyServer_history taken, ⟨_, List.mem_cons_self, sent⟩,
    (namesPermitted_iff_pathPermits minuteSettings openRelayConfig
      (policyServer_history taken)).mpr fun step member => ?_⟩
  obtain rfl := List.mem_singleton.mp member
  have choice : relayChoice openRelayConfig policyServer.server (.relay (.requestRelay
      (relayEnv true) .all toCustomer operatorAddr)) = .resolved "relay.example:21117" := by decide
  have peers : connected policyServer (.relay (.requestRelay (relayEnv true) .all toCustomer
      operatorAddr)) = ["operator-1", "device-1"] := by decide
  unfold PathPermits
  dsimp only
  rw [choice, peers]
  rintro _ _ ⟨⟩ settings isPolicy listed
  obtain rfl := Option.some.inj (Option.mem_def.mp isPolicy)
  exact absurd listed (by decide)

end SovaDesk.Signal
