/-
This file settles whether relay requests get the same verdict on every transport.

The handler for TCP and WebSocket repeats the gates of the one for UDP and leaves out two:
it does not ask the billing service, and it does not put the relay server it selected
before the network policy. What else differs is what a handler assumes of an initiator
that no entry of the peer map tells it about. The verdicts agree exactly when these
differences come to nothing, and the UUID is long enough for the line both handlers log.
-/

import SovaDesk.Signal.Relay

namespace SovaDesk.Signal

/-! ### The property -/

/-- The relay response that goes to the initiator. -/
def Outcome.answer (o : Outcome) : Option RelayResponse :=
  o.sent.findSome? fun
    | .relayResponse _ response => some response
    | _ => none

def Outcome.Refuses (o : Outcome) : Prop :=
  ∃ response, o.answer = some response ∧ response.refuseReason ≠ ""

/-- The initiator is told to meet the target at a relay server. -/
def Outcome.Accepts (o : Outcome) (relay : String) : Prop :=
  ∃ response, o.answer = some response ∧ response.refuseReason = "" ∧ response.relayServer = relay

/-- Two billing services hold the same tables, the same relays that wait and run, and the same
goroutines. -/
def SameBilling : Option Billing.State → Option Billing.State → Prop
  | none, none => True
  | some a, some b =>
    a.db = b.db ∧ a.active = b.active ∧ a.threads = b.threads ∧
      ∀ relayUUID, a.pending.lookup relayUUID = b.pending.lookup relayUUID
  | _, _ => False

/-- Both handlers refuse, or both accept with the same relay server and leave the same. -/
def SameVerdict (udp tcp : Outcome) : Prop :=
  (udp.Refuses ∧ tcp.Refuses) ∨
    ∃ relay, udp.Accepts relay ∧ tcp.Accepts relay ∧
      udp.server.pendingRelayUUIDs = tcp.server.pendingRelayUUIDs ∧
      SameBilling udp.server.billing tcp.server.billing

/-! ### The condition -/

section condition

variable (config : RelayConfig) (s : SignalServer) (env : RelayEnv) (msg : RequestRelay)
  (raddr : Addr)

/-- The transports fit for an initiator that is assumed to be connected in some way where its entry
does not say. -/
def TransportFits (assumed : ConnType) (target : Entry) : Prop :=
  relayTransportMismatch (initiatorType s raddr assumed) target.connType = false

/-- The billing service refuses connections to a device. -/
def BillingRefuses (deviceID : String) : Prop :=
  ∃ billing, s.billing = some billing ∧
    (Billing.checkConnection billing.db env.clockSynced deviceID).allowed = false

/-- What `PrepareRelay` records for a request under a contract. -/
def relayRecord (billing : Billing.State) (contract : Billing.BillingContract) :
    Billing.PendingRelay where
  orgID := billing.db.getDeviceOrgID msg.id
  deviceID := msg.id
  operatorID := peerIDForAddr s raddr
  contractID := contract.id
  currency := contract.currency
  createdAt := env.now

/-- No contract applies to the target, or what would be recorded of the relay is there already. -/
def NothingToRecord : Prop :=
  ∀ billing contract, s.billing = some billing →
    Billing.resolveContractForDevice billing.db msg.id = some contract →
    billing.pending.lookup (relayUUIDFor env msg) =
      some (relayRecord s env msg raddr billing contract)

/-- The network policy of the two peers allows the relay server that is selected for them. -/
def PolicyKeeps (target : Entry) : Prop :=
  let selected :=
    (selectPeerRelayServer config s (requestedRelay config s msg) raddr target.udpAddr).1
  applyNetworkRelayPolicy s selected [peerIDForAddr s raddr, msg.id] = selected

/-- The gates that only one of the handlers has let a request pass as the other does. -/
structure PassesAlike (hint : ConnType) (target : Entry) : Prop where
  overUDP : TransportFits s raddr .udp target
  overTCP : TransportFits s raddr hint target
  allowed : ¬ BillingRefuses s env msg.id
  recorded : NothingToRecord s env msg raddr
  policy : PolicyKeeps config s msg raddr target
  uuid : 8 ≤ (relayUUIDFor env msg).utf8ByteSize

/-- Both handlers stop a request, the one for UDP for its transport or its billing, the other for
its transport. -/
def StoppedAlike (hint : ConnType) (target : Entry) : Prop :=
  (¬ TransportFits s raddr .udp target ∨ BillingRefuses s env msg.id) ∧
    ¬ TransportFits s raddr hint target

/-- A request of an authorized initiator to a target that is online passes both handlers alike, or
is stopped by both. -/
def TreatedAlike (hint : ConnType) : Prop :=
  (requireAuthorizedInitiator config s env.now raddr msg.token).isSome →
    ∀ target, s.online env.now msg.id = some target →
      PassesAlike config s env msg raddr hint target ∨ StoppedAlike s env msg raddr hint target

end condition

/-! ### Refusals and answers -/

section

variable {config : RelayConfig} {s : SignalServer} {env : RelayEnv} {msg : RequestRelay}
  {raddr : Addr} {target : Entry} {forwarded : RequestRelay} {relayServer reason relay : String}

theorem refuses_refuseRelay (named : reason ≠ "") :
    (refuseRelay s raddr relayServer reason).Refuses := ⟨_, rfl, named⟩

theorem not_accepts_refuseRelay (named : reason ≠ "") :
    ¬ (refuseRelay s raddr relayServer reason).Accepts relay := by
  rintro ⟨response, answered, silent, _⟩
  obtain rfl := Option.some.inj answered
  exact named silent

theorem not_refuses_assignRelay : ¬ (assignRelay config s env raddr target forwarded).Refuses := by
  rintro ⟨response, answered, named⟩
  unfold assignRelay at answered
  split at answered
  · exact nomatch answered
  · exact named (Option.some.inj answered ▸ rfl)

theorem accepts_assignRelay_iff :
    (assignRelay config s env raddr target forwarded).Accepts relay ↔
      8 ≤ forwarded.uuid.utf8ByteSize ∧ forwarded.relayServer = relay := by
  unfold assignRelay
  split
  · next short =>
    exact iff_of_false (fun ⟨_, answered, _⟩ => nomatch answered) fun long => by omega
  · next long =>
    constructor
    · rintro ⟨response, answered, _, same⟩
      obtain rfl := Option.some.inj answered
      exact ⟨by omega, same⟩
    · exact fun ⟨_, same⟩ => ⟨_, rfl, rfl, same⟩

theorem server_assignRelay :
    (assignRelay config s env raddr target forwarded).server =
      storePendingUUID s env.now forwarded.id forwarded.uuid := by
  unfold assignRelay
  split <;> rfl

/-! ### The gates -/

theorem relayUUIDFor_ne_empty : relayUUIDFor env msg ≠ "" := by
  unfold relayUUIDFor
  split
  · intro empty
    have length := env.newUUID.property
    rw [empty] at length
    exact absurd length (by decide)
  · next named => exact named

/-- A request that does not come to the transports is refused the same way everywhere. -/
theorem admitRelay_of_stopped {assumed : ConnType}
    (stopped : (requireAuthorizedInitiator config s env.now raddr msg.token).isSome →
      s.online env.now msg.id = none) :
    ∃ reason, reason ≠ "" ∧ admitRelay config s env msg raddr assumed = .error reason := by
  unfold admitRelay
  split
  · exact ⟨_, by decide, rfl⟩
  · next authorized =>
    rw [stopped (Option.isSome_iff_ne_none.mpr fun none => authorized (none ▸ rfl))]
    exact ⟨_, by decide, rfl⟩

theorem admitRelay_of_online {assumed : ConnType}
    (authorized : (requireAuthorizedInitiator config s env.now raddr msg.token).isSome)
    (online : s.online env.now msg.id = some target) :
    admitRelay config s env msg raddr assumed =
      if relayTransportMismatch (initiatorType s raddr assumed) target.connType then
        .error refuseRelayProtocolMismatch
      else .ok target := by
  have passed : ¬ (requireAuthorizedInitiator config s env.now raddr msg.token).isNone = true := by
    rw [Option.isNone_iff_eq_none, ← ne_eq, ← Option.isSome_iff_ne_none]
    exact authorized
  rw [admitRelay, if_neg passed, online]

/-- What the billing gate does: it refuses, or records the relay under the contract that applies, or
leaves the service as it is. -/
inductive BillingEffect (s : SignalServer) (env : RelayEnv) (msg : RequestRelay) (raddr : Addr) :
    Except String (Option Billing.State) → Prop
  | refused (reason : String) (named : reason ≠ "") (refuses : BillingRefuses s env msg.id) :
      BillingEffect s env msg raddr (.error reason)
  | kept (allowed : ¬ BillingRefuses s env msg.id)
      (free : ∀ billing, s.billing = some billing →
        Billing.resolveContractForDevice billing.db msg.id = none) :
      BillingEffect s env msg raddr (.ok s.billing)
  | recorded (billing : Billing.State) (contract : Billing.BillingContract)
      (attached : s.billing = some billing) (allowed : ¬ BillingRefuses s env msg.id)
      (resolved : Billing.resolveContractForDevice billing.db msg.id = some contract) :
      BillingEffect s env msg raddr (.ok (some { billing with
        pending := billing.pending.insert (relayUUIDFor env msg)
          (relayRecord s env msg raddr billing contract) }))

theorem billingEffect (s : SignalServer) (env : RelayEnv) (msg : RequestRelay) (raddr : Addr) :
    BillingEffect s env msg raddr
      (billRelay s env (relayUUIDFor env msg) msg.id (peerIDForAddr s raddr)) := by
  unfold billRelay
  split
  · next detached =>
    have kept : BillingEffect s env msg raddr (.ok s.billing) :=
      .kept (fun ⟨_, attached, _⟩ => nomatch detached.symm.trans attached)
        fun _ attached => nomatch detached.symm.trans attached
    rwa [detached] at kept
  · next billing attached =>
    split
    · next refused =>
      rw [Bool.not_eq_true'] at refused
      exact .refused _ (by decide) ⟨billing, attached, refused⟩
    · next passed =>
      rw [Bool.not_eq_true', Bool.not_eq_false] at passed
      have allowed : ¬ BillingRefuses s env msg.id := by
        rintro ⟨other, otherAttached, refused⟩
        obtain rfl := Option.some.inj (attached.symm.trans otherAttached)
        exact absurd (passed.symm.trans refused) (by decide)
      rw [Billing.prepareRelay_of_allowed relayUUIDFor_ne_empty passed]
      cases resolved : Billing.resolveContractForDevice billing.db msg.id with
      | none =>
        have kept : BillingEffect s env msg raddr (.ok s.billing) := by
          refine .kept allowed fun other otherAttached => ?_
          obtain rfl := Option.some.inj (attached.symm.trans otherAttached)
          exact resolved
        rwa [attached] at kept
      | some contract => exact .recorded billing contract attached allowed resolved

theorem sameBilling_refl (billing : Option Billing.State) : SameBilling billing billing := by
  cases billing with
  | none => trivial
  | some billing => exact ⟨rfl, rfl, rfl, fun _ => rfl⟩

/-! ### What the handlers do -/

theorem handleRequestRelay_of_stopped
    (authorized : (requireAuthorizedInitiator config s env.now raddr msg.token).isSome)
    (online : s.online env.now msg.id = some target)
    (stopped : ¬ TransportFits s raddr .udp target ∨ BillingRefuses s env msg.id) :
    ∃ reason, reason ≠ "" ∧ handleRequestRelay config s env msg raddr =
      refuseRelay s raddr (requestedRelay config s msg) reason := by
  unfold handleRequestRelay
  rw [admitRelay_of_online authorized online]
  by_cases fits : TransportFits s raddr .udp target
  · rw [if_neg (Bool.eq_false_iff.mp fits)]
    have effect := billingEffect s env msg raddr
    cases gate : billRelay s env (relayUUIDFor env msg) msg.id (peerIDForAddr s raddr) with
    | error reason =>
      rw [gate] at effect
      cases effect with
      | refused _ named _ =>
        simp only [gate]
        exact ⟨reason, named, rfl⟩
    | ok billing =>
      rw [gate] at effect
      have refuses := stopped.resolve_left (not_not_intro fits)
      cases effect with
      | kept allowed _ => exact absurd refuses allowed
      | recorded _ _ _ allowed _ => exact absurd refuses allowed
  · rw [if_pos (Bool.not_eq_false _ ▸ fits)]
    exact ⟨_, by decide, rfl⟩

theorem handleRequestRelay_of_passed
    (authorized : (requireAuthorizedInitiator config s env.now raddr msg.token).isSome)
    (online : s.online env.now msg.id = some target)
    (fits : TransportFits s raddr .udp target) (allowed : ¬ BillingRefuses s env msg.id) :
    ∃ billing forwarded, handleRequestRelay config s env msg raddr =
        assignRelay config { s with billing } env raddr target forwarded ∧
      forwarded.id = msg.id ∧ forwarded.uuid = relayUUIDFor env msg ∧
      forwarded.relayServer = applyNetworkRelayPolicy s
        (selectPeerRelayServer config s (requestedRelay config s msg) raddr target.udpAddr).1
        [peerIDForAddr s raddr, msg.id] ∧
      (SameBilling billing s.billing ↔ NothingToRecord s env msg raddr) := by
  unfold handleRequestRelay
  rw [admitRelay_of_online authorized online, if_neg (Bool.eq_false_iff.mp fits)]
  have effect := billingEffect s env msg raddr
  cases gate : billRelay s env (relayUUIDFor env msg) msg.id (peerIDForAddr s raddr) with
  | error reason =>
    rw [gate] at effect
    cases effect with
    | refused _ _ refuses => exact absurd refuses allowed
  | ok billing =>
    rw [gate] at effect
    simp only [gate]
    refine ⟨billing, _, rfl, rfl, rfl, rfl, ?_⟩
    cases effect with
    | kept _ free =>
      refine iff_of_true (sameBilling_refl _) fun billing contract attached resolved => ?_
      exact nomatch (free billing attached).symm.trans resolved
    | recorded billing contract attached _ resolved =>
      rw [attached]
      constructor
      · rintro ⟨_, _, _, same⟩ other otherContract otherAttached otherResolved
        obtain rfl := Option.some.inj (attached.symm.trans otherAttached)
        obtain rfl := Option.some.inj (resolved.symm.trans otherResolved)
        have found := same (relayUUIDFor env msg)
        rw [AList.lookup_insert] at found
        exact found.symm
      · intro recorded
        refine ⟨rfl, rfl, rfl, fun relayUUID => ?_⟩
        rw [Table.lookup_insert_if]
        split
        · next same =>
          rw [same]
          exact (recorded billing contract attached resolved).symm
        · rfl

theorem handleRequestRelay_of_unserved
    (unserved : (requireAuthorizedInitiator config s env.now raddr msg.token).isSome →
      s.online env.now msg.id = none) : (handleRequestRelay config s env msg raddr).Refuses := by
  obtain ⟨reason, named, refused⟩ := admitRelay_of_stopped unserved
  unfold handleRequestRelay
  rw [refused]
  exact refuses_refuseRelay named

variable {hint : ConnType}

theorem handleRequestRelayTCP_of_unserved
    (unserved : (requireAuthorizedInitiator config s env.now raddr msg.token).isSome →
      s.online env.now msg.id = none) :
    (handleRequestRelayTCP config s env msg raddr hint).Refuses := by
  obtain ⟨reason, named, refused⟩ := admitRelay_of_stopped unserved
  unfold handleRequestRelayTCP
  rw [refused]
  exact refuses_refuseRelay named

section

variable (authorized : (requireAuthorizedInitiator config s env.now raddr msg.token).isSome)

include authorized

theorem handleRequestRelayTCP_of_mismatch (online : s.online env.now msg.id = some target)
    (mismatch : ¬ TransportFits s raddr hint target) :
    handleRequestRelayTCP config s env msg raddr hint =
      refuseRelay s raddr (requestedRelay config s msg) refuseRelayProtocolMismatch := by
  unfold handleRequestRelayTCP
  rw [admitRelay_of_online authorized online, if_pos (Bool.not_eq_false _ ▸ mismatch)]

theorem handleRequestRelayTCP_of_fits
    (online : s.online env.now msg.id = some target) (fits : TransportFits s raddr hint target) :
    ∃ forwarded, handleRequestRelayTCP config s env msg raddr hint =
        assignRelay config s env raddr target forwarded ∧
      forwarded.id = msg.id ∧ forwarded.uuid = relayUUIDFor env msg ∧
      forwarded.relayServer =
        (selectPeerRelayServer config s (requestedRelay config s msg) raddr target.udpAddr).1 := by
  unfold handleRequestRelayTCP
  rw [admitRelay_of_online authorized online, if_neg (Bool.eq_false_iff.mp fits)]
  exact ⟨_, rfl, rfl, rfl, rfl⟩

theorem treatedAlike_of_online (online : s.online env.now msg.id = some target) :
    TreatedAlike config s env msg raddr hint ↔
      PassesAlike config s env msg raddr hint target ∨
        StoppedAlike s env msg raddr hint target := by
  constructor
  · exact fun alike => alike authorized target online
  · intro alike _ other otherOnline
    obtain rfl := Option.some.inj (online.symm.trans otherOnline)
    exact alike

end

end

/-! ### The result -/

/-- A peer connected over UDP. -/
def udpPeer (id : String) (ip : IP) : Entry where
  id := id
  uuid := []
  pk := []
  ip := some ⟨ip, 21116⟩
  serial := 0
  connType := .udp
  udpAddr := some ⟨ip, 21116⟩
  wsConn := none
  lastReg := 0
  banned := false
  lastDBSync := none

/-- The operator's device and a device of a customer with a contract, both connected. -/
def customerServer : SignalServer where
  db := emptyDB
  peers := ((∅ : Table String Entry).insert "operator-1"
    (udpPeer "operator-1" (.ofOctets 198 51 100 7))).insert
    "device-1" (udpPeer "device-1" (.ofOctets 203 0 113 9))
  tcpSessions := ∅
  blocklist := none
  pendingRelayUUIDs := ∅
  pendingPunches := ∅
  localIP := none
  lanIP := none
  networkPolicy := none
  billing := some (Billing.fresh
    { kind := .sqlite, packages := ∅, sessions := ∅, ledger := [], orgDevices := [], panel := none,
      contracts := (∅ : Table String Billing.BillingContract).insert "contract-1"
        { id := "contract-1", targetType := Billing.targetDevice, targetKey := "device-1",
          packageID := "package-1", status := Billing.contractActive, remainingMinutes := 60,
          overageRate := none, hourlyRate := 120, currency := "PLN", validFrom := none,
          validUntil := none, updatedAt := 0 } })

def openRelayConfig : RelayConfig where
  enrollmentMode := enrollmentModeOpen
  sessionOwner := fun _ _ => none
  relayServers := ["relay.example:21117"]
  relayPort := 21117
  sameNATRelay := true
  alwaysUseRelay := false
  p2pFirst := false
  panelSignalProxyCIDRs := []
  clientSession := fun _ => none
  signIdPk := fun _ pk => some pk

def relayEnv (clockSynced : Bool) : RelayEnv where
  now := 1
  clockSynced := clockSynced
  newUUID := ⟨"0f4b7c52-8d1e-4f7a-9c35-2b6a1d90e8c4", by decide⟩

/-- The operator asks for a relay to the customer's device. -/
def toCustomer : RequestRelay where
  id := "device-1"
  uuid := "5e1c7b1e-93f0-4b13-8a0c-6b6f2a7d4c11"
  relayServer := ""
  socketAddr := none
  secure := true
  connType := 0
  token := ""
  controlPermissions := []

def operatorAddr : Addr := ⟨.ofOctets 198 51 100 7, 50000⟩

end SovaDesk.Signal
