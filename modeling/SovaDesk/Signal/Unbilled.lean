/-
This file settles which relays are billed.

The signal server hands relay UUIDs to initiators on several paths, and the billing service
opens a session for a UUID only if it was prepared under it. One path asks the billing
service and prepares: the relay request over UDP. The same request over TCP or WebSocket
does neither, and a punch-hole request that is answered with a relay is checked but not
prepared. A database that cannot be read counts as one without contracts. The runs are
those of the signal server with all its handlers, together with the goroutines of the
billing service and the panel's changes of its tables.
-/

import SovaDesk.Billing.Activation
import SovaDesk.Signal.Punch
import SovaDesk.Signal.Verdict

namespace SovaDesk.Signal

open Transition

/-! ### What the check reads -/

/-- Which of the tables can be read when a request is checked. -/
structure Readable where
  contracts : Bool
  folders : Bool
  groups : Bool
  deriving DecidableEq

def Readable.all : Readable := ⟨true, true, true⟩

/-- The tables as the check sees them: an error in the panel's tables leaves them out, any other
error is the same as no contract. -/
def seen (db : Billing.BillingDB) (readable : Readable) : Billing.BillingDB :=
  { db with
    contracts := if readable.contracts then db.contracts else ∅
    panel := db.panel.map fun panel =>
      { folderAssignments := if readable.folders then panel.folderAssignments else ∅
        deviceGroups := if readable.groups then panel.deviceGroups else fun _ => [] } }

/-- The server with what the check sees. -/
def SignalServer.seeing (s : SignalServer) (readable : Readable) : SignalServer :=
  { s with billing := s.billing.map fun billing => { billing with db := seen billing.db readable } }

/-- What is left of a server that saw less: what waits for a relay, over the tables there are. -/
def SignalServer.unseeing (s after : SignalServer) : SignalServer :=
  { after with
    billing := s.billing.map fun billing =>
      { billing with pending := (after.billing.map (·.pending)).getD billing.pending } }

/-- A handler that checks with what can be read. -/
def reading (s : SignalServer) (readable : Readable) (handler : SignalServer → Outcome) : Outcome :=
  let outcome := handler (s.seeing readable)
  { outcome with server := s.unseeing outcome.server }

/-! ### The system -/

/-- What happens to the signal server: a message, a timer, something that concerns registrations
only, a step of the billing service, or a change of the contracts and the devices' organizations. -/
inductive RelayLabel
  | requestRelay (env : RelayEnv) (readable : Readable) (msg : RequestRelay) (raddr : Addr)
  | requestRelayTCP (env : RelayEnv) (msg : RequestRelay) (raddr : Addr) (hint : ConnType)
  | punchHoleRequest (env : RelayEnv) (readable : Readable) (msg : PunchHoleRequest) (raddr : Addr)
  | punchHoleRequestTCP (env : RelayEnv) (msg : PunchHoleRequest) (raddr : Addr)
  | punchFallback (raddr : Addr)
  | punchHoleSent (phs : PunchHoleSent) (senderAddr : Addr)
  | relayResponse (env : RelayEnv) (rr : RelayAnswer) (senderAddr : Addr)
  | signal (label : Label)
  | billing (label : Billing.Label)
  | billingTables (db : { db : Billing.BillingDB // db.Keyed })

/-- What a handler does for a message or a timer. -/
def handled (config : RelayConfig) (s : SignalServer) : RelayLabel → Option Outcome
  | .requestRelay env readable msg raddr =>
    some (reading s readable fun s => handleRequestRelay config s env msg raddr)
  | .requestRelayTCP env msg raddr hint => some (handleRequestRelayTCP config s env msg raddr hint)
  | .punchHoleRequest env readable msg raddr =>
    some (reading s readable fun s => handlePunchHoleRequest config s env msg raddr)
  | .punchHoleRequestTCP env msg raddr => some (handlePunchHoleRequestTCP config s env msg raddr)
  | .punchFallback raddr => firePunchFallback s raddr
  | .punchHoleSent phs senderAddr => some (handlePunchHoleSent config s phs senderAddr)
  | .relayResponse env rr senderAddr =>
    some (handleRelayResponseForward config s env rr senderAddr)
  | .signal _ | .billing _ | .billingTables _ => none

/-- The target for which a handler's call of `CheckConnection` is answered with yes. -/
def accepts (config : RelayConfig) (s : SignalServer) : RelayLabel → Option String
  | .requestRelay env readable msg raddr =>
    if (admitRelay config s env msg raddr .udp).isOk && s.billing.isSome &&
      billingAllows (s.seeing readable) env msg.id then some msg.id else none
  | .punchHoleRequest env readable msg raddr =>
    if msg.id ≠ "" && (admitPunch config s env msg raddr).isOk && s.billing.isSome &&
      billingAllows (s.seeing readable) env msg.id then some msg.id else none
  | _ => none

/-- The server after a restart: what waited in memory is lost. -/
def SignalServer.restarted (s : SignalServer) : SignalServer :=
  { s with
    pendingRelayUUIDs := ∅
    pendingPunches := ∅
    billing := s.billing.map fun billing => Billing.fresh billing.db }

/-- A step that sends nothing. Only the handlers prepare relays. -/
def silentStep (settings : Billing.Settings) (config : RelayConfig) (s : SignalServer) :
    RelayLabel → Option SignalServer
  | .signal label =>
    (step config.toConfig s.toServer label).map fun server =>
      match label with
      | .restart _ => { s with toServer := server }.restarted
      | _ => { s with toServer := server }
  | .billing (.prepare _ _ _ _ _) => none
  | .billing label =>
    s.billing.bind fun billing =>
      (Billing.step settings billing label).map fun after => { s with billing := some after }
  | .billingTables db =>
    s.billing.map fun billing => { s with billing := some { billing with db := db.val } }
  | _ => none

/-- The signal server with the targets that `CheckConnection` has accepted. -/
structure Watched where
  server : SignalServer
  accepted : List String

/-- A panic ends the server. -/
def relayStep (settings : Billing.Settings) (config : RelayConfig) (s : Watched)
    (label : RelayLabel) : Option Watched :=
  match handled config s.server label with
  | some outcome =>
    if outcome.crashed then none
    else some
      { server := outcome.server
        accepted := (accepts config s.server label).toList ++ s.accepted }
  | none =>
    (silentStep settings config s.server label).map fun server => { s with server := server }

/-- Runs from a server whose billing service has just started, if it has one. -/
def relaying (settings : Billing.Settings) (config : RelayConfig) : System Watched RelayLabel where
  start s := s.accepted = [] ∧ ∀ billing ∈ s.server.billing,
    billing.db.Keyed ∧ billing = Billing.fresh billing.db
  step := relayStep settings config

/-! ### The property -/

/-- The target for which a message asks; a timer may fire for any. -/
def RelayLabel.Asks : RelayLabel → String → Prop
  | .requestRelay _ _ msg _, targetID | .requestRelayTCP _ msg _ _, targetID => targetID = msg.id
  | .punchHoleRequest _ _ msg _, targetID | .punchHoleRequestTCP _ msg _, targetID =>
    targetID = msg.id
  | .punchFallback _, _ => True
  | _, _ => False

/-- A relay UUID is among what a handler sends. -/
def Outcome.Hands (o : Outcome) (relayUUID : String) : Prop :=
  relayUUID ≠ "" ∧ ∃ raddr response, .relayResponse raddr response ∈ o.sent ∧
    response.uuid = relayUUID

/-- A handler hands a relay UUID for a target to an initiator. -/
def HandsOut (config : RelayConfig) (s : SignalServer) (label : RelayLabel)
    (relayUUID targetID : String) : Prop :=
  label.Asks targetID ∧ ∃ outcome, handled config s label = some outcome ∧ outcome.Hands relayUUID

/-- An active contract applies to a device. -/
def UnderContract (s : SignalServer) (deviceID : String) : Prop :=
  ∃ billing ∈ s.billing, (Billing.resolveContractForDevice billing.db deviceID).isSome

/-- A relay UUID that is handed out for a device under contract was accepted by `CheckConnection`
and recorded by `PrepareRelay`, and a relay session that starts under it opens a billing session. -/
def Billed (settings : Billing.Settings) (config : RelayConfig)
    (taken : Taken Watched RelayLabel) : Prop :=
  ∀ relayUUID targetID, HandsOut config taken.before.server taken.label relayUUID targetID →
    UnderContract taken.before.server targetID →
    targetID ∈ taken.after.accepted ∧ ∃ billing ∈ taken.after.server.billing,
      (∃ entry ∈ billing.pending.lookup relayUUID, entry.deviceID = targetID) ∧
      Billing.OpensSession settings billing relayUUID targetID

/-! ### The condition -/

/-- A relay under a UUID has been recorded for a device before. -/
def RecordedBefore (s : SignalServer) (relayUUID deviceID : String) : Prop :=
  ∃ billing ∈ s.billing, Billing.Recorded billing relayUUID deviceID

/-- The check can see a contract of a device. -/
def SeesContract (s : SignalServer) (readable : Readable) (deviceID : String) : Prop :=
  ∃ billing ∈ s.billing,
    (Billing.resolveContractForDevice (seen billing.db readable) deviceID).isSome

/-- A punch-hole request over UDP passes its gates and has to go over a relay. -/
def ForcesRelay (config : RelayConfig) (s : SignalServer) (env : RelayEnv) (readable : Readable)
    (msg : PunchHoleRequest) (raddr : Addr) : Prop :=
  msg.id ≠ "" ∧ ∃ target, admitPunch config s env msg raddr = .ok target ∧
    billingAllows (s.seeing readable) env msg.id = true ∧
    (punchRoute config s msg raddr target).forced = true

/-- The condition: where a relay is given to a device under contract, it is on the one path that
prepares it, and the contract can be read; or it was recorded before. -/
def PathBills (config : RelayConfig) (s : SignalServer) : RelayLabel → Prop
  | .requestRelay env readable msg raddr =>
    (admitRelay config s env msg raddr .udp).isOk → UnderContract s msg.id →
      SeesContract s readable msg.id ∨ RecordedBefore s (relayUUIDFor env msg) msg.id
  | .requestRelayTCP env msg raddr hint =>
    (admitRelay config s env msg raddr hint).isOk → UnderContract s msg.id →
      RecordedBefore s (relayUUIDFor env msg) msg.id
  | .punchHoleRequest env readable msg raddr =>
    ForcesRelay config s env readable msg raddr → UnderContract s msg.id →
      RecordedBefore s env.newUUID msg.id
  | _ => True

/-! ### What is handed out -/

section handed

variable {config : RelayConfig} {s : SignalServer} {env : RelayEnv} {msg : RequestRelay}
  {raddr : Addr} {target : Entry} {relayUUID : String}

theorem hands_of_answer {o : Outcome} {response : RelayResponse} (named : relayUUID ≠ "")
    (answered : o.answer = some response) (same : response.uuid = relayUUID) :
    o.Hands relayUUID := by
  obtain ⟨sent, member, found⟩ := List.exists_of_findSome?_eq_some answered
  cases sent with
  | relayResponse raddr other =>
    obtain rfl := Option.some.inj found
    exact ⟨named, raddr, other, member, same⟩
  | _ => exact (nomatch found)

theorem not_hands_refuseRelay (relayServer reason : String) :
    ¬ (refuseRelay s raddr relayServer reason).Hands relayUUID := by
  rintro ⟨named, _, response, member, rfl⟩
  obtain ⟨_, rfl⟩ := Sent.relayResponse.inj (List.mem_singleton.mp member)
  exact named rfl

theorem not_hands_refusePunch (response : PunchHoleResponse) :
    ¬ (refusePunch s raddr response).Hands relayUUID := by
  rintro ⟨_, _, _, member, _⟩
  exact (nomatch List.mem_singleton.mp member)

theorem not_hands_punch (request : PunchHoleRequest) (route : PunchRoute) :
    ¬ (punch config s request raddr target route).Hands relayUUID := by
  rintro ⟨_, _, _, member, _⟩
  unfold punch at member
  dsimp only at member
  split at member
  · exact (nomatch List.mem_singleton.mp member)
  · rcases List.mem_cons.mp member with first | second
    · exact (nomatch first)
    · exact (nomatch List.mem_singleton.mp second)

/-- What `sendRelayResponse` tells the initiator. -/
theorem mem_sendRelayResponse_iff (request : PunchHoleRequest) (relay : String) {sender : Addr}
    {response : RelayResponse} :
    .relayResponse sender response ∈
        (sendRelayResponse config s env target raddr request relay).sent ↔
      sender = raddr ∧ response =
        ⟨env.newUUID, relay, signedPk config target target.id, ""⟩ := by
  unfold sendRelayResponse
  dsimp only
  split
  · rw [List.mem_singleton, Sent.relayResponse.injEq]
  · rw [List.mem_cons, List.mem_singleton, Sent.relayResponse.injEq]
    exact or_iff_left nofun

theorem newUUID_ne_empty (env : RelayEnv) : (env.newUUID : String) ≠ "" := by
  intro empty
  have length := env.newUUID.property
  rw [empty] at length
  exact absurd length (by decide)

theorem hands_sendRelayResponse_iff (request : PunchHoleRequest) (relay : String) :
    (sendRelayResponse config s env target raddr request relay).Hands relayUUID ↔
      relayUUID = env.newUUID := by
  constructor
  · rintro ⟨_, _, _, member, rfl⟩
    rw [((mem_sendRelayResponse_iff request relay).mp member).2]
  · rintro rfl
    exact ⟨newUUID_ne_empty env, raddr, _, (mem_sendRelayResponse_iff request relay).mpr ⟨rfl, rfl⟩,
      rfl⟩

theorem hands_assignRelay_iff {forwarded : RequestRelay} (named : forwarded.uuid ≠ "")
    (survived : (assignRelay config s env raddr target forwarded).crashed = false) :
    (assignRelay config s env raddr target forwarded).Hands relayUUID ↔
      relayUUID = forwarded.uuid := by
  unfold assignRelay at survived ⊢
  split at survived
  · exact absurd survived nofun
  · next long =>
    rw [if_neg long]
    constructor
    · rintro ⟨_, _, response, member, rfl⟩
      rcases List.mem_cons.mp member with first | second
      · exact (nomatch first)
      · obtain ⟨_, rfl⟩ := Sent.relayResponse.inj (List.mem_singleton.mp second)
        rfl
    · rintro rfl
      exact ⟨named, _, _, List.mem_cons_of_mem _ List.mem_cons_self, rfl⟩

end handed

/-! ### What the handlers do to the billing service -/

variable {env : RelayEnv} {raddr : Addr}

section effects

variable {config : RelayConfig} {s after : SignalServer} {readable : Readable} {label : RelayLabel}
  {outcome : Outcome}

theorem unseeing_of_same (same : after.billing = (s.seeing readable).billing) :
    (s.unseeing after).billing = s.billing := by
  unfold SignalServer.unseeing
  dsimp only
  rw [same, SignalServer.seeing]
  cases s.billing <;> rfl

theorem unseeing_of_pending {billing recorded : Billing.State} (attached : s.billing = some billing)
    (left : after.billing = some recorded) :
    (s.unseeing after).billing = some { billing with pending := recorded.pending } := by
  unfold SignalServer.unseeing
  rw [attached, left]
  rfl

/-- A contract that the check sees is a row of the table. -/
theorem contract_of_seen {db : Billing.BillingDB} {deviceID : String}
    {contract : Billing.BillingContract}
    (resolved : Billing.resolveContractForDevice (seen db readable) deviceID = some contract) :
    ∃ id, db.contracts.lookup id = some contract := by
  obtain ⟨⟨id, stored⟩, _⟩ := Billing.resolveContractForDevice_mem resolved
  refine ⟨id, ?_⟩
  have lookup : (if readable.contracts then db.contracts else ∅ :
      Table String Billing.BillingContract).lookup id = some contract := stored
  split at lookup
  · exact lookup
  · exact (nomatch lookup)

/-- What a relay request over UDP does: it is refused, or passes without a record because no
contract can be read, or is recorded. -/
inductive RelayEffect (config : RelayConfig) (s : SignalServer) (env : RelayEnv)
    (readable : Readable) (msg : RequestRelay) (raddr : Addr) (outcome : Outcome) : Prop
  | refused (kept : outcome.server.billing = s.billing)
      (silent : ∀ relayUUID, ¬ outcome.Hands relayUUID)
      (stopped : (admitRelay config s env msg raddr .udp).isOk → SeesContract s readable msg.id)
  | unread (kept : outcome.server.billing = s.billing)
      (admitted : (admitRelay config s env msg raddr .udp).isOk)
      (blind : ¬ SeesContract s readable msg.id)
      (hands : outcome.crashed = false →
        ∀ relayUUID, outcome.Hands relayUUID ↔ relayUUID = relayUUIDFor env msg)
  | recorded (billing : Billing.State) (contract : Billing.BillingContract)
      (entry : Billing.PendingRelay) (attached : s.billing = some billing)
      (resolved :
        Billing.resolveContractForDevice (seen billing.db readable) msg.id = some contract)
      (accepted : accepts config s (.requestRelay env readable msg raddr) = some msg.id)
      (left : outcome.server.billing = some { billing with
        pending := billing.pending.insert (relayUUIDFor env msg) entry })
      (device : entry.deviceID = msg.id) (under : entry.contractID = contract.id)
      (hands : outcome.crashed = false →
        ∀ relayUUID, outcome.Hands relayUUID ↔ relayUUID = relayUUIDFor env msg)

theorem sees_of_refuses {deviceID : String}
    (refuses : BillingRefuses (s.seeing readable) env deviceID) :
    SeesContract s readable deviceID := by
  obtain ⟨billing, attached, refused⟩ := refuses
  obtain ⟨real, present, rfl⟩ := Option.map_eq_some_iff.mp attached
  refine ⟨real, present, ?_⟩
  by_contra free
  rw [Billing.checkConnection_of_none (Option.not_isSome_iff_eq_none.mp free)] at refused
  exact absurd refused (by decide)

/-- A relay request over UDP is refused, or passes the billing gate and is assigned. -/
theorem handleRequestRelay_cases (config : RelayConfig) (s : SignalServer) (env : RelayEnv)
    (msg : RequestRelay) (raddr : Addr) :
    (∃ relayServer reason,
      handleRequestRelay config s env msg raddr = refuseRelay s raddr relayServer reason ∧
      ((admitRelay config s env msg raddr .udp).isOk → BillingRefuses s env msg.id)) ∨
    ∃ billing target forwarded,
      handleRequestRelay config s env msg raddr =
        assignRelay config { s with billing } env raddr target forwarded ∧
      forwarded.uuid = relayUUIDFor env msg ∧
      (admitRelay config s env msg raddr .udp).isOk ∧
      BillingEffect s env msg raddr (.ok billing) := by
  unfold handleRequestRelay
  cases admitRelay config s env msg raddr .udp with
  | error reason => exact .inl ⟨_, reason, rfl, fun passed => absurd passed nofun⟩
  | ok target =>
    have effect := billingEffect s env msg raddr
    cases gate : billRelay s env (relayUUIDFor env msg) msg.id (peerIDForAddr s raddr) with
    | error reason =>
      rw [gate] at effect
      cases effect with
      | refused _ _ refuses =>
        simp only [gate]
        exact .inl ⟨_, reason, rfl, fun _ => refuses⟩
    | ok billing =>
      rw [gate] at effect
      simp only [gate]
      exact .inr ⟨billing, target, _, rfl, rfl, rfl, effect⟩

theorem requestRelay_effect (config : RelayConfig) (s : SignalServer) (env : RelayEnv)
    (readable : Readable) (msg : RequestRelay) (raddr : Addr) :
    RelayEffect config s env readable msg raddr
      (reading s readable fun s => handleRequestRelay config s env msg raddr) := by
  unfold reading
  dsimp only
  rcases handleRequestRelay_cases config (s.seeing readable) env msg raddr with
    ⟨relayServer, reason, same, refuses⟩ | ⟨billing, target, forwarded, same, uuid, isOk, effect⟩
  · rw [same]
    exact .refused (unseeing_of_same rfl) (fun _ => not_hands_refuseRelay relayServer reason)
      fun passed => sees_of_refuses (refuses passed)
  · rw [same]
    have named : forwarded.uuid ≠ "" := uuid ▸ relayUUIDFor_ne_empty
    have hands : ∀ {server : SignalServer}, (assignRelay config server env raddr target
        forwarded).crashed = false → ∀ relayUUID, (assignRelay config server env raddr target
        forwarded).Hands relayUUID ↔ relayUUID = relayUUIDFor env msg := by
      intro server survived relayUUID
      rw [hands_assignRelay_iff named survived, uuid]
    cases effect with
    | kept allowed free =>
      refine .unread (unseeing_of_same (by rw [server_assignRelay]; rfl)) isOk ?_ hands
      rintro ⟨real, present, sees⟩
      have attached : (s.seeing readable).billing =
          some { real with db := seen real.db readable } := by
        rw [SignalServer.seeing, Option.mem_def.mp present, Option.map_some]
      rw [free _ attached] at sees
      exact absurd sees nofun
    | recorded billing contract attached allowed resolved =>
      obtain ⟨real, present, rfl⟩ := Option.map_eq_some_iff.mp attached
      refine .recorded real contract _ present resolved ?_
        ((unseeing_of_pending present (by rw [server_assignRelay]; rfl)).trans rfl) rfl rfl hands
      have accepted : billingAllows (s.seeing readable) env msg.id = true := by
        unfold billingAllows
        rw [attached, Option.all_some]
        by_contra refused
        exact allowed ⟨_, attached, Bool.eq_false_iff.mpr refused⟩
      have admitted : (admitRelay config s env msg raddr .udp).isOk = true := isOk
      show (if _ then _ else _) = _
      rw [if_pos]
      rw [admitted, present, accepted]
      rfl

/-- A relay request over TCP or WebSocket is refused, or passes its gates and is assigned. -/
theorem handleRequestRelayTCP_cases (config : RelayConfig) (s : SignalServer) (env : RelayEnv)
    (msg : RequestRelay) (raddr : Addr) (hint : ConnType) :
    (∃ relayServer reason,
      handleRequestRelayTCP config s env msg raddr hint = refuseRelay s raddr relayServer reason ∧
      ¬ (admitRelay config s env msg raddr hint).isOk) ∨
    ∃ target forwarded,
      handleRequestRelayTCP config s env msg raddr hint =
        assignRelay config s env raddr target forwarded ∧
      forwarded.uuid = relayUUIDFor env msg ∧ (admitRelay config s env msg raddr hint).isOk := by
  unfold handleRequestRelayTCP
  cases admitRelay config s env msg raddr hint with
  | error reason => exact .inl ⟨_, reason, rfl, nofun⟩
  | ok target => exact .inr ⟨target, _, rfl, rfl, rfl⟩

theorem billing_requestRelayTCP (config : RelayConfig) (s : SignalServer) (env : RelayEnv)
    (msg : RequestRelay) (raddr : Addr) (hint : ConnType) :
    (handleRequestRelayTCP config s env msg raddr hint).server.billing = s.billing := by
  rcases handleRequestRelayTCP_cases config s env msg raddr hint with
    ⟨_, _, same, _⟩ | ⟨_, _, same, _⟩
  · rw [same]
    rfl
  · rw [same, server_assignRelay]
    rfl

theorem billing_punch (target : Entry) (raddr : Addr) (request : PunchHoleRequest)
    (route : PunchRoute) :
    (punch config s request raddr target route).server.billing = s.billing := by
  unfold punch
  dsimp only
  split <;> rfl

theorem billing_sendRelayResponse (env : RelayEnv) (target : Entry) (raddr : Addr)
    (request : PunchHoleRequest) (relay : String) :
    (sendRelayResponse config s env target raddr request relay).server.billing = s.billing := by
  unfold sendRelayResponse
  dsimp only
  split <;> rfl

/-- A punch-hole request over UDP hands out a new UUID if it has to go over a relay, and leaves the
billing service as it is. -/
theorem punchHoleRequest_effect (config : RelayConfig) (s : SignalServer) (env : RelayEnv)
    (readable : Readable) (request : PunchHoleRequest) (raddr : Addr) :
    let outcome := reading s readable fun s => handlePunchHoleRequest config s env request raddr
    outcome.server.billing = s.billing ∧ ∀ relayUUID, outcome.Hands relayUUID ↔
      ForcesRelay config s env readable request raddr ∧ relayUUID = env.newUUID := by
  unfold reading handlePunchHoleRequest
  dsimp only
  have same : admitPunch config (s.seeing readable) env request raddr =
      admitPunch config s env request raddr := rfl
  rw [same]
  split
  · next unnamed =>
    refine ⟨unseeing_of_same rfl, fun relayUUID => iff_of_false ?_ fun ⟨⟨named, _⟩, _⟩ =>
      named unnamed⟩
    rintro ⟨_, _, _, member, _⟩
    exact (nomatch member)
  next named =>
  cases admitted : admitPunch config s env request raddr with
  | error response =>
    refine ⟨unseeing_of_same rfl, fun relayUUID => iff_of_false (not_hands_refusePunch response) ?_⟩
    rintro ⟨⟨_, target, passed, _⟩, _⟩
    exact (nomatch admitted.symm.trans passed)
  | ok target =>
    dsimp only
    split
    · next refused =>
      refine ⟨unseeing_of_same rfl, fun relayUUID => iff_of_false (not_hands_refusePunch _) ?_⟩
      rintro ⟨⟨_, _, _, allowed, _⟩, _⟩
      rw [allowed] at refused
      exact absurd refused nofun
    next passed =>
    have allowed : billingAllows (s.seeing readable) env request.id = true := by
      rwa [Bool.not_eq_true', Bool.not_eq_false] at passed
    split
    · next forced =>
      refine ⟨unseeing_of_same (billing_sendRelayResponse ..), fun relayUUID => ?_⟩
      refine (hands_sendRelayResponse_iff request _).trans (and_iff_right ?_).symm
      exact ⟨named, target, admitted, allowed, forced⟩
    · next direct =>
      refine ⟨unseeing_of_same (billing_punch ..), fun relayUUID => iff_of_false
        (not_hands_punch request _) ?_⟩
      rintro ⟨⟨_, other, isTarget, _, forced⟩, _⟩
      obtain rfl := Except.ok.inj (admitted.symm.trans isTarget)
      exact direct forced

/-- The other requests, timers and answers hand out no UUID of a target, and leave the billing
service as it is. -/
theorem punchHoleRequestTCP_effect (config : RelayConfig) (s : SignalServer) (env : RelayEnv)
    (request : PunchHoleRequest) (raddr : Addr) :
    (handlePunchHoleRequestTCP config s env request raddr).server.billing = s.billing ∧
      ∀ relayUUID, ¬ (handlePunchHoleRequestTCP config s env request raddr).Hands relayUUID := by
  unfold handlePunchHoleRequestTCP
  split
  · exact ⟨rfl, fun _ ⟨_, _, _, member, _⟩ => nomatch member⟩
  · split
    · exact ⟨rfl, fun _ => not_hands_refusePunch _⟩
    · dsimp only
      split
      · refine ⟨rfl, fun _ => ?_⟩
        rintro ⟨_, _, _, member, _⟩
        exact (nomatch List.mem_singleton.mp member)
      · exact ⟨billing_punch .., fun _ => not_hands_punch request _⟩

theorem not_hands_punchFallback {relayUUID : String}
    (fired : firePunchFallback s raddr = some outcome) : ¬ outcome.Hands relayUUID := by
  obtain ⟨response, _, rfl⟩ := Option.map_eq_some_iff.mp fired
  rintro ⟨_, _, _, member, _⟩
  exact (nomatch List.mem_singleton.mp member)

/-- Only a relay request over UDP changes the billing service. -/
theorem billing_of_handled (found : handled config s label = some outcome)
    (other : ∀ env readable msg raddr, label ≠ .requestRelay env readable msg raddr) :
    outcome.server.billing = s.billing := by
  cases label with
  | requestRelay env readable msg raddr => exact absurd rfl (other env readable msg raddr)
  | requestRelayTCP env msg raddr hint =>
    obtain rfl := Option.some.inj found
    exact billing_requestRelayTCP config s env msg raddr hint
  | punchHoleRequest env readable msg raddr =>
    obtain rfl := Option.some.inj found
    exact (punchHoleRequest_effect config s env readable msg raddr).1
  | punchHoleRequestTCP env msg raddr =>
    obtain rfl := Option.some.inj found
    exact (punchHoleRequestTCP_effect config s env msg raddr).1
  | punchFallback raddr =>
    obtain ⟨response, _, rfl⟩ := Option.map_eq_some_iff.mp found
    rfl
  | punchHoleSent phs senderAddr =>
    obtain rfl := Option.some.inj found
    unfold handlePunchHoleSent
    split <;> rfl
  | relayResponse env rr senderAddr =>
    obtain rfl := Option.some.inj found
    unfold handleRelayResponseForward
    dsimp only
    split
    · rfl
    · split
      · rfl
      · split
        · rfl
        · split <;> rfl
  | signal | billing | billingTables => exact (nomatch found)

end effects

/-! ### What is kept -/

section kept

variable {settings : Billing.Settings} {config : RelayConfig} {s after : Watched}
  {label : RelayLabel} {outcome : Outcome}

/-- Relays are recorded for targets that were accepted, and the contracts are keyed. -/
def Tracks (s : Watched) : Prop :=
  ∀ billing ∈ s.server.billing, billing.db.Keyed ∧
    ∀ relayUUID, ∀ entry ∈ billing.pending.lookup relayUUID, entry.deviceID ∈ s.accepted

theorem Tracks.of_kept (tracks : Tracks s) (kept : after.server.billing = s.server.billing)
    (grows : s.accepted ⊆ after.accepted) : Tracks after := by
  intro billing attached
  obtain ⟨keyed, accepted⟩ := tracks billing (kept ▸ attached)
  exact ⟨keyed, fun relayUUID entry found => grows (accepted relayUUID entry found)⟩

/-- A step that handles a message does not crash, and notes what was accepted. -/
theorem relayStep_of_handled (found : handled config s.server label = some outcome)
    (taken : relayStep settings config s label = some after) :
    outcome.crashed = false ∧ after.server = outcome.server ∧
      after.accepted = (accepts config s.server label).toList ++ s.accepted := by
  unfold relayStep at taken
  rw [found] at taken
  obtain ⟨survived, rfl⟩ := of_guard_not taken
  exact ⟨Bool.eq_false_iff.mpr survived, rfl, rfl⟩

theorem tracks_silentStep {server : SignalServer} (tracks : Tracks s)
    (taken : silentStep settings config s.server label = some server) :
    Tracks { s with server } := by
  cases label with
  | signal label =>
    obtain ⟨next, _, rfl⟩ := Option.map_eq_some_iff.mp taken
    cases label with
    | restart blocklist =>
      intro billing attached
      obtain ⟨before, present, rfl⟩ := Option.map_eq_some_iff.mp attached
      exact ⟨(tracks before present).1, fun _ _ found => nomatch found⟩
    | _ => exact tracks.of_kept rfl (List.Subset.refl _)
  | billing label =>
    have other : ∀ synced now relayUUID deviceID operatorID,
        label ≠ .prepare synced now relayUUID deviceID operatorID := by
      rintro _ _ _ _ _ rfl
      exact (nomatch taken)
    have stepped : (s.server.billing.bind fun billing =>
        (Billing.step settings billing label).map fun after =>
          { s.server with billing := some after }) = some server := by
      cases label with
      | prepare => exact absurd rfl (other _ _ _ _ _)
      | _ => exact taken
    obtain ⟨before, present, moved⟩ := Option.bind_eq_some_iff.mp stepped
    obtain ⟨next, moves, rfl⟩ := Option.map_eq_some_iff.mp moved
    intro billing attached
    obtain rfl := Option.some.inj (Option.mem_def.mp attached)
    obtain ⟨keyed, accepted⟩ := tracks before present
    have kept := Billing.kept_step other moves
    exact ⟨kept.keyed keyed, fun relayUUID entry found =>
      accepted relayUUID entry (kept.pending relayUUID entry found)⟩
  | billingTables db =>
    obtain ⟨before, present, rfl⟩ := Option.map_eq_some_iff.mp taken
    intro billing attached
    obtain rfl := Option.some.inj (Option.mem_def.mp attached)
    exact ⟨db.property, (tracks before present).2⟩
  | _ => exact (nomatch taken)

theorem tracks_handled (tracks : Tracks s) (found : handled config s.server label = some outcome)
    (taken : relayStep settings config s label = some after) : Tracks after := by
  obtain ⟨_, server, accepted⟩ := relayStep_of_handled found taken
  have grows : s.accepted ⊆ after.accepted := accepted ▸ List.subset_append_right _ _
  by_cases isRequest : ∃ env readable msg raddr, label = .requestRelay env readable msg raddr
  · obtain ⟨env, readable, msg, raddr, rfl⟩ := isRequest
    obtain rfl := Option.some.inj found
    cases requestRelay_effect config s.server env readable msg raddr with
    | refused kept => exact tracks.of_kept (server ▸ kept) grows
    | unread kept => exact tracks.of_kept (server ▸ kept) grows
    | recorded before contract entry attached resolved accepts left device under hands =>
      intro billing present
      rw [server, left] at present
      obtain rfl := Option.some.inj (Option.mem_def.mp present)
      obtain ⟨keyed, older⟩ := tracks before attached
      refine ⟨keyed, fun relayUUID other found => ?_⟩
      rcases Table.lookup_insert_iff.mp found with ⟨_, rfl⟩ | ⟨_, waited⟩
      · rw [device, accepted, accepts]
        exact List.mem_cons_self
      · exact grows (older relayUUID other waited)
  · have kept := billing_of_handled found fun env readable msg raddr same =>
      isRequest ⟨env, readable, msg, raddr, same⟩
    exact tracks.of_kept (server ▸ kept) grows

theorem tracks_relayStep (tracks : Tracks s)
    (taken : relayStep settings config s label = some after) : Tracks after := by
  cases found : handled config s.server label with
  | some outcome => exact tracks_handled tracks found taken
  | none =>
    unfold relayStep at taken
    rw [found] at taken
    obtain ⟨server, stepped, rfl⟩ := Option.map_eq_some_iff.mp taken
    exact tracks_silentStep tracks stepped

theorem tracks_of_reachable (reached : Reachable (relaying settings config) s) : Tracks s := by
  refine reached.invariant Tracks ?_ fun _ _ _ tracks _ taken => tracks_relayStep tracks taken
  rintro s ⟨_, fresh⟩ billing attached
  obtain ⟨keyed, isFresh⟩ := fresh billing attached
  refine ⟨keyed, fun relayUUID entry found => ?_⟩
  rw [isFresh] at found
  exact (nomatch found)

end kept

/-! ### Every run -/

section runs

variable {settings : Billing.Settings} {config : RelayConfig} {before after : Watched}
  {label : RelayLabel} {outcome : Outcome}

theorem handsOut_iff (found : handled config before.server label = some outcome)
    (relayUUID targetID : String) :
    HandsOut config before.server label relayUUID targetID ↔
      label.Asks targetID ∧ outcome.Hands relayUUID := by
  unfold HandsOut
  rw [found]
  exact and_congr_right fun _ =>
    ⟨fun ⟨_, same, hands⟩ => Option.some.inj same ▸ hands, fun hands => ⟨outcome, rfl, hands⟩⟩

/-- Where the billing service is left as it is, a UUID that is handed out is billed exactly if it
was recorded before. -/
theorem billed_iff_of_kept (tracks : Tracks before)
    (kept : after.server.billing = before.server.billing) (grows : before.accepted ⊆ after.accepted)
    {relayUUID targetID : String} {gives : Prop} (named : relayUUID ≠ "")
    (hands : ∀ handed target, HandsOut config before.server label handed target ↔
      gives ∧ handed = relayUUID ∧ target = targetID) :
    Billed settings config ⟨before, label, after⟩ ↔
      (gives → UnderContract before.server targetID →
        RecordedBefore before.server relayUUID targetID) := by
  constructor
  · intro billed given under
    obtain ⟨_, billing, present, ⟨entry, waits, device⟩, opens⟩ :=
      billed relayUUID targetID ((hands _ _).mpr ⟨given, rfl, rfl⟩) under
    exact ⟨billing, kept ▸ present, Billing.recorded_of_opensSession named waits device opens⟩
  · intro condition handed target handsOut under
    obtain ⟨given, rfl, rfl⟩ := (hands handed target).mp handsOut
    obtain ⟨billing, present, recorded⟩ := condition given under
    obtain ⟨entry, waits, device, exists_contract⟩ := recorded
    refine ⟨grows (device ▸ (tracks billing present).2 _ entry waits), billing, kept ▸ present,
      ⟨entry, waits, device⟩, ?_⟩
    exact Billing.opensSession_of_recorded named ⟨entry, waits, device, exists_contract⟩

/-- A step that hands out nothing. -/
theorem billed_of_silent
    (silent : ∀ relayUUID targetID, ¬ HandsOut config before.server label relayUUID targetID) :
    Billed settings config ⟨before, label, after⟩ :=
  fun relayUUID targetID handsOut => absurd handsOut (silent relayUUID targetID)

theorem requestRelay_billed_iff {readable : Readable} {msg : RequestRelay} (tracks : Tracks before)
    (taken : relayStep settings config before (.requestRelay env readable msg raddr) = some after) :
    Billed settings config ⟨before, .requestRelay env readable msg raddr, after⟩ ↔
      PathBills config before.server (.requestRelay env readable msg raddr) := by
  obtain ⟨survived, server, accepted⟩ := relayStep_of_handled rfl taken
  have grows : before.accepted ⊆ after.accepted := accepted ▸ List.subset_append_right _ _
  cases requestRelay_effect config before.server env readable msg raddr with
  | refused kept silent stopped =>
    refine iff_of_true (billed_of_silent fun relayUUID targetID handsOut => ?_)
      fun admitted _ => .inl (stopped admitted)
    exact silent relayUUID ((handsOut_iff rfl relayUUID targetID).mp handsOut).2
  | unread kept admitted blind hands =>
    have same : Billed settings config ⟨before, .requestRelay env readable msg raddr, after⟩ ↔
        (True → UnderContract before.server msg.id →
          RecordedBefore before.server (relayUUIDFor env msg) msg.id) := by
      refine billed_iff_of_kept tracks (server ▸ kept) grows relayUUIDFor_ne_empty
        fun handed target => ?_
      rw [handsOut_iff rfl, hands survived, true_and, and_comm]
      rfl
    rw [same]
    exact ⟨fun recorded _ under => .inr (recorded trivial under), fun condition _ under =>
      (condition admitted under).resolve_left blind⟩
  | recorded billing contract entry attached resolved accepts left device under hands =>
    refine iff_of_true ?_ fun _ _ => .inl ⟨billing, attached, by rw [resolved]; rfl⟩
    intro handed target handsOut _
    obtain ⟨asks, hands'⟩ := (handsOut_iff rfl handed target).mp handsOut
    obtain rfl := (hands survived handed).mp hands'
    obtain rfl : target = msg.id := asks
    have waits : (billing.pending.insert (relayUUIDFor env msg) entry).lookup
        (relayUUIDFor env msg) = some entry := AList.lookup_insert billing.pending
    obtain ⟨id, stored⟩ := contract_of_seen resolved
    have keyed := (tracks billing attached).1 id contract stored
    refine ⟨?_, _, server ▸ left, ⟨entry, waits, device⟩, ?_⟩
    · rw [accepted, accepts]
      exact List.mem_cons_self
    · refine Billing.opensSession_of_recorded relayUUIDFor_ne_empty ⟨entry, waits, device, ?_⟩
      rw [under, keyed]
      exact Option.isSome_iff_exists.mpr ⟨contract, stored⟩

theorem requestRelayTCP_billed_iff {msg : RequestRelay} {hint : ConnType} (tracks : Tracks before)
    (taken : relayStep settings config before (.requestRelayTCP env msg raddr hint) = some after) :
    Billed settings config ⟨before, .requestRelayTCP env msg raddr hint, after⟩ ↔
      PathBills config before.server (.requestRelayTCP env msg raddr hint) := by
  obtain ⟨survived, server, accepted⟩ := relayStep_of_handled rfl taken
  have grows : before.accepted ⊆ after.accepted := accepted ▸ List.subset_append_right _ _
  have kept : after.server.billing = before.server.billing := by
    rw [server]
    exact billing_requestRelayTCP config before.server env msg raddr hint
  refine billed_iff_of_kept tracks kept grows relayUUIDFor_ne_empty fun handed target => ?_
  rw [handsOut_iff rfl]
  rcases handleRequestRelayTCP_cases config before.server env msg raddr hint with
    ⟨relayServer, reason, same, stopped⟩ | ⟨entry, forwarded, same, uuid, admitted⟩
  · rw [same]
    exact iff_of_false (fun hands => not_hands_refuseRelay relayServer reason hands.2)
      fun given => stopped given.1
  · rw [same] at survived ⊢
    rw [hands_assignRelay_iff (uuid ▸ relayUUIDFor_ne_empty) survived, uuid,
      and_iff_right admitted, and_comm]
    rfl

theorem punchHoleRequest_billed_iff {readable : Readable} {msg : PunchHoleRequest}
    (tracks : Tracks before)
    (taken : relayStep settings config before (.punchHoleRequest env readable msg raddr) =
      some after) :
    Billed settings config ⟨before, .punchHoleRequest env readable msg raddr, after⟩ ↔
      PathBills config before.server (.punchHoleRequest env readable msg raddr) := by
  obtain ⟨_, server, accepted⟩ := relayStep_of_handled rfl taken
  have grows : before.accepted ⊆ after.accepted := accepted ▸ List.subset_append_right _ _
  obtain ⟨kept, hands⟩ := punchHoleRequest_effect config before.server env readable msg raddr
  refine billed_iff_of_kept tracks (server ▸ kept) grows (newUUID_ne_empty env)
    fun handed target => ?_
  rw [handsOut_iff rfl, hands, and_comm, and_assoc]
  rfl

/-- The relays of a run are billed exactly if each is given on a path that bills it. -/
theorem billed_iff_pathBills (settings : Billing.Settings) (config : RelayConfig)
    {steps : List (Taken Watched RelayLabel)} {final : Watched}
    (history : History (relaying settings config) steps final) :
    (∀ taken ∈ steps, Billed settings config taken) ↔
      ∀ taken ∈ steps, PathBills config taken.before.server taken.label := by
  refine history.forall_iff fun taken reached stepped => ?_
  obtain ⟨before, label, after⟩ := taken
  have tracks := tracks_of_reachable reached
  cases label with
  | requestRelay env readable msg raddr => exact requestRelay_billed_iff tracks stepped
  | requestRelayTCP env msg raddr hint => exact requestRelayTCP_billed_iff tracks stepped
  | punchHoleRequest env readable msg raddr => exact punchHoleRequest_billed_iff tracks stepped
  | punchHoleRequestTCP env msg raddr =>
    refine iff_of_true (billed_of_silent fun relayUUID targetID handsOut => ?_) trivial
    exact (punchHoleRequestTCP_effect config before.server env msg raddr).2 relayUUID
      ((handsOut_iff rfl relayUUID targetID).mp handsOut).2
  | punchFallback raddr =>
    refine iff_of_true (billed_of_silent fun relayUUID targetID handsOut => ?_) trivial
    obtain ⟨_, outcome, fired, hands⟩ := handsOut
    exact not_hands_punchFallback fired hands
  | punchHoleSent | relayResponse | signal | billing | billingTables =>
    exact iff_of_true (billed_of_silent fun _ _ handsOut => handsOut.1) trivial

end runs

/-! ### A device under contract -/

def minuteSettings : Billing.Settings := ⟨1, false⟩

/-- The operator's device and a customer's device under contract are connected. -/
def customerWatched : Watched := ⟨customerServer, []⟩

theorem customerWatched_start :
    (relaying minuteSettings openRelayConfig).start customerWatched := by
  refine ⟨rfl, fun billing attached => ?_⟩
  obtain rfl := Option.some.inj (Option.mem_def.mp attached)
  refine ⟨fun id contract stored => ?_, rfl⟩
  rcases Table.lookup_insert_iff.mp stored with ⟨rfl, rfl⟩ | ⟨_, older⟩
  · rfl
  · exact (nomatch older)

theorem customer_underContract : UnderContract customerServer "device-1" := by
  refine ⟨_, rfl, ?_⟩
  decide

theorem customer_unrecorded (relayUUID : String) :
    ¬ RecordedBefore customerServer relayUUID "device-1" := by
  rintro ⟨billing, attached, entry, waits, _⟩
  obtain rfl := Option.some.inj (Option.mem_def.mp attached)
  exact (nomatch waits)

/-- The operator asks to punch a hole, and wants a relay. -/
def forcedPunch : PunchHoleRequest where
  id := "device-1"
  natType := 0
  connType := 0
  token := ""
  udpPort := 0
  forceRelay := true
  upnpPort := 0
  socketAddrV6 := []

theorem history_one {label : RelayLabel} {after : Watched}
    (taken : relayStep minuteSettings openRelayConfig customerWatched label = some after) :
    History (relaying minuteSettings openRelayConfig) [⟨customerWatched, label, after⟩] after :=
  .step (.start customerWatched_start) taken

theorem customer_tracks : Tracks customerWatched :=
  tracks_of_reachable (.start customerWatched_start)

/-- A relay request over TCP, and a punch-hole request over UDP that is answered with a relay, are
given a UUID that nothing was recorded under. -/
theorem relays_unbilled :
    (¬ ∀ steps final, History (relaying minuteSettings openRelayConfig) steps final →
      ∀ taken ∈ steps, Billed minuteSettings openRelayConfig taken) ∧
    ∃ after, History (relaying minuteSettings openRelayConfig)
      [⟨customerWatched, .punchHoleRequest (relayEnv true) .all forcedPunch operatorAddr, after⟩]
      after ∧
      ¬ Billed minuteSettings openRelayConfig
        ⟨customerWatched, .punchHoleRequest (relayEnv true) .all forcedPunch operatorAddr,
          after⟩ := by
  constructor
  · intro always
    obtain ⟨after, taken⟩ := Option.isSome_iff_exists.mp (show (relayStep minuteSettings
      openRelayConfig customerWatched (.requestRelayTCP (relayEnv true) toCustomer operatorAddr
        .tcp)).isSome by decide)
    have billed := always _ after (history_one taken) _ List.mem_cons_self
    have bills := (requestRelayTCP_billed_iff customer_tracks taken).mp billed
    exact customer_unrecorded _ (bills (by decide) customer_underContract)
  · obtain ⟨after, taken⟩ := Option.isSome_iff_exists.mp (show (relayStep minuteSettings
      openRelayConfig customerWatched (.punchHoleRequest (relayEnv true) .all forcedPunch
        operatorAddr)).isSome by decide)
    refine ⟨after, history_one taken, fun billed => ?_⟩
    have bills := (punchHoleRequest_billed_iff customer_tracks taken).mp billed
    have forces : ((admitPunch openRelayConfig customerServer (relayEnv true) forcedPunch
        operatorAddr).toOption.any fun target => (punchRoute openRelayConfig customerServer
          forcedPunch operatorAddr target).forced) = true := by decide
    cases admitted : admitPunch openRelayConfig customerServer (relayEnv true) forcedPunch
        operatorAddr with
    | error response =>
      rw [admitted] at forces
      exact absurd forces nofun
    | ok target =>
      rw [admitted] at forces
      exact customer_unrecorded _ (bills ⟨by decide, target, admitted, by decide, forces⟩
        customer_underContract)

/-- The relay that is asked for over UDP is billed. -/
theorem billed_iff_pathBills_udp :
    ∃ steps final, History (relaying minuteSettings openRelayConfig) steps final ∧
      (∃ taken ∈ steps, HandsOut openRelayConfig taken.before.server taken.label toCustomer.uuid
        "device-1" ∧ UnderContract taken.before.server "device-1") ∧
      ∀ taken ∈ steps, Billed minuteSettings openRelayConfig taken := by
  obtain ⟨after, taken⟩ := Option.isSome_iff_exists.mp (show (relayStep minuteSettings
    openRelayConfig customerWatched (.requestRelay (relayEnv true) .all toCustomer
      operatorAddr)).isSome by decide)
  refine ⟨_, after, history_one taken, ⟨_, List.mem_cons_self, ?_, customer_underContract⟩,
    (billed_iff_pathBills minuteSettings openRelayConfig (history_one taken)).mpr
      fun step member => ?_⟩
  · have answers : ((reading customerServer .all fun s => handleRequestRelay openRelayConfig s
        (relayEnv true) toCustomer operatorAddr).answer.map (·.uuid)) = some toCustomer.uuid := by
      decide
    obtain ⟨response, answered, uuid⟩ := Option.map_eq_some_iff.mp answers
    exact (handsOut_iff rfl _ _).mpr ⟨rfl, hands_of_answer (by decide) answered uuid⟩
  · obtain rfl := List.mem_singleton.mp member
    exact fun _ _ => .inl ⟨_, rfl, by decide⟩

end SovaDesk.Signal
