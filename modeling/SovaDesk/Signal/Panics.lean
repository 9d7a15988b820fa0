/-
This file settles which relay messages make the signal server panic.

A slice expression of Go panics when a bound is beyond the length, and nothing in the
server recovers from a panic. The relay handlers slice in two ways. The socket address of
an answer is cut into an IP and a port, after its length has been compared. A UUID is cut
to its first eight bytes for the log, and its length is not looked at: it may be what the
client sent, if that was not empty, or what an earlier request left for its target. A
stored UUID was cut itself right after it was stored, so a server that holds a short one
does not run any more, unless it was started with one.
-/

import SovaDesk.Signal.Unbilled

namespace SovaDesk.Signal

open Transition

/-! ### Slices -/

/-- `bytes[low:high]`; out of range it is a panic, which is nothing here. -/
def slice (bytes : Bytes) (low high : Nat) : Option Bytes :=
  if low ≤ high ∧ high ≤ bytes.length then some ((bytes.take high).drop low) else none

/-- The number that bytes stand for in big-endian order. -/
def bigEndian (bytes : Bytes) : Nat := bytes.foldl (fun value byte => 256 * value + byte.toNat) 0

/-- An address of sixteen bytes; one that stands for an IPv4 address is that address. -/
def ipOfSixteen (bytes : Bytes) : IP :=
  let address := bigEndian bytes
  if address / 2 ^ 32 = 0xffff then .v4 (BitVec.ofNat 32 address)
  else .v6 (BitVec.ofNat 128 address)

/-- `DecodeAddr`: an address, or nothing for an unexpected length; a panic is nothing outside. -/
def decodeAddr (bytes : Bytes) : Option (Option Addr) :=
  if bytes.length = 6 then do
    let ip ← slice bytes 0 4
    let port ← slice bytes 4 6
    some (some ⟨.v4 (BitVec.ofNat 32 (bigEndian ip)), bigEndian port⟩)
  else if bytes.length = 18 then do
    let ip ← slice bytes 0 16
    let port ← slice bytes 16 18
    some (some ⟨ipOfSixteen ip, bigEndian port⟩)
  else some none

theorem slice_isSome {bytes : Bytes} {low high : Nat} (ordered : low ≤ high)
    (within : high ≤ bytes.length) : slice bytes low high = some ((bytes.take high).drop low) :=
  if_pos ⟨ordered, within⟩

/-- No address is cut out of range. -/
theorem decodeAddr_isSome (bytes : Bytes) : (decodeAddr bytes).isSome := by
  unfold decodeAddr
  split
  · next six =>
    rw [slice_isSome (Nat.zero_le 4) (by omega), slice_isSome (by decide) (by omega)]
    rfl
  · split
    · next eighteen =>
      rw [slice_isSome (Nat.zero_le 16) (by omega), slice_isSome (by decide) (by omega)]
      rfl
    · rfl

/-! ### The system -/

/-- A relay response of a target as it arrives. -/
structure RelayResponseMessage where
  socketAddr : Bytes
  id : String
  uuid : String
  refuseReason : String

def RelayResponseMessage.decode (rr : RelayResponseMessage) : Option RelayAnswer :=
  (decodeAddr rr.socketAddr).map fun socketAddr =>
    { socketAddr, id := rr.id, uuid := rr.uuid, refuseReason := rr.refuseReason }

/-- How long a stored UUID is kept, in nanoseconds. -/
def pendingUUIDTTL : Int := 120 * 1000000000

/-- What happens to the server: a relay response that is still encoded, a message or another step
that needs no decoding, or the ticker that drops old UUIDs. -/
inductive WireLabel
  | relayResponse (env : RelayEnv) (rr : RelayResponseMessage) (senderAddr : Addr)
  | decoded (label : RelayLabel)
  | cleanup (now : Int)

/-- The server, and whether it has panicked. -/
structure Running where
  server : SignalServer
  crashed : Bool

/-- What a message or another step does. -/
def runLabel (settings : Billing.Settings) (config : RelayConfig) (s : SignalServer)
    (label : RelayLabel) : Option Running :=
  match handled config s label with
  | some outcome => some ⟨outcome.server, outcome.crashed⟩
  | none => (silentStep settings config s label).map fun server => ⟨server, false⟩

/-- A panic ends the server. -/
def panicStep (settings : Billing.Settings) (config : RelayConfig) (s : Running) :
    WireLabel → Option Running
  | .relayResponse env rr senderAddr =>
    if s.crashed then none
    else
      match rr.decode with
      | none => some { s with crashed := true }
      | some answer => runLabel settings config s.server (.relayResponse env answer senderAddr)
  | .decoded label => if s.crashed then none else runLabel settings config s.server label
  | .cleanup now =>
    if s.crashed then none
    else some { s with
      server := { s.server with
        pendingRelayUUIDs := s.server.pendingRelayUUIDs.filter fun _ pending =>
          now - pending.createdAt ≤ pendingUUIDTTL } }

/-- Runs from any server that has not panicked. -/
def panicking (settings : Billing.Settings) (config : RelayConfig) : System Running WireLabel where
  start s := s.crashed = false
  step := panicStep settings config

/-! ### The condition -/

/-- A UUID that is too short to be abbreviated; an empty one is replaced before. -/
def ShortUUID (uuid : String) : Prop := uuid ≠ "" ∧ uuid.utf8ByteSize < 8

instance (uuid : String) : Decidable (ShortUUID uuid) := inferInstanceAs (Decidable (_ ∧ _))

/-- A relay request over UDP passes all gates. -/
def passesUDP (config : RelayConfig) (s : SignalServer) (env : RelayEnv) (msg : RequestRelay)
    (raddr : Addr) : Bool :=
  (admitRelay config s env msg raddr .udp).isOk &&
    (billRelay s env (relayUUIDFor env msg) msg.id (peerIDForAddr s raddr)).isOk

/-- The condition: a relay request that passes the gates has no short UUID, and an answer without a
UUID does not come from a target for which a short one is stored. -/
def CutsInRange (config : RelayConfig) (s : SignalServer) : RelayLabel → Prop
  | .requestRelay env readable msg raddr =>
    passesUDP config (s.seeing readable) env msg raddr → ¬ ShortUUID msg.uuid
  | .requestRelayTCP env msg raddr hint =>
    (admitRelay config s env msg raddr hint).isOk → ¬ ShortUUID msg.uuid
  | .relayResponse _ rr senderAddr =>
    rr.socketAddr.isSome ∧ rr.uuid = "" →
      ¬ ShortUUID (getPendingUUID s (answeringTarget s rr.id senderAddr))
  | _ => True

def WireInRange (config : RelayConfig) (s : SignalServer) : WireLabel → Prop
  | .relayResponse env rr senderAddr =>
    ∀ answer, rr.decode = some answer →
      CutsInRange config s (.relayResponse env answer senderAddr)
  | .decoded label => CutsInRange config s label
  | .cleanup _ => True

/-! ### One message -/

variable {label : RelayLabel}

section handlers

variable {config : RelayConfig} {s : SignalServer} {env : RelayEnv} {raddr : Addr}

/-- The UUID of a relay is short exactly if the client sent a short one. -/
theorem relayUUIDFor_short_iff (env : RelayEnv) (msg : RequestRelay) :
    (relayUUIDFor env msg).utf8ByteSize < 8 ↔ ShortUUID msg.uuid := by
  unfold relayUUIDFor ShortUUID
  split
  · next empty =>
    have size := env.newUUID.property
    exact iff_of_false (by omega) fun short => short.1 empty
  · next given => exact ⟨fun short => ⟨given, short⟩, fun short => short.2⟩

theorem crashed_assignRelay_iff {target : Entry} {forwarded : RequestRelay} :
    (assignRelay config s env raddr target forwarded).crashed = true ↔
      forwarded.uuid.utf8ByteSize < 8 := by
  unfold assignRelay
  dsimp only
  split
  · next short => exact iff_of_true rfl short
  · next long => exact iff_of_false Bool.false_ne_true long

theorem crashed_handleRequestRelay_iff (msg : RequestRelay) :
    (handleRequestRelay config s env msg raddr).crashed = true ↔
      passesUDP config s env msg raddr = true ∧ ShortUUID msg.uuid := by
  rw [← relayUUIDFor_short_iff env]
  unfold handleRequestRelay passesUDP
  dsimp only
  cases admitRelay config s env msg raddr .udp with
  | error reason => exact iff_of_false Bool.false_ne_true fun passes => Bool.false_ne_true passes.1
  | ok target =>
    cases billRelay s env (relayUUIDFor env msg) msg.id (peerIDForAddr s raddr) with
    | error reason =>
      exact iff_of_false Bool.false_ne_true fun passes => Bool.false_ne_true passes.1
    | ok billing =>
      exact crashed_assignRelay_iff.trans ⟨fun short => ⟨rfl, short⟩, fun passes => passes.2⟩

theorem crashed_handleRequestRelayTCP_iff (msg : RequestRelay) (hint : ConnType) :
    (handleRequestRelayTCP config s env msg raddr hint).crashed = true ↔
      (admitRelay config s env msg raddr hint).isOk = true ∧ ShortUUID msg.uuid := by
  rw [← relayUUIDFor_short_iff env]
  unfold handleRequestRelayTCP
  dsimp only
  cases admitRelay config s env msg raddr hint with
  | error reason => exact iff_of_false Bool.false_ne_true fun passes => Bool.false_ne_true passes.1
  | ok target =>
    exact crashed_assignRelay_iff.trans ⟨fun short => ⟨rfl, short⟩, fun passes => passes.2⟩

theorem crashed_handleRelayResponseForward_iff (rr : RelayAnswer) (senderAddr : Addr) :
    (handleRelayResponseForward config s env rr senderAddr).crashed = true ↔
      (rr.socketAddr.isSome = true ∧ rr.uuid = "") ∧
        ShortUUID (getPendingUUID s (answeringTarget s rr.id senderAddr)) := by
  unfold handleRelayResponseForward ShortUUID
  cases rr.socketAddr with
  | none => exact iff_of_false Bool.false_ne_true fun passes => Bool.false_ne_true passes.1.1
  | some initiatorAddr =>
    dsimp only
    split
    · next named => exact iff_of_false Bool.false_ne_true fun passes => named passes.1.2
    · next unnamed =>
      rw [ne_eq, not_not] at unnamed
      split
      · next nothing => exact iff_of_false Bool.false_ne_true fun passes => passes.2.1 nothing
      · next stored =>
        split
        · next short => exact iff_of_true rfl ⟨⟨rfl, unnamed⟩, stored, short⟩
        · next long => exact iff_of_false Bool.false_ne_true fun passes => long passes.2.2

theorem crashed_sendRelayResponse (target : Entry) (msg : PunchHoleRequest) (relay : String) :
    (sendRelayResponse config s env target raddr msg relay).crashed = false := by
  unfold sendRelayResponse
  dsimp only
  split <;> rfl

theorem crashed_punch (msg : PunchHoleRequest) (target : Entry) (route : PunchRoute) :
    (punch config s msg raddr target route).crashed = false := by
  unfold punch
  dsimp only
  split <;> rfl

theorem crashed_handlePunchHoleRequest (msg : PunchHoleRequest) :
    (handlePunchHoleRequest config s env msg raddr).crashed = false := by
  unfold handlePunchHoleRequest
  split
  · rfl
  · cases admitPunch config s env msg raddr with
    | error response => rfl
    | ok target =>
      dsimp only
      split
      · rfl
      · split
        · exact crashed_sendRelayResponse target msg _
        · exact crashed_punch msg target _

theorem crashed_handlePunchHoleRequestTCP (msg : PunchHoleRequest) :
    (handlePunchHoleRequestTCP config s env msg raddr).crashed = false := by
  unfold handlePunchHoleRequestTCP
  split
  · rfl
  · cases admitPunch config s env msg raddr with
    | error response => rfl
    | ok target =>
      dsimp only
      split
      · rfl
      · exact crashed_punch msg target _

/-- A handler panics exactly when its message does not meet the condition. -/
theorem crashed_handled_iff {outcome : Outcome} (found : handled config s label = some outcome) :
    outcome.crashed = true ↔ ¬ CutsInRange config s label := by
  cases label with
  | requestRelay env readable msg raddr =>
    obtain rfl := Option.some.inj found
    refine (crashed_handleRequestRelay_iff (s := s.seeing readable) msg).trans ?_
    unfold CutsInRange
    rw [Classical.not_imp, not_not]
  | requestRelayTCP env msg raddr hint =>
    obtain rfl := Option.some.inj found
    refine (crashed_handleRequestRelayTCP_iff msg hint).trans ?_
    unfold CutsInRange
    rw [Classical.not_imp, not_not]
  | relayResponse env rr senderAddr =>
    obtain rfl := Option.some.inj found
    refine (crashed_handleRelayResponseForward_iff rr senderAddr).trans ?_
    unfold CutsInRange
    rw [Classical.not_imp, not_not]
  | punchHoleRequest env readable msg raddr =>
    obtain rfl := Option.some.inj found
    have survives : (handlePunchHoleRequest config (s.seeing readable) env msg raddr).crashed =
        false := crashed_handlePunchHoleRequest msg
    exact iff_of_false (Bool.eq_false_iff.mp survives) (not_not.mpr trivial)
  | punchHoleRequestTCP env msg raddr =>
    obtain rfl := Option.some.inj found
    have survives : (handlePunchHoleRequestTCP config s env msg raddr).crashed = false :=
      crashed_handlePunchHoleRequestTCP msg
    exact iff_of_false (Bool.eq_false_iff.mp survives) (not_not.mpr trivial)
  | punchFallback raddr =>
    obtain ⟨response, _, rfl⟩ := Option.map_eq_some_iff.mp found
    exact iff_of_false Bool.false_ne_true (not_not.mpr trivial)
  | punchHoleSent phs senderAddr =>
    obtain rfl := Option.some.inj found
    refine iff_of_false (Bool.eq_false_iff.mp ?_) (not_not.mpr trivial)
    unfold handlePunchHoleSent
    split <;> rfl
  | signal | billing | billingTables => exact absurd found.symm (Option.some_ne_none outcome)

end handlers

/-! ### Every run -/

section runs

variable {settings : Billing.Settings} {config : RelayConfig}

/-- A step that is no message of a handler meets the condition. -/
theorem cutsInRange_of_silent {s : SignalServer}
    (silent : handled config s label = none) : CutsInRange config s label := by
  cases label with
  | requestRelay | requestRelayTCP | relayResponse => exact absurd silent (Option.some_ne_none _)
  | _ => trivial

theorem crashed_runLabel_iff {s : SignalServer} {after : Running}
    (taken : runLabel settings config s label = some after) :
    after.crashed = true ↔ ¬ CutsInRange config s label := by
  unfold runLabel at taken
  cases found : handled config s label with
  | some outcome =>
    rw [found] at taken
    obtain rfl := Option.some.inj taken
    exact crashed_handled_iff found
  | none =>
    rw [found] at taken
    obtain ⟨server, _, rfl⟩ := Option.map_eq_some_iff.mp taken
    exact iff_of_false Bool.false_ne_true (not_not.mpr (cutsInRange_of_silent found))

/-- A step panics exactly when it does not meet the condition. -/
theorem crashed_panicStep_iff {before after : Running} {label : WireLabel}
    (taken : panicStep settings config before label = some after) :
    after.crashed = true ↔ ¬ WireInRange config before.server label := by
  cases label with
  | relayResponse env rr senderAddr =>
    obtain ⟨_, taken⟩ := Option.ite_none_left_eq_some.mp taken
    obtain ⟨socketAddr, decoded⟩ := Option.isSome_iff_exists.mp (decodeAddr_isSome rr.socketAddr)
    have isAnswer : rr.decode = some
        { socketAddr, id := rr.id, uuid := rr.uuid, refuseReason := rr.refuseReason } :=
      Option.map_eq_some_iff.mpr ⟨socketAddr, decoded, rfl⟩
    rw [isAnswer] at taken
    refine (crashed_runLabel_iff taken).trans (not_congr ⟨fun inRange answer same => ?_,
      fun inRange => inRange _ isAnswer⟩)
    obtain rfl := Option.some.inj (isAnswer.symm.trans same)
    exact inRange
  | decoded label =>
    obtain ⟨_, taken⟩ := Option.ite_none_left_eq_some.mp taken
    exact crashed_runLabel_iff taken
  | cleanup now =>
    obtain ⟨alive, rfl⟩ := of_guard_not taken
    exact iff_of_false alive (not_not.mpr trivial)

/-- In every run from any server, no message panics exactly when all messages meet the
condition. -/
theorem survives_iff_wireInRange (settings : Billing.Settings) (config : RelayConfig)
    {steps : List (Taken Running WireLabel)} {final : Running}
    (history : History (panicking settings config) steps final) :
    (∀ taken ∈ steps, taken.after.crashed = false) ↔
      ∀ taken ∈ steps, WireInRange config taken.before.server taken.label := by
  refine history.forall_iff fun step _ taken => ?_
  rw [← Bool.not_eq_true, crashed_panicStep_iff taken, not_not]

end runs

/-! ### A short UUID -/

/-- A relay request whose UUID has one character. -/
def shortRequest : RequestRelay := { toCustomer with uuid := "a" }

/-- The server of the operator and the customer. -/
def customerRunning : Running := ⟨customerServer, false⟩

theorem customerRunning_start : (panicking minuteSettings openRelayConfig).start customerRunning :=
  rfl

/-- A relay request with a UUID of one character makes the server panic. -/
theorem shortRequest_panics :
    ¬ ∀ (settings : Billing.Settings) (config : RelayConfig) steps final,
      History (panicking settings config) steps final →
        ∀ taken ∈ steps, taken.after.crashed = false := by
  intro always
  have panics : (runLabel minuteSettings openRelayConfig customerServer (.requestRelayTCP
    (relayEnv true) shortRequest operatorAddr .tcp)).any (·.crashed) = true := by decide
  obtain ⟨after, ran, crashed⟩ := Option.any_eq_true _ _ |>.mp panics
  have taken : (panicking minuteSettings openRelayConfig).step customerRunning
      (.decoded (.requestRelayTCP (relayEnv true) shortRequest operatorAddr .tcp)) =
        some after := ran
  have survives := always minuteSettings openRelayConfig _ after
    (.step (.start customerRunning_start) taken) _ List.mem_cons_self
  exact Bool.false_ne_true (survives.symm.trans crashed)

/-- A request with a full UUID is answered. -/
theorem survives_iff_wireInRange_fullUUID :
    ∃ steps final, History (panicking minuteSettings openRelayConfig) steps final ∧
      steps ≠ [] ∧ ∀ taken ∈ steps, taken.after.crashed = false := by
  have runs : (runLabel minuteSettings openRelayConfig customerServer (.requestRelayTCP
    (relayEnv true) toCustomer operatorAddr .tcp)).isSome = true := by decide
  obtain ⟨after, ran⟩ := Option.isSome_iff_exists.mp runs
  have taken : (panicking minuteSettings openRelayConfig).step customerRunning
      (.decoded (.requestRelayTCP (relayEnv true) toCustomer operatorAddr .tcp)) =
        some after := ran
  have history : History (panicking minuteSettings openRelayConfig) _ after :=
    .step (.start customerRunning_start) taken
  refine ⟨_, after, history, List.cons_ne_nil _ _,
    (survives_iff_wireInRange minuteSettings openRelayConfig history).mpr fun step member => ?_⟩
  obtain rfl := List.mem_singleton.mp member
  exact fun _ short => absurd short.2 (by decide)

end SovaDesk.Signal
