/-
This file settles whether a TCP session keeps the identity that it registered.

A key registration binds its device to the TCP session it arrives on, so that a later
request on the session can be authorized without a heartbeat. The loop that reads the
session decides by the kind of a message whether the session stays open after it: it does
after the messages of a connection, and a key registration is none of them. So the answer
to a registration is the last thing that happens on its session. What a client sends after
it is not read, under no identity at all.
-/

import SovaDesk.Signal.Punch
import SovaDesk.Signal.Verdict

namespace SovaDesk.Signal

/-! ### Messages -/

/-- A message on a TCP session. An empty one has no union, and one with unknown fields comes from
another version of the schema; of the kinds that the loop does not keep the session open for, only
the key registration changes the server. -/
inductive RendezvousMessage
  | empty
  | unknownFields
  | registerPk (msg : RegisterPk)
  | punchHoleRequest (msg : PunchHoleRequest)
  | requestRelay (msg : RequestRelay)
  | relayResponse (rr : RelayAnswer)
  | punchHoleSent (phs : PunchHoleSent)
  | other

/-- `logAndCheckKeepAlive`: the kinds of messages that keep the session open. -/
def logAndCheckKeepAlive : RendezvousMessage → Bool
  | .punchHoleRequest _ | .requestRelay _ | .relayResponse _ | .punchHoleSent _ => true
  | .registerPk _ | .empty | .unknownFields | .other => false

/-- A request to be connected to another device. -/
def RendezvousMessage.isRequest : RendezvousMessage → Bool
  | .punchHoleRequest _ | .requestRelay _ => true
  | _ => false

/-- A message as it is read: what the other goroutines have made of the server since the last one,
and whether the connection breaks with it, so that the answer or the next message is lost. -/
structure Arrival where
  meanwhile : SignalServer → SignalServer
  env : Env
  relayEnv : RelayEnv
  msg : RendezvousMessage
  breaks : Bool

/-- What became of a message that was sent: it was never read, it was skipped, it was answered as a
key registration, it was processed as a request of an initiator or an unknown one, or as another
message. -/
inductive Handled
  | unread
  | skipped
  | registered (result : RegisterPkResult)
  | requested (initiator : Option String)
  | passed
  deriving DecidableEq

/-! ### The session -/

/-- A session of an address: whether it is in `tcpPunchConns`, and whether it is over. -/
structure TCPSession where
  server : SignalServer
  registered : Bool
  closed : Bool

/-- The initiator a request is processed for; one without a target is dropped before. -/
def initiatorOf (config : RelayConfig) (s : SignalServer) (env : RelayEnv) (raddr : Addr) :
    RendezvousMessage → Option String
  | .punchHoleRequest msg =>
    if msg.id = "" then none else requireAuthorizedInitiator config s env.now raddr msg.token
  | .requestRelay msg => requireAuthorizedInitiator config s env.now raddr msg.token
  | _ => none

/-- `handleMessage`: the server afterwards, and whether a handler panicked. -/
def handleMessage (config : RelayConfig) (s : SignalServer) (arrival : Arrival) (raddr : Addr) :
    SignalServer × Handled × Bool :=
  match arrival.msg with
  | .empty | .unknownFields | .other => (s, .passed, false)
  | .registerPk msg =>
    let (server, result) := processRegisterPk config.toConfig s.toServer arrival.env msg raddr
    ({ s with toServer := server }, .registered result, false)
  | .punchHoleRequest msg =>
    let outcome := handlePunchHoleRequestTCP config s arrival.relayEnv msg raddr
    (outcome.server, .requested (initiatorOf config s arrival.relayEnv raddr arrival.msg),
      outcome.crashed)
  | .requestRelay msg =>
    let outcome := handleRequestRelayTCP config s arrival.relayEnv msg raddr .tcp
    (outcome.server, .requested (initiatorOf config s arrival.relayEnv raddr arrival.msg),
      outcome.crashed)
  | .relayResponse rr =>
    let outcome := handleRelayResponseForward config s arrival.relayEnv rr raddr
    (outcome.server, .passed, outcome.crashed)
  | .punchHoleSent phs => ((handlePunchHoleSent config s phs raddr).server, .passed, false)

/-- The session ends: the deferred function takes it out of `tcpPunchConns`. -/
def TCPSession.close (session : TCPSession) (raddr : Addr) : TCPSession where
  server :=
    if session.registered then
      { session.server with tcpSessions := session.server.tcpSessions.erase raddr }
    else session.server
  registered := session.registered
  closed := true

/-- One round of the read loop: the session is noted for a message that keeps it open, the message
is handled, and the session ends unless the message keeps it open. -/
def readMessage (config : RelayConfig) (raddr : Addr) (session : TCPSession) (arrival : Arrival) :
    TCPSession × Handled :=
  let server := arrival.meanwhile session.server
  if session.closed then ({ session with server }, .unread)
  else
    match arrival.msg with
    | .empty => ({ session with server }, .skipped)
    | .unknownFields => (TCPSession.close { session with server } raddr, .skipped)
    | msg =>
      let keepAlive := logAndCheckKeepAlive msg
      let stores := keepAlive && !session.registered
      let server :=
        if stores then { server with tcpSessions := server.tcpSessions.insert raddr "" }
        else server
      let (server, handled, crashed) := handleMessage config server arrival raddr
      let session := { server, registered := session.registered || stores, closed := false }
      (if !keepAlive || arrival.breaks || crashed then session.close raddr else session, handled)

/-- A message that was sent, and what became of it. -/
structure Record where
  msg : RendezvousMessage
  handled : Handled

/-- The read loop, over what the client sends. -/
def readLoop (config : RelayConfig) (raddr : Addr) : TCPSession → List Arrival → List Record
  | _, [] => []
  | session, arrival :: rest =>
    let (session, handled) := readMessage config raddr session arrival
    ⟨arrival.msg, handled⟩ :: readLoop config raddr session rest

def newSession (server : SignalServer) : TCPSession := ⟨server, false, false⟩

/-- `handleSecureTCPConn`. -/
def handleSecureTCPConn (config : RelayConfig) (s : SignalServer) (raddr : Addr)
    (arrivals : List Arrival) : List Record :=
  readLoop config raddr (newSession s) arrivals

/-- `handlePlainTCPConn`: the first message may have been read during the handshake. It is handled
before the loop, in the same way. -/
def handlePlainTCPConn (config : RelayConfig) (s : SignalServer) (raddr : Addr)
    (firstMsg : Option Arrival) (arrivals : List Arrival) : List Record :=
  match firstMsg with
  | none => readLoop config raddr (newSession s) arrivals
  | some first =>
    let (session, handled) := readMessage config raddr (newSession s) first
    ⟨first.msg, handled⟩ :: readLoop config raddr session arrivals

/-- A session is secure, or plain with the message that was read during the handshake. -/
inductive Variant
  | secure
  | plain (firstMsg : Option Arrival)

def handleTCPConn (config : RelayConfig) (s : SignalServer) (raddr : Addr)
    (arrivals : List Arrival) : Variant → List Record
  | .secure => handleSecureTCPConn config s raddr arrivals
  | .plain firstMsg => handlePlainTCPConn config s raddr firstMsg arrivals

/-! ### The property -/

/-- After a registration that was answered with OK, every request that is sent on the session is
processed with the registered device as its initiator. -/
def KeepsIdentity (records : List Record) : Prop :=
  records.Pairwise fun earlier later => ∀ msg, earlier.msg = .registerPk msg →
    earlier.handled = .registered .ok → later.msg.isRequest = true →
      later.handled = .requested (some msg.id)

/-- The condition: no request is sent after a registration that was answered with OK. -/
def NothingAsked (records : List Record) : Prop :=
  records.Pairwise fun earlier later => earlier.handled = .registered .ok →
    later.msg.isRequest = false

/-! ### What follows a registration -/

section loop

variable {config : RelayConfig} {raddr : Addr} {session : TCPSession} {arrival : Arrival}

theorem readMessage_of_closed (closed : session.closed = true) :
    (readMessage config raddr session arrival).1.closed = true ∧
      (readMessage config raddr session arrival).2 = .unread := by
  unfold readMessage
  dsimp only
  rw [if_pos closed]
  exact ⟨closed, rfl⟩

/-- Nothing is read on a session that is over. -/
theorem unread_of_closed (arrivals : List Arrival) (closed : session.closed = true) :
    ∀ record ∈ readLoop config raddr session arrivals, record.handled = .unread := by
  induction arrivals generalizing session with
  | nil => exact fun record member => absurd member List.not_mem_nil
  | cons arrival rest inductionHypothesis =>
    obtain ⟨stays, unread⟩ := @readMessage_of_closed config raddr session arrival closed
    intro record member
    rcases List.mem_cons.mp member with rfl | later
    · exact unread
    · exact inductionHypothesis stays record later

/-- A message that is answered as a registration ends the session. -/
theorem closed_of_registered {result : RegisterPkResult}
    (answered : (readMessage config raddr session arrival).2 = .registered result) :
    (readMessage config raddr session arrival).1.closed = true := by
  obtain ⟨meanwhile, env, relayEnv, msg, breaks⟩ := arrival
  unfold readMessage at answered ⊢
  dsimp only at answered ⊢
  split at answered
  · exact Handled.noConfusion answered
  · next opened =>
    rw [if_neg opened]
    cases msg with
    | registerPk msg => rfl
    | _ => exact Handled.noConfusion answered

/-- Nothing that is sent after an answered registration is read. -/
theorem unread_of_registered (arrivals : List Arrival) :
    (readLoop config raddr session arrivals).Pairwise fun earlier later =>
      ∀ result, earlier.handled = .registered result → later.handled = .unread := by
  induction arrivals generalizing session with
  | nil => exact .nil
  | cons arrival rest inductionHypothesis =>
    refine .cons (fun later member result answered => ?_) inductionHypothesis
    exact unread_of_closed rest (closed_of_registered answered) later member

theorem msg_of_registered {result : RegisterPkResult}
    (answered : (readMessage config raddr session arrival).2 = .registered result) :
    ∃ msg, arrival.msg = .registerPk msg := by
  obtain ⟨meanwhile, env, relayEnv, msg, breaks⟩ := arrival
  unfold readMessage at answered
  dsimp only at answered
  split at answered
  · exact Handled.noConfusion answered
  · cases msg with
    | registerPk msg => exact ⟨msg, rfl⟩
    | _ => exact Handled.noConfusion answered

theorem msg_of_answered (arrivals : List Arrival) :
    ∀ record ∈ readLoop config raddr session arrivals, ∀ result,
      record.handled = .registered result → ∃ msg, record.msg = .registerPk msg := by
  induction arrivals generalizing session with
  | nil => exact fun record member => absurd member List.not_mem_nil
  | cons arrival rest inductionHypothesis =>
    intro record member result answered
    rcases List.mem_cons.mp member with rfl | later
    · exact msg_of_registered answered
    · exact inductionHypothesis record later result answered

/-- All that the client sends on a session. -/
def Variant.sent (variant : Variant) (arrivals : List Arrival) : List Arrival :=
  match variant with
  | .secure => arrivals
  | .plain firstMsg => firstMsg.toList ++ arrivals

/-- The message that was read during the handshake is handled like those of the loop. -/
theorem handleTCPConn_eq_readLoop (config : RelayConfig) (s : SignalServer) (raddr : Addr)
    (arrivals : List Arrival) (variant : Variant) :
    handleTCPConn config s raddr arrivals variant =
      readLoop config raddr (newSession s) (variant.sent arrivals) := by
  cases variant with
  | secure => rfl
  | plain firstMsg => cases firstMsg <;> rfl

end loop

/-- A session keeps the identity that it registered exactly when nothing is asked after the
registration. -/
theorem keepsIdentity_iff_nothingAsked (config : RelayConfig) (s : SignalServer) (raddr : Addr)
    (arrivals : List Arrival) (variant : Variant) :
    KeepsIdentity (handleTCPConn config s raddr arrivals variant) ↔
      NothingAsked (handleTCPConn config s raddr arrivals variant) := by
  rw [handleTCPConn_eq_readLoop]
  constructor
  · intro keeps
    refine (keeps.and (unread_of_registered _)).imp_of_mem fun isEarlier _ both answered => ?_
    obtain ⟨kept, unread⟩ := both
    obtain ⟨msg, isRegistration⟩ := msg_of_answered _ _ isEarlier _ answered
    by_contra asked
    have processed := kept msg isRegistration answered (Bool.not_eq_false _ ▸ asked)
    exact Handled.noConfusion ((unread _ answered).symm.trans processed)
  · intro nothing
    refine nothing.imp fun silent msg _ answered asked => ?_
    exact absurd ((silent answered).symm.trans asked) Bool.false_ne_true

/-! ### A viewer without heartbeats -/

/-- A server that knows no device yet. -/
def emptyServer : SignalServer := { customerServer with peers := ∅, billing := none }

/-- A message that the client sends right after the last one. -/
def sending (msg : RendezvousMessage) : Arrival where
  meanwhile := id
  env := { now := 1, timestamp := "2024-01-01T00:00:00Z", limiterAllows := true }
  relayEnv := relayEnv true
  msg := msg
  breaks := false

def viewerRegistration : RegisterPk where
  id := "viewer-1"
  oldID := ""
  uuid := [1, 2, 3]
  pk := [4, 5, 6]
  noRegisterDevice := false

def viewerRequest : PunchHoleRequest where
  id := "device-1"
  natType := 0
  connType := 0
  token := ""
  udpPort := 0
  forceRelay := false
  upnpPort := 0
  socketAddrV6 := []

/-- A viewer registers its key and asks for a device on the same session: the request is not
read. -/
theorem viewer_losesIdentity :
    ¬ ∀ (config : RelayConfig) (s : SignalServer) (raddr : Addr) (arrivals : List Arrival)
      (variant : Variant), KeepsIdentity (handleTCPConn config s raddr arrivals variant) := by
  intro always
  have keeps := always openRelayConfig emptyServer operatorAddr
    [sending (.registerPk viewerRegistration), sending (.punchHoleRequest viewerRequest)] .secure
  have kept := List.rel_of_pairwise_cons keeps List.mem_cons_self viewerRegistration rfl
    (by decide) rfl
  exact absurd kept (by decide)

end SovaDesk.Signal
