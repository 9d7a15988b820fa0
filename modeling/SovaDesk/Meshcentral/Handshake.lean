/-
This file models the handshake of a mesh agent, and settles when its handlers keep to the
bytes of the messages.

A connection carries binary messages with a command and texts in JSON. Four commands make
the handshake, in any order; a mask remembers which have come. The agent's certificate
counts only with a signature of its key over the hash of the web certificate and two
nonces, one from each side, and the agent is registered under the hash of that key. The
handlers slice the messages at offsets of their own: a slice that ends beyond the message
but within its buffer reads what else is there, and one that ends beyond the buffer
panics. All of them test the length first, one of them against the wrong number.
-/

import SovaDesk.Lib.System
import SovaDesk.Meshcentral.NodeIDs

namespace SovaDesk.Meshcentral.Handshake

open Agents (NodeHash base64NodeID meshPeerID)
open Signal (Bytes hexText)
open Transition

/-! ### Messages -/

/-- A message, with what follows it in the buffer it was read into. -/
structure Message where
  data : Bytes
  spare : Bytes := []
  deriving DecidableEq

def sha384Size : Nat := 48

def cmdAuthRequest : Nat := 1
def cmdAuthVerify : Nat := 2
def cmdAuthInfo : Nat := 3
def cmdAuthConfirm : Nat := 4
def cmdServerID : Nat := 5
def cmdCoreModule : Nat := 10
def cmdCoreModuleHash : Nat := 11
def cmdCoreOk : Nat := 16

/-- `readU16`, which is 0 where the data is too short. -/
def readU16 (data : Bytes) (off : Nat) : Nat :=
  match data.drop off with
  | high :: low :: _ => high.toNat * 256 + low.toNat
  | _ => 0

def putU16 (value : Nat) : Bytes := [UInt8.ofNat (value / 256), UInt8.ofNat value]

def Message.cmd (message : Message) : Nat := readU16 message.data 0

/-- The bytes of a buffer from an offset up to another. -/
def slice (buffer : Bytes) (low high : Nat) : Bytes := (buffer.take high).drop low

/-! ### Connections -/

/-- What an agent is registered with. -/
structure Registration where
  meshNodeID : String
  meshGroupID : String
  hostname : Bytes
  deriving DecidableEq

/-- An `AgentConn`, with what was sent, written to the configuration and registered over it;
`writable` tells whether the other side still takes messages. -/
structure Conn where
  peerID : String := ""
  meshNodeID : String := ""
  meshGroupID : String := ""
  hostname : Bytes := []
  serverNonce : Option Bytes := none
  agentNonce : Option Bytes := none
  webHash : Option Bytes := none
  receivedCmd : UInt8 := 0
  authenticated : Bool := false
  coreStable : Bool := false
  writable : Bool := true
  sent : List Bytes := []
  written : List (String × String) := []
  registered : Option Registration := none
  deriving DecidableEq

/-- How the handling of a message ends. -/
inductive Outcome
  | ok
  | error
  | panic
  deriving DecidableEq

/-- The connection after a message, how its handling ended, and whether something was read that is
not of the message. -/
structure Handled where
  conn : Conn
  outcome : Outcome
  outside : Bool := false
  deriving DecidableEq

/-- Slice a message and go on with the bytes. -/
def Message.reading (message : Message) (low high : Nat) (conn : Conn) (rest : Bytes → Handled) :
    Handled :=
  if message.data.length + message.spare.length < high then ⟨conn, .panic, true⟩
  else
    let handled := rest (slice (message.data ++ message.spare) low high)
    { handled with outside := handled.outside || decide (message.data.length < high) }

/-- Send a message and go on if that succeeds. -/
def Conn.send (conn : Conn) (packet : Bytes) (rest : Conn → Handled) : Handled :=
  if conn.writable then rest { conn with sent := packet :: conn.sent } else ⟨conn, .error, false⟩

/-- `sendText`: whether it succeeds is not looked at. -/
def Conn.sendText (conn : Conn) (text : String) : Conn :=
  if conn.writable then { conn with sent := text.toUTF8.toList :: conn.sent } else conn

/-! ### The handlers -/

/-- The server's side: the hash of its web certificate, its own certificate and signatures, the
core, and the functions of the libraries. A certificate may have a key of another kind than RSA; a
JSON text is decoded to its action and the text it is encoded to again. -/
structure Outside (Key : Type) where
  webHash : Bytes
  certDER : Bytes
  signServerAuth : Bytes → Bytes → Option Bytes
  coreModule : Bytes
  coreModuleHash : Bytes
  parseCertificate : Bytes → Option (Option Key)
  verifyPKCS1v15 : Key → NodeHash → Bytes → Bool
  marshalPKIXPublicKey : Key → Option Bytes
  sha384 : Bytes → NodeHash
  decodeJSON : Bytes → Option (String × String)

/-- What chance and the database do while a message is handled: the nonce that is drawn, if any, and
whether the agent's row can be written. -/
structure Chance where
  nonce : Option Bytes
  registers : Bool
  deriving DecidableEq

section handlers

variable {Key : Type} (outside : Outside Key)

/-- `VerifyAgentSignature`: the node ID of the certificate, if its key has signed. -/
def verifyAgentSignature (certDER signature webHash serverNonce agentNonce : Bytes) :
    Option String :=
  if webHash.length ≠ sha384Size ∨ serverNonce.length ≠ sha384Size ∨
      agentNonce.length ≠ sha384Size then none
  else
    match outside.parseCertificate certDER with
    | some (some key) =>
      if outside.verifyPKCS1v15 key (outside.sha384 (webHash ++ serverNonce ++ agentNonce))
          signature then
        (outside.marshalPKIXPublicKey key).map fun der => base64NodeID (outside.sha384 der).bytes
      else none
    | _ => none

/-- `tryCompleteAuth`. -/
def tryCompleteAuth (chance : Chance) (conn : Conn) : Handled :=
  if conn.meshNodeID = "" ∨ conn.meshGroupID = "" then ⟨conn, .ok, false⟩
  else if conn.authenticated then ⟨conn, .ok, false⟩
  else if conn.receivedCmd &&& 2 = 0 ∨ conn.receivedCmd &&& 4 = 0 then ⟨conn, .ok, false⟩
  else
    let conn := { conn with authenticated := true }
    if !chance.registers then ⟨conn, .error, false⟩
    else
      let conn := { conn with
        registered := some ⟨conn.meshNodeID, conn.meshGroupID, conn.hostname⟩
        peerID := meshPeerID conn.meshNodeID }
      conn.send (putU16 cmdAuthConfirm) fun conn =>
      conn.send (putU16 cmdCoreModuleHash ++ putU16 0) fun conn =>
      ⟨conn.sendText "\x7b\"action\":\"serverInfo\"\x7d", .ok, false⟩

def handleAuthRequest (chance : Chance) (conn : Conn) (message : Message) : Handled :=
  if message.data.length ≠ 98 ∨ conn.receivedCmd &&& 1 ≠ 0 then ⟨conn, .ok, false⟩
  else
    let conn := { conn with receivedCmd := conn.receivedCmd ||| 1 }
    message.reading 2 50 conn fun webHash =>
    message.reading 50 98 conn fun agentNonce =>
    let conn := { conn with webHash := some webHash, agentNonce := some agentNonce }
    -- the agent has to have seen the web certificate, when there is one
    if outside.webHash.length = sha384Size ∧ webHash ≠ outside.webHash then ⟨conn, .error, false⟩
    else
      match chance.nonce with
      | none => ⟨conn, .error, false⟩
      | some serverNonce =>
        let conn := { conn with serverNonce := some serverNonce }
        conn.send (putU16 cmdAuthRequest ++ webHash ++ serverNonce) fun conn =>
        match outside.signServerAuth webHash serverNonce with
        | none => ⟨conn, .error, false⟩
        | some signature =>
          conn.send (putU16 cmdAuthVerify ++ putU16 outside.certDER.length ++ outside.certDER ++
            signature) fun conn => ⟨conn, .ok, false⟩

def handleAuthVerify (chance : Chance) (conn : Conn) (message : Message) : Handled :=
  if message.data.length < 4 ∨ conn.receivedCmd &&& 2 ≠ 0 then ⟨conn, .ok, false⟩
  else
    let conn := { conn with receivedCmd := conn.receivedCmd ||| 2 }
    let certLen := readU16 message.data 2
    if message.data.length < 4 + certLen then ⟨conn, .error, false⟩
    else
      message.reading 4 (4 + certLen) conn fun certDER =>
      message.reading (4 + certLen) message.data.length conn fun signature =>
      match conn.agentNonce with
      | none => ⟨conn, .ok, false⟩
      | some agentNonce =>
        match verifyAgentSignature outside certDER signature (conn.webHash.getD [])
            (conn.serverNonce.getD []) agentNonce with
        | none => ⟨conn, .error, false⟩
        | some nodeID => tryCompleteAuth chance { conn with meshNodeID := nodeID }

def handleAuthInfo (chance : Chance) (conn : Conn) (message : Message) : Handled :=
  if message.data.length < 72 ∨ conn.receivedCmd &&& 4 ≠ 0 then ⟨conn, .ok, false⟩
  else
    let conn := { conn with receivedCmd := conn.receivedCmd ||| 4 }
    message.reading 18 66 conn fun meshRaw =>
    let conn := { conn with
      meshGroupID :=
        if (slice meshRaw 16 32).all (· == 0) then hexText (slice meshRaw 0 16)
        else base64NodeID meshRaw }
    let hnLen := readU16 message.data 70
    if 72 < message.data.length ∧ 72 + hnLen ≤ message.data.length then
      message.reading 72 (72 + hnLen) conn fun hostname =>
      tryCompleteAuth chance { conn with hostname }
    else tryCompleteAuth chance conn

def handleAuthBinary (chance : Chance) (conn : Conn) (message : Message) : Handled :=
  if message.cmd = cmdAuthRequest then handleAuthRequest outside chance conn message
  else if message.cmd = cmdAuthVerify then handleAuthVerify outside chance conn message
  else if message.cmd = cmdAuthInfo then handleAuthInfo chance conn message
  else if message.cmd = cmdAuthConfirm then
    tryCompleteAuth chance { conn with receivedCmd := conn.receivedCmd ||| 8 }
  else ⟨conn, .ok, false⟩

/-- The answer to the hash of the agent's core, which starts at the fourth byte. -/
def handleCoreModuleHash (conn : Conn) (message : Message) : Handled :=
  let sendCore : Handled :=
    conn.send (putU16 cmdCoreModule ++ putU16 0 ++ outside.coreModule) fun conn =>
      ⟨conn, .ok, false⟩
  if 2 + sha384Size ≤ message.data.length then
    message.reading 4 (4 + sha384Size) conn fun agentHash =>
      if agentHash = outside.coreModuleHash then
        conn.send (putU16 cmdCoreOk) fun conn => ⟨conn, .ok, false⟩
      else sendCore
  else sendCore

def handleBinary (chance : Chance) (conn : Conn) (message : Message) : Handled :=
  if message.data.length < 2 then ⟨conn, .ok, false⟩
  else if !conn.authenticated then handleAuthBinary outside chance conn message
  else if message.cmd = cmdCoreModuleHash then handleCoreModuleHash outside conn message
  else ⟨conn, .ok, false⟩

def handleJSON (conn : Conn) (message : Message) : Conn :=
  if !conn.authenticated then conn
  else
    match outside.decodeJSON message.data with
    | none => conn
    | some (action, text) =>
      if action = "ping" then conn.sendText "\x7b\"action\":\"pong\"\x7d"
      else if action = "pong" then conn
      else
        let conn := { conn with coreStable := conn.coreStable || action == "coreinfo" }
        if conn.peerID = "" then conn
        else
          let key := if action = "coreinfo" then "mesh_coreinfo_" else "mesh_last_msg_"
          { conn with written := (key ++ conn.peerID, text) :: conn.written }

def Message.isJSON (message : Message) : Bool := message.data.head? == some 123

/-- The loop of `handleAgentWS` for one message. -/
def handleMessage (chance : Chance) (conn : Conn) (message : Message) : Handled :=
  if message.data = [] then ⟨conn, .ok, false⟩
  else if message.isJSON then ⟨handleJSON outside conn message, .ok, false⟩
  else handleBinary outside chance conn message

end handlers

/-! ### Sessions -/

/-- A connection, the messages that came on it, the latest first, whether it has ended, and whether
the handling of the latest message read something else. -/
structure Session where
  conn : Conn
  log : List (Message × Chance)
  ended : Bool
  outside : Bool
  deriving DecidableEq

/-- A message comes, or the other side stops taking messages. -/
inductive Event
  | message (message : Message) (chance : Chance)
  | breaks
  deriving DecidableEq

/-- Runs of a connection that has just been accepted; an error or a panic ends it. -/
def agentSession {Key : Type} (outside : Outside Key) : System Session Event where
  start s := s = ⟨{}, [], false, false⟩
  step s event :=
    if s.ended then none
    else
      match event with
      | .message message chance =>
        let handled := handleMessage outside chance s.conn message
        some ⟨handled.conn, (message, chance) :: s.log, handled.outcome != .ok, handled.outside⟩
      | .breaks => some { s with conn := { s.conn with writable := false }, outside := false }

def Message.webHash (message : Message) : Bytes := slice message.data 2 50
def Message.agentNonce (message : Message) : Bytes := slice message.data 50 98
def Message.certificate (message : Message) : Bytes :=
  slice message.data 4 (4 + readU16 message.data 2)
def Message.signature (message : Message) : Bytes :=
  slice message.data (4 + readU16 message.data 2) message.data.length

section claims

variable {Key : Type} (outside : Outside Key)

/-- A web hash was agreed on with a request, and nonces of both sides came with it. -/
def Asked (log : List (Message × Chance)) (webHash serverNonce agentNonce : Bytes) : Prop :=
  ∃ request chance, (request, chance) ∈ log ∧ request.cmd = cmdAuthRequest ∧
    request.data.length = 98 ∧ request.webHash = webHash ∧ request.agentNonce = agentNonce ∧
    chance.nonce = some serverNonce ∧
    (outside.webHash.length = sha384Size → webHash = outside.webHash)

/-- A node ID is the hash of the key of a certificate that came with a signature of the key over
what was agreed on. -/
def Signed (log : List (Message × Chance)) (nodeID : String) : Prop :=
  ∃ webHash serverNonce agentNonce verify chance key der,
    Asked outside log webHash serverNonce agentNonce ∧
    (verify, chance) ∈ log ∧ verify.cmd = cmdAuthVerify ∧
    outside.parseCertificate verify.certificate = some (some key) ∧
    outside.verifyPKCS1v15 key (outside.sha384 (webHash ++ serverNonce ++ agentNonce))
      verify.signature = true ∧
    outside.marshalPKIXPublicKey key = some der ∧
    nodeID = base64NodeID (outside.sha384 der).bytes

/-- A message is none of the handshake. -/
def Message.isOther (message : Message) : Prop :=
  message.isJSON = true ∨ message.cmd ∉ [cmdAuthRequest, cmdAuthVerify, cmdAuthInfo, cmdAuthConfirm]

/-- The connection is authenticated and registered only by a signature, before that no other
message has an effect, and nothing but the message is read. -/
structure Keeps (step : Taken Session Event) : Prop where
  authentic : step.after.conn.authenticated = true →
    Signed outside step.after.log step.after.conn.meshNodeID
  named : ∀ registration, step.after.conn.registered = some registration →
    Signed outside step.after.log registration.meshNodeID
  idle : ∀ message chance, step.label = .message message chance →
    step.before.conn.authenticated = false → message.isOther →
      step.after =
        { step.before with log := (message, chance) :: step.before.log, outside := false }
  inside : step.after.outside = false

/-- The condition: after the authentication the hash of a core is complete where it is read. -/
def Complete (s : Session) : Event → Prop
  | .message message _ => s.conn.authenticated = true → message.isJSON = false →
    message.cmd = cmdCoreModuleHash → 2 + sha384Size ≤ message.data.length →
      4 + sha384Size ≤ message.data.length
  | .breaks => True

end claims

instance (s : Session) : (event : Event) → Decidable (Complete s event)
  | .message _ _ => inferInstanceAs (Decidable (_ = true → _ = false → _ = _ → _ ≤ _ → _ ≤ _))
  | .breaks => .isTrue trivial

/-! ### What the handlers keep -/

section kept

variable {Key : Type} {outside : Outside Key} {log : List (Message × Chance)} {conn : Conn}
  {chance : Chance} {message : Message}

/-- A slice that ends within the message is of the message. -/
theorem reading_inside {low high : Nat} (within : high ≤ message.data.length)
    (rest : Bytes → Handled) :
    message.reading low high conn rest = rest (slice message.data low high) := by
  have sliced : slice (message.data ++ message.spare) low high = slice message.data low high := by
    unfold slice
    rw [List.take_append_of_le_length within]
  unfold Message.reading
  rw [if_neg (by omega), sliced, decide_eq_false (by omega)]
  simp only [Bool.or_false]

/-- What holds of a connection whatever becomes of it. -/
structure Settled (outside : Outside Key) (log : List (Message × Chance)) (conn : Conn) : Prop where
  identified : conn.meshNodeID ≠ "" → Signed outside log conn.meshNodeID
  authentic : conn.authenticated = true → Signed outside log conn.meshNodeID
  named : ∀ registration, conn.registered = some registration →
    Signed outside log registration.meshNodeID

/-- What a connection that goes on has agreed on. -/
def Agreed (outside : Outside Key) (log : List (Message × Chance)) (conn : Conn) : Prop :=
  ∀ webHash serverNonce agentNonce, conn.webHash = some webHash →
    conn.serverNonce = some serverNonce → conn.agentNonce = some agentNonce →
      Asked outside log webHash serverNonce agentNonce

/-- A message is handled as it should be. -/
structure Handled.Good (outside : Outside Key) (log : List (Message × Chance))
    (handled : Handled) : Prop where
  settled : Settled outside log handled.conn
  agreed : handled.outcome = .ok → Agreed outside log handled.conn
  inside : handled.outside = false

theorem good_ok (settled : Settled outside log conn) (agreed : Agreed outside log conn) :
    Handled.Good outside log ⟨conn, .ok, false⟩ := ⟨settled, fun _ => agreed, rfl⟩

theorem good_error (settled : Settled outside log conn) :
    Handled.Good outside log ⟨conn, .error, false⟩ :=
  ⟨settled, (fun isOk => by cases isOk), rfl⟩

theorem Settled.sent (settled : Settled outside log conn) (sent : List Bytes) :
    Settled outside log { conn with sent } :=
  ⟨settled.identified, settled.authentic, settled.named⟩

theorem good_send {packet : Bytes} {rest : Conn → Handled} (settled : Settled outside log conn)
    (later : Handled.Good outside log (rest { conn with sent := packet :: conn.sent })) :
    Handled.Good outside log (conn.send packet rest) := by
  unfold Conn.send
  split
  · exact later
  · exact good_error settled

theorem good_tryCompleteAuth (settled : Settled outside log conn)
    (agreed : Agreed outside log conn) :
    Handled.Good outside log (tryCompleteAuth chance conn) := by
  unfold tryCompleteAuth
  split
  · exact good_ok settled agreed
  · next present =>
    have signed := settled.identified fun empty => present (.inl empty)
    split
    · exact good_ok settled agreed
    · split
      · exact good_ok settled agreed
      · dsimp only
        split
        · exact good_error { settled with authentic := fun _ => signed }
        · have registered : Settled outside log { conn with
              authenticated := true
              registered := some ⟨conn.meshNodeID, conn.meshGroupID, conn.hostname⟩
              peerID := meshPeerID conn.meshNodeID } := by
            refine ⟨settled.identified, fun _ => signed, fun registration same => ?_⟩
            cases same
            exact signed
          refine good_send registered (good_send (registered.sent _) ?_)
          unfold Conn.sendText
          split
          · exact good_ok (registered.sent _) agreed
          · exact good_ok (registered.sent _) agreed

theorem signed_of_verify {webHash serverNonce agentNonce : Bytes} {verify : Message}
    {nodeID : String} (asked : Asked outside log webHash serverNonce agentNonce)
    (member : (verify, chance) ∈ log) (isVerify : verify.cmd = cmdAuthVerify)
    (verified : verifyAgentSignature outside verify.certificate verify.signature webHash serverNonce
      agentNonce = some nodeID) : Signed outside log nodeID := by
  unfold verifyAgentSignature at verified
  split at verified
  · cases verified
  · split at verified
    · next key parsed =>
      split at verified
      · next signs =>
        obtain ⟨der, marshalled, rfl⟩ := Option.map_eq_some_iff.mp verified
        exact ⟨webHash, serverNonce, agentNonce, verify, chance, key, der, asked, member, isVerify,
          parsed, signs, marshalled, rfl⟩
      · cases verified
    · cases verified

/-- A verification that succeeds had a hash and a nonce of the server. -/
theorem some_of_verify {certDER signature agentNonce : Bytes} {webHash serverNonce : Option Bytes}
    {nodeID : String}
    (verified : verifyAgentSignature outside certDER signature (webHash.getD [])
      (serverNonce.getD []) agentNonce = some nodeID) :
    webHash.isSome = true ∧ serverNonce.isSome = true := by
  unfold verifyAgentSignature at verified
  split at verified
  · cases verified
  · next sized =>
    simp only [ne_eq, not_or, not_not] at sized
    constructor
    · cases webHash with
      | none => exact absurd sized.1 (by decide)
      | some _ => rfl
    · cases serverNonce with
      | none => exact absurd sized.2.1 (by decide)
      | some _ => rfl

theorem Settled.same {other : Conn} (settled : Settled outside log conn)
    (nodeID : other.meshNodeID = conn.meshNodeID)
    (authenticated : other.authenticated = conn.authenticated)
    (registered : other.registered = conn.registered) : Settled outside log other := by
  constructor
  · rw [nodeID]
    exact settled.identified
  · rw [nodeID, authenticated]
    exact settled.authentic
  · rw [registered]
    exact settled.named

theorem good_handleAuthRequest (settled : Settled outside log conn)
    (agreed : Agreed outside log conn) (member : (message, chance) ∈ log)
    (isRequest : message.cmd = cmdAuthRequest) :
    Handled.Good outside log (handleAuthRequest outside chance conn message) := by
  unfold handleAuthRequest
  split
  · exact good_ok settled agreed
  · next takes =>
    have length : message.data.length = 98 := not_not.mp fun other => takes (.inl other)
    dsimp only
    rw [reading_inside (by omega), reading_inside (by omega)]
    split
    · exact good_error (settled.same rfl rfl rfl)
    · next same =>
      cases drawn : chance.nonce with
      | none => exact good_error (settled.same rfl rfl rfl)
      | some serverNonce =>
        have asked : Agreed outside log { conn with
            receivedCmd := conn.receivedCmd ||| 1
            webHash := some (slice message.data 2 50)
            agentNonce := some (slice message.data 50 98)
            serverNonce := some serverNonce } := by
          intro webHash nonce agentNonce isHash isNonce isAgent
          cases isHash
          cases isNonce
          cases isAgent
          refine ⟨message, chance, member, isRequest, length, rfl, rfl, drawn, fun sized => ?_⟩
          exact not_not.mp fun differs => same ⟨sized, differs⟩
        refine good_send (settled.same rfl rfl rfl) ?_
        dsimp only
        split
        · exact good_error (settled.same rfl rfl rfl)
        · exact good_send (settled.same rfl rfl rfl) (good_ok (settled.same rfl rfl rfl) asked)

theorem good_handleAuthVerify (settled : Settled outside log conn)
    (agreed : Agreed outside log conn) (member : (message, chance) ∈ log)
    (isVerify : message.cmd = cmdAuthVerify) :
    Handled.Good outside log (handleAuthVerify outside chance conn message) := by
  unfold handleAuthVerify
  split
  · exact good_ok settled agreed
  · dsimp only
    split
    · exact good_error (settled.same rfl rfl rfl)
    · rw [reading_inside (by omega), reading_inside (by omega)]
      split
      · exact good_ok (settled.same rfl rfl rfl) agreed
      · next agentNonce agentDrew =>
        split
        · exact good_error (settled.same rfl rfl rfl)
        · next nodeID verified =>
          obtain ⟨hasHash, hasNonce⟩ := some_of_verify verified
          obtain ⟨webHash, isHash⟩ := Option.isSome_iff_exists.mp hasHash
          obtain ⟨serverNonce, isNonce⟩ := Option.isSome_iff_exists.mp hasNonce
          rw [isHash, isNonce] at verified
          have asked := agreed webHash serverNonce agentNonce isHash isNonce agentDrew
          have signed := signed_of_verify asked member isVerify verified
          refine good_tryCompleteAuth ⟨fun _ => signed, fun _ => signed, settled.named⟩ ?_
          exact agreed

theorem good_handleAuthInfo (settled : Settled outside log conn)
    (agreed : Agreed outside log conn) :
    Handled.Good outside log (handleAuthInfo chance conn message) := by
  unfold handleAuthInfo
  split
  · exact good_ok settled agreed
  · dsimp only
    rw [reading_inside (by omega)]
    split
    · rw [reading_inside (by omega)]
      exact good_tryCompleteAuth (settled.same rfl rfl rfl) agreed
    · exact good_tryCompleteAuth (settled.same rfl rfl rfl) agreed

theorem good_handleAuthBinary (settled : Settled outside log conn)
    (agreed : Agreed outside log conn) (member : (message, chance) ∈ log) :
    Handled.Good outside log (handleAuthBinary outside chance conn message) := by
  unfold handleAuthBinary
  split
  · next isRequest => exact good_handleAuthRequest settled agreed member isRequest
  · split
    · next isVerify => exact good_handleAuthVerify settled agreed member isVerify
    · split
      · exact good_handleAuthInfo settled agreed
      · split
        · exact good_tryCompleteAuth (settled.same rfl rfl rfl) agreed
        · exact good_ok settled agreed

theorem good_handleCoreModuleHash (settled : Settled outside log conn)
    (agreed : Agreed outside log conn)
    (complete : 2 + sha384Size ≤ message.data.length → 4 + sha384Size ≤ message.data.length) :
    Handled.Good outside log (handleCoreModuleHash outside conn message) := by
  unfold handleCoreModuleHash
  have sends (packet : Bytes) : Handled.Good outside log
      (conn.send packet fun conn => ⟨conn, .ok, false⟩) :=
    good_send settled (good_ok (settled.sent _) agreed)
  dsimp only
  split
  · next long =>
    rw [reading_inside (complete long)]
    split
    · exact sends _
    · exact sends _
  · exact sends _

/-- Where the hash of a core is not complete, what follows the message is read. -/
theorem handleCoreModuleHash_outside (long : 2 + sha384Size ≤ message.data.length)
    (short : message.data.length < 4 + sha384Size) :
    (handleCoreModuleHash outside conn message).outside = true := by
  unfold handleCoreModuleHash Message.reading
  dsimp only
  rw [if_pos long]
  split
  · rfl
  · rw [decide_eq_true short, Bool.or_true]

theorem good_handleJSON (settled : Settled outside log conn) (agreed : Agreed outside log conn) :
    Handled.Good outside log ⟨handleJSON outside conn message, .ok, false⟩ := by
  unfold handleJSON
  split
  · exact good_ok settled agreed
  · split
    · exact good_ok settled agreed
    · dsimp only
      split
      · unfold Conn.sendText
        split
        · exact good_ok (settled.sent _) agreed
        · exact good_ok settled agreed
      · split
        · exact good_ok settled agreed
        · split
          · exact good_ok (settled.same rfl rfl rfl) agreed
          · exact good_ok (settled.same rfl rfl rfl) agreed

theorem good_handleMessage {s : Session} (settled : Settled outside log s.conn)
    (agreed : Agreed outside log s.conn) (member : (message, chance) ∈ log)
    (complete : Complete s (.message message chance)) :
    Handled.Good outside log (handleMessage outside chance s.conn message) := by
  unfold handleMessage
  split
  · exact good_ok settled agreed
  · split
    · exact good_handleJSON settled agreed
    · next binary =>
      unfold handleBinary
      split
      · exact good_ok settled agreed
      · split
        · exact good_handleAuthBinary settled agreed member
        · next authenticated =>
          rw [Bool.not_eq_true', Bool.not_eq_false] at authenticated
          split
          · next isHash =>
            exact good_handleCoreModuleHash settled agreed
              (complete authenticated (Bool.not_eq_true _ ▸ binary) isHash)
          · exact good_ok settled agreed

/-- Before the authentication another message is left alone. -/
theorem handleMessage_other (unauthenticated : conn.authenticated = false)
    (other : message.isOther) : handleMessage outside chance conn message = ⟨conn, .ok, false⟩ := by
  unfold handleMessage
  split
  · rfl
  · split
    · unfold handleJSON
      rw [unauthenticated]
      rfl
    · next binary =>
      have unknown := other.resolve_left binary
      simp only [List.mem_cons, List.not_mem_nil, or_false, not_or] at unknown
      unfold handleBinary handleAuthBinary
      rw [unauthenticated, if_neg unknown.1, if_neg unknown.2.1, if_neg unknown.2.2.1,
        if_neg unknown.2.2.2]
      split
      · rfl
      · rfl

end kept

/-! ### The condition is exact -/

section exact_condition

variable {Key : Type} {outside : Outside Key} {s after : Session} {event : Event}

/-- What holds of a session: of one that goes on, also what was agreed on. -/
structure Sound (outside : Outside Key) (s : Session) : Prop where
  settled : Settled outside s.log s.conn
  agreed : s.ended = false → Agreed outside s.log s.conn

/-- What was in the log stays there. -/
theorem Asked.mono {log longer : List (Message × Chance)} (grows : log ⊆ longer)
    {webHash serverNonce agentNonce : Bytes}
    (asked : Asked outside log webHash serverNonce agentNonce) :
    Asked outside longer webHash serverNonce agentNonce := by
  obtain ⟨request, chance, member, rest⟩ := asked
  exact ⟨request, chance, grows member, rest⟩

theorem Signed.mono {log longer : List (Message × Chance)} (grows : log ⊆ longer)
    {nodeID : String} (signed : Signed outside log nodeID) : Signed outside longer nodeID := by
  obtain ⟨webHash, serverNonce, agentNonce, verify, chance, key, der, asked, member, rest⟩ := signed
  exact ⟨webHash, serverNonce, agentNonce, verify, chance, key, der, asked.mono grows,
    grows member, rest⟩

theorem Settled.mono {log longer : List (Message × Chance)} (grows : log ⊆ longer) {conn : Conn}
    (settled : Settled outside log conn) : Settled outside longer conn :=
  ⟨fun present => (settled.identified present).mono grows,
    fun authenticated => (settled.authentic authenticated).mono grows,
    fun registration same => (settled.named registration same).mono grows⟩

/-- A step of a session, by its event. -/
theorem step_cases (taken : (agentSession outside).step s event = some after) :
    s.ended = false ∧ ((∃ message chance, event = .message message chance ∧
      after = ⟨(handleMessage outside chance s.conn message).conn, (message, chance) :: s.log,
        (handleMessage outside chance s.conn message).outcome != .ok,
        (handleMessage outside chance s.conn message).outside⟩) ∨
      event = .breaks ∧
        after = { s with conn := { s.conn with writable := false }, outside := false }) := by
  have taken : (if s.ended = true then none else _) = some after := taken
  split at taken
  · cases taken
  · next going =>
    refine ⟨Bool.not_eq_true _ ▸ going, ?_⟩
    cases event with
    | message message chance =>
      cases taken
      exact .inl ⟨message, chance, rfl, rfl⟩
    | breaks =>
      cases taken
      exact .inr ⟨rfl, rfl⟩

theorem good_of_complete {message : Message} {chance : Chance} (sound : Sound outside s)
    (going : s.ended = false) (complete : Complete s (.message message chance)) :
    Handled.Good outside ((message, chance) :: s.log)
      (handleMessage outside chance s.conn message) := by
  have grows : s.log ⊆ (message, chance) :: s.log := List.subset_cons_self _ _
  exact good_handleMessage (sound.settled.mono grows)
    (fun webHash serverNonce agentNonce isHash isNonce isAgent =>
      (sound.agreed going webHash serverNonce agentNonce isHash isNonce isAgent).mono grows)
    List.mem_cons_self complete

theorem sound_of_complete (sound : Sound outside s) (complete : Complete s event)
    (taken : (agentSession outside).step s event = some after) : Sound outside after := by
  obtain ⟨going, ⟨message, chance, rfl, rfl⟩ | ⟨rfl, rfl⟩⟩ := step_cases taken
  · have good := good_of_complete sound going complete
    refine ⟨good.settled, fun goesOn => good.agreed ?_⟩
    exact bne_eq_false_iff_eq.mp goesOn
  · exact ⟨sound.settled.same rfl rfl rfl, sound.agreed⟩

theorem sound_of_reachableWhen (reached : ReachableWhen (agentSession outside) Complete s) :
    Sound outside s := by
  refine reached.invariant (Sound outside) (fun s initial => ?_)
    fun before event after sound complete taken => sound_of_complete sound complete taken
  cases (initial : s = ⟨{}, [], false, false⟩)
  refine ⟨⟨fun present => absurd rfl present, (fun isTrue => by cases isTrue),
    fun _ same => by cases same⟩, fun _ _ _ _ isHash => by cases isHash⟩

theorem keeps_of_complete (sound : Sound outside s) (complete : Complete s event)
    (taken : (agentSession outside).step s event = some after) :
    Keeps outside ⟨s, event, after⟩ := by
  have later := sound_of_complete sound complete taken
  obtain ⟨going, ⟨message, chance, rfl, rfl⟩ | ⟨rfl, rfl⟩⟩ := step_cases taken
  · refine ⟨later.settled.authentic, later.settled.named, ?_,
      (good_of_complete sound going complete).inside⟩
    intro other drawn same unauthenticated isOther
    cases same
    dsimp only at unauthenticated ⊢
    rw [handleMessage_other unauthenticated isOther, going]
    rfl
  · exact ⟨later.settled.authentic, later.settled.named, (fun _ _ same => by cases same), rfl⟩

theorem complete_of_keeps (taken : (agentSession outside).step s event = some after)
    (keeps : Keeps outside ⟨s, event, after⟩) : Complete s event := by
  obtain ⟨_, ⟨message, chance, rfl, rfl⟩ | ⟨rfl, rfl⟩⟩ := step_cases taken
  · intro authenticated binary isHash long
    by_contra short
    have inside : (handleMessage outside chance s.conn message).outside = false := keeps.inside
    have present : message.data ≠ [] := by
      intro empty
      rw [empty] at long
      exact absurd long (by decide)
    have notShort : ¬ message.data.length < 2 := by
      unfold sha384Size at long
      omega
    unfold handleMessage handleBinary at inside
    rw [if_neg present, if_neg (Bool.not_eq_true _ ▸ binary), if_neg notShort, authenticated,
      if_neg (by decide), if_pos isHash,
      handleCoreModuleHash_outside long (Nat.lt_of_not_le short)] at inside
    cases inside
  · trivial

end exact_condition

/-- A connection is authenticated and registered only by a signature, other messages have no effect
before, and nothing but the messages is read, in every step of a history exactly when every hash of
a core that comes after the authentication is complete. -/
theorem keeps_iff_complete {Key : Type} (outside : Outside Key) (steps : List (Taken Session Event))
    (final : Session) (history : History (agentSession outside) steps final) :
    (∀ step ∈ steps, Keeps outside step) ↔
      ∀ step ∈ steps, Complete step.before step.label := by
  have agree : ∀ step : Taken Session Event,
      ReachableWhen (agentSession outside) Complete step.before →
        (agentSession outside).step step.before step.label = some step.after →
          (Keeps outside step ↔ Complete step.before step.label) := by
    intro step reached taken
    constructor
    · exact complete_of_keeps taken
    · exact fun complete => keeps_of_complete (sound_of_reachableWhen reached) complete taken
  exact history.forall_iff_when agree

/-! ### A short hash -/

def zeros (count : Nat) : Bytes := List.replicate count 0

/-- One certificate, one signature, and one hash. -/
def oneKey : Outside Unit where
  webHash := []
  certDER := [9]
  signServerAuth _ _ := some [8]
  coreModule := [3]
  coreModuleHash := zeros 48
  parseCertificate der := if der = [7] then some (some ()) else none
  verifyPKCS1v15 _ _ signature := signature == [1]
  marshalPKIXPublicKey _ := some [5]
  sha384 _ := ⟨zeros 48, rfl⟩
  decodeJSON _ := none

def chance : Chance := ⟨some (zeros 48), true⟩

/-- The three messages of a handshake and the hash of a core of a length. -/
def reports (length : Nat) : List Event :=
  [.message ⟨[0, 1] ++ zeros 96, []⟩ chance, .message ⟨[0, 2, 0, 1, 7, 1], []⟩ chance,
    .message ⟨[0, 3] ++ zeros 70, []⟩ chance, .message ⟨[0, 11] ++ zeros length, []⟩ chance]

/-- The handshake completes, and a hash without the two bytes before it makes the handler panic. -/
theorem shortHash_panics : ∃ steps final, History (agentSession oneKey) steps final ∧
    final.conn.registered.isSome = true ∧ final.ended = true ∧
    ¬ ∀ step ∈ steps, Keeps oneKey step := by
  have ran : ((agentSession oneKey).trace [] ⟨{}, [], false, false⟩ (reports 48)).any
      (fun traced => traced.2.conn.registered.isSome && traced.2.ended &&
        traced.1.any fun step => step.after.outside) = true := by decide +kernel
  obtain ⟨steps, final, history, ended⟩ := exists_history_of_trace rfl ran
  rw [Bool.and_eq_true, Bool.and_eq_true, List.any_eq_true] at ended
  obtain ⟨⟨registered, closed⟩, step, member, beyond⟩ := ended
  refine ⟨steps, final, history, registered, closed, fun keeps => ?_⟩
  exact absurd (beyond.symm.trans (keeps step member).inside) (by decide)

/-- A handshake and a complete hash are handled as they should be. -/
theorem keeps_completeHash : ∃ steps final, (∀ step ∈ steps, Keeps oneKey step) ∧
    final.conn.registered.isSome = true ∧ steps.length = 4 ∧
    History (agentSession oneKey) steps final := by
  have ran : ((agentSession oneKey).trace [] ⟨{}, [], false, false⟩ (reports 50)).any
      (fun traced => traced.2.conn.registered.isSome && traced.1.length == 4 &&
        traced.1.all fun step => decide (Complete step.before step.label)) = true := by
    decide +kernel
  obtain ⟨steps, final, history, ended⟩ := exists_history_of_trace rfl ran
  rw [Bool.and_eq_true, Bool.and_eq_true, List.all_eq_true] at ended
  obtain ⟨⟨registered, length⟩, complete⟩ := ended
  refine ⟨steps, final, (keeps_iff_complete oneKey steps final history).mpr fun step member => ?_,
    registered, eq_of_beq length, history⟩
  exact of_decide_eq_true (complete step member)

end SovaDesk.Meshcentral.Handshake
