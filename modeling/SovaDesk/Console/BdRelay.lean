/-
This file models the console's relay between two desktop clients and settles whether
its admission and its count of connections for each address are sound.

The console runs one handler at a time: a handler runs to its end, or to the point at
which it waits for the answer of a database. A socket is known by a number, and so are
the listeners the console has put on it, for an error and for the close; a text the
console sends of its own (paired, welcome, an acknowledgement) is left out. Identifiers
and tokens come from a random source, and an identifier is never given out twice. An
exception that no handler catches ends the console, and so does an error of a socket
that nobody listens to.

A socket keeps its slot and its listeners from the moment it has them, and all a
teardown does is close sockets, so what the listeners refer to stays true. The count of
an address follows the sockets as long as each is counted out once.
-/

import SovaDesk.Console.Text
import SovaDesk.Lib.System
import SovaDesk.Lib.Table

namespace SovaDesk.Console.BdRelay

open Transition

def maxRelayPerIP : Nat := 10

def sessionTTL : Int := 60 * 1000

/-! ### Sessions and sockets -/

/-- A connection, numbered by its arrival. -/
abbrev SocketId := Nat

/-- The two participants of a session. -/
inductive Role
  | initiator
  | target
  deriving DecidableEq, Repr

def Role.text : Role → String
  | .initiator => "initiator"
  | .target => "target"

/-- The participant on the other side. -/
def Role.other : Role → Role
  | .initiator => .target
  | .target => .initiator

/-- The role a request asks for, if it is one. -/
def Role.parse (text : String) : Option Role :=
  if text = "initiator" then some .initiator
  else if text = "target" then some .target
  else none

inductive Status
  | pending
  | active
  | closed
  deriving DecidableEq, Repr

/-- A relay session, kept as long as a listener refers to it. -/
structure Session where
  initiatorId : String
  targetId : String
  initiatorWs : Option SocketId
  targetWs : Option SocketId
  initiatorToken : String
  targetToken : String
  createdAt : Int
  status : Status
  deriving DecidableEq

/-- The token that admits to a slot. -/
def Session.token (session : Session) : Role → String
  | .initiator => session.initiatorToken
  | .target => session.targetToken

/-- The socket in a slot. -/
def Session.slot (session : Session) : Role → Option SocketId
  | .initiator => session.initiatorWs
  | .target => session.targetWs

/-- Put a socket into a slot. -/
def Session.fill (session : Session) (role : Role) (ws : SocketId) : Session :=
  match role with
  | .initiator => { session with initiatorWs := some ws }
  | .target => { session with targetWs := some ws }

inductive ReadyState
  | opened
  | closing
  | closed
  deriving DecidableEq, Repr

/-- What the listeners of a socket hold on to: the address that was counted, and the slot with the
token that admitted to it, or the device of a signal socket. -/
inductive Listeners
  | relay (ip sessionId : String) (role : Role) (token : String)
  | signal (ip deviceId : String)
  deriving DecidableEq

/-- The address under which a socket with these listeners was counted. -/
def Listeners.ip : Listeners → String
  | .relay ip _ _ _ => ip
  | .signal ip _ => ip

/-- A socket: its state, the code and the reason it was closed with, the listeners for its error
and its close, and where its frames go. -/
structure Socket where
  readyState : ReadyState
  closedWith : Option (Nat × String)
  listeners : Option Listeners
  peer : Option SocketId
  deriving DecidableEq

/-- A connection that has just been accepted. -/
def Socket.fresh : Socket := ⟨.opened, none, none, none⟩

/-- Close a socket with a code and a reason, unless it is closing already. -/
def Socket.close (code : Nat) (reason : String) (socket : Socket) : Socket :=
  if socket.readyState = .opened then
    { socket with readyState := .closing, closedWith := some (code, reason) }
  else socket

/-! ### The state -/

/-- A frame that was delivered. -/
structure Frame where
  sender : SocketId
  receiver : SocketId
  data : List UInt8
  isBinary : Bool
  deriving DecidableEq

/-- A signal connection whose token is being verified. -/
structure Authenticating where
  ip : String
  deviceId : String
  deriving DecidableEq

/-- What ends the console: an exception of `handleRelayConnection`, or an error of a socket without
a listener for it. -/
inductive Ending
  | handlerThrew
  | unhandledError
  deriving DecidableEq, Repr

structure State where
  now : Int
  /-- Every session there ever was. -/
  sessions : Table String Session
  /-- The sessions that can be looked up. -/
  activeSessions : List String
  sockets : Table SocketId Socket
  onlineDevices : Table String SocketId
  connectionsPerIp : Table String Nat
  authenticating : Table SocketId Authenticating
  delivered : List Frame
  ended : Option Ending

/-- The console when it starts. -/
def State.initial (now : Int) : State where
  now := now
  sessions := ∅
  activeSessions := []
  sockets := ∅
  onlineDevices := ∅
  connectionsPerIp := ∅
  authenticating := ∅
  delivered := []
  ended := none

/-- The session under an identifier, while it can be looked up. -/
def State.activeSession (s : State) (sessionId : String) : Option Session :=
  if sessionId ∈ s.activeSessions then s.sessions.lookup sessionId else none

/-- The count of an address. -/
def State.ipCount (s : State) (ip : String) : Nat :=
  (s.connectionsPerIp.lookup ip).getD 0

def State.incIpCount (s : State) (ip : String) : State :=
  { s with connectionsPerIp := s.connectionsPerIp.insert ip (s.ipCount ip + 1) }

def State.decIpCount (s : State) (ip : String) : State :=
  -- a count that is missing or zero is taken for one
  let c := (if s.ipCount ip = 0 then 1 else s.ipCount ip) - 1
  if c ≤ 0 then { s with connectionsPerIp := s.connectionsPerIp.erase ip }
  else { s with connectionsPerIp := s.connectionsPerIp.insert ip c }

/-- Close a socket. -/
def State.close (s : State) (ws : SocketId) (code : Nat) (reason : String) : State :=
  { s with sockets := s.sockets.update ws (Socket.close code reason) }

/-- Close the socket in a slot, if there is one. -/
def State.closeSlot (s : State) (slot : Option SocketId) (code : Nat) (reason : String) : State :=
  match slot with
  | some ws => s.close ws code reason
  | none => s

def State.teardownSession (s : State) (sessionId : String) (code : Nat) (reason : String) :
    State :=
  match s.activeSession sessionId with
  | none => s
  | some session =>
    let s := { s with
      sessions := s.sessions.update sessionId fun session => { session with status := .closed }
      activeSessions := s.activeSessions.filter (· ≠ sessionId) }
    (s.closeSlot session.initiatorWs code reason).closeSlot session.targetWs code reason

/-! ### Requests -/

/-- What a handler reads of a request: the addresses, and the parameters of its query. -/
structure Request where
  forwardedFor : Option String
  remoteAddress : Option String
  session : Option String
  token : Option String
  role : Option String
  deviceId : Option String
  deriving DecidableEq

/-- The address a request is counted under: the first one it was forwarded for, or the one it comes
from. -/
def clientIp (req : Request) : String :=
  let forwarded := req.forwardedFor.map fun header =>
    trim (String.ofList (header.toList.takeWhile (· ≠ ',')))
  match truthy forwarded with
  | some ip => ip
  | none => (truthy req.remoteAddress).getD "unknown"

/-- Compare two texts in constant time; the comparison throws when their bytes differ in number. -/
def timingSafeEqual (given expected : String) : Option Bool :=
  if given.utf8ByteSize = expected.utf8ByteSize then some (given = expected) else none

/-- Pair the two sockets of a session: from now on the frames of each go to the other. -/
def State.activateRelay (s : State) (sessionId : String) (wsA wsB : SocketId) : State :=
  { s with
    sessions := s.sessions.update sessionId fun session => { session with status := .active }
    sockets := (s.sockets.update wsA fun socket => { socket with peer := some wsB }).update wsB
      fun socket => { socket with peer := some wsA } }

/-- Put a socket into its slot, with its listeners, and pair it when the other slot is filled. -/
def State.attach (s : State) (ws : SocketId) (ip sessionId : String) (role : Role)
    (token : String) (session : Session) : State :=
  let attached := { s with
    sessions := s.sessions.insert sessionId (session.fill role ws)
    sockets := s.sockets.update ws fun socket =>
      { socket with listeners := some (.relay ip sessionId role token) } }
  match (session.fill role ws).initiatorWs, (session.fill role ws).targetWs with
  | some wsA, some wsB => attached.activateRelay sessionId wsA wsB
  | _, _ => attached

def State.handleRelayConnection (s : State) (ws : SocketId) (req : Request) : State :=
  let ip := clientIp req
  match truthy req.session, truthy req.token, req.role.bind Role.parse with
  | some sessionId, some token, some role =>
    if maxRelayPerIP ≤ s.ipCount ip then
      s.close ws 4429 "Too many connections"
    else
      match s.activeSession sessionId with
      | none => s.close ws 4404 "Session not found"
      | some session =>
        match timingSafeEqual token (session.token role) with
        | none => { s with ended := some .handlerThrew }
        | some false => s.close ws 4403 "Invalid token"
        | some true =>
          if sessionTTL < s.now - session.createdAt ∧ session.status = .pending then
            { s with activeSessions := s.activeSessions.filter (· ≠ sessionId) }.close ws 4408
              "Session expired"
          else if (session.slot role).isSome then
            ((s.incIpCount ip).close ws 4409 "Slot already taken").decIpCount ip
          else
            (s.incIpCount ip).attach ws ip sessionId role token session
  | _, _, _ => s.close ws 4400 "Missing or invalid parameters"

/-- The identifiers of devices: between three and sixty-four letters, digits, underscores and
hyphens. -/
def isDeviceId (deviceId : String) : Bool :=
  deviceId.toList.all (fun c => c.isAlphanum || c = '_' || c = '-') &&
    3 ≤ deviceId.toList.length && deviceId.toList.length ≤ 64

/-- The signal handler up to the point at which it waits for the verification of the token. -/
def State.handleSignalConnection (s : State) (ws : SocketId) (req : Request) : State :=
  match truthy req.deviceId, truthy req.token with
  | some deviceId, some _ =>
    if isDeviceId deviceId then
      { s with authenticating := s.authenticating.insert ws ⟨clientIp req, deviceId⟩ }
    else
      s.close ws 4400 "Invalid device_id"
  | _, _ => s.close ws 4400 "Missing device_id or token"

/-- The signal handler from there on: the verification has failed with an exception, refused the
token, or accepted it. -/
def State.signalVerified (s : State) (ws : SocketId) (pending : Authenticating)
    (verdict : Option Bool) : State :=
  let s := { s with authenticating := s.authenticating.erase ws }
  match verdict with
  | none => s.close ws 4500 "Auth error"
  | some false => s.close ws 4403 "Invalid token"
  | some true =>
    if maxRelayPerIP ≤ s.ipCount pending.ip then
      s.close ws 4429 "Too many connections"
    else
      let counted := s.incIpCount pending.ip
      let replaced := counted.closeSlot (counted.onlineDevices.lookup pending.deviceId) 4409
        "Replaced by new connection"
      { replaced with
        onlineDevices := replaced.onlineDevices.insert pending.deviceId ws
        sockets := replaced.sockets.update ws fun socket =>
          { socket with listeners := some (.signal pending.ip pending.deviceId) } }

/-! ### Events of sockets -/

/-- What the listeners of a socket do when it has closed or failed: they count it out and take it
out of its place. -/
def State.listen (s : State) (ws : SocketId) (code : Nat) (reason : String) :
    Option Listeners → State
  | none => s
  | some (.relay ip sessionId _ _) => (s.decIpCount ip).teardownSession sessionId code reason
  | some (.signal ip deviceId) =>
    let s := s.decIpCount ip
    if s.onlineDevices.lookup deviceId = some ws then
      { s with onlineDevices := s.onlineDevices.erase deviceId }
    else s

/-- A socket has closed. -/
def State.closeEvent (s : State) (ws : SocketId) (socket : Socket) : State :=
  let s := { s with sockets := s.sockets.insert ws { socket with readyState := .closed } }
  s.listen ws 1000 "Peer disconnected" socket.listeners

/-- A socket has failed; it will close. -/
def State.errorEvent (s : State) (ws : SocketId) (socket : Socket) : State :=
  let s := { s with sockets := s.sockets.insert ws { socket with readyState := .closing } }
  if socket.listeners.isNone then
    { s with ended := some .unhandledError }
  else
    s.listen ws 1011 "WebSocket error" socket.listeners

/-- A frame has arrived: it goes to the other participant, while that can be sent to. -/
def State.messageEvent (s : State) (ws : SocketId) (socket : Socket) (data : List UInt8)
    (isBinary : Bool) : State :=
  match socket.peer with
  | none => s
  | some peer =>
    if (s.sockets.lookup peer).any (·.readyState = .opened) then
      { s with delivered := ⟨ws, peer, data, isBinary⟩ :: s.delivered }
    else s

/-- The sessions that have waited for too long, and the devices whose socket is not open. -/
def State.cleanupSessions (s : State) : State :=
  let expired := s.activeSessions.filter fun id =>
    (s.sessions.lookup id).any fun session =>
      session.status = .pending ∧ sessionTTL * 2 < s.now - session.createdAt
  let s := expired.foldl (fun s id => s.teardownSession id 4408 "Session expired") s
  { s with onlineDevices := s.onlineDevices.filter fun _ ws =>
      (s.sockets.lookup ws).any (·.readyState = .opened) }

/-! ### The console as a system -/

/-- What can happen: time passes, a session is created, a connection arrives, a verification is
answered, a socket delivers a frame, fails or closes, the target of a session rejects it, a timer
of a session goes off, or the cleanup does. -/
inductive Label
  | tick (elapsed : Nat)
  | createRelaySession (sessionId initiatorId targetId initiatorToken targetToken : String)
  | relayConnection (ws : SocketId) (req : Request)
  | signalConnection (ws : SocketId) (req : Request)
  | signalVerified (ws : SocketId) (verdict : Option Bool)
  | message (ws : SocketId) (data : List UInt8) (isBinary : Bool)
  | error (ws : SocketId)
  | close (ws : SocketId)
  | relayReject (deviceId sessionId : String)
  | waitingTimeout (sessionId : String)
  | idleTimeout (sessionId : String)
  | cleanup
  deriving DecidableEq

/-- Accept a connection that has not been there before. -/
def State.accept (s : State) (ws : SocketId) : State :=
  { s with sockets := s.sockets.insert ws .fresh }

/-- Add a session under an identifier that was never given out. -/
def State.createRelaySession (s : State)
    (sessionId initiatorId targetId initiatorToken targetToken : String) : State :=
  { s with
    sessions := s.sessions.insert sessionId
      ⟨initiatorId, targetId, none, none, initiatorToken, targetToken, s.now, .pending⟩
    activeSessions := s.activeSessions ++ [sessionId] }

/-- The socket, unless it has closed. -/
def State.liveSocket (s : State) (ws : SocketId) : Option Socket :=
  (s.sockets.lookup ws).filter (·.readyState ≠ .closed)

/-- One step of the console. -/
def step (s : State) (label : Label) : Option State :=
  if s.ended.isSome then none
  else
    match label with
    | .tick elapsed => some { s with now := s.now + elapsed }
    | .createRelaySession sessionId initiatorId targetId initiatorToken targetToken =>
      if (s.sessions.lookup sessionId).isSome then none
      else some (s.createRelaySession sessionId initiatorId targetId initiatorToken targetToken)
    | .relayConnection ws req =>
      if (s.sockets.lookup ws).isSome then none
      else some ((s.accept ws).handleRelayConnection ws req)
    | .signalConnection ws req =>
      if (s.sockets.lookup ws).isSome then none
      else some ((s.accept ws).handleSignalConnection ws req)
    | .signalVerified ws verdict =>
      (s.authenticating.lookup ws).map fun pending => s.signalVerified ws pending verdict
    | .message ws data isBinary =>
      (s.liveSocket ws).map fun socket => s.messageEvent ws socket data isBinary
    | .error ws => (s.liveSocket ws).map fun socket => s.errorEvent ws socket
    | .close ws => (s.liveSocket ws).map fun socket => s.closeEvent ws socket
    | .relayReject deviceId sessionId =>
      if (s.activeSession sessionId).any (·.targetId = deviceId) then
        some (s.teardownSession sessionId 4403 "Connection rejected by target")
      else some s
    | .waitingTimeout sessionId =>
      if (s.sessions.lookup sessionId).any (·.status = .pending) then
        some (s.teardownSession sessionId 4408 "Timeout waiting for peer")
      else some s
    | .idleTimeout sessionId => some (s.teardownSession sessionId 4408 "Idle timeout")
    | .cleanup => some s.cleanupSessions

/-- The console's relay. -/
def relay : System State Label where
  start s := ∃ now, s = .initial now
  step := step

/-! ### The property -/

/-- Two sockets are the participants of one session: each is in one of its slots. -/
def State.Partners (s : State) (ws other : SocketId) : Prop :=
  ∃ sessionId role session, s.sessions.lookup sessionId = some session ∧
    session.slot role = some ws ∧ session.slot role.other = some other

/-- What a socket contributes to the count of an address: it has listeners, so it was attached or
registered, and it has not closed. -/
def counts (ip : String) (socket : Socket) : Int :=
  if socket.readyState ≠ .closed ∧ socket.listeners.map Listeners.ip = some ip then 1 else 0

/-- The attached and registered sockets of an address that have not closed. -/
def State.connected (s : State) (ip : String) : Int :=
  s.sockets.sum fun _ => counts ip

/-- Admission and accounting are sound: no exception of `handleRelayConnection`, every socket in a
slot was attached there with the token of that slot, the count of every address is the number of
its connections, and every frame went to the other participant of the session. -/
structure Sound (s : State) : Prop where
  unthrown : s.ended ≠ some .handlerThrew
  ownToken : ∀ sessionId role session ws, s.sessions.lookup sessionId = some session →
    session.slot role = some ws → ∃ socket ip, s.sockets.lookup ws = some socket ∧
      socket.listeners = some (.relay ip sessionId role (session.token role))
  counted : ∀ ip, (s.ipCount ip : Int) = s.connected ip
  delivered : ∀ frame ∈ s.delivered, s.Partners frame.sender frame.receiver

/-- The steps that the console is ready for: a token that is compared has as many bytes as the one
it is compared with, a signal socket has not closed when it is registered, and no attached or
registered socket fails. -/
def Orderly (s : State) : Label → Prop
  | .relayConnection _ req =>
    s.ipCount (clientIp req) < maxRelayPerIP →
      ∀ sessionId ∈ truthy req.session, ∀ token ∈ truthy req.token,
        ∀ role ∈ req.role.bind Role.parse, ∀ session ∈ s.activeSession sessionId,
          token.utf8ByteSize = (session.token role).utf8ByteSize
  | .signalVerified ws (some true) =>
    (∃ pending ∈ s.authenticating.lookup ws, maxRelayPerIP ≤ s.ipCount pending.ip) ∨
      (s.liveSocket ws).isSome = true
  | .error ws => ∀ socket ∈ s.sockets.lookup ws, socket.listeners = none
  | _ => True

/-! ### Counting -/

theorem ipCount_incIpCount (s : State) (ip other : String) :
    (s.incIpCount ip).ipCount other = s.ipCount other + if other = ip then 1 else 0 := by
  simp only [State.ipCount, State.incIpCount, Table.lookup_insert_if]
  split
  · next same => rw [same, Option.getD_some]
  · rfl

/-- Counting an address out changes the counts only. -/
theorem decIpCount_eq (s : State) (ip : String) :
    ∃ counters, s.decIpCount ip = { s with connectionsPerIp := counters } := by
  dsimp only [State.decIpCount]
  generalize (if s.ipCount ip = 0 then 1 else s.ipCount ip) - 1 = count
  split <;> exact ⟨_, rfl⟩

theorem ipCount_decIpCount (s : State) (ip other : String) :
    (s.decIpCount ip).ipCount other = s.ipCount other - if other = ip then 1 else 0 := by
  dsimp only [State.decIpCount]
  generalize left : (if s.ipCount ip = 0 then 1 else s.ipCount ip) - 1 = count
  have counted : count = s.ipCount ip - 1 := by
    rw [← left]
    split <;> omega
  rw [apply_ite State.ipCount]
  split
  · simp only [State.ipCount, Table.lookup_erase_if] at counted ⊢
    split
    · next same =>
      rw [same, ← counted, Option.getD_none]
      omega
    · rfl
  · simp only [State.ipCount, Table.lookup_insert_if] at counted ⊢
    split
    · next same => rw [same, ← counted, Option.getD_some]
    · rfl

variable (ip : String)

theorem counts_nonneg (socket : Socket) : 0 ≤ counts ip socket := by
  unfold counts
  split <;> decide

/-- A socket without listeners contributes nothing. -/
theorem counts_of_none (socket : Socket) (none : socket.listeners = none) :
    counts ip socket = 0 := by
  rw [counts, none, if_neg]
  exact fun both => Option.some_ne_none _ both.2.symm

/-- A closed socket contributes nothing. -/
theorem counts_of_closed (socket : Socket) (closed : socket.readyState = .closed) :
    counts ip socket = 0 :=
  if_neg fun both => both.1 closed

/-- A socket that has not closed counts for the address of its listeners. -/
theorem counts_of_live (socket : Socket) (live : socket.readyState ≠ .closed)
    (listeners : Listeners) (has : socket.listeners = some listeners) :
    counts ip socket = if listeners.ip = ip then 1 else 0 := by
  simp only [counts, has, Option.map_some, Option.some_inj, ne_eq, live, not_false_eq_true,
    true_and]

theorem connected_nonneg (s : State) (ip : String) : 0 ≤ s.connected ip := by
  have below : Table.sum (fun _ _ => 0) s.sockets ≤ s.connected ip :=
    Table.sum_le_sum fun _ _ _ => counts_nonneg ip _
  rwa [Table.sum_eq_zero fun _ _ _ => rfl] at below

/-- What a socket contributes depends on its listeners and on whether it has closed. -/
theorem counts_congr (socket other : Socket) (listeners : other.listeners = socket.listeners)
    (closed : other.readyState = .closed ↔ socket.readyState = .closed) :
    counts ip other = counts ip socket := by
  simp only [counts, listeners, ne_eq, closed]

theorem counts_close (code : Nat) (reason : String) (socket : Socket) :
    counts ip (socket.close code reason) = counts ip socket := by
  unfold Socket.close
  split
  · next opened =>
    refine counts_congr ip _ _ rfl ?_
    rw [opened]
    show ReadyState.closing = .closed ↔ ReadyState.opened = .closed
    decide
  · rfl

theorem connected_close (s : State) (ws : SocketId) (code : Nat) (reason ip : String) :
    (s.close ws code reason).connected ip = s.connected ip := by
  unfold State.connected State.close
  cases found : s.sockets.lookup ws with
  | none => simp only [Table.update, found]
  | some socket =>
    rw [Table.sum_update _ _ found, counts_close]
    omega

/-! ### What the listeners refer to -/

/-- What listeners, slots and peers say about each other, and about the frames. -/
structure Linked (s : State) : Prop where
  ownToken : ∀ sessionId role session ws, s.sessions.lookup sessionId = some session →
    session.slot role = some ws → ∃ socket ip, s.sockets.lookup ws = some socket ∧
      socket.listeners = some (.relay ip sessionId role (session.token role))
  peers : ∀ ws socket peer, s.sockets.lookup ws = some socket → socket.peer = some peer →
    s.Partners ws peer
  waiting : ∀ ws, (s.authenticating.lookup ws).isSome = true →
    ∃ socket, s.sockets.lookup ws = some socket ∧ socket.listeners = none
  delivered : ∀ frame ∈ s.delivered, s.Partners frame.sender frame.receiver

/-- What does not change while a socket or a session closes. -/
def Socket.links (socket : Socket) : Option Listeners × Option SocketId :=
  (socket.listeners, socket.peer)

def Session.links (session : Session) : (Role → Option SocketId) × (Role → String) :=
  (session.slot, session.token)

/-- A change of the state that no listener, slot, peer or frame takes part in. -/
structure Same (s after : State) : Prop where
  sockets : ∀ ws, (after.sockets.lookup ws).map Socket.links =
    (s.sockets.lookup ws).map Socket.links
  sessions : ∀ sessionId, (after.sessions.lookup sessionId).map Session.links =
    (s.sessions.lookup sessionId).map Session.links
  waiting : ∀ ws, (after.authenticating.lookup ws).isSome = true →
    (s.authenticating.lookup ws).isSome = true
  delivered : after.delivered = s.delivered

theorem Same.refl (s : State) : Same s s :=
  ⟨fun _ => rfl, fun _ => rfl, fun _ waits => waits, rfl⟩

variable {s after : State}

theorem Same.trans {between : State} (first : Same s between)
    (second : Same between after) : Same s after :=
  ⟨fun ws => (second.sockets ws).trans (first.sockets ws),
    fun id => (second.sessions id).trans (first.sessions id),
    fun ws waits => first.waiting ws (second.waiting ws waits),
    second.delivered.trans first.delivered⟩

/-- The same value behind two equal images. -/
theorem exists_of_map_eq {Value Image : Type} {image : Value → Image} {first second : Option Value}
    (same : second.map image = first.map image) {value : Value} (found : second = some value) :
    ∃ other, first = some other ∧ image other = image value := by
  rw [found, Option.map_some] at same
  exact Option.map_eq_some_iff.mp same.symm

theorem Partners.same (same : Same s after) {ws other : SocketId}
    (partners : s.Partners ws other) : after.Partners ws other := by
  obtain ⟨sessionId, role, session, found, slot, slotOther⟩ := partners
  obtain ⟨later, foundLater, links⟩ := exists_of_map_eq (same.sessions sessionId).symm found
  have slots : later.slot = session.slot := congrArg Prod.fst links
  exact ⟨sessionId, role, later, foundLater, by rw [slots, slot], by rw [slots, slotOther]⟩

theorem Linked.same (linked : Linked s) (same : Same s after) :
    Linked after where
  ownToken := by
    intro sessionId role session ws found slot
    obtain ⟨earlier, foundEarlier, links⟩ := exists_of_map_eq (same.sessions sessionId) found
    have slots : earlier.slot = session.slot := congrArg Prod.fst links
    have tokens : earlier.token = session.token := congrArg Prod.snd links
    obtain ⟨socket, ip, lookup, listeners⟩ :=
      linked.ownToken sessionId role earlier ws foundEarlier (by rw [slots, slot])
    obtain ⟨later, lookupLater, socketLinks⟩ := exists_of_map_eq (same.sockets ws).symm lookup
    refine ⟨later, ip, lookupLater, ?_⟩
    rw [show later.listeners = socket.listeners from congrArg Prod.fst socketLinks, listeners,
      tokens]
  peers := by
    intro ws socket peer lookup isPeer
    obtain ⟨earlier, lookupEarlier, links⟩ := exists_of_map_eq (same.sockets ws) lookup
    have peers : earlier.peer = socket.peer := congrArg Prod.snd links
    exact Partners.same same (linked.peers ws earlier peer lookupEarlier (by rw [peers, isPeer]))
  waiting := by
    intro ws waits
    obtain ⟨socket, lookup, none⟩ := linked.waiting ws (same.waiting ws waits)
    obtain ⟨later, lookupLater, links⟩ := exists_of_map_eq (same.sockets ws).symm lookup
    exact ⟨later, lookupLater, (congrArg Prod.fst links).trans none⟩
  delivered := by
    intro frame member
    rw [same.delivered] at member
    exact Partners.same same (linked.delivered frame member)

/-! ### Steps that change no link -/

theorem map_update {Image : Type} {image : Socket → Image} {table : Table SocketId Socket}
    {ws other : SocketId} {change : Socket → Socket}
    (keeps : ∀ socket, image (change socket) = image socket) :
    ((table.update ws change).lookup other).map image = (table.lookup other).map image := by
  rw [Table.lookup_update]
  split
  · next same =>
    rw [same, Option.map_map]
    exact congrArg (Option.map · _) (funext keeps)
  · rfl

theorem links_close (code : Nat) (reason : String) (socket : Socket) :
    (socket.close code reason).links = socket.links := by
  unfold Socket.close
  split <;> rfl

/-- A socket has closed. -/
def Socket.isClosed (socket : Socket) : Bool := socket.readyState = .closed

theorem isClosed_close (code : Nat) (reason : String) (socket : Socket) :
    (socket.close code reason).isClosed = socket.isClosed := by
  unfold Socket.close
  split
  · next opened =>
    unfold Socket.isClosed
    rw [opened]
    rfl
  · rfl

theorem same_close (s : State) (ws : SocketId) (code : Nat) (reason : String) :
    Same s (s.close ws code reason) :=
  ⟨fun _ => map_update (links_close code reason), fun _ => rfl, fun _ waits => waits, rfl⟩

/-- A session whose status changes keeps its slots and its tokens. -/
theorem map_links_status (table : Table String Session) (sessionId other : String)
    (status : Status) :
    ((table.update sessionId fun session => { session with status := status }).lookup other).map
        Session.links = (table.lookup other).map Session.links := by
  rw [Table.lookup_update]
  split
  · next same =>
    rw [same, Option.map_map]
    refine congrArg (Option.map · _) (funext fun session => ?_)
    exact Prod.ext (funext fun role => by cases role <;> rfl) (funext fun role => by
      cases role <;> rfl)
  · rfl

/-- What the cleanup and the timers do: they tear sessions down, and the count of every address
stays, as does the number of its connections. -/
structure Quiet (s after : State) : Prop where
  same : Same s after
  closed : ∀ ws, (after.sockets.lookup ws).map Socket.isClosed =
    (s.sockets.lookup ws).map Socket.isClosed
  ipCount : ∀ ip, after.ipCount ip = s.ipCount ip
  connected : ∀ ip, after.connected ip = s.connected ip
  ended : after.ended = s.ended

theorem Quiet.refl (s : State) : Quiet s s :=
  ⟨.refl s, fun _ => rfl, fun _ => rfl, fun _ => rfl, rfl⟩

theorem Quiet.trans {between : State} (first : Quiet s between)
    (second : Quiet between after) : Quiet s after :=
  ⟨first.same.trans second.same, fun ws => (second.closed ws).trans (first.closed ws),
    fun ip => (second.ipCount ip).trans (first.ipCount ip),
    fun ip => (second.connected ip).trans (first.connected ip), second.ended.trans first.ended⟩

theorem quiet_close (s : State) (ws : SocketId) (code : Nat) (reason : String) :
    Quiet s (s.close ws code reason) :=
  ⟨same_close s ws code reason, fun _ => map_update (isClosed_close code reason), fun _ => rfl,
    connected_close s ws code reason, rfl⟩

theorem quiet_closeSlot (s : State) (slot : Option SocketId) (code : Nat) (reason : String) :
    Quiet s (s.closeSlot slot code reason) := by
  cases slot with
  | none => exact .refl s
  | some ws => exact quiet_close s ws code reason

theorem quiet_teardownSession (s : State) (sessionId : String) (code : Nat) (reason : String) :
    Quiet s (s.teardownSession sessionId code reason) := by
  unfold State.teardownSession
  split
  · exact .refl s
  · refine Quiet.trans ?_
      ((quiet_closeSlot _ _ code reason).trans (quiet_closeSlot _ _ code reason))
    exact ⟨⟨fun _ => rfl, fun id => map_links_status s.sessions sessionId id .closed,
      fun _ waits => waits, rfl⟩, fun _ => rfl, fun _ => rfl, fun _ => rfl, rfl⟩

theorem quiet_cleanupSessions (s : State) : Quiet s s.cleanupSessions := by
  have folded : ∀ (ids : List String) (s : State),
      Quiet s (ids.foldl (fun s id => s.teardownSession id 4408 "Session expired") s) := by
    intro ids
    induction ids with
    | nil => exact Quiet.refl
    | cons id ids inductionHypothesis =>
      intro s
      exact (quiet_teardownSession s id 4408 "Session expired").trans (inductionHypothesis _)
  have quiet := folded (s.activeSessions.filter fun id =>
    (s.sessions.lookup id).any fun session =>
      session.status = .pending ∧ sessionTTL * 2 < s.now - session.createdAt) s
  exact ⟨⟨quiet.same.sockets, quiet.same.sessions, quiet.same.waiting, quiet.same.delivered⟩,
    quiet.closed, quiet.ipCount, quiet.connected, quiet.ended⟩

/-! ### The invariant -/

/-- The links are right, nothing was thrown, and the counts are those of the connections. -/
structure Kept (s : State) : Prop where
  linked : Linked s
  unthrown : s.ended ≠ some .handlerThrew
  counted : ∀ ip, (s.ipCount ip : Int) = s.connected ip

theorem Kept.quiet (kept : Kept s) (quiet : Quiet s after) : Kept after :=
  ⟨kept.linked.same quiet.same, quiet.ended ▸ kept.unthrown, fun ip => by
    rw [quiet.ipCount, quiet.connected, kept.counted]⟩

theorem Kept.sound (kept : Kept s) : Sound s :=
  ⟨kept.unthrown, kept.linked.ownToken, kept.counted, kept.linked.delivered⟩

variable {sessionId : String} {session : Session}

section kept

variable {s : State} {ws : SocketId} {socket : Socket}

/-- A socket that takes the place of another one with the same listeners and the same peer. -/
theorem same_insert (found : s.sockets.lookup ws = some socket) (changed : Socket)
    (links : changed.links = socket.links) :
    Same s { s with sockets := s.sockets.insert ws changed } := by
  refine ⟨fun other => ?_, fun _ => rfl, fun _ waits => waits, rfl⟩
  rw [Table.lookup_insert_if]
  split
  · next same => rw [same, found, Option.map_some, Option.map_some, links]
  · rfl

/-- How many connections there are after a socket has changed. -/
theorem connected_insert (s : State) (found : s.sockets.lookup ws = some socket)
    (changed : Socket) (ip : String) :
    State.connected { s with sockets := s.sockets.insert ws changed } ip =
      s.connected ip - counts ip socket + counts ip changed := by
  unfold State.connected
  rw [Table.sum_insert, found, Option.map_some, Option.getD_some]

/-- A new connection is not counted, and nothing refers to it. -/
theorem Kept.accept (kept : Kept s) (fresh : s.sockets.lookup ws = none) : Kept (s.accept ws) := by
  have older : ∀ other found, s.sockets.lookup other = some found →
      (s.accept ws).sockets.lookup other = some found := by
    intro other found lookup
    refine Table.lookup_insert_iff.mpr (.inr ⟨?_, lookup⟩)
    rintro rfl
    exact Option.some_ne_none _ (lookup.symm.trans fresh)
  refine ⟨⟨fun sessionId role session other found slot => ?_,
    fun other found peer lookup isPeer => ?_, fun other waits => ?_, kept.linked.delivered⟩,
    kept.unthrown, fun ip => ?_⟩
  · obtain ⟨found, ip, lookup, listeners⟩ :=
      kept.linked.ownToken sessionId role session other found slot
    exact ⟨found, ip, older other found lookup, listeners⟩
  · rcases Table.lookup_insert_iff.mp lookup with ⟨_, rfl⟩ | ⟨_, lookup⟩
    · cases isPeer
    · exact kept.linked.peers other found peer lookup isPeer
  · obtain ⟨found, lookup, none⟩ := kept.linked.waiting other waits
    exact ⟨found, older other found lookup, none⟩
  · have unchanged : (s.accept ws).connected ip = s.connected ip := by
      unfold State.connected State.accept
      rw [Table.sum_insert, fresh, counts_of_none ip .fresh rfl, Option.map_none,
        Option.getD_none, sub_zero, add_zero]
    rw [unchanged]
    exact kept.counted ip

theorem Kept.createRelaySession (kept : Kept s) (fresh : s.sessions.lookup sessionId = none)
    (initiatorId targetId initiatorToken targetToken : String) :
    Kept (s.createRelaySession sessionId initiatorId targetId initiatorToken targetToken) := by
  have partners : ∀ one other, s.Partners one other →
      (s.createRelaySession sessionId initiatorId targetId initiatorToken targetToken).Partners
        one other := by
    rintro one other ⟨id, role, session, found, slots⟩
    refine ⟨id, role, session, Table.lookup_insert_iff.mpr (.inr ⟨?_, found⟩), slots⟩
    rintro rfl
    exact Option.some_ne_none _ (found.symm.trans fresh)
  refine ⟨⟨fun id role session other found slot => ?_,
    fun other found peer lookup isPeer =>
      partners _ _ (kept.linked.peers other found peer lookup isPeer), kept.linked.waiting,
    fun frame member => partners _ _ (kept.linked.delivered frame member)⟩, kept.unthrown,
    kept.counted⟩
  rcases Table.lookup_insert_iff.mp found with ⟨_, rfl⟩ | ⟨_, found⟩
  · cases role <;> cases slot
  · exact kept.linked.ownToken id role session other found slot

/-- Listeners count a socket out that is still counted but not connected any more. -/
theorem kept_listen (linked : Linked s) (unthrown : s.ended ≠ some .handlerThrew) (ws : SocketId)
    (code : Nat) (reason : String) (listeners : Listeners)
    (counted : ∀ other, (s.ipCount other : Int) =
      s.connected other + if listeners.ip = other then 1 else 0) :
    Kept (s.listen ws code reason (some listeners)) := by
  have counted' : Kept (s.decIpCount listeners.ip) := by
    have counts := ipCount_decIpCount s listeners.ip
    obtain ⟨counters, changed⟩ := decIpCount_eq s listeners.ip
    rw [changed] at counts ⊢
    refine ⟨⟨linked.ownToken, linked.peers, linked.waiting, linked.delivered⟩, unthrown,
      fun other => ?_⟩
    have before := counted other
    have nonneg := connected_nonneg s other
    rw [counts other]
    show _ = s.connected other
    by_cases same : other = listeners.ip
    · rw [if_pos same.symm] at before
      rw [if_pos same]
      omega
    · rw [if_neg (Ne.symm same)] at before
      rw [if_neg same]
      omega
  cases listeners with
  | relay ip sessionId role token =>
    exact counted'.quiet (quiet_teardownSession _ sessionId code reason)
  | signal ip deviceId =>
    simp only [State.listen]
    split
    · exact ⟨⟨counted'.linked.ownToken, counted'.linked.peers, counted'.linked.waiting,
        counted'.linked.delivered⟩, counted'.unthrown, counted'.counted⟩
    · exact counted'

/-- A socket has closed: its listeners count it out. -/
theorem Kept.closeEvent (kept : Kept s) (found : s.sockets.lookup ws = some socket)
    (live : socket.readyState ≠ .closed) : Kept (s.closeEvent ws socket) := by
  generalize same : { socket with readyState := ReadyState.closed } = changed
  have links : changed.links = socket.links := same ▸ rfl
  have closed : changed.readyState = .closed := same ▸ rfl
  have linked := kept.linked.same (same_insert found changed links)
  have connected := connected_insert s found changed
  unfold State.closeEvent
  rw [same]
  cases has : socket.listeners with
  | none =>
    refine ⟨linked, kept.unthrown, fun ip => ?_⟩
    rw [State.listen, connected, counts_of_none ip socket has, counts_of_closed ip _ closed,
      sub_zero, add_zero]
    exact kept.counted ip
  | some listeners =>
    refine kept_listen linked kept.unthrown ws _ _ listeners fun other => ?_
    rw [connected, counts_of_live other socket live listeners has,
      counts_of_closed other _ closed, add_zero, sub_add_cancel]
    exact kept.counted other

/-- A socket without listeners has failed: that ends the console. -/
theorem Kept.errorEvent (kept : Kept s) (found : s.sockets.lookup ws = some socket)
    (alone : socket.listeners = none) : Kept (s.errorEvent ws socket) := by
  generalize same : { socket with readyState := ReadyState.closing } = changed
  have links : changed.links = socket.links := same ▸ rfl
  have listeners : changed.listeners = none := same ▸ alone
  have linked := kept.linked.same (same_insert found changed links)
  have connected := connected_insert s found changed
  unfold State.errorEvent
  rw [same, if_pos (by rw [alone]; rfl)]
  refine ⟨⟨linked.ownToken, linked.peers, linked.waiting, linked.delivered⟩, ?_, fun ip => ?_⟩
  · exact fun same => Ending.noConfusion (Option.some.inj same)
  · have unchanged := connected ip
    rw [counts_of_none ip socket alone, counts_of_none ip changed listeners, sub_zero,
      add_zero] at unchanged
    exact (kept.counted ip).trans unchanged.symm

/-- A frame goes to the other participant. -/
theorem Kept.messageEvent (kept : Kept s) (found : s.sockets.lookup ws = some socket)
    (data : List UInt8) (isBinary : Bool) : Kept (s.messageEvent ws socket data isBinary) := by
  unfold State.messageEvent
  split
  · exact kept
  · next peer isPeer =>
    split
    · refine ⟨⟨kept.linked.ownToken, kept.linked.peers, kept.linked.waiting,
        fun frame member => ?_⟩, kept.unthrown, kept.counted⟩
      rcases List.mem_cons.mp member with rfl | member
      · exact kept.linked.peers ws socket peer found isPeer
      · exact kept.linked.delivered frame member
    · exact kept

/-- Listeners are put on a socket that has none, and its address is counted. -/
theorem connected_listeners (s : State) (found : s.sockets.lookup ws = some socket)
    (alone : socket.listeners = none) (live : socket.readyState ≠ .closed) (listeners : Listeners)
    (ip : String) :
    Table.sum (fun _ => counts ip) (s.sockets.update ws fun socket =>
        { socket with listeners := some listeners }) =
      s.connected ip + if listeners.ip = ip then 1 else 0 := by
  rw [Table.sum_update _ _ found, counts_of_none ip socket alone,
    counts_of_live ip { socket with listeners := some listeners } live listeners rfl, sub_zero]
  rfl

/-- Listeners are put on a socket that nothing refers to yet. -/
theorem Linked.listen (linked : Linked s) (found : s.sockets.lookup ws = some socket)
    (alone : socket.listeners = none) (fresh : s.authenticating.lookup ws = none)
    (listeners : Listeners) :
    Linked { s with sockets := s.sockets.update ws fun socket =>
      { socket with listeners := some listeners } } := by
  have others : ∀ other ≠ ws, ∀ held,
      s.sockets.lookup other = some held → (s.sockets.update ws fun socket =>
        { socket with listeners := some listeners }).lookup other = some held := by
    intro other different held lookup
    rw [Table.lookup_update, if_neg different, lookup]
  refine ⟨fun sessionId role session other known slot => ?_,
    fun other held peer lookup isPeer => ?_, fun other waits => ?_, linked.delivered⟩
  · obtain ⟨held, ip, lookup, has⟩ := linked.ownToken sessionId role session other known slot
    refine ⟨held, ip, others other ?_ held lookup, has⟩
    rintro rfl
    obtain rfl := Option.some.inj (found.symm.trans lookup)
    exact Option.some_ne_none _ (has.symm.trans alone)
  · rw [Table.lookup_update] at lookup
    split at lookup
    · next same =>
      subst same
      obtain ⟨earlier, before, rfl⟩ := Option.map_eq_some_iff.mp lookup
      exact linked.peers other earlier peer before isPeer
    · exact linked.peers other held peer lookup isPeer
  · obtain ⟨held, lookup, none⟩ := linked.waiting other waits
    refine ⟨held, others other ?_ held lookup, none⟩
    rintro rfl
    rw [fresh] at waits
    cases waits

/-- An address is counted in, and then connected, once the listeners are on the socket. -/
theorem Kept.register (kept : Kept s) (found : s.sockets.lookup ws = some socket)
    (alone : socket.listeners = none) (live : socket.readyState ≠ .closed)
    (fresh : s.authenticating.lookup ws = none) (listeners : Listeners)
    (quiet : Quiet (s.incIpCount listeners.ip) after) :
    Kept { after with sockets := after.sockets.update ws fun socket =>
      { socket with listeners := some listeners } } := by
  have countedIn : Linked (s.incIpCount listeners.ip) :=
    ⟨kept.linked.ownToken, kept.linked.peers, kept.linked.waiting, kept.linked.delivered⟩
  have linked := countedIn.same quiet.same
  obtain ⟨later, laterFound, links⟩ := exists_of_map_eq (quiet.same.sockets ws).symm found
  obtain ⟨same, sameFound, closed⟩ := exists_of_map_eq (quiet.closed ws).symm found
  obtain rfl := Option.some.inj (laterFound.symm.trans sameFound)
  have laterAlone : later.listeners = none := (congrArg Prod.fst links).trans alone
  have laterLive : later.readyState ≠ .closed := by
    unfold Socket.isClosed at closed
    rwa [ne_eq, decide_eq_decide.mp closed]
  have laterFresh : after.authenticating.lookup ws = none := by
    by_contra waits
    have waited := quiet.same.waiting ws (Option.isSome_iff_ne_none.mpr waits)
    rw [State.incIpCount, fresh] at waited
    cases waited
  refine ⟨linked.listen laterFound laterAlone laterFresh listeners, quiet.ended ▸ kept.unthrown,
    fun other => ?_⟩
  have connected := connected_listeners after laterFound laterAlone laterLive listeners other
  refine Eq.trans ?_ connected.symm
  have before := kept.counted other
  have counted : after.ipCount other = s.ipCount other + if other = listeners.ip then 1 else 0 :=
    (quiet.ipCount other).trans (ipCount_incIpCount s listeners.ip other)
  have unchanged : after.connected other = s.connected other := quiet.connected other
  show (after.ipCount other : Int) = _
  rw [counted, unchanged]
  by_cases equal : other = listeners.ip
  · rw [if_pos equal, if_pos equal.symm]
    omega
  · rw [if_neg equal, if_neg (Ne.symm equal)]
    omega

/-- A signal socket that has not closed is registered. -/
theorem Kept.signalVerified (kept : Kept s) {pending : Authenticating}
    (waits : s.authenticating.lookup ws = some pending) (verdict : Option Bool)
    (ready : verdict = some true → maxRelayPerIP ≤ s.ipCount pending.ip ∨
      (s.liveSocket ws).isSome = true) : Kept (s.signalVerified ws pending verdict) := by
  have answered : Kept { s with authenticating := s.authenticating.erase ws } := by
    refine ⟨⟨kept.linked.ownToken, kept.linked.peers, fun other waits => ?_,
      kept.linked.delivered⟩, kept.unthrown, kept.counted⟩
    simp only [Table.lookup_erase_if] at waits
    split at waits
    · cases waits
    · exact kept.linked.waiting other waits
  unfold State.signalVerified
  split
  · exact answered.quiet (quiet_close _ _ _ _)
  · exact answered.quiet (quiet_close _ _ _ _)
  · simp only
    split
    · exact answered.quiet (quiet_close _ _ _ _)
    · next below =>
      obtain ⟨socket, lookup⟩ := Option.isSome_iff_exists.mp ((ready rfl).resolve_left below)
      obtain ⟨found, live⟩ := Option.filter_eq_some_iff.mp lookup
      obtain ⟨known, knownLookup, alone⟩ := kept.linked.waiting ws (by rw [waits]; rfl)
      obtain rfl := Option.some.inj (found.symm.trans knownLookup)
      have registered := answered.register found alone (by simpa using live)
        (by rw [Table.lookup_erase_if, if_pos rfl]) (.signal pending.ip pending.deviceId)
        (quiet_closeSlot _ (s.onlineDevices.lookup pending.deviceId) 4409
          "Replaced by new connection")
      exact ⟨⟨registered.linked.ownToken, registered.linked.peers, registered.linked.waiting,
        registered.linked.delivered⟩, registered.unthrown, registered.counted⟩

theorem slot_fill (session : Session) (role other : Role) (ws : SocketId) :
    (session.fill role ws).slot other = if other = role then some ws else session.slot other := by
  cases role <;> cases other <;> rfl

theorem token_fill (session : Session) (role other : Role) (ws : SocketId) :
    (session.fill role ws).token other = session.token other := by
  cases role <;> cases other <;> rfl

/-- A socket with the listeners of a free slot is put into it. -/
theorem Kept.fill (kept : Kept s) {ip : String} {role : Role}
    (found : s.sockets.lookup ws = some socket)
    (listens : socket.listeners = some (.relay ip sessionId role (session.token role)))
    (known : s.sessions.lookup sessionId = some session) (free : session.slot role = none) :
    Kept { s with sessions := s.sessions.insert sessionId (session.fill role ws) } := by
  have stays : ∀ other place, session.slot other = some place →
      (session.fill role ws).slot other = some place := by
    intro other place slot
    rw [slot_fill, if_neg, slot]
    rintro rfl
    exact Option.some_ne_none _ (slot.symm.trans free)
  have partners : ∀ one other, s.Partners one other →
      State.Partners { s with sessions := s.sessions.insert sessionId (session.fill role ws) }
        one other := by
    rintro one other ⟨id, side, held, lookup, slot, slotOther⟩
    by_cases same : id = sessionId
    · subst same
      obtain rfl := Option.some.inj (known.symm.trans lookup)
      exact ⟨id, side, _, AList.lookup_insert _, stays _ _ slot, stays _ _ slotOther⟩
    · exact ⟨id, side, held, Table.lookup_insert_iff.mpr (.inr ⟨same, lookup⟩), slot, slotOther⟩
  refine ⟨⟨fun id side held other lookup slot => ?_,
    fun other held peer lookup isPeer => partners _ _ (kept.linked.peers _ held peer lookup isPeer),
    kept.linked.waiting, fun frame member => partners _ _ (kept.linked.delivered frame member)⟩,
    kept.unthrown, kept.counted⟩
  rcases Table.lookup_insert_iff.mp lookup with ⟨rfl, rfl⟩ | ⟨_, lookup⟩
  · rw [slot_fill] at slot
    split at slot
    · next same =>
      obtain rfl := Option.some.inj slot
      exact ⟨socket, ip, found, by rw [listens, token_fill, same]⟩
    · rw [token_fill]
      exact kept.linked.ownToken id side session other known slot
  · exact kept.linked.ownToken id side held other lookup slot

/-- The frames of a participant go to the other one. -/
theorem Kept.pair (kept : Kept s) {peer : SocketId} (partners : s.Partners ws peer) :
    Kept { s with sockets := s.sockets.update ws fun socket =>
      { socket with peer := some peer } } := by
  have listeners : ∀ other, ((s.sockets.update ws fun socket =>
      { socket with peer := some peer }).lookup other).map Socket.listeners =
        (s.sockets.lookup other).map Socket.listeners :=
    fun other => map_update fun _ => rfl
  refine ⟨⟨fun id role session other known slot => ?_, fun other held place lookup isPeer => ?_,
    fun other waits => ?_, kept.linked.delivered⟩, kept.unthrown, fun ip => ?_⟩
  · obtain ⟨held, ip, lookup, has⟩ := kept.linked.ownToken id role session other known slot
    obtain ⟨later, laterLookup, same⟩ := exists_of_map_eq (listeners other).symm lookup
    exact ⟨later, ip, laterLookup, same.trans has⟩
  · simp only [Table.lookup_update] at lookup
    split at lookup
    · next same =>
      obtain ⟨earlier, -, rfl⟩ := Option.map_eq_some_iff.mp lookup
      obtain rfl := Option.some.inj isPeer
      exact same ▸ partners
    · exact kept.linked.peers other held place lookup isPeer
  · obtain ⟨held, lookup, none⟩ := kept.linked.waiting other waits
    obtain ⟨later, laterLookup, same⟩ := exists_of_map_eq (listeners other).symm lookup
    exact ⟨later, laterLookup, same.trans none⟩
  · have unchanged : State.connected { s with sockets := s.sockets.update ws fun socket =>
        { socket with peer := some peer } } ip = s.connected ip := by
      unfold State.connected
      cases lookup : s.sockets.lookup ws with
      | none => simp only [Table.update, lookup]
      | some socket =>
        have same := counts_congr ip socket { socket with peer := some peer } rfl Iff.rfl
        rw [Table.sum_update _ _ lookup, same, sub_add_cancel]
    exact (kept.counted ip).trans unchanged.symm

/-- A signal socket waits for its verification, or is refused. -/
theorem Kept.handleSignalConnection (kept : Kept s) (req : Request)
    (found : s.sockets.lookup ws = some socket) (alone : socket.listeners = none) :
    Kept (s.handleSignalConnection ws req) := by
  unfold State.handleSignalConnection
  split
  · split
    · refine ⟨⟨kept.linked.ownToken, kept.linked.peers, fun other waits => ?_,
        kept.linked.delivered⟩, kept.unthrown, kept.counted⟩
      simp only [Table.lookup_insert_if] at waits
      split at waits
      · next same => exact ⟨socket, same ▸ found, alone⟩
      · exact kept.linked.waiting other waits
    · exact kept.quiet (quiet_close s ws _ _)
  · exact kept.quiet (quiet_close s ws _ _)

/-- Pairing two sockets that are in the slots of a session. -/
theorem Kept.activateRelay (kept : Kept s)
    {wsA wsB : SocketId} (found : s.sessions.lookup sessionId = some session)
    (initiator : session.initiatorWs = some wsA) (target : session.targetWs = some wsB) :
    Kept (s.activateRelay sessionId wsA wsB) := by
  have active : Quiet s { s with
      sessions := s.sessions.update sessionId fun session => { session with status := .active } } :=
    ⟨⟨fun _ => rfl, fun id => map_links_status s.sessions sessionId id .active,
      fun _ waits => waits, rfl⟩, fun _ => rfl, fun _ => rfl, fun _ => rfl, rfl⟩
  have one : s.Partners wsA wsB := ⟨sessionId, .initiator, session, found, initiator, target⟩
  have other : s.Partners wsB wsA := ⟨sessionId, .target, session, found, target, initiator⟩
  exact ((kept.quiet active).pair (Partners.same active.same one)).pair
    (Partners.same active.same other)

/-- A socket without listeners is attached to a free slot. -/
theorem Kept.attach (kept : Kept s) (found : s.sockets.lookup ws = some socket)
    (alone : socket.listeners = none) (live : socket.readyState ≠ .closed)
    (fresh : s.authenticating.lookup ws = none) (ip : String)
    (known : s.sessions.lookup sessionId = some session) (role : Role)
    (free : session.slot role = none) :
    Kept ((s.incIpCount ip).attach ws ip sessionId role (session.token role) session) := by
  have registered := kept.register found alone live fresh
    (.relay ip sessionId role (session.token role)) (Quiet.refl _)
  have lookup : ((s.incIpCount ip).sockets.update ws fun socket => { socket with
      listeners := some (.relay ip sessionId role (session.token role)) }).lookup ws =
        some { socket with listeners := some (.relay ip sessionId role (session.token role)) } := by
    rw [Table.lookup_update, if_pos rfl, State.incIpCount, found, Option.map_some]
  have filled := registered.fill lookup rfl known free
  unfold State.attach
  simp only
  split
  · next wsA wsB initiator target =>
    exact filled.activateRelay (AList.lookup_insert _) initiator target
  · exact filled

end kept

/-! ### Runs -/

theorem timingSafeEqual_eq_true {given expected : String}
    (equal : timingSafeEqual given expected = some true) : given = expected := by
  unfold timingSafeEqual at equal
  split at equal
  · exact of_decide_eq_true (Option.some.inj equal)
  · cases equal

theorem timingSafeEqual_eq_none {given expected : String}
    (threw : timingSafeEqual given expected = none) :
    given.utf8ByteSize ≠ expected.utf8ByteSize := by
  unfold timingSafeEqual at threw
  split at threw
  · cases threw
  · assumption

theorem activeSession_eq_some (active : s.activeSession sessionId = some session) :
    s.sessions.lookup sessionId = some session :=
  (Option.ite_none_right_eq_some.mp active).2

/-- A connection that is counted in and out again. -/
theorem quiet_counted (s : State) (ip : String) (ws : SocketId) (code : Nat) (reason : String) :
    Quiet s (((s.incIpCount ip).close ws code reason).decIpCount ip) := by
  have closed := quiet_close (s.incIpCount ip) ws code reason
  have counts := ipCount_decIpCount ((s.incIpCount ip).close ws code reason) ip
  obtain ⟨counters, same⟩ := decIpCount_eq ((s.incIpCount ip).close ws code reason) ip
  rw [same] at counts ⊢
  refine ⟨⟨closed.same.sockets, closed.same.sessions, closed.same.waiting, closed.same.delivered⟩,
    closed.closed, fun other => ?_, closed.connected, closed.ended⟩
  rw [counts, closed.ipCount, ipCount_incIpCount, Nat.add_sub_cancel]

/-- A relay connection whose token, if it is compared, has the length of the expected one. -/
theorem Kept.handleRelayConnection (kept : Kept s) (ws : SocketId) (req : Request)
    {socket : Socket} (found : s.sockets.lookup ws = some socket)
    (alone : socket.listeners = none) (live : socket.readyState ≠ .closed)
    (fresh : s.authenticating.lookup ws = none)
    (orderly : Orderly s (.relayConnection ws req)) :
    Kept (s.handleRelayConnection ws req) := by
  unfold State.handleRelayConnection
  simp only
  split
  · next sessionId token role hasSession hasToken hasRole =>
    split
    · exact kept.quiet (quiet_close s ws _ _)
    · next below =>
      split
      · exact kept.quiet (quiet_close s ws _ _)
      · next session active =>
        split
        · next threw =>
          exact absurd (orderly (Nat.lt_of_not_le below) sessionId hasSession token hasToken role
            hasRole session active) (timingSafeEqual_eq_none threw)
        · exact kept.quiet (quiet_close s ws _ _)
        · next equal =>
          obtain rfl := timingSafeEqual_eq_true equal
          split
          · have expired : Quiet s
                { s with activeSessions := s.activeSessions.filter (· ≠ sessionId) } :=
              ⟨⟨fun _ => rfl, fun _ => rfl, fun _ waits => waits, rfl⟩, fun _ => rfl,
                fun _ => rfl, fun _ => rfl, rfl⟩
            exact kept.quiet (expired.trans (quiet_close _ ws _ _))
          · split
            · exact kept.quiet (quiet_counted s (clientIp req) ws _ _)
            · next free =>
              exact kept.attach found alone live fresh (clientIp req)
                (activeSession_eq_some active) role (by simpa using free)
  · exact kept.quiet (quiet_close s ws _ _)

/-- A step that the console is ready for keeps the invariant. -/
theorem Kept.step (kept : Kept s) {label : Label} (orderly : Orderly s label)
    (taken : step s label = some after) : Kept after := by
  unfold BdRelay.step at taken
  obtain ⟨-, taken⟩ := Option.ite_none_left_eq_some.mp taken
  cases label with
  | tick elapsed =>
    obtain rfl := Option.some.inj taken
    exact ⟨⟨kept.linked.ownToken, kept.linked.peers, kept.linked.waiting, kept.linked.delivered⟩,
      kept.unthrown, kept.counted⟩
  | createRelaySession sessionId initiatorId targetId initiatorToken targetToken =>
    obtain ⟨fresh, rfl⟩ := of_guard_not taken
    exact kept.createRelaySession (Option.not_isSome_iff_eq_none.mp fresh) _ _ _ _
  | relayConnection ws req =>
    obtain ⟨fresh, rfl⟩ := of_guard_not taken
    have absent := Option.not_isSome_iff_eq_none.mp fresh
    have unverified : s.authenticating.lookup ws = none := by
      by_contra waits
      obtain ⟨socket, lookup, -⟩ :=
        kept.linked.waiting ws (Option.isSome_iff_ne_none.mpr waits)
      exact fresh (by rw [lookup]; rfl)
    exact (kept.accept absent).handleRelayConnection ws req (AList.lookup_insert _) rfl
      (by decide) unverified orderly
  | signalConnection ws req =>
    obtain ⟨fresh, rfl⟩ := of_guard_not taken
    exact (kept.accept (Option.not_isSome_iff_eq_none.mp fresh)).handleSignalConnection req
      (AList.lookup_insert _) rfl
  | signalVerified ws verdict =>
    obtain ⟨pending, waits, rfl⟩ := Option.map_eq_some_iff.mp taken
    refine kept.signalVerified waits verdict ?_
    rintro rfl
    rcases orderly with ⟨known, knownWaits, full⟩ | live
    · obtain rfl := Option.some.inj (waits.symm.trans knownWaits)
      exact .inl full
    · exact .inr live
  | message ws data isBinary =>
    obtain ⟨socket, lookup, rfl⟩ := Option.map_eq_some_iff.mp taken
    exact kept.messageEvent (Option.filter_eq_some_iff.mp lookup).1 data isBinary
  | error ws =>
    obtain ⟨socket, lookup, rfl⟩ := Option.map_eq_some_iff.mp taken
    have found := (Option.filter_eq_some_iff.mp lookup).1
    exact kept.errorEvent found (orderly socket found)
  | close ws =>
    obtain ⟨socket, lookup, rfl⟩ := Option.map_eq_some_iff.mp taken
    obtain ⟨found, live⟩ := Option.filter_eq_some_iff.mp lookup
    exact kept.closeEvent found (by simpa using live)
  | relayReject deviceId sessionId =>
    simp only at taken
    split at taken
    · obtain rfl := Option.some.inj taken
      exact kept.quiet (quiet_teardownSession s sessionId _ _)
    · exact Option.some.inj taken ▸ kept
  | waitingTimeout sessionId =>
    simp only at taken
    split at taken
    · obtain rfl := Option.some.inj taken
      exact kept.quiet (quiet_teardownSession s sessionId _ _)
    · exact Option.some.inj taken ▸ kept
  | idleTimeout sessionId =>
    obtain rfl := Option.some.inj taken
    exact kept.quiet (quiet_teardownSession s sessionId _ _)
  | cleanup =>
    obtain rfl := Option.some.inj taken
    exact kept.quiet (quiet_cleanupSessions s)

theorem kept_initial (now : Int) : Kept (.initial now) :=
  ⟨⟨fun _ _ _ _ found => absurd found (Option.some_ne_none _).symm,
    fun _ _ _ found => absurd found (Option.some_ne_none _).symm,
    fun _ waits => absurd waits Bool.false_ne_true,
    fun _ member => absurd member List.not_mem_nil⟩, (Option.some_ne_none _).symm, fun _ => rfl⟩

instance (s : State) : (label : Label) → Decidable (Orderly s label)
  | .relayConnection _ req => inferInstanceAs (Decidable (s.ipCount (clientIp req) < _ →
      ∀ sessionId ∈ truthy req.session, ∀ token ∈ truthy req.token,
        ∀ role ∈ req.role.bind Role.parse, ∀ session ∈ s.activeSession sessionId,
          token.utf8ByteSize = (session.token role).utf8ByteSize))
  | .signalVerified ws (some true) => inferInstanceAs (Decidable
      ((∃ pending ∈ s.authenticating.lookup ws, _ ≤ s.ipCount pending.ip) ∨
        (s.liveSocket ws).isSome = true))
  | .error ws => inferInstanceAs (Decidable
      (∀ socket ∈ s.sockets.lookup ws, socket.listeners = none))
  | .signalVerified _ (some false) | .signalVerified _ none | .tick _
  | .createRelaySession _ _ _ _ _ | .signalConnection _ _ | .message _ _ _ | .close _
  | .relayReject _ _ | .waitingTimeout _ | .idleTimeout _ | .cleanup => .isTrue trivial

/-- In a run in which every token that is compared has the length of the one it is compared with,
no signal socket closes while its token is verified, and no attached or registered socket fails,
admission and accounting are sound. -/
theorem admission_of_orderly {s : State} (reached : ReachableWhen relay Orderly s) : Sound s := by
  refine Kept.sound (reached.invariant Kept ?_ ?_)
  · rintro s ⟨now, rfl⟩
    exact kept_initial now
  · intro before label after kept orderly taken
    exact kept.step orderly taken

/-! ### Runs on fixed inputs -/

/-- A session with its two tokens. -/
def newSession : Label :=
  .createRelaySession "8f14e45f-ceea-467f-9d2b-1c5a7e0b3f44" "ws-17" "ws-42"
    "4b1d0c6a9e3f5782d6c1b0a99f8e7d6c5b4a39281706f5e4d3c2b1a098f7e6d5"
    "a0c2e4f6081b3d5f7192a4b6c8daecfe0f1e2d3c4b5a69788796a5b4c3d2e1f0"

/-- A request for a slot of the session. -/
def slotRequest (address token role : String) : Request :=
  ⟨none, some address, some "8f14e45f-ceea-467f-9d2b-1c5a7e0b3f44", some token, some role, none⟩

/-- The initiator of the session is attached. -/
def attachInitiator (ws : SocketId) : Label :=
  .relayConnection ws (slotRequest "10.0.0.1"
    "4b1d0c6a9e3f5782d6c1b0a99f8e7d6c5b4a39281706f5e4d3c2b1a098f7e6d5" "initiator")

/-- A device asks for a signal socket. -/
def signalRequest : Request :=
  ⟨none, some "10.0.0.2", none, some "enroll-token", none, some "ws-42"⟩

/-- Two participants are paired, and a frame of one goes to the other. -/
theorem sound_paired : ∃ s, ReachableWhen relay Orderly s ∧
    s.delivered = [⟨0, 1, [1, 2, 3], true⟩] ∧ Sound s := by
  have started : relay.start (.initial 0) := ⟨0, rfl⟩
  have ran : ((relay.runWhen Orderly (.initial 0)
      [newSession, attachInitiator 0,
        .relayConnection 1 (slotRequest "10.0.0.2"
          "a0c2e4f6081b3d5f7192a4b6c8daecfe0f1e2d3c4b5a69788796a5b4c3d2e1f0" "target"),
        .message 0 [1, 2, 3] true]).any
      fun s => decide (s.delivered = [⟨0, 1, [1, 2, 3], true⟩])) = true := by
    decide +kernel
  obtain ⟨s, reached, delivered⟩ := exists_reachableWhen_of_runWhen started ran
  exact ⟨s, reached, of_decide_eq_true delivered, admission_of_orderly reached⟩

/-- A short token makes the handler throw; a socket that fails is counted out while it is still
there; and a signal socket that closes while its token is verified is counted for ever. -/
theorem unsound_runs :
    (∃ s, Reachable relay s ∧ s.ended = some .handlerThrew ∧ ¬Sound s) ∧
    (∃ s, Reachable relay s ∧ (s.ipCount "10.0.0.1" = 0 ∧ s.connected "10.0.0.1" = 1) ∧
      ¬Sound s) ∧
    ∃ s, Reachable relay s ∧ (s.ipCount "10.0.0.2" = 1 ∧ s.connected "10.0.0.2" = 0) ∧
      ¬Sound s := by
  have started : relay.start (.initial 0) := ⟨0, rfl⟩
  have short : ((relay.run (.initial 0)
      [newSession, .relayConnection 0 (slotRequest "10.0.0.1" "guess" "initiator")]).any
      fun s => decide (s.ended = some .handlerThrew)) = true := by
    decide +kernel
  have failed : ((relay.run (.initial 0) [newSession, attachInitiator 0, .error 0]).any
      fun s => decide (s.ipCount "10.0.0.1" = 0 ∧ s.connected "10.0.0.1" = 1)) = true := by
    decide +kernel
  have gone : ((relay.run (.initial 0)
      [.signalConnection 0 signalRequest, .close 0, .signalVerified 0 (some true)]).any
      fun s => decide (s.ipCount "10.0.0.2" = 1 ∧ s.connected "10.0.0.2" = 0)) = true := by
    decide +kernel
  obtain ⟨first, firstReached, threw⟩ := exists_reachable_of_run started short
  obtain ⟨second, secondReached, below⟩ := exists_reachable_of_run started failed
  obtain ⟨third, thirdReached, above⟩ := exists_reachable_of_run started gone
  have threw := of_decide_eq_true threw
  have below := of_decide_eq_true below
  have above := of_decide_eq_true above
  refine ⟨⟨first, firstReached, threw, fun sound => sound.unthrown threw⟩,
    ⟨second, secondReached, below, fun sound => ?_⟩, ⟨third, thirdReached, above, fun sound => ?_⟩⟩
  · have counted := sound.counted "10.0.0.1"
    rw [below.1, below.2] at counted
    exact absurd counted (by decide)
  · have counted := sound.counted "10.0.0.2"
    rw [above.1, above.2] at counted
    exact absurd counted (by decide)

end SovaDesk.Console.BdRelay
