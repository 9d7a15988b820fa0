/-
This file models the life of CDAP connections: the registration of a device, its message
loop, the removal of a device, and what else finds a device in the gateway's map.

The gateway's map, its sessions and its pending commands are shared by all goroutines, as
are the connections themselves; each goroutine is a program over calls that read or write
one of them, or the database. A connection that was authenticated registers, serves
messages and is removed in the end; the heartbeat monitor and a revocation remove a
connection they find in the map. The removal goes by the ID of the device.
-/

import SovaDesk.Cdap.Gateway
import SovaDesk.Lib.Interleave

namespace SovaDesk.Cdap

deriving instance DecidableEq for DeviceConn

end SovaDesk.Cdap

namespace SovaDesk.Cdap.Connections

open Interleave

/-! ### What is shared -/

/-- A connection, as the goroutines refer to it, with the address of its client. -/
structure Connection extends DeviceConn where
  clientIP : String
  deriving DecidableEq

/-- What changes about a connection: when it was heard of, and whether the server closed it. -/
structure Socket where
  lastHeartbeat : Int
  heartbeatInterval : Int := 15
  closed : Bool := false
  deriving DecidableEq

/-- The columns of the peers table that the gateway reads, and those that say who is online. -/
structure Peer where
  status : String
  ip : String
  banned : Bool := false
  softDeleted : Bool := false
  deriving DecidableEq

/-- What a registration takes from a manifest that is valid: the interval of heartbeats, which the
validation bounds, and its text. -/
structure Manifest where
  heartbeatInterval : Int
  json : RawMessage
  deriving DecidableEq

/-- The gateway's map of devices, its connections, sessions and commands, and the tables of the
database. -/
structure Shared where
  devices : Table String Connection := ∅
  sockets : Table Nat Socket := ∅
  nextConn : Nat := 0
  gateway : Gateway := ⟨fun _ => ∅, ∅⟩
  peers : Table String Peer := ∅
  config : Table String RawMessage := ∅

def statusOnline : String := "ONLINE"
def statusOffline : String := "OFFLINE"

def manifestKey (deviceID : String) : String := "cdap_manifest_" ++ deviceID

/-! ### Calls -/

/-- What the gateway sends on a connection outside of the handlers of messages. -/
inductive Sent
  | registered
  | error (code : Nat) (text : String)
  | start (kind : SessionKind) (sessionID : String)
  | command (commandID : String)
  | revoke (reason : String)
  deriving DecidableEq

/-- The calls on what is shared; `accept` makes the connection of a device that was
authenticated. -/
inductive GatewayCall
  | accept (id clientIP : String) (now : Int)
  | noteManifest (dc : Connection) (manifest : Manifest)
  | noteHeartbeat (dc : Connection) (now : Int)
  | read (dc : Connection)
  | send (dc : Connection) (msg : Sent)
  | close (dc : Connection)
  | timing (dc : Connection)
  | loadAndDelete (id : String)
  | storeDevice (dc : Connection)
  | deleteDevice (dc : Connection)
  | load (id : String)
  | handle (dc : Connection) (env : Env) (frame : Frame)
  | storeCommand (dc : Connection) (commandID : String)
  | dropCommands (dc : Connection)
  | storeSession (dc : Connection) (kind : SessionKind) (sessionID : String)
  | endSessions (dc : Connection) (kind : SessionKind)
  | isPeerBanned (id : String)
  | upsertPeer (dc : Connection)
  | updatePeerStatus (dc : Connection) (status : String)
  | setManifest (dc : Connection) (manifest : Manifest)
  | deleteManifest (dc : Connection)

@[reducible] def GatewayCall.Answer : GatewayCall → Type
  | .accept _ _ _ => Connection
  | .timing _ => Option Socket
  | .loadAndDelete _ | .load _ => Option Connection
  | .isPeerBanned _ => Bool
  | .noteManifest _ _ | .noteHeartbeat _ _ | .read _ | .send _ _ | .close _ | .storeDevice _
  | .deleteDevice _ | .handle _ _ _ | .storeCommand _ _ | .dropCommands _ | .storeSession _ _ _
  | .endSessions _ _ | .upsertPeer _ | .updatePeerStatus _ _ | .setManifest _ _
  | .deleteManifest _ => Unit

/-- The calls that cannot fail: those on memory. -/
def GatewayCall.inMemory : GatewayCall → Bool
  | .read _ | .send _ _ | .isPeerBanned _ | .upsertPeer _ | .updatePeerStatus _ _
  | .setManifest _ _ | .deleteManifest _ => false
  | _ => true

/-- Whether a connection is open. -/
def Shared.isOpen (shared : Shared) (dc : Connection) : Bool :=
  (shared.sockets.lookup dc.conn).any fun socket => !socket.closed

/-- The row an upsert leaves; it does not touch the flags of a row that exists. -/
def upserted (dc : Connection) (old : Option Peer) : Peer where
  status := statusOnline
  ip := dc.clientIP
  banned := (old.map (·.banned)).getD false
  softDeleted := (old.map (·.softDeleted)).getD false

/-- The row a change of the status leaves. -/
def withStatus (dc : Connection) (status : String) (row : Peer) : Peer :=
  if row.softDeleted then row else { row with status, ip := dc.clientIP }

/-- A call that is not disturbed; a closed connection refuses to be read or written. -/
def GatewayCall.perform : (call : GatewayCall) → Shared → Option (call.Answer × Shared)
  | .accept id clientIP now, shared =>
    let dc : Connection := { id, conn := shared.nextConn, clientIP }
    some (dc, { shared with
      sockets := shared.sockets.insert dc.conn { lastHeartbeat := now }
      nextConn := shared.nextConn + 1 })
  | .noteManifest dc manifest, shared =>
    some ((), { shared with
      sockets := shared.sockets.update dc.conn fun socket =>
        { socket with heartbeatInterval := manifest.heartbeatInterval } })
  | .noteHeartbeat dc now, shared =>
    some ((), { shared with
      sockets := shared.sockets.update dc.conn fun socket => { socket with lastHeartbeat := now } })
  | .read dc, shared => if shared.isOpen dc then some ((), shared) else none
  | .send dc _, shared => if shared.isOpen dc then some ((), shared) else none
  | .close dc, shared =>
    some ((), { shared with
      sockets := shared.sockets.update dc.conn fun socket => { socket with closed := true } })
  | .timing dc, shared => some (shared.sockets.lookup dc.conn, shared)
  | .loadAndDelete id, shared =>
    some (shared.devices.lookup id, { shared with devices := shared.devices.erase id })
  | .storeDevice dc, shared =>
    some ((), { shared with devices := shared.devices.insert dc.id dc })
  | .deleteDevice dc, shared => some ((), { shared with devices := shared.devices.erase dc.id })
  | .load id, shared => some (shared.devices.lookup id, shared)
  | .handle dc env frame, shared =>
    some ((), { shared with gateway := (handleFrame env shared.gateway dc.toDeviceConn frame).1 })
  | .storeCommand dc commandID, shared =>
    some ((), { shared with gateway := { shared.gateway with
      pendingCommands := shared.gateway.pendingCommands.insert commandID
        { commandID, deviceID := dc.id, awaited := false } } })
  | .dropCommands dc, shared =>
    some ((), { shared with gateway := { shared.gateway with
      pendingCommands := shared.gateway.pendingCommands.filter fun _ command =>
        command.deviceID ≠ dc.id } })
  | .storeSession dc kind sessionID, shared =>
    some ((), { shared with gateway := { shared.gateway with
      sessions := Function.update shared.gateway.sessions kind
        ((shared.gateway.sessions kind).insert sessionID
          { id := sessionID, deviceID := dc.id, deviceConn := dc.conn, closed := false }) } })
  | .endSessions dc kind, shared =>
    some ((), { shared with gateway := { shared.gateway with
      sessions := Function.update shared.gateway.sessions kind
        ((shared.gateway.sessions kind).filter fun _ session => session.deviceID ≠ dc.id) } })
  | .isPeerBanned id, shared =>
    some (((shared.peers.lookup id).map (·.banned)).getD false, shared)
  | .upsertPeer dc, shared =>
    some ((), { shared with
      peers := shared.peers.insert dc.id (upserted dc (shared.peers.lookup dc.id)) })
  | .updatePeerStatus dc status, shared =>
    some ((), { shared with peers := shared.peers.update dc.id (withStatus dc status) })
  | .setManifest dc manifest, shared =>
    some ((), { shared with config := shared.config.insert (manifestKey dc.id) manifest.json })
  | .deleteManifest dc, shared =>
    some ((), { shared with config := shared.config.erase (manifestKey dc.id) })

theorem GatewayCall.perform_inMemory {call : GatewayCall} (inMemory : call.inMemory = true)
    (shared : Shared) : (call.perform shared).isSome := by
  cases call with
  | read | send | isPeerBanned | upsertPeer | updatePeerStatus | setManifest | deleteManifest =>
    exact absurd inMemory nofun
  | _ => rfl

@[reducible] def gatewayCalls : Interface where
  Store := Shared
  Call := GatewayCall
  Answer := GatewayCall.Answer
  perform := GatewayCall.perform

/-! ### The life of a connection -/

abbrev Steps (Result : Type) := Program gatewayCalls Result

/-- Make a call whose outcome is not looked at. -/
def perform {Result : Type} (call : GatewayCall) (rest : Steps Result) : Steps Result :=
  .call call fun _ => rest

/-- Clean up a connection, by the ID of its device. -/
def removeDevice (dc : Connection) : Steps Unit :=
  if dc.id = "" then .done ()
  else
    perform (.deleteDevice dc) <|
    perform (.deleteManifest dc) <|
    perform (.dropCommands dc) <|
    perform (.endSessions dc .desktop) <|
    perform (.endSessions dc .terminal) <|
    perform (.endSessions dc .video) <|
    perform (.endSessions dc .file) <|
    perform (.endSessions dc .audio) <|
    perform (.updatePeerStatus dc statusOffline) <|
    .done ()

/-- Close the connection that a registration found in its place. -/
def closeOld (old : Option Connection) (rest : Steps (Option String)) : Steps (Option String) :=
  match old with
  | some oldDC => perform (.close oldDC) rest
  | none => rest

/-- `handleRegister` from the manifest that was read, or the error that the message led to; its
result is the error, if any. -/
def handleRegister (dc : Connection) : Except String Manifest → Steps (Option String)
  | .error text => .done (some text)
  | .ok manifest =>
    perform (.noteManifest dc manifest) <|
    if dc.id = "" then .done (some "device_id is required (set in auth payload)")
    else
      .call (.isPeerBanned dc.id) fun
      | some true => .done (some "device is banned")
      -- A check that fails counts as not banned.
      | some false | none =>
        .call (.upsertPeer dc) fun
        | none => .done (some "save peer")
        | some _ =>
          perform (.setManifest dc manifest) <|
          .call (.loadAndDelete dc.id) fun old =>
          closeOld old.join <|
          perform (.storeDevice dc) <|
          perform (.updatePeerStatus dc statusOnline) <|
          .call (.send dc .registered) fun
          | none => .done (some "send registered")
          | some _ => .done none

/-- What a message of the loop does: a heartbeat is noted when it comes, and keeps the peer online
if it can be decoded. -/
def serve (dc : Connection) (now : Int) (env : Env) (frame : Frame) (rest : Steps Unit) :
    Steps Unit :=
  match frame with
  | .text (.heartbeat none) =>
    perform (.noteHeartbeat dc now) <| perform (.handle dc env frame) rest
  | .text (.heartbeat (some ())) =>
    perform (.noteHeartbeat dc now) <|
    perform (.updatePeerStatus dc statusOnline) <| perform (.handle dc env frame) rest
  | _ => perform (.handle dc env frame) rest

/-- `messageLoop` over what the client sends, until it unregisters, reading fails or the client is
gone. -/
def messageLoop (dc : Connection) : List (Int × Env × Frame) → Steps Unit
  | [] => .done ()
  | (now, env, frame) :: rest =>
    .call (.read dc) fun
    | none => .done ()
    | some _ =>
      match frame with
      | .text .unregister => .done ()
      | frame => serve dc now env frame (messageLoop dc rest)

/-- `runConnection` of a device that was authenticated. -/
def runConnection (id clientIP : String) (now : Int) (registration : Except String Manifest)
    (frames : List (Int × Env × Frame)) : Steps Unit :=
  .call (.accept id clientIP now) fun
  | none => .done ()
  | some dc =>
    (handleRegister dc registration).bind fun
    | some text => perform (.send dc (.error 2001 text)) <|
        (removeDevice dc).bind fun _ => perform (.close dc) (.done ())
    | none => (messageLoop dc frames).bind fun _ =>
        (removeDevice dc).bind fun _ => perform (.close dc) (.done ())

/-! ### Others that find a device in the map -/

/-- How long a connection may be silent, in seconds. -/
def maxIdle (socket : Socket) : Int := max 60 (socket.heartbeatInterval * 3)

/-- The visit of the heartbeat monitor to the entry of a device. -/
def heartbeatMonitor (id : String) (now : Int) : Steps Unit :=
  .call (.load id) fun
  | some (some dc) =>
    .call (.timing dc) fun
    | some (some socket) =>
      if maxIdle socket < now - socket.lastHeartbeat then
        perform (.close dc) (removeDevice dc)
      else .done ()
    | _ => .done ()
  | _ => .done ()

def sendRevoke (id reason : String) : Steps Unit :=
  .call (.load id) fun
  | some (some dc) =>
    perform (.send dc (.revoke reason)) <| perform (.close dc) (removeDevice dc)
  | _ => .done ()

def sendCommand (id commandID : String) : Steps Unit :=
  .call (.load id) fun
  | some (some dc) =>
    perform (.storeCommand dc commandID) <| perform (.send dc (.command commandID)) (.done ())
  | _ => .done ()

/-- `StartDesktopSession` and its like for the other kinds; whether the device supports the kind
is in its manifest. -/
def startSession (kind : SessionKind) (id sessionID : String) (supported : Bool) : Steps Unit :=
  .call (.load id) fun
  | some (some dc) =>
    if supported then
      .call (.send dc (.start kind sessionID)) fun
      | none => .done ()
      | some _ => perform (.storeSession dc kind sessionID) (.done ())
    else .done ()
  | _ => .done ()

/-- What goroutines are started for. -/
inductive Request
  | connection (id clientIP : String) (now : Int) (registration : Except String Manifest)
      (frames : List (Int × Env × Frame))
  | monitor (id : String) (now : Int)
  | revoke (id reason : String)
  | command (id commandID : String)
  | session (kind : SessionKind) (id sessionID : String) (supported : Bool)

def run : Request → Steps Unit
  | .connection id clientIP now registration frames =>
    runConnection id clientIP now registration frames
  | .monitor id now => heartbeatMonitor id now
  | .revoke id reason => sendRevoke id reason
  | .command id commandID => sendCommand id commandID
  | .session kind id sessionID supported => startSession kind id sessionID supported

/-! ### What holds of the calls of every goroutine -/

/-- The calls that goroutines make besides registering and removing a device. -/
def GatewayCall.serves : GatewayCall → Bool
  | .accept _ _ _ | .noteHeartbeat _ _ | .read _ | .close _ | .timing _ | .load _ | .handle _ _ _
  | .storeCommand _ _ | .storeSession _ _ _ => true
  | .send _ msg => msg ≠ .registered
  | .updatePeerStatus _ status => status ≠ statusOffline
  | .noteManifest _ _ | .loadAndDelete _ | .storeDevice _ | .deleteDevice _ | .dropCommands _
  | .endSessions _ _ | .isPeerBanned _ | .upsertPeer _ | .setManifest _ _
  | .deleteManifest _ => false

section after

variable {mayFail : GatewayCall → Prop} {holds : List GatewayCall → GatewayCall → Prop}
  {dc : Connection}

theorem after_perform {Result : Type} {call : GatewayCall} {rest : Steps Result}
    {seen : List GatewayCall} (free : holds seen call)
    (follows : ∀ later, rest.After mayFail holds later) :
    (perform call rest).After mayFail holds seen :=
  .call free fun _ => follows

theorem after_messageLoop (free : ∀ call, call.serves = true → ∀ seen, holds seen call)
    (frames : List (Int × Env × Frame)) (seen : List GatewayCall) :
    (messageLoop dc frames).After mayFail holds seen := by
  induction frames generalizing seen with
  | nil => trivial
  | cons first rest inductionHypothesis =>
    obtain ⟨now, env, frame⟩ := first
    have served : ∀ later,
        (serve dc now env frame (messageLoop dc rest)).After mayFail holds later := by
      intro later
      have handled : ∀ later, (perform (.handle dc env frame) (messageLoop dc rest)).After mayFail
          holds later := fun later => after_perform (free _ rfl later) inductionHypothesis
      unfold serve
      split
      · exact after_perform (free _ rfl later) handled
      · exact after_perform (free _ rfl later) fun _ => after_perform (free _ rfl _) handled
      · exact handled later
    refine .call (free _ rfl seen) fun answer later => ?_
    cases answer with
    | none => trivial
    | some _ =>
      dsimp only
      split
      · trivial
      · exact served later

/-- What holds of a registration, of a removal and of the calls that serve a device holds of every
goroutine. -/
theorem after_run (free : ∀ call, call.serves = true → ∀ seen, holds seen call)
    (registers : ∀ dc registration seen,
      (handleRegister dc registration).After mayFail holds seen)
    (removes : ∀ dc seen, (removeDevice dc).After mayFail holds seen) (request : Request) :
    (run request).After mayFail holds [] := by
  have ending : ∀ dc later, Program.After mayFail holds later
      ((removeDevice dc).bind fun _ => perform (.close dc) (.done ())) := fun dc later =>
    .bind (removes dc later) fun _ seen => after_perform (free _ rfl seen) fun _ => trivial
  cases request with
  | connection id clientIP now registration frames =>
    refine .call (free _ rfl _) fun answer later => ?_
    cases answer with
    | none => trivial
    | some dc =>
      refine .bind (registers dc registration later) fun failed seen => ?_
      cases failed with
      | some text => exact after_perform (free _ rfl seen) (ending dc)
      | none => exact .bind (after_messageLoop free frames seen) fun _ => ending dc
  | monitor id now =>
    refine .call (free _ rfl _) fun answer later => ?_
    match answer with
    | none | some none => trivial
    | some (some dc) =>
      refine .call (free _ rfl later) fun socket seen => ?_
      match socket with
      | none | some none => trivial
      | some (some socket) =>
        show Program.After mayFail holds seen (if _ then _ else _)
        split
        · exact after_perform (free _ rfl seen) (removes dc)
        · trivial
  | revoke id reason =>
    refine .call (free _ rfl _) fun answer later => ?_
    match answer with
    | none | some none => trivial
    | some (some dc) =>
      exact after_perform (free _ rfl later) fun seen =>
        after_perform (free _ rfl seen) (removes dc)
  | command id commandID =>
    refine .call (free _ rfl _) fun answer later => ?_
    match answer with
    | none | some none => trivial
    | some (some dc) =>
      exact after_perform (free _ rfl later) fun seen =>
        after_perform (free _ rfl seen) fun _ => trivial
  | session kind id sessionID supported =>
    refine .call (free _ rfl _) fun answer later => ?_
    match answer with
    | none | some none => trivial
    | some (some dc) =>
      show Program.After mayFail holds later (if _ then _ else _)
      split
      · refine .call (free _ rfl later) fun sent seen => ?_
        cases sent with
        | none => trivial
        | some _ => exact after_perform (free _ rfl seen) fun _ => trivial
      · trivial

end after

end SovaDesk.Cdap.Connections
