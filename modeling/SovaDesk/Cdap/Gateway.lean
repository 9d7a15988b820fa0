/-
This file models the message loop of the CDAP gateway and its handlers.

The loop reads a frame of a device, decodes it and calls the handler of its type; a handler
that has something for a browser finds the session by an ID in the payload. Three ways of
doing so recur. A frame is forwarded to the session of one kind that has the ID, whoever it
belongs to; it is forwarded if the session belongs to the device the frame came from; or
the session is ended. A handler yields what it writes to connections, in order.
-/

import SovaDesk.Auth.Token
import SovaDesk.Cdap.Messages

namespace SovaDesk.Cdap

open Auth

/-- What a handler leaves and writes. -/
abbrev Outcome := Gateway × List Effect

/-! ### Finding a session -/

/-- Forward a frame to the session with the ID, unless it is closed. -/
def forward (g : Gateway) (kind : SessionKind) (sessionID : String) (frame : BrowserFrame) :
    List Effect :=
  match (g.sessions kind).lookup sessionID with
  | none => []
  | some session => if session.closed then [] else [.toBrowser kind sessionID frame]

/-- Forward a frame to the desktop session with the ID, if it belongs to the device and is not
closed. -/
def forwardOwn (g : Gateway) (deviceID sessionID : String) (frame : BrowserFrame) : List Effect :=
  match (g.sessions .desktop).lookup sessionID with
  | none => []
  | some session =>
    if session.deviceID ≠ deviceID ∨ session.closed then []
    else [.toBrowser .desktop sessionID frame]

/-- Forward a frame to the session with the ID in the first table that has one, if it belongs to
the device. -/
def forwardFirst (g : Gateway) (deviceID sessionID : String) (frame : BrowserFrame) :
    List SessionKind → List Effect
  | [] => []
  | kind :: rest =>
    match (g.sessions kind).lookup sessionID with
    | some session =>
      if session.deviceID = deviceID then [.toBrowser kind sessionID frame] else []
    | none => forwardFirst g deviceID sessionID frame rest

/-- Take a session out of its table. -/
def Gateway.removeSession (g : Gateway) (kind : SessionKind) (sessionID : String) : Gateway :=
  { g with sessions := Function.update g.sessions kind ((g.sessions kind).erase sessionID) }

/-- End the session with the ID: its device and its browser are told, and the browser's connection
is closed. -/
def endSession (g : Gateway) (kind : SessionKind) (stopType sessionID reason : String) : Outcome :=
  match (g.sessions kind).lookup sessionID with
  | none => (g, [])
  | some session =>
    (g.removeSession kind sessionID,
      if session.closed then []
      else
        [.toDevice session.deviceConn (.stop stopType { sessionID, reason }),
          .toBrowser kind sessionID (.ended sessionID reason),
          .closeBrowser kind sessionID reason])

def endDesktopSession (g : Gateway) (sessionID reason : String) : Outcome :=
  endSession g .desktop "desktop_stop" sessionID reason

def endTerminalSession (g : Gateway) (sessionID reason : String) : Outcome :=
  endSession g .terminal "terminal_end" sessionID reason

def endVideoSession (g : Gateway) (sessionID reason : String) : Outcome :=
  endSession g .video "video_end" sessionID reason

def endFileSession (g : Gateway) (sessionID reason : String) : Outcome :=
  endSession g .file "file_end" sessionID reason

def endAudioSession (g : Gateway) (sessionID reason : String) : Outcome :=
  endSession g .audio "audio_end" sessionID reason

/-! ### Payloads that name a session

A payload that is not decoded or names no session is ignored. -/

/-- A payload that was decoded and names a session. -/
def named {Payload : Type} (sessionID : Payload → String) (payload : Option Payload) :
    Option Payload :=
  payload.filter fun p => sessionID p != ""

section

variable {Payload : Type} (g : Gateway) (sessionID : Payload → String)
  (frame : Payload → BrowserFrame)

def forwardNamed (kind : SessionKind) (payload : Option Payload) : List Effect :=
  match named sessionID payload with
  | none => []
  | some p => forward g kind (sessionID p) (frame p)

def forwardOwnNamed (deviceID : String) (payload : Option Payload) : List Effect :=
  match named sessionID payload with
  | none => []
  | some p => forwardOwn g deviceID (sessionID p) (frame p)

def forwardFirstNamed (deviceID : String) (kinds : List SessionKind) (payload : Option Payload) :
    List Effect :=
  match named sessionID payload with
  | none => []
  | some p => forwardFirst g deviceID (sessionID p) (frame p) kinds

def endNamed (endKind : Gateway → String → String → Outcome) (reason : Payload → String)
    (payload : Option Payload) : Outcome :=
  match named sessionID payload with
  | none => (g, [])
  | some p => endKind g (sessionID p) (reason p)

end

/-! ### Handlers that answer their own device -/

/-- What the database and the token manager answered. -/
structure Env where
  helpRequestID : Option Nat
  chatMessageID : Option Nat
  tokenValid : Bool
  newToken : Option String

def sendError (dc : DeviceConn) (code : Nat) (message : String) : List Effect :=
  [.toDevice dc.conn (.error code message)]

def handleHeartbeat (dc : DeviceConn) : Option Unit → List Effect
  | none => sendError dc 3001 "invalid heartbeat payload"
  | some _ => [.toDevice dc.conn .ping]

def handleStateUpdate (dc : DeviceConn) : Option StateUpdatePayload → List Effect
  | none => sendError dc 3002 "invalid state_update payload"
  | some payload => if payload.widgetID = "" then sendError dc 3003 "widget_id is required" else []

def handleBulkUpdate (dc : DeviceConn) : Option (List StateUpdatePayload) → List Effect
  | none => sendError dc 3004 "invalid bulk_update payload"
  | some _ => []

def handleEvent (dc : DeviceConn) : Option Unit → List Effect
  | none => sendError dc 3006 "invalid event payload"
  | some _ => []

def handleLog (dc : DeviceConn) : Option Unit → List Effect
  | none => sendError dc 3007 "invalid log payload"
  | some _ => []

def handleHelpRequest (env : Env) (dc : DeviceConn) : Option Unit → List Effect
  | none => sendError dc 3008 "invalid help_request payload"
  | some _ =>
    match env.helpRequestID with
    | none => sendError dc 5001 "failed to store help request"
    | some id => [.toDevice dc.conn (.helpRequestAck id)]

def handleChatMessage (env : Env) (dc : DeviceConn) : Option String → List Effect
  | none => sendError dc 3009 "invalid chat_message payload"
  | some text =>
    if trimSpace text = "" then sendError dc 3009 "empty chat message"
    else
      match env.chatMessageID with
      | none => sendError dc 5002 "failed to store chat message"
      | some id => [.toDevice dc.conn (.chatMessageAck id)]

def handleTokenRefresh (env : Env) (dc : DeviceConn) : Option Unit → List Effect
  | none => sendError dc 3008 "invalid token_refresh payload"
  | some _ =>
    if !env.tokenValid then sendError dc 1003 "current token invalid"
    else
      match env.newToken with
      | none => sendError dc 5001 "failed to generate token"
      | some token => [.toDevice dc.conn (.tokenRefreshed token)]

/-! ### Handlers that find a session or a command by the payload -/

/-- `ResolvePendingCommand`. -/
def resolvePendingCommand (g : Gateway) (commandID : String) : Option PendingCommand × Gateway :=
  (g.pendingCommands.lookup commandID,
    { g with pendingCommands := g.pendingCommands.erase commandID })

def handleCommandResponse (g : Gateway) (dc : DeviceConn) :
    Option CommandResponsePayload → Outcome
  | none => (g, sendError dc 3005 "invalid command_response payload")
  | some payload =>
    match resolvePendingCommand g payload.commandID with
    | (none, g) => (g, [])
    | (some pc, g) => (g, if pc.awaited then [.result payload.commandID payload] else [])

def handleTerminalOutput (g : Gateway) (payload : Option TerminalOutputPayload) : List Effect :=
  forwardNamed g TerminalOutputPayload.sessionID
    (fun p => .output { p with stream := if p.stream = "" then "stdout" else p.stream })
    .terminal payload

def handleTerminalEnd (g : Gateway) (payload : Option EndPayload) : Outcome :=
  endNamed g EndPayload.sessionID endTerminalSession EndPayload.reason payload

def handleDesktopFrame (g : Gateway) (payload : Option DesktopFramePayload) : List Effect :=
  forwardNamed g DesktopFramePayload.sessionID .desktopFrame .desktop payload

def handleDesktopEnd (g : Gateway) (payload : Option EndPayload) : Outcome :=
  endNamed g EndPayload.sessionID endDesktopSession EndPayload.reason payload

def handleDesktopConsentDenied (g : Gateway) (sessionID : Option String) : Outcome :=
  endNamed g id endDesktopSession (fun _ => "consent_denied") sessionID

def handleDesktopInputError (g : Gateway) (payload : Option InputErrorPayload) : List Effect :=
  forwardNamed g InputErrorPayload.sessionID
    (fun p =>
      .error p.sessionID (if p.message = "" then "remote input injection failed" else p.message))
    .desktop payload

def handleVideoFrame (g : Gateway) (payload : Option VideoFramePayload) : List Effect :=
  forwardNamed g VideoFramePayload.sessionID .videoFrame .video payload

def handleVideoEnd (g : Gateway) (payload : Option EndPayload) : Outcome :=
  endNamed g EndPayload.sessionID endVideoSession EndPayload.reason payload

def handleFileResponse (g : Gateway) (type : FileResponseType)
    (payload : Option FileResponsePayload) : List Effect :=
  forwardNamed g FileResponsePayload.sessionID
    (fun p => .fileResponse type p.sessionID p.entries) .file payload

def handleFileEnd (g : Gateway) (payload : Option EndPayload) : Outcome :=
  endNamed g EndPayload.sessionID endFileSession EndPayload.reason payload

def handleAudioFrame (g : Gateway) (payload : Option AudioFramePayload) : List Effect :=
  forwardNamed g AudioFramePayload.sessionID .audioFrame .audio payload

def handleAudioEnd (g : Gateway) (payload : Option EndPayload) : Outcome :=
  endNamed g EndPayload.sessionID endAudioSession EndPayload.reason payload

/-! ### Handlers that compare the session's device -/

def handleCursorUpdate (g : Gateway) (deviceID : String) (payload : Option CursorUpdatePayload) :
    List Effect :=
  forwardOwnNamed g CursorUpdatePayload.sessionID .cursorUpdate deviceID payload

def handleDesktopMeta (g : Gateway) (deviceID : String) (payload : Option DesktopMetaPayload) :
    List Effect :=
  forwardOwnNamed g DesktopMetaPayload.sessionID .desktopMeta deviceID payload

def handleMonitorList (g : Gateway) (deviceID : String) (payload : Option MonitorListPayload) :
    List Effect :=
  forwardOwnNamed g MonitorListPayload.sessionID .monitorList deviceID payload

def handleCodecAnswer (g : Gateway) (deviceID : String) (payload : Option CodecAnswerPayload) :
    List Effect :=
  forwardFirstNamed g CodecAnswerPayload.sessionID .codecAnswer deviceID [.desktop, .video]
    payload

def handleKeyExchange (g : Gateway) (deviceID : String) (payload : Option KeyExchangePayload) :
    List Effect :=
  forwardFirstNamed g KeyExchangePayload.sessionID (fun p => .keyExchange p.raw) deviceID
    [.desktop, .video, .audio] payload

def maxClipboardSize : Nat := 8 * 1024 * 1024

def handleClipboardUpdate (g : Gateway) (deviceID : String) : Option ClipboardPayload → List Effect
  | none => []
  | some payload =>
    if payload.format ∉ ["text", "image", "html"] then []
    else if payload.data.utf8ByteSize > maxClipboardSize then []
    else
      forwardFirstNamed g ClipboardPayload.sessionID .clipboardUpdate deviceID [.desktop]
        (some payload)

/-! ### Binary frames -/

def frameHeaderSize : Nat := 64

/-- The session ID in the header of a binary frame, which ends at the first zero byte. An ID that
is not valid UTF-8 is the ID of no session. -/
def headerSessionID (data : Bytes) : Option String :=
  String.fromUTF8? ⟨((data.take frameHeaderSize).takeWhile (· ≠ 0)).toArray⟩

def handleDesktopFrameBinary (g : Gateway) (data : Bytes) : List Effect :=
  if data.length < frameHeaderSize then []
  else
    match named id (headerSessionID data) with
    | none => []
    | some sessionID =>
      match (g.sessions .desktop).lookup sessionID with
      | none => []
      | some session =>
        if session.closed then []
        else if data.drop frameHeaderSize = [] then []
        else [.toBrowser .desktop sessionID (.binary (data.drop frameHeaderSize))]

/-! ### The loop -/

/-- The body of `messageLoop`, but for the return after `unregister`. -/
def handleMessage (env : Env) (g : Gateway) (dc : DeviceConn) : Message → Outcome
  | .heartbeat payload => (g, handleHeartbeat dc payload)
  | .stateUpdate payload => (g, handleStateUpdate dc payload)
  | .bulkUpdate payload => (g, handleBulkUpdate dc payload)
  | .commandResponse payload => handleCommandResponse g dc payload
  | .event payload => (g, handleEvent dc payload)
  | .log payload => (g, handleLog dc payload)
  | .helpRequest payload => (g, handleHelpRequest env dc payload)
  | .chatMessage text => (g, handleChatMessage env dc text)
  | .unregister => (g, [])
  | .tokenRefresh payload => (g, handleTokenRefresh env dc payload)
  | .terminalOutput payload => (g, handleTerminalOutput g payload)
  | .terminalEnd payload => handleTerminalEnd g payload
  | .desktopFrame payload => (g, handleDesktopFrame g payload)
  | .desktopMeta payload => (g, handleDesktopMeta g dc.id payload)
  | .desktopEnd payload => handleDesktopEnd g payload
  | .desktopConsentDenied sessionID => handleDesktopConsentDenied g sessionID
  | .desktopInputError payload => (g, handleDesktopInputError g payload)
  | .videoFrame payload => (g, handleVideoFrame g payload)
  | .videoEnd payload => handleVideoEnd g payload
  | .fileResponse type payload => (g, handleFileResponse g type payload)
  | .fileEnd payload => handleFileEnd g payload
  | .audioFrame payload => (g, handleAudioFrame g payload)
  | .audioEnd payload => handleAudioEnd g payload
  | .clipboardUpdate payload => (g, handleClipboardUpdate g dc.id payload)
  | .keyExchange payload => (g, handleKeyExchange g dc.id payload)
  | .cursorUpdate payload => (g, handleCursorUpdate g dc.id payload)
  | .codecAnswer payload => (g, handleCodecAnswer g dc.id payload)
  | .monitorList payload => (g, handleMonitorList g dc.id payload)
  | .unknown type => (g, sendError dc 1006 ("unknown message type: " ++ type))

def handleFrame (env : Env) (g : Gateway) (dc : DeviceConn) : Frame → Outcome
  | .binary data => (g, handleDesktopFrameBinary g data)
  | .text msg => handleMessage env g dc msg

/-- `messageLoop`: handle the frames of a device one after the other, until it unregisters. -/
def messageLoop (g : Gateway) (dc : DeviceConn) : List (Env × Frame) → Outcome
  | [] => (g, [])
  | (_, .text .unregister) :: _ => (g, [])
  | (env, frame) :: rest =>
    let (g, effects) := handleFrame env g dc frame
    let (g, later) := messageLoop g dc rest
    (g, effects ++ later)

end SovaDesk.Cdap
