/-
This file models what passes through the CDAP gateway: its sessions and pending commands,
the messages of devices, and what the gateway writes to connections.

A device keeps one WebSocket to the gateway; browsers keep one for each desktop, terminal,
video, file or audio session an operator has opened. A message of a device is modelled by
its type and its decoded payload, `none` where the decoder reports an error. What a handler
only hands on to the event bus, the audit log, the alert engine or the database is left
out of the payloads.
-/

import SovaDesk.Lib.Table

namespace SovaDesk.Cdap

abbrev Bytes := List UInt8

/-- The text of a JSON value that is passed on as it came. -/
abbrev RawMessage := String

/-! ### Sessions and commands -/

/-- The gateway keeps a table of sessions for each kind. -/
inductive SessionKind
  | desktop
  | terminal
  | video
  | file
  | audio
  deriving DecidableEq

/-- A session of any kind. Its browser's connection carries no other session, so the kind and the
ID of the session name it. -/
structure Session where
  id : String
  deviceID : String
  deviceConn : Nat
  closed : Bool
  deriving DecidableEq

/-- A command sent to a device; someone may wait for its result. -/
structure PendingCommand where
  commandID : String
  deviceID : String
  awaited : Bool
  deriving DecidableEq

structure Gateway where
  sessions : SessionKind → Table String Session
  pendingCommands : Table String PendingCommand

/-- The connection of an authenticated device. -/
structure DeviceConn where
  id : String
  conn : Nat

/-! ### Payloads -/

structure StateUpdatePayload where
  widgetID : String
  value : RawMessage
  deriving DecidableEq

structure CommandResponsePayload where
  commandID : String
  status : String
  execTimeMs : Int
  result : RawMessage
  errorMessage : String
  deriving DecidableEq

structure TerminalOutputPayload where
  sessionID : String
  data : String
  stream : String
  deriving DecidableEq

/-- `TerminalEndPayload`, `DesktopEndPayload`, `VideoEndPayload`, `FileEndPayload` and
`AudioEndPayload`. -/
structure EndPayload where
  sessionID : String
  reason : String
  deriving DecidableEq

structure DesktopFramePayload where
  sessionID : String
  format : String
  width : Int
  height : Int
  data : String
  timestamp : Int
  deriving DecidableEq

structure VideoFramePayload where
  sessionID : String
  format : String
  width : Int
  height : Int
  data : String
  timestamp : Int
  keyFrame : Bool
  deriving DecidableEq

structure AudioFramePayload where
  sessionID : String
  codec : String
  data : String
  timestamp : Int
  duration : Int
  sequence : Int
  deriving DecidableEq

structure InputErrorPayload where
  sessionID : String
  message : String
  deriving DecidableEq

inductive FileResponseType
  | list
  | read
  | write
  | delete
  deriving DecidableEq

/-- A file response is decoded twice, for its session ID and for all its entries. -/
structure FileResponsePayload where
  sessionID : String
  entries : List (String × RawMessage)
  deriving DecidableEq

structure CursorUpdatePayload where
  sessionID : String
  format : String
  width : Int
  height : Int
  hotspotX : Int
  hotspotY : Int
  data : String
  cursorID : String
  hidden : Bool
  deriving DecidableEq

structure CodecAnswerPayload where
  sessionID : String
  videoCodec : String
  audioCodec : String
  deriving DecidableEq

structure MonitorInfo where
  index : Int
  name : String
  width : Int
  height : Int
  x : Int
  y : Int
  primary : Bool
  scaleF : Int
  deriving DecidableEq

structure MonitorListPayload where
  sessionID : String
  monitors : List MonitorInfo
  active : Int
  deriving DecidableEq

structure DesktopMetaPayload where
  sessionID : String
  format : String
  width : Int
  height : Int
  binary : Bool
  codecString : String
  deriving DecidableEq

structure ClipboardPayload where
  format : String
  data : String
  sessionID : String
  deriving DecidableEq

/-- A key exchange is passed on as it came; only its session ID is read. -/
structure KeyExchangePayload where
  sessionID : String
  raw : RawMessage
  deriving DecidableEq

/-! ### Messages -/

/-- What a device sends as text. -/
inductive Message
  | heartbeat (payload : Option Unit)
  | stateUpdate (payload : Option StateUpdatePayload)
  | bulkUpdate (payload : Option (List StateUpdatePayload))
  | commandResponse (payload : Option CommandResponsePayload)
  | event (payload : Option Unit)
  | log (payload : Option Unit)
  | helpRequest (payload : Option Unit)
  | chatMessage (text : Option String)
  | unregister
  | tokenRefresh (payload : Option Unit)
  | terminalOutput (payload : Option TerminalOutputPayload)
  | terminalEnd (payload : Option EndPayload)
  | desktopFrame (payload : Option DesktopFramePayload)
  | desktopMeta (payload : Option DesktopMetaPayload)
  | desktopEnd (payload : Option EndPayload)
  | desktopConsentDenied (sessionID : Option String)
  | desktopInputError (payload : Option InputErrorPayload)
  | videoFrame (payload : Option VideoFramePayload)
  | videoEnd (payload : Option EndPayload)
  | fileResponse (type : FileResponseType) (payload : Option FileResponsePayload)
  | fileEnd (payload : Option EndPayload)
  | audioFrame (payload : Option AudioFramePayload)
  | audioEnd (payload : Option EndPayload)
  | clipboardUpdate (payload : Option ClipboardPayload)
  | keyExchange (payload : Option KeyExchangePayload)
  | cursorUpdate (payload : Option CursorUpdatePayload)
  | codecAnswer (payload : Option CodecAnswerPayload)
  | monitorList (payload : Option MonitorListPayload)
  | unknown (type : String)

/-- A frame on the device's WebSocket. -/
inductive Frame
  | text (msg : Message)
  | binary (data : Bytes)

/-- What a browser is sent. -/
inductive BrowserFrame
  | output (payload : TerminalOutputPayload)
  | desktopFrame (payload : DesktopFramePayload)
  | videoFrame (payload : VideoFramePayload)
  | audioFrame (payload : AudioFramePayload)
  | error (sessionID error : String)
  | fileResponse (type : FileResponseType) (sessionID : String)
      (entries : List (String × RawMessage))
  | cursorUpdate (payload : CursorUpdatePayload)
  | desktopMeta (payload : DesktopMetaPayload)
  | monitorList (payload : MonitorListPayload)
  | codecAnswer (payload : CodecAnswerPayload)
  | clipboardUpdate (payload : ClipboardPayload)
  | keyExchange (raw : RawMessage)
  | binary (data : Bytes)
  | ended (sessionID reason : String)
  deriving DecidableEq

/-- The `type` a browser reads. The entries of a file response are laid over its type and its
session ID; a key exchange and a binary frame are sent without a type of the gateway's. -/
def BrowserFrame.type : BrowserFrame → Option String
  | .output _ => some "output"
  | .desktopFrame _ => some "frame"
  | .videoFrame _ => some "frame"
  | .audioFrame _ => some "audio_frame"
  | .error _ _ => some "error"
  | .fileResponse .list _ _ => some "file_list_response"
  | .fileResponse .read _ _ => some "file_read_response"
  | .fileResponse .write _ _ => some "file_write_response"
  | .fileResponse .delete _ _ => some "file_delete_response"
  | .cursorUpdate _ => some "cursor_update"
  | .desktopMeta _ => some "desktop_meta"
  | .monitorList _ => some "monitor_list"
  | .codecAnswer _ => some "codec_answer"
  | .clipboardUpdate _ => some "clipboard_update"
  | .keyExchange _ => none
  | .binary _ => none
  | .ended _ _ => some "end"

/-- What a device is sent. -/
inductive DeviceMessage
  | error (code : Nat) (message : String)
  | ping
  | helpRequestAck (id : Nat)
  | chatMessageAck (id : Nat)
  | tokenRefreshed (token : String)
  | stop (type : String) (payload : EndPayload)
  deriving DecidableEq

/-- A write to a connection, the end of a browser's connection, or the result of a command offered
to whoever waits for it. -/
inductive Effect
  | toDevice (conn : Nat) (msg : DeviceMessage)
  | toBrowser (kind : SessionKind) (sessionID : String) (frame : BrowserFrame)
  | closeBrowser (kind : SessionKind) (sessionID reason : String)
  | result (commandID : String) (payload : CommandResponsePayload)
  deriving DecidableEq

end SovaDesk.Cdap
