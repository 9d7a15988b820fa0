/-
This file settles whether CDAP devices are isolated from each other.

The handlers that answer their own device and those that compare the session's device with
the connection keep to their own sessions. The others take the session or command an ID in
the payload leads to, whoever it belongs to: a device that knows or guesses the ID of
another's session writes into its browser or ends it. A message touches nothing foreign
exactly when what its ID leads to is nothing, the sender's own, or a closed session that
was only to be forwarded to.
-/

import SovaDesk.Cdap.Gateway

namespace SovaDesk.Cdap

/-! ### The property -/

/-- The browser an effect reaches, by the session it serves. -/
def Effect.browser : Effect → Option (SessionKind × String)
  | .toBrowser kind sessionID _ => some (kind, sessionID)
  | .closeBrowser kind sessionID _ => some (kind, sessionID)
  | .toDevice _ _ => none
  | .result _ _ => none

/-- The browsers that some effect reaches. -/
def browsersReached (effects : List Effect) : List (SessionKind × String) :=
  effects.filterMap Effect.browser

/-- Sessions and commands of devices other than this one are left as they are, and nothing is
written to the browsers of such sessions. -/
structure Isolated (g : Gateway) (deviceID : String) (outcome : Outcome) : Prop where
  sessions : ∀ kind id session, (g.sessions kind).lookup id = some session →
    session.deviceID ≠ deviceID → (outcome.1.sessions kind).lookup id = some session
  browsers : ∀ kind id session, (g.sessions kind).lookup id = some session →
    session.deviceID ≠ deviceID → (kind, id) ∉ browsersReached outcome.2
  commands : ∀ id command, g.pendingCommands.lookup id = some command →
    command.deviceID ≠ deviceID → outcome.1.pendingCommands.lookup id = some command

/-! ### The condition -/

/-- What a message asks for by an ID, where the handler does not compare the device. -/
inductive Route
  | forward (kind : SessionKind) (sessionID : String)
  | finish (kind : SessionKind) (sessionID : String)
  | command (commandID : String)

/-- The route to a session that a payload names. -/
def routeBy {Payload : Type} (route : String → Route) (sessionID : Payload → String)
    (payload : Option Payload) : Option Route :=
  (named sessionID payload).map fun p => route (sessionID p)

/-- The route of a frame, if its handler takes one. -/
def routed : Frame → Option Route
  | .binary data =>
    if data.length ≤ frameHeaderSize then none
    else routeBy (.forward .desktop) id (headerSessionID data)
  | .text (.commandResponse payload) => payload.map fun p => .command p.commandID
  | .text (.terminalOutput payload) =>
    routeBy (.forward .terminal) TerminalOutputPayload.sessionID payload
  | .text (.terminalEnd payload) => routeBy (.finish .terminal) EndPayload.sessionID payload
  | .text (.desktopFrame payload) =>
    routeBy (.forward .desktop) DesktopFramePayload.sessionID payload
  | .text (.desktopEnd payload) => routeBy (.finish .desktop) EndPayload.sessionID payload
  | .text (.desktopConsentDenied sessionID) => routeBy (.finish .desktop) id sessionID
  | .text (.desktopInputError payload) =>
    routeBy (.forward .desktop) InputErrorPayload.sessionID payload
  | .text (.videoFrame payload) => routeBy (.forward .video) VideoFramePayload.sessionID payload
  | .text (.videoEnd payload) => routeBy (.finish .video) EndPayload.sessionID payload
  | .text (.fileResponse _ payload) =>
    routeBy (.forward .file) FileResponsePayload.sessionID payload
  | .text (.fileEnd payload) => routeBy (.finish .file) EndPayload.sessionID payload
  | .text (.audioFrame payload) => routeBy (.forward .audio) AudioFramePayload.sessionID payload
  | .text (.audioEnd payload) => routeBy (.finish .audio) EndPayload.sessionID payload
  | .text _ => none

/-- What a route leads to is the device's own, if it leads to anything that would be touched. -/
def Gateway.LeadsToOwn (g : Gateway) (deviceID : String) : Route → Prop
  | .forward kind sessionID => ∀ session, (g.sessions kind).lookup sessionID = some session →
      session.deviceID = deviceID ∨ session.closed = true
  | .finish kind sessionID => ∀ session, (g.sessions kind).lookup sessionID = some session →
      session.deviceID = deviceID
  | .command commandID => ∀ command, g.pendingCommands.lookup commandID = some command →
      command.deviceID = deviceID

/-- The frame takes no route to something of another device. -/
def KeepsToOwn (g : Gateway) (deviceID : String) (frame : Frame) : Prop :=
  ∀ route, routed frame = some route → g.LeadsToOwn deviceID route

/-! ### Handlers that reach no foreign browser -/

section

variable {g : Gateway} {dc : DeviceConn} {deviceID sessionID : String} {kind : SessionKind}
  {frame : BrowserFrame} {effects : List Effect} {Payload : Type} {payload : Option Payload}
  {sessionOf : Payload → String} {frameOf : Payload → BrowserFrame}

/-- A handler that leaves the gateway as it is needs only care for the browsers it reaches. -/
theorem isolated_of_browsers
    (own : ∀ kind id, (kind, id) ∈ browsersReached effects →
      ∀ session, (g.sessions kind).lookup id = some session → session.deviceID = deviceID) :
    Isolated g deviceID (g, effects) where
  sessions _ _ _ found _ := found
  browsers kind id session found foreign reached := foreign (own kind id reached session found)
  commands _ _ found _ := found

theorem isolated_of_quiet (quiet : browsersReached effects = []) :
    Isolated g deviceID (g, effects) :=
  isolated_of_browsers fun _ _ reached => absurd (quiet ▸ reached) List.not_mem_nil

theorem isolated_nil : Isolated g deviceID (g, []) := isolated_of_quiet rfl

theorem isolated_forwardOwn : Isolated g deviceID (g, forwardOwn g deviceID sessionID frame) := by
  unfold forwardOwn
  split
  · exact isolated_nil
  · next session found =>
    split
    · exact isolated_nil
    · next passed =>
      refine isolated_of_browsers fun kind id reached other otherFound => ?_
      obtain ⟨rfl, rfl⟩ := Prod.mk.inj (List.mem_singleton.mp reached)
      obtain rfl := Option.some.inj (found.symm.trans otherFound)
      exact not_not.mp (not_or.mp passed).1

theorem isolated_forwardFirst (kinds : List SessionKind) :
    Isolated g deviceID (g, forwardFirst g deviceID sessionID frame kinds) := by
  induction kinds with
  | nil => exact isolated_nil
  | cons kind rest inductionHypothesis =>
    unfold forwardFirst
    split
    · next session found =>
      split
      · next own =>
        refine isolated_of_browsers fun kind' id reached other otherFound => ?_
        obtain ⟨rfl, rfl⟩ := Prod.mk.inj (List.mem_singleton.mp reached)
        obtain rfl := Option.some.inj (found.symm.trans otherFound)
        exact own
      · exact isolated_nil
    · exact inductionHypothesis

theorem isolated_forwardOwnNamed :
    Isolated g deviceID (g, forwardOwnNamed g sessionOf frameOf deviceID payload) := by
  unfold forwardOwnNamed
  split
  · exact isolated_nil
  · exact isolated_forwardOwn

theorem isolated_forwardFirstNamed (kinds : List SessionKind) :
    Isolated g deviceID (g, forwardFirstNamed g sessionOf frameOf deviceID kinds payload) := by
  unfold forwardFirstNamed
  split
  · exact isolated_nil
  · exact isolated_forwardFirst kinds

theorem isolated_handleClipboardUpdate (payload : Option ClipboardPayload) :
    Isolated g deviceID (g, handleClipboardUpdate g deviceID payload) := by
  unfold handleClipboardUpdate
  split
  · exact isolated_nil
  · split
    · exact isolated_nil
    · split
      · exact isolated_nil
      · exact isolated_forwardFirstNamed _

theorem browsersReached_handleStateUpdate (payload : Option StateUpdatePayload) :
    browsersReached (handleStateUpdate dc payload) = [] := by
  unfold handleStateUpdate
  grind [browsersReached, sendError, Effect.browser]

theorem browsersReached_handleHelpRequest {env : Env} (payload : Option Unit) :
    browsersReached (handleHelpRequest env dc payload) = [] := by
  unfold handleHelpRequest
  grind [browsersReached, sendError, Effect.browser]

theorem browsersReached_handleChatMessage {env : Env} (text : Option String) :
    browsersReached (handleChatMessage env dc text) = [] := by
  unfold handleChatMessage
  grind [browsersReached, sendError, Effect.browser]

theorem browsersReached_handleTokenRefresh {env : Env} (payload : Option Unit) :
    browsersReached (handleTokenRefresh env dc payload) = [] := by
  unfold handleTokenRefresh
  grind [browsersReached, sendError, Effect.browser]

/-! ### Handlers that take a route -/

theorem isolated_forward_iff :
    Isolated g deviceID (g, forward g kind sessionID frame) ↔
      g.LeadsToOwn deviceID (.forward kind sessionID) := by
  unfold forward
  split
  · next missing =>
    exact iff_of_true isolated_nil fun session found => nomatch missing.symm.trans found
  · next session found =>
    split
    · next closed =>
      refine iff_of_true isolated_nil fun other otherFound => ?_
      obtain rfl := Option.some.inj (found.symm.trans otherFound)
      exact .inr closed
    · next isOpen =>
      constructor
      · intro isolated other otherFound
        obtain rfl := Option.some.inj (found.symm.trans otherFound)
        refine .inl (by_contra fun foreign => ?_)
        exact isolated.browsers kind sessionID session found foreign List.mem_cons_self
      · intro own
        refine isolated_of_browsers fun kind' id reached other otherFound => ?_
        obtain ⟨rfl, rfl⟩ := Prod.mk.inj (List.mem_singleton.mp reached)
        exact (own other otherFound).resolve_right fun closed => by
          obtain rfl := Option.some.inj (found.symm.trans otherFound)
          exact isOpen closed

theorem lookup_removeSession {other : SessionKind} {id : String} {session : Session} :
    ((g.removeSession kind sessionID).sessions other).lookup id = some session ↔
      (g.sessions other).lookup id = some session ∧ ¬ (other = kind ∧ id = sessionID) := by
  by_cases same : other = kind
  · subst same
    have removed : (g.removeSession other sessionID).sessions other =
        (g.sessions other).erase sessionID := Function.update_self _ _ _
    rw [removed, Table.lookup_erase_iff]
    exact ⟨fun ⟨away, found⟩ => ⟨found, fun here => away here.2⟩,
      fun ⟨found, away⟩ => ⟨fun here => away ⟨rfl, here⟩, found⟩⟩
  · have kept : (g.removeSession kind sessionID).sessions other = g.sessions other :=
      Function.update_of_ne same _ _
    rw [kept]
    exact ⟨fun found => ⟨found, fun here => same here.1⟩, fun kept => kept.1⟩

theorem isolated_endSession_iff {stopType reason : String} :
    Isolated g deviceID (endSession g kind stopType sessionID reason) ↔
      g.LeadsToOwn deviceID (.finish kind sessionID) := by
  unfold endSession
  split
  · next missing =>
    exact iff_of_true isolated_nil fun session found => nomatch missing.symm.trans found
  · next session found =>
    constructor
    · intro isolated other otherFound
      obtain rfl := Option.some.inj (found.symm.trans otherFound)
      by_contra foreign
      -- the session is gone from its table, whether or not it was closed before
      have kept := isolated.sessions kind sessionID session found foreign
      exact (lookup_removeSession.mp kept).2 ⟨rfl, rfl⟩
    · intro own
      have away : ∀ other id foreign, (g.sessions other).lookup id = some foreign →
          foreign.deviceID ≠ deviceID → ¬ (other = kind ∧ id = sessionID) := by
        rintro other id foreign otherFound different ⟨rfl, rfl⟩
        exact different (own foreign otherFound)
      refine ⟨fun other id foreign otherFound different => ?_,
        fun other id foreign otherFound different reached => ?_, fun _ _ found _ => found⟩
      · exact lookup_removeSession.mpr
          ⟨otherFound, away other id foreign otherFound different⟩
      · have here : (other, id) = (kind, sessionID) := by
          revert reached
          split
          · exact fun reached => absurd reached List.not_mem_nil
          · exact fun reached => (List.mem_cons.mp reached).elim (fun first => first)
              List.mem_singleton.mp
        exact away other id foreign otherFound different (Prod.mk.inj here)

theorem isolated_handleCommandResponse_iff (dc : DeviceConn) (payload : CommandResponsePayload) :
    Isolated g deviceID (handleCommandResponse g dc (some payload)) ↔
      g.LeadsToOwn deviceID (.command payload.commandID) := by
  have effectsQuiet : browsersReached (handleCommandResponse g dc (some payload)).2 = [] := by
    unfold handleCommandResponse resolvePendingCommand
    grind [browsersReached, Effect.browser]
  have commands : (handleCommandResponse g dc (some payload)).1.pendingCommands =
      g.pendingCommands.erase payload.commandID := by
    unfold handleCommandResponse resolvePendingCommand
    grind
  have sessions : (handleCommandResponse g dc (some payload)).1.sessions = g.sessions := by
    unfold handleCommandResponse resolvePendingCommand
    grind
  constructor
  · intro isolated command found
    by_contra foreign
    have kept := isolated.commands payload.commandID command found foreign
    rw [commands, Table.lookup_erase_iff] at kept
    exact kept.1 rfl
  · intro own
    refine ⟨fun kind id session found _ => ?_, fun kind id session _ _ reached => ?_,
      fun id command found foreign => ?_⟩
    · rw [sessions]
      exact found
    · rw [effectsQuiet] at reached
      exact absurd reached List.not_mem_nil
    · rw [commands, Table.lookup_erase_iff]
      refine ⟨fun here => ?_, found⟩
      subst here
      exact foreign (own command found)

theorem isolated_forwardNamed_iff :
    Isolated g deviceID (g, forwardNamed g sessionOf frameOf kind payload) ↔
      ∀ route, routeBy (.forward kind) sessionOf payload = some route →
        g.LeadsToOwn deviceID route := by
  unfold forwardNamed routeBy
  cases named sessionOf payload with
  | none => exact iff_of_true isolated_nil fun _ taken => nomatch taken
  | some p =>
    simp only [Option.map_some, Option.some.injEq, forall_eq']
    exact isolated_forward_iff

theorem isolated_endNamed_iff {endKind : Gateway → String → String → Outcome}
    {reasonOf : Payload → String}
    (ends : ∀ sessionID reason, Isolated g deviceID (endKind g sessionID reason) ↔
      g.LeadsToOwn deviceID (.finish kind sessionID)) :
    Isolated g deviceID (endNamed g sessionOf endKind reasonOf payload) ↔
      ∀ route, routeBy (.finish kind) sessionOf payload = some route →
        g.LeadsToOwn deviceID route := by
  unfold endNamed routeBy
  cases named sessionOf payload with
  | none => exact iff_of_true isolated_nil fun _ taken => nomatch taken
  | some p =>
    simp only [Option.map_some, Option.some.injEq, forall_eq']
    exact ends _ _

/-- A binary frame with something after its header is forwarded as any other. -/
theorem handleDesktopFrameBinary_eq (data : Bytes) :
    handleDesktopFrameBinary g data =
      if data.length ≤ frameHeaderSize then []
      else
        forwardNamed g id (fun _ => .binary (data.drop frameHeaderSize)) .desktop
          (headerSessionID data) := by
  have rest : data.drop frameHeaderSize = [] ↔ data.length ≤ frameHeaderSize :=
    List.drop_eq_nil_iff
  unfold handleDesktopFrameBinary forwardNamed forward
  grind

theorem isolated_handleDesktopFrameBinary_iff (data : Bytes) :
    Isolated g deviceID (g, handleDesktopFrameBinary g data) ↔
      KeepsToOwn g deviceID (.binary data) := by
  rw [handleDesktopFrameBinary_eq, KeepsToOwn, routed]
  split
  · exact iff_of_true isolated_nil fun _ taken => nomatch taken
  · exact isolated_forwardNamed_iff

end

/-! ### One message -/

/-- A message that takes no route is isolated whatever it says. -/
theorem isolated_iff_of_unrouted {env : Env} {g : Gateway} {dc : DeviceConn} {msg : Message}
    (unrouted : routed (.text msg) = none)
    (isolated : Isolated g dc.id (handleMessage env g dc msg)) :
    Isolated g dc.id (handleMessage env g dc msg) ↔ KeepsToOwn g dc.id (.text msg) :=
  iff_of_true isolated fun _ taken => nomatch unrouted.symm.trans taken

theorem isolated_handleMessage_iff (env : Env) (g : Gateway) (dc : DeviceConn) (msg : Message) :
    Isolated g dc.id (handleMessage env g dc msg) ↔ KeepsToOwn g dc.id (.text msg) := by
  cases msg with
  | heartbeat payload =>
    refine isolated_iff_of_unrouted rfl (isolated_of_quiet ?_)
    cases payload <;> rfl
  | stateUpdate payload =>
    exact isolated_iff_of_unrouted rfl
      (isolated_of_quiet (browsersReached_handleStateUpdate payload))
  | bulkUpdate payload =>
    refine isolated_iff_of_unrouted rfl (isolated_of_quiet ?_)
    cases payload <;> rfl
  | commandResponse payload =>
    cases payload with
    | none => exact isolated_iff_of_unrouted rfl (isolated_of_quiet rfl)
    | some payload =>
      rw [KeepsToOwn, routed]
      simp only [Option.map_some, Option.some.injEq, forall_eq']
      exact isolated_handleCommandResponse_iff dc payload
  | event payload =>
    refine isolated_iff_of_unrouted rfl (isolated_of_quiet ?_)
    cases payload <;> rfl
  | log payload =>
    refine isolated_iff_of_unrouted rfl (isolated_of_quiet ?_)
    cases payload <;> rfl
  | helpRequest payload =>
    exact isolated_iff_of_unrouted rfl
      (isolated_of_quiet (browsersReached_handleHelpRequest payload))
  | chatMessage text =>
    exact isolated_iff_of_unrouted rfl
      (isolated_of_quiet (browsersReached_handleChatMessage text))
  | unregister => exact isolated_iff_of_unrouted rfl isolated_nil
  | tokenRefresh payload =>
    exact isolated_iff_of_unrouted rfl
      (isolated_of_quiet (browsersReached_handleTokenRefresh payload))
  | terminalOutput payload => exact isolated_forwardNamed_iff
  | terminalEnd payload => exact isolated_endNamed_iff fun _ _ => isolated_endSession_iff
  | desktopFrame payload => exact isolated_forwardNamed_iff
  | desktopMeta payload => exact isolated_iff_of_unrouted rfl isolated_forwardOwnNamed
  | desktopEnd payload => exact isolated_endNamed_iff fun _ _ => isolated_endSession_iff
  | desktopConsentDenied sessionID =>
    exact isolated_endNamed_iff fun _ _ => isolated_endSession_iff
  | desktopInputError payload => exact isolated_forwardNamed_iff
  | videoFrame payload => exact isolated_forwardNamed_iff
  | videoEnd payload => exact isolated_endNamed_iff fun _ _ => isolated_endSession_iff
  | fileResponse type payload => exact isolated_forwardNamed_iff
  | fileEnd payload => exact isolated_endNamed_iff fun _ _ => isolated_endSession_iff
  | audioFrame payload => exact isolated_forwardNamed_iff
  | audioEnd payload => exact isolated_endNamed_iff fun _ _ => isolated_endSession_iff
  | clipboardUpdate payload =>
    exact isolated_iff_of_unrouted rfl (isolated_handleClipboardUpdate payload)
  | keyExchange payload => exact isolated_iff_of_unrouted rfl (isolated_forwardFirstNamed _)
  | cursorUpdate payload => exact isolated_iff_of_unrouted rfl isolated_forwardOwnNamed
  | codecAnswer payload => exact isolated_iff_of_unrouted rfl (isolated_forwardFirstNamed _)
  | monitorList payload => exact isolated_iff_of_unrouted rfl isolated_forwardOwnNamed
  | unknown type => exact isolated_iff_of_unrouted rfl (isolated_of_quiet rfl)

/-- A frame of a device leaves the sessions and commands of other devices alone exactly when it
takes no route to one of them. -/
theorem isolated_iff_keepsToOwn (env : Env) (g : Gateway) (dc : DeviceConn) (frame : Frame) :
    Isolated g dc.id (handleFrame env g dc frame) ↔ KeepsToOwn g dc.id frame := by
  cases frame with
  | binary data => exact isolated_handleDesktopFrameBinary_iff data
  | text msg => exact isolated_handleMessage_iff env g dc msg

/-! ### A foreign session -/

/-- One desktop session, of the device `CAM-2`. -/
def oneSession : Gateway where
  sessions
    | .desktop =>
      (∅ : Table String Session).insert "desk_CAM-2_1700000000000000000"
        { id := "desk_CAM-2_1700000000000000000", deviceID := "CAM-2", deviceConn := 2,
          closed := false }
    | _ => ∅
  pendingCommands := ∅

/-- The device `CAM-1` ends the session of `CAM-2`: the session is gone and its browser is told
and closed. -/
theorem foreignSession_ended :
    ¬ Isolated oneSession "CAM-1" (handleFrame ⟨none, none, true, none⟩ oneSession ⟨"CAM-1", 1⟩
      (.text (.desktopEnd (some ⟨"desk_CAM-2_1700000000000000000", "done"⟩)))) := by
  intro isolated
  have kept := isolated.sessions .desktop "desk_CAM-2_1700000000000000000"
    { id := "desk_CAM-2_1700000000000000000", deviceID := "CAM-2", deviceConn := 2,
      closed := false } (by decide) (by decide)
  revert kept
  decide

/-! ### The whole loop -/

end SovaDesk.Cdap
