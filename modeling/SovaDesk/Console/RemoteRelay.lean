/-
This file models one device's session of the console's remote-desktop relay: its agent, its
viewers, and the flag that says whether the agent streams.

The console runs one handler at a time. A socket is known by a number and never opens again
once it closes; while it is closing its messages still arrive, and its handlers are still
there until its close event. A new agent replaces the old one, which is then closing, but the
old one's handler forwards to the viewers without asking who is attached. The flag, on the
other hand, is only set when a start goes out to an open agent.

An input event of a viewer goes to the agent under the type the viewer names, whatever that
is. The rest of an event and the texts of status messages are left out, and so are pings.
-/

import SovaDesk.Lib.System
import Mathlib.Logic.Function.Basic

namespace SovaDesk.Console.RemoteRelay

open Transition

abbrev maxBinaryFrame : Nat := 2097152
abbrev maxViewers : Nat := 5

/-! ### The session -/

inductive ReadyState where
  | opened
  | closing
  | closed
  deriving DecidableEq

inductive ToViewer where
  | agentReady
  | streamStarted
  | streamStopped (reason : String)
  | agentDisconnected
  | sessionInfo (agentReady streaming : Bool)
  | frame (source : Nat) (data : List UInt8)
  | status (source : Nat) (type : String)
  deriving DecidableEq

/-- The agent that a frame or a status comes from. -/
def ToViewer.source : ToViewer → Option Nat
  | .frame source _ => some source
  | .status source _ => some source
  | _ => none

/-- A message that was sent to a viewer, with the agent that was attached then. -/
structure Delivery where
  viewer : Nat
  message : ToViewer
  attached : Option Nat
  deriving DecidableEq

/-- The session and its sockets. The rest is a record of the run: the types of the messages that
were sent to each agent, and the messages to the viewers, the latest first. -/
structure State where
  agentWs : Option Nat
  viewers : List Nat
  streaming : Bool
  idleTimer : Bool
  agentSockets : Nat → Option ReadyState
  viewerSockets : Nat → Option ReadyState
  toAgents : List (Nat × String)
  toViewers : List Delivery

namespace State

def sendAgent (s : State) (ws : Nat) (type : String) : State :=
  if s.agentSockets ws = some .opened then { s with toAgents := (ws, type) :: s.toAgents } else s

def sendViewer (s : State) (ws : Nat) (message : ToViewer) : State :=
  if s.viewerSockets ws = some .opened then
    { s with toViewers := ⟨ws, message, s.agentWs⟩ :: s.toViewers }
  else s

/-- The viewers whose sockets are open. -/
def openViewers (s : State) : List Nat := s.viewers.filter (s.viewerSockets · = some .opened)

def broadcast (s : State) (message : ToViewer) : State :=
  { s with
    toViewers := (s.openViewers.map fun ws => ⟨ws, message, s.agentWs⟩).reverse ++ s.toViewers }

/-- Begin to close an agent's socket. -/
def closeAgent (s : State) (ws : Nat) : State :=
  if s.agentSockets ws = some .opened then
    { s with agentSockets := Function.update s.agentSockets ws (some .closing) }
  else s

def startAgentStream (s : State) : State :=
  match s.agentWs with
  | none => s
  | some ws =>
    if s.streaming then s
    else (({ s with streaming := true, idleTimer := false }).sendAgent ws "start").broadcast
      .streamStarted

def stopAgentStream (s : State) (reason : String) : State :=
  if s.streaming then
    let stopped := { s with streaming := false }
    (match stopped.agentWs with
      | some ws => stopped.sendAgent ws "stop"
      | none => stopped).broadcast (.streamStopped reason)
  else s

def scheduleIdleClose (s : State) : State := { s with idleTimer := true }

/-! ### Events -/

/-- Attach an agent. The one that was attached begins to close. -/
def attachAgent (s : State) (ws : Nat) : State :=
  let replaced := match s.agentWs with
    | some old => s.closeAgent old
    | none => s
  { replaced with
    streaming := false
    agentWs := some ws
    agentSockets := Function.update replaced.agentSockets ws (some .opened) }

def handleAgentConnection (s : State) (ws : Nat) : State :=
  let connected := (s.attachAgent ws).broadcast .agentReady
  if connected.viewers ≠ [] then connected.startAgentStream else connected.scheduleIdleClose

end State

inductive AgentMessage where
  | binary (data : List UInt8)
  | text (type : String)

/-- What an agent's message is forwarded as, if it is. -/
def AgentMessage.forward (source : Nat) : AgentMessage → Option ToViewer
  | .binary data => if maxBinaryFrame < data.length then none else some (.frame source data)
  | .text type => if type = "pong" ∨ type = "status" then some (.status source type) else none

namespace State

def handleAgentMessage (s : State) (ws : Nat) (message : AgentMessage) : State :=
  match message.forward ws with
  | some forwarded => s.broadcast forwarded
  | none => s

def handleAgentClose (s : State) (ws : Nat) : State :=
  let closed := { s with agentSockets := Function.update s.agentSockets ws (some .closed) }
  if closed.agentWs = some ws then
    { closed with agentWs := none, streaming := false, idleTimer := false }.broadcast
      .agentDisconnected
  else closed

/-- Whether an open agent is attached. -/
def agentReady (s : State) : Bool := s.agentWs.any (s.agentSockets · = some .opened)

def handleViewerConnection (s : State) (ws : Nat) : State :=
  if maxViewers ≤ s.viewers.length then
    { s with viewerSockets := Function.update s.viewerSockets ws (some .closing) }
  else
    let joined := { s with
      viewers := s.viewers ++ [ws]
      viewerSockets := Function.update s.viewerSockets ws (some .opened) }
    let informed := joined.sendViewer ws (.sessionInfo joined.agentReady joined.streaming)
    if informed.agentReady && ! informed.streaming then informed.startAgentStream else informed

end State

inductive ViewerMessage where
  | stop
  | input (eventType kind : String)
  | other

/-- The type an input event has for the agent. -/
def inputType (eventType kind : String) : String :=
  if eventType ≠ "" then eventType else if kind ≠ "" then kind else "unknown"

namespace State

def handleViewerMessage (s : State) : ViewerMessage → State
  | .stop => s.stopAgentStream "operator requested stop"
  | .input eventType kind =>
    match s.agentWs with
    | some ws => s.sendAgent ws (inputType eventType kind)
    | none => s
  | .other => s

def handleViewerClose (s : State) (ws : Nat) : State :=
  let closed := { s with
    viewers := s.viewers.filter (· ≠ ws)
    viewerSockets := Function.update s.viewerSockets ws (some .closed) }
  if closed.viewers = [] then (closed.stopAgentStream "last viewer left").scheduleIdleClose
  else closed

def handleIdleTimeout (s : State) : State :=
  let fired := { s with idleTimer := false }
  match fired.agentWs with
  | some ws => if fired.viewers = [] then fired.closeAgent ws else fired
  | none => fired

end State

/-- What can happen to the sockets. A peer that begins to close is noticed before the close event.
-/
inductive Label where
  | agentConnects (ws : Nat)
  | agentSends (ws : Nat) (message : AgentMessage)
  | agentLeaves (ws : Nat)
  | agentClosed (ws : Nat)
  | viewerConnects (ws : Nat)
  | viewerSends (ws : Nat) (message : ViewerMessage)
  | viewerLeaves (ws : Nat)
  | viewerClosed (ws : Nat)
  | idleTimeout

def State.step (s : State) : Label → Option State
  | .agentConnects ws =>
    if s.agentSockets ws = none then some (s.handleAgentConnection ws) else none
  | .agentSends ws message =>
    if s.agentSockets ws = some .opened ∨ s.agentSockets ws = some .closing then
      some (s.handleAgentMessage ws message)
    else none
  | .agentLeaves ws => if s.agentSockets ws = some .opened then some (s.closeAgent ws) else none
  | .agentClosed ws =>
    if s.agentSockets ws = some .opened ∨ s.agentSockets ws = some .closing then
      some (s.handleAgentClose ws)
    else none
  | .viewerConnects ws =>
    if s.viewerSockets ws = none then some (s.handleViewerConnection ws) else none
  | .viewerSends ws message => if ws ∈ s.viewers then some (s.handleViewerMessage message) else none
  | .viewerLeaves ws =>
    if s.viewerSockets ws = some .opened then
      some { s with viewerSockets := Function.update s.viewerSockets ws (some .closing) }
    else none
  | .viewerClosed ws =>
    if s.viewerSockets ws = some .opened ∨ s.viewerSockets ws = some .closing then
      some (if ws ∈ s.viewers then s.handleViewerClose ws
        else { s with viewerSockets := Function.update s.viewerSockets ws (some .closed) })
    else none
  | .idleTimeout => if s.idleTimer then some s.handleIdleTimeout else none

def system : System State Label where
  start s := s = ⟨none, [], false, false, fun _ => none, fun _ => none, [], []⟩
  step := State.step

/-! ### What is promised -/

inductive Control where
  | start
  | stop
  deriving DecidableEq

/-- The control a message to the agent is, if it is one. -/
def Control.ofType (type : String) : Option Control :=
  if type = "start" then some .start else if type = "stop" then some .stop else none

/-- The controls that were sent to an agent, the latest first. -/
def controls (toAgents : List (Nat × String)) (ws : Nat) : List Control :=
  toAgents.filterMap fun sent => if sent.1 = ws then Control.ofType sent.2 else none

/-- Starts and stops in turn, beginning with a start. The latest comes first. -/
def Alternates : List Control → Prop
  | [] => True
  | control :: earlier =>
    Alternates earlier ∧ (control = .start ↔ earlier.head? ≠ some .start)

/-- What holds of the stream. -/
structure Steady (s : State) : Prop where
  streaming : s.streaming = true →
    ∃ ws, s.agentWs = some ws ∧ (controls s.toAgents ws).head? = some .start
  alternates (ws : Nat) : Alternates (controls s.toAgents ws)
  viewers : s.viewers.length ≤ maxViewers

/-- Frames and status messages came from the agent that was attached. -/
def Attached (s : State) : Prop :=
  ∀ delivery ∈ s.toViewers, ∀ ws, delivery.message.source = some ws → delivery.attached = some ws

/-- After a viewer has joined and an open agent is attached the stream is running. -/
def Started (before : State) (label : Label) (after : State) : Prop :=
  ∀ ws, label = .viewerConnects ws → ws ∉ before.viewers → ws ∈ after.viewers →
    before.agentReady = true → after.streaming = true

/-- An agent that is not attached forwards nothing to a viewer. -/
def FromAttached (s : State) (label : Label) : Prop :=
  ∀ ws message, label = .agentSends ws message → message.forward ws ≠ none →
    s.agentWs = some ws ∨ s.openViewers = []

/-- An input event has a type of its own. -/
def PlainInput (label : Label) : Prop :=
  ∀ ws eventType kind, label = .viewerSends ws (.input eventType kind) →
    Control.ofType (inputType eventType kind) = none

/-! ### Controls -/

variable {ws : Nat}

theorem controls_cons_of_ne {other : Nat} (different : ws ≠ other) (type : String)
    (toAgents : List (Nat × String)) :
    controls ((ws, type) :: toAgents) other = controls toAgents other :=
  List.filterMap_cons_none (if_neg different)

variable {type : String}

theorem controls_cons_of_none (plain : Control.ofType type = none) (ws other : Nat)
    (toAgents : List (Nat × String)) :
    controls ((ws, type) :: toAgents) other = controls toAgents other := by
  refine List.filterMap_cons_none ?_
  dsimp only
  rw [plain, ite_self]

theorem controls_cons_self {control : Control}
    (is : Control.ofType type = some control) (ws : Nat) (toAgents : List (Nat × String)) :
    controls ((ws, type) :: toAgents) ws = control :: controls toAgents ws :=
  List.filterMap_cons_some ((if_pos rfl).trans is)

/-- What a run keeps: what holds of the stream; that a stream that is not running was not started
last, as long as the agent could be told to start; and that an agent has been sent nothing before
it connects. -/
structure Kept (s : State) : Prop where
  steady : Steady s
  stopped (ws : Nat) : s.agentWs = some ws → s.streaming = false →
    s.agentSockets ws = some .opened → (controls s.toAgents ws).head? ≠ some .start
  fresh (ws : Nat) : s.agentSockets ws = none → controls s.toAgents ws = []
  present (ws : Nat) : s.agentWs = some ws → s.agentSockets ws ≠ none

variable {after : State}

namespace Kept

variable {s : State}

/-- Nothing else matters: the viewers count, and the records to them do not. -/
theorem congr (kept : Kept s) (agentWs : after.agentWs = s.agentWs)
    (streaming : after.streaming = s.streaming) (agentSockets : after.agentSockets = s.agentSockets)
    (toAgents : after.toAgents = s.toAgents) (viewers : after.viewers.length ≤ maxViewers) :
    Kept after := by
  refine ⟨⟨?_, ?_, viewers⟩, ?_, ?_, ?_⟩
  · rw [streaming, agentWs, toAgents]
    exact kept.steady.streaming
  · rw [toAgents]
    exact kept.steady.alternates
  · rw [agentWs, streaming, agentSockets, toAgents]
    exact kept.stopped
  · rw [agentSockets, toAgents]
    exact kept.fresh
  · rw [agentWs, agentSockets]
    exact kept.present

theorem broadcast (kept : Kept s) (message : ToViewer) : Kept (s.broadcast message) :=
  kept.congr rfl rfl rfl rfl kept.steady.viewers

theorem sendViewer (kept : Kept s) (ws : Nat) (message : ToViewer) :
    Kept (s.sendViewer ws message) := by
  unfold State.sendViewer
  split
  · exact kept.congr rfl rfl rfl rfl kept.steady.viewers
  · exact kept

theorem startAgentStream (kept : Kept s)
    (opened : ∀ ws, s.agentWs = some ws → s.agentSockets ws = some .opened) :
    Kept s.startAgentStream := by
  unfold State.startAgentStream
  split
  · exact kept
  · next ws attached =>
    split
    · exact kept
    · next idle =>
      have off : s.streaming = false := Bool.not_eq_true _ ▸ idle
      have isOpen := opened ws attached
      have sent : ({ s with streaming := true, idleTimer := false }).sendAgent ws "start" =
          { s with
            streaming := true, idleTimer := false, toAgents := (ws, "start") :: s.toAgents } :=
        if_pos isOpen
      rw [sent]
      refine broadcast ?_ _
      have own : controls ((ws, "start") :: s.toAgents) ws = .start :: controls s.toAgents ws :=
        controls_cons_self rfl ws s.toAgents
      refine ⟨⟨fun _ => ⟨ws, attached, by rw [own]; rfl⟩, fun other => ?_, kept.steady.viewers⟩,
        fun _ _ off => absurd off.symm Bool.false_ne_true, fun other missing => ?_, kept.present⟩
      · by_cases same : ws = other
        · subst same
          dsimp only
          rw [own]
          exact ⟨kept.steady.alternates ws, iff_of_true rfl (kept.stopped ws attached off isOpen)⟩
        · dsimp only
          rw [controls_cons_of_ne same]
          exact kept.steady.alternates other
      · have different : ws ≠ other := by
          rintro rfl
          exact kept.present ws attached missing
        dsimp only
        rw [controls_cons_of_ne different]
        exact kept.fresh other missing

/-- A running stream's agent is told to stop if it is open. -/
theorem stopAgentStream (kept : Kept s) (reason : String) : Kept (s.stopAgentStream reason) := by
  unfold State.stopAgentStream
  split
  · next on =>
    obtain ⟨ws, attached, started⟩ := kept.steady.streaming on
    refine broadcast ?_ _
    split
    · next some held =>
      obtain rfl : ws = some := Option.some.inj (attached.symm.trans held)
      unfold State.sendAgent
      split
      · have own : controls ((ws, "stop") :: s.toAgents) ws = .stop :: controls s.toAgents ws :=
          controls_cons_self rfl ws s.toAgents
        refine ⟨⟨fun off => absurd off Bool.false_ne_true, fun other => ?_, kept.steady.viewers⟩,
          fun other found _ _ => ?_, fun other missing => ?_, kept.present⟩
        · by_cases same : ws = other
          · subst same
            dsimp only
            rw [own]
            exact ⟨kept.steady.alternates ws,
              iff_of_false Control.noConfusion (not_not_intro started)⟩
          · dsimp only
            rw [controls_cons_of_ne same]
            exact kept.steady.alternates other
        · obtain rfl := Option.some.inj (attached.symm.trans found)
          dsimp only
          rw [own]
          exact fun same => Control.noConfusion (Option.some.inj same)
        · have different : ws ≠ other := by
            rintro rfl
            exact kept.present ws attached missing
          dsimp only
          rw [controls_cons_of_ne different]
          exact kept.fresh other missing
      · next closing =>
        refine ⟨⟨fun off => absurd off Bool.false_ne_true, kept.steady.alternates,
          kept.steady.viewers⟩, fun other found _ isOpen => ?_, kept.fresh, kept.present⟩
        obtain rfl := Option.some.inj (attached.symm.trans found)
        exact absurd isOpen closing
    · next held => exact (Option.some_ne_none ws (attached.symm.trans held)).elim
  · exact kept

/-- A socket that is no longer open is told nothing. -/
theorem shutAgent (kept : Kept s) (known : s.agentSockets ws ≠ none)
    {state : ReadyState} (shut : state ≠ .opened) :
    Kept { s with agentSockets := Function.update s.agentSockets ws (some state) } := by
  refine ⟨⟨kept.steady.streaming, kept.steady.alternates, kept.steady.viewers⟩,
    fun other held off isOpen => ?_, fun other missing => ?_, fun other held => ?_⟩
  · by_cases same : other = ws
    · subst same
      dsimp only at isOpen
      rw [Function.update_self] at isOpen
      exact absurd (Option.some.inj isOpen) shut
    · dsimp only at isOpen
      rw [Function.update_of_ne same] at isOpen
      exact kept.stopped other held off isOpen
  · by_cases same : other = ws
    · subst same
      dsimp only at missing
      rw [Function.update_self] at missing
      exact (Option.some_ne_none _ missing).elim
    · dsimp only at missing
      rw [Function.update_of_ne same] at missing
      exact kept.fresh other missing
  · by_cases same : other = ws
    · subst same
      dsimp only
      rw [Function.update_self]
      exact Option.some_ne_none state
    · dsimp only
      rw [Function.update_of_ne same]
      exact kept.present other held

theorem closeAgent (kept : Kept s) (ws : Nat) : Kept (s.closeAgent ws) := by
  unfold State.closeAgent
  split
  · next isOpen =>
    exact kept.shutAgent (by rw [isOpen]; exact Option.some_ne_none _) (by decide)
  · exact kept

end Kept

theorem agentSockets_closeAgent (s : State) (ws other : Nat)
    (missing : s.agentSockets other = none) :
    (s.closeAgent ws).agentSockets other = none := by
  unfold State.closeAgent
  split
  · next isOpen =>
    have different : other ≠ ws := by
      rintro rfl
      rw [missing] at isOpen
      exact Option.some_ne_none _ isOpen.symm
    exact (Function.update_of_ne different _ _).trans missing
  · exact missing

variable {s : State}

theorem Kept.attachAgent (kept : Kept s)
    (missing : s.agentSockets ws = none) : Kept (s.attachAgent ws) := by
  have replaced : ∃ replaced, (match s.agentWs with
      | some old => s.closeAgent old
      | none => s) = replaced ∧ Kept replaced ∧ replaced.agentSockets ws = none := by
    split
    · next old _ => exact ⟨_, rfl, kept.closeAgent old, agentSockets_closeAgent s old ws missing⟩
    · exact ⟨_, rfl, kept, missing⟩
  obtain ⟨replaced, same, kept, missing⟩ := replaced
  unfold State.attachAgent
  rw [same]
  have none := kept.fresh ws missing
  refine ⟨⟨fun off => absurd off Bool.false_ne_true, kept.steady.alternates,
    kept.steady.viewers⟩, fun other held _ _ => ?_, fun other absent => ?_, fun other held => ?_⟩
  · obtain rfl := Option.some.inj held
    dsimp only
    rw [none]
    exact (Option.some_ne_none _).symm
  · by_cases same : other = ws
    · rw [same]
      exact none
    · dsimp only at absent
      rw [Function.update_of_ne same] at absent
      exact kept.fresh other absent
  · obtain rfl := Option.some.inj held
    dsimp only
    rw [Function.update_self]
    exact Option.some_ne_none _

theorem Kept.handleAgentConnection (kept : Kept s)
    (missing : s.agentSockets ws = none) : Kept (s.handleAgentConnection ws) := by
  have told := (kept.attachAgent missing).broadcast .agentReady
  unfold State.handleAgentConnection
  dsimp only
  split
  · refine told.startAgentStream fun other held => ?_
    obtain rfl := Option.some.inj held
    exact Function.update_self _ _ _
  · exact told.congr rfl rfl rfl rfl told.steady.viewers

theorem Kept.handleAgentClose (kept : Kept s)
    (known : s.agentSockets ws ≠ none) : Kept (s.handleAgentClose ws) := by
  have shut := kept.shutAgent known (show ReadyState.closed ≠ .opened by decide)
  unfold State.handleAgentClose
  dsimp only
  split
  · refine Kept.broadcast ?_ _
    refine ⟨⟨fun off => absurd off Bool.false_ne_true, shut.steady.alternates,
      shut.steady.viewers⟩, fun other held => ?_, shut.fresh, fun other held => ?_⟩
    · exact (Option.some_ne_none other held.symm).elim
    · exact (Option.some_ne_none other held.symm).elim
  · exact shut

theorem Kept.handleAgentMessage (kept : Kept s) (ws : Nat) (message : AgentMessage) :
    Kept (s.handleAgentMessage ws message) := by
  unfold State.handleAgentMessage
  split
  · exact kept.broadcast _
  · exact kept

theorem opened_of_agentReady (ready : s.agentReady = true) :
    ∃ ws, s.agentWs = some ws ∧ s.agentSockets ws = some .opened := by
  obtain ⟨ws, held, opened⟩ := (Option.any_eq_true _ _).mp ready
  exact ⟨ws, held, of_decide_eq_true opened⟩

theorem Kept.handleViewerConnection (kept : Kept s) (ws : Nat) :
    Kept (s.handleViewerConnection ws) := by
  unfold State.handleViewerConnection
  split
  · exact kept.congr rfl rfl rfl rfl kept.steady.viewers
  · next room =>
    have joined : Kept { s with
        viewers := s.viewers ++ [ws]
        viewerSockets := Function.update s.viewerSockets ws (some .opened) } := by
      refine kept.congr rfl rfl rfl rfl ?_
      rw [List.length_append, List.length_singleton]
      exact Nat.not_le.mp room
    dsimp only
    have informed := joined.sendViewer ws (.sessionInfo
      (State.agentReady { s with
        viewers := s.viewers ++ [ws]
        viewerSockets := Function.update s.viewerSockets ws (some .opened) }) s.streaming)
    split
    · next ready =>
      obtain ⟨some, held, opened⟩ := opened_of_agentReady ((Bool.and_eq_true _ _).mp ready).1
      refine informed.startAgentStream fun other found => ?_
      rwa [← Option.some.inj (held.symm.trans found)]
    · exact informed

theorem Kept.sendPlain (kept : Kept s)
    (plain : Control.ofType type = none) (ws : Nat) : Kept (s.sendAgent ws type) := by
  unfold State.sendAgent
  split
  · refine ⟨⟨?_, fun other => ?_, kept.steady.viewers⟩, fun other => ?_, fun other => ?_,
      kept.present⟩
    · dsimp only
      simp only [controls_cons_of_none plain]
      exact kept.steady.streaming
    · dsimp only
      rw [controls_cons_of_none plain]
      exact kept.steady.alternates other
    · dsimp only
      rw [controls_cons_of_none plain]
      exact kept.stopped other
    · dsimp only
      rw [controls_cons_of_none plain]
      exact kept.fresh other
  · exact kept

theorem Kept.handleViewerMessage (kept : Kept s) {message : ViewerMessage}
    (plain : ∀ eventType kind, message = .input eventType kind →
      Control.ofType (inputType eventType kind) = none) :
    Kept (s.handleViewerMessage message) := by
  cases message with
  | stop => exact kept.stopAgentStream _
  | input eventType kind =>
    unfold State.handleViewerMessage
    dsimp only
    split
    · exact kept.sendPlain (plain eventType kind rfl) _
    · exact kept
  | other => exact kept

theorem Kept.scheduleIdleClose (kept : Kept s) : Kept s.scheduleIdleClose :=
  kept.congr rfl rfl rfl rfl kept.steady.viewers

theorem Kept.handleViewerClose (kept : Kept s) (ws : Nat) :
    Kept (s.handleViewerClose ws) := by
  have closed : Kept { s with
      viewers := s.viewers.filter (· ≠ ws)
      viewerSockets := Function.update s.viewerSockets ws (some .closed) } :=
    kept.congr rfl rfl rfl rfl (Nat.le_trans (List.length_filter_le _ _) kept.steady.viewers)
  unfold State.handleViewerClose
  dsimp only
  split
  · exact (closed.stopAgentStream _).scheduleIdleClose
  · exact closed

theorem Kept.handleIdleTimeout (kept : Kept s) : Kept s.handleIdleTimeout := by
  have fired : Kept { s with idleTimer := false } :=
    kept.congr rfl rfl rfl rfl kept.steady.viewers
  unfold State.handleIdleTimeout
  dsimp only
  split
  · split
    · exact fired.closeAgent _
    · exact fired
  · exact fired

variable {label : Label}

theorem Kept.step (kept : Kept s) (plain : PlainInput label)
    (taken : s.step label = some after) : Kept after := by
  have known {ws : Nat}
      (here : s.agentSockets ws = some .opened ∨ s.agentSockets ws = some .closing) :
      s.agentSockets ws ≠ none := by
    rcases here with is | is <;> exact is ▸ Option.some_ne_none _
  cases label with
  | agentConnects ws =>
    obtain ⟨missing, same⟩ := Option.ite_none_right_eq_some.mp taken
    exact Option.some.inj same ▸ kept.handleAgentConnection missing
  | agentSends ws message =>
    obtain ⟨-, same⟩ := Option.ite_none_right_eq_some.mp taken
    exact Option.some.inj same ▸ kept.handleAgentMessage ws message
  | agentLeaves ws =>
    obtain ⟨-, same⟩ := Option.ite_none_right_eq_some.mp taken
    exact Option.some.inj same ▸ kept.closeAgent ws
  | agentClosed ws =>
    obtain ⟨here, same⟩ := Option.ite_none_right_eq_some.mp taken
    exact Option.some.inj same ▸ kept.handleAgentClose (known here)
  | viewerConnects ws =>
    obtain ⟨-, same⟩ := Option.ite_none_right_eq_some.mp taken
    exact Option.some.inj same ▸ kept.handleViewerConnection ws
  | viewerSends ws message =>
    obtain ⟨-, same⟩ := Option.ite_none_right_eq_some.mp taken
    refine Option.some.inj same ▸ kept.handleViewerMessage fun eventType kind is => ?_
    exact plain ws eventType kind (by rw [is])
  | viewerLeaves ws =>
    obtain ⟨-, same⟩ := Option.ite_none_right_eq_some.mp taken
    exact Option.some.inj same ▸ kept.congr rfl rfl rfl rfl kept.steady.viewers
  | viewerClosed ws =>
    obtain ⟨-, rfl⟩ := of_guard taken
    split
    · exact kept.handleViewerClose ws
    · exact kept.congr rfl rfl rfl rfl kept.steady.viewers
  | idleTimeout =>
    obtain ⟨-, same⟩ := Option.ite_none_right_eq_some.mp taken
    exact Option.some.inj same ▸ kept.handleIdleTimeout

/-! ### Frames -/

namespace Attached

variable {s : State}

theorem broadcast (attached : Attached s) {message : ToViewer}
    (current : ∀ ws, message.source = some ws → s.agentWs = some ws ∨ s.openViewers = []) :
    Attached (s.broadcast message) := by
  intro delivery member ws source
  rcases List.mem_append.mp member with new | old
  · obtain ⟨viewer, isOpen, rfl⟩ := List.mem_map.mp (List.mem_reverse.mp new)
    rcases current ws source with held | nobody
    · exact held
    · rw [nobody] at isOpen
      exact absurd isOpen List.not_mem_nil
  · exact attached delivery old ws source

/-- What the relay says of its own comes from no agent. -/
theorem notice (attached : Attached s) {message : ToViewer} (own : message.source = none) :
    Attached (s.broadcast message) := by
  refine attached.broadcast fun ws source => ?_
  rw [own] at source
  exact (Option.some_ne_none ws source.symm).elim

theorem sendAgent (attached : Attached s) (ws : Nat) (type : String) :
    Attached (s.sendAgent ws type) := by
  unfold State.sendAgent
  split <;> exact attached

theorem sendViewer (attached : Attached s) (ws : Nat) {message : ToViewer}
    (own : message.source = none) : Attached (s.sendViewer ws message) := by
  unfold State.sendViewer
  split
  · intro delivery member source is
    rcases List.mem_cons.mp member with rfl | old
    · rw [own] at is
      exact (Option.some_ne_none source is.symm).elim
    · exact attached delivery old source is
  · exact attached

theorem closeAgent (attached : Attached s) (ws : Nat) : Attached (s.closeAgent ws) := by
  unfold State.closeAgent
  split <;> exact attached

theorem attachAgent (attached : Attached s) (ws : Nat) : Attached (s.attachAgent ws) := by
  unfold State.attachAgent
  dsimp only
  split
  · next old _ => exact attached.closeAgent old
  · exact attached

theorem scheduleIdleClose (attached : Attached s) : Attached s.scheduleIdleClose := attached

theorem startAgentStream (attached : Attached s) : Attached s.startAgentStream := by
  unfold State.startAgentStream
  split
  · exact attached
  · next ws _ =>
    split
    · exact attached
    · have started : Attached { s with streaming := true, idleTimer := false } := attached
      exact (started.sendAgent ws "start").notice rfl

theorem stopAgentStream (attached : Attached s) (reason : String) :
    Attached (s.stopAgentStream reason) := by
  have stopped : Attached { s with streaming := false } := attached
  unfold State.stopAgentStream
  split
  · dsimp only
    split
    · next ws _ => exact (stopped.sendAgent ws "stop").notice rfl
    · exact stopped.notice rfl
  · exact attached

theorem step (attached : Attached s)
    (current : FromAttached s label) (taken : s.step label = some after) : Attached after := by
  cases label with
  | agentConnects ws =>
    obtain ⟨-, rfl⟩ := of_guard taken
    have told := @notice _ (attached.attachAgent ws) .agentReady rfl
    unfold State.handleAgentConnection
    dsimp only
    split
    · exact told.startAgentStream
    · exact told.scheduleIdleClose
  | agentSends ws message =>
    obtain ⟨-, rfl⟩ := of_guard taken
    unfold State.handleAgentMessage
    split
    · next forwarded is =>
      have source (other : Nat) (from' : forwarded.source = some other) : other = ws := by
        cases message with
        | binary data =>
          obtain ⟨-, rfl⟩ := of_guard_not is
          exact (Option.some.inj from').symm
        | text type =>
          obtain ⟨-, rfl⟩ := of_guard is
          exact (Option.some.inj from').symm
      refine attached.broadcast fun other from' => ?_
      rw [source other from']
      exact current ws message rfl (by rw [is]; exact Option.some_ne_none _)
    · exact attached
  | agentLeaves ws =>
    obtain ⟨-, same⟩ := Option.ite_none_right_eq_some.mp taken
    exact Option.some.inj same ▸ attached.closeAgent ws
  | agentClosed ws =>
    obtain ⟨-, rfl⟩ := of_guard taken
    unfold State.handleAgentClose
    dsimp only
    split
    · have detached : Attached { s with
          agentWs := none
          streaming := false
          idleTimer := false
          agentSockets := Function.update s.agentSockets ws (some .closed) } := attached
      exact detached.notice rfl
    · exact attached
  | viewerConnects ws =>
    obtain ⟨-, rfl⟩ := of_guard taken
    unfold State.handleViewerConnection
    split
    · exact attached
    · dsimp only
      have informed (ready streaming : Bool) := @sendViewer { s with
        viewers := s.viewers ++ [ws]
        viewerSockets := Function.update s.viewerSockets ws (some .opened) } attached ws
        (.sessionInfo ready streaming) rfl
      split
      · exact startAgentStream (informed _ _)
      · exact informed _ _
  | viewerSends ws message =>
    obtain ⟨-, rfl⟩ := of_guard taken
    cases message with
    | stop => exact attached.stopAgentStream _
    | input eventType kind =>
      unfold State.handleViewerMessage
      dsimp only
      split
      · exact attached.sendAgent _ _
      · exact attached
    | other => exact attached
  | viewerLeaves ws =>
    obtain ⟨-, same⟩ := Option.ite_none_right_eq_some.mp taken
    exact Option.some.inj same ▸ attached
  | viewerClosed ws =>
    obtain ⟨-, rfl⟩ := of_guard taken
    split
    · unfold State.handleViewerClose
      dsimp only
      have closed : Attached { s with
          viewers := s.viewers.filter (· ≠ ws)
          viewerSockets := Function.update s.viewerSockets ws (some .closed) } := attached
      split
      · exact (closed.stopAgentStream _).scheduleIdleClose
      · exact closed
    · exact attached
  | idleTimeout =>
    obtain ⟨-, rfl⟩ := of_guard taken
    unfold State.handleIdleTimeout
    dsimp only
    have fired : Attached { s with idleTimer := false } := attached
    split
    · split
      · exact fired.closeAgent _
      · exact fired
    · exact fired

end Attached

/-! ### Runs -/

theorem streaming_startAgentStream (held : s.agentWs = some ws) :
    s.startAgentStream.streaming = true := by
  unfold State.startAgentStream
  split
  · next missing => exact (Option.some_ne_none ws (held.symm.trans missing)).elim
  · split
    · next on => exact on
    · unfold State.broadcast State.sendAgent
      dsimp only
      split <;> rfl

theorem sendViewer_fields (s : State) (ws : Nat) (message : ToViewer) :
    (s.sendViewer ws message).agentWs = s.agentWs ∧
      (s.sendViewer ws message).agentReady = s.agentReady := by
  unfold State.sendViewer
  split <;> exact ⟨rfl, rfl⟩

/-- A viewer that is let in finds the stream running or has it started. -/
theorem started_of_step (taken : s.step label = some after) :
    Started s label after := by
  rintro ws rfl absent joined ready
  obtain ⟨-, rfl⟩ := of_guard taken
  unfold State.handleViewerConnection at joined ⊢
  by_cases full : maxViewers ≤ s.viewers.length
  · rw [if_pos full] at joined
    exact absurd joined absent
  · rw [if_neg full]
    dsimp only
    obtain ⟨attached, informed⟩ := sendViewer_fields { s with
      viewers := s.viewers ++ [ws]
      viewerSockets := Function.update s.viewerSockets ws (some .opened) } ws
      (.sessionInfo (State.agentReady { s with
        viewers := s.viewers ++ [ws]
        viewerSockets := Function.update s.viewerSockets ws (some .opened) }) s.streaming)
    obtain ⟨agent, held, -⟩ := opened_of_agentReady ready
    split
    · exact streaming_startAgentStream (attached.trans held)
    · next idle =>
      by_contra off
      exact idle ((Bool.and_eq_true _ _).mpr ⟨informed.trans ready,
        (Bool.not_eq_true' _).mpr (eq_false_of_ne_true off)⟩)

/-- In every run in which no agent but the attached one has anything forwarded, and no input event
passes for a control, the stream is running only if its agent was told to start last, each agent is
told to start and to stop in turn, at most five viewers are attached, a viewer that joins an open
agent finds the stream running, and frames come from the attached agent. -/
theorem steady_of_attached {s : State}
    (reached : ReachableWhen system (fun s label => FromAttached s label ∧ PlainInput label) s) :
    Steady s ∧ Attached s ∧ ∀ label after, system.step s label = some after →
      Started s label after := by
  have kept : Kept s ∧ Attached s := by
    refine reached.invariant (fun s => Kept s ∧ Attached s) ?_ ?_
    · rintro start rfl
      refine ⟨⟨⟨fun off => absurd off Bool.false_ne_true, fun _ => trivial, Nat.zero_le _⟩,
        fun ws held => ?_, fun _ _ => rfl, fun ws held => ?_⟩, fun _ member => ?_⟩
      · exact (Option.some_ne_none ws held.symm).elim
      · exact (Option.some_ne_none ws held.symm).elim
      · exact absurd member List.not_mem_nil
    · rintro before label after ⟨kept, attached⟩ ⟨current, plain⟩ taken
      exact ⟨kept.step plain taken, attached.step current taken⟩
  exact ⟨kept.1.steady, kept.2, fun label after taken => started_of_step taken⟩

/-! ### A replaced agent -/

def idle : State := ⟨none, [], false, false, fun _ => none, fun _ => none, [], []⟩

/-- A viewer receives a frame of an agent that was replaced. -/
theorem replaced_agent_forwards :
    ∃ s, ReachableWhen system (fun _ label => PlainInput label) s ∧ ¬ Attached s := by
  have plain (label : Label) (other : ∀ ws eventType kind, label ≠ .viewerSends ws
      (.input eventType kind)) : PlainInput label :=
    fun ws eventType kind same => absurd same (other ws eventType kind)
  have start : ReachableWhen system (fun _ label => PlainInput label) idle := .start rfl
  have viewer := ReachableWhen.step start (plain (.viewerConnects 1) fun _ _ _ => Label.noConfusion)
    (show system.step idle _ = some _ from rfl)
  have first := ReachableWhen.step viewer (plain (.agentConnects 1) fun _ _ _ => Label.noConfusion)
    (show system.step _ _ = some _ from rfl)
  have second := ReachableWhen.step first (plain (.agentConnects 2) fun _ _ _ => Label.noConfusion)
    (show system.step _ _ = some _ from rfl)
  have frame := ReachableWhen.step second
    (plain (.agentSends 1 (.binary [7])) fun _ _ _ => Label.noConfusion)
    (show system.step _ _ = some _ from rfl)
  refine ⟨_, frame, fun attached => ?_⟩
  have held : some 2 = some 1 := attached ⟨1, .frame 1 [7], some 2⟩ (by decide) 1 rfl
  exact absurd held (by decide)

/-- An agent that finds a viewer waiting. -/
theorem steady_of_attached_waiting :
    ∃ s, s.streaming = true ∧ Steady s ∧ Attached s ∧ ∀ label after,
      system.step s label = some after → Started s label after := by
  have quiet (s : State) (label : Label) (noAgent : ∀ ws message, label ≠ .agentSends ws message)
      (noViewer : ∀ ws message, label ≠ .viewerSends ws message) :
      FromAttached s label ∧ PlainInput label :=
    ⟨fun ws message same => absurd same (noAgent ws message),
      fun ws eventType kind same => absurd same (noViewer ws (.input eventType kind))⟩
  have start : ReachableWhen system (fun s label => FromAttached s label ∧ PlainInput label) idle :=
    .start rfl
  have viewer := ReachableWhen.step start
    (quiet idle (.viewerConnects 1) (fun _ _ => Label.noConfusion) fun _ _ => Label.noConfusion)
    (show system.step idle _ = some _ from rfl)
  have agent := ReachableWhen.step viewer
    (quiet _ (.agentConnects 1) (fun _ _ => Label.noConfusion) fun _ _ => Label.noConfusion)
    (show system.step _ _ = some _ from rfl)
  exact ⟨_, by decide, steady_of_attached agent⟩

end SovaDesk.Console.RemoteRelay
