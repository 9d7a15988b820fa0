/-
This file says when the newest connection of a mesh agent stays registered.

A registration takes the agent that it finds under the peer ID out of the table,
disconnects it and stores its own connection; the ID that a connection is disconnected
under is noted on it only afterwards. A disconnection deletes whatever the table has
under the ID and sets the peer offline, also when a registration disconnects the agent it
replaces, right after it has marked the peer online. A connection stays registered as
long as what is deleted and overwritten belongs to connections that are closed, and no
peer is set offline that another connection has marked online.
-/

import SovaDesk.Meshcentral.Registry

namespace SovaDesk.Meshcentral.Agents

open Interleave Transition

/-! ### Connections -/

/-- A connection that completes the handshake. -/
structure Handshaken where
  meshNodeID : String
  meshGroupID : String
  clientIP : String
  hostname : String
  deriving DecidableEq

def Handshaken.conn (agent : Handshaken) : AgentConn where
  meshNodeID := agent.meshNodeID
  meshGroupID := agent.meshGroupID
  clientIP := agent.clientIP
  hostname := agent.hostname

/-- The handler of a connection: it registers the agent, reads until that fails, and closes. -/
def handleAgentWS (outside : Outside) (agent : Handshaken) : Steps Unit :=
  .call (.accept agent.conn) fun
  | none => .done ()
  | some conn =>
    (tryCompleteAuth outside conn agent.conn).bind fun _ =>
      perform (.readFails conn) <| disconnect conn conn (.done ())

/-- The observer's register: the connection of each handler; the connections that wrote their
status, were stored, have finished registering, and are left by their handler; whom a registration
is about to disconnect; and whose disconnection set a peer offline last. -/
structure Register where
  conns : Table Nat Nat := ∅
  online : List Nat := []
  stored : List Nat := []
  finished : List Nat := []
  left : List Nat := []
  closing : Table Nat Nat := ∅
  offlineBy : Table String Nat := ∅

/-- A row of an ID that is deleted keeps its status. -/
def Register.note (thread : Nat) (shared : Shared) (register : Register) :
    (call : Call) → Option call.Answer → Register
  | .accept _, some conn => { register with conns := register.conns.insert thread conn }
  | .readFails conn, _ => { register with left := conn :: register.left }
  | .upsertPeer row, some _ => { register with offlineBy := register.offlineBy.erase row.id }
  | .updatePeerStatus conn id status _, answer =>
    if status = statusOnline then
      { register with
        online := conn :: register.online
        offlineBy := if answer.isSome then register.offlineBy.erase id else register.offlineBy }
    else if answer.isSome ∧ (shared.db.getPeer id).isSome then
      { register with offlineBy := register.offlineBy.insert id conn }
    else register
  | .loadAndDeleteAgent conn _, some (some old) =>
    { register with closing := register.closing.insert conn old }
  | .storeAgent _ conn, _ => { register with stored := conn :: register.stored }
  | .closeConn caller _, _ => { register with closing := register.closing.erase caller }
  | .setPeerID conn _, _ => { register with finished := conn :: register.finished }
  | _, _ => register

def noting : Observer gateway Handshaken Unit Register where
  began _ _ register := register
  called thread _ call answer shared register := register.note thread shared call answer
  ended _ _ _ register := register

abbrev AgentPool := Pool gateway Handshaken Unit Register

/-- The calls that cannot fail: those on memory. -/
def Call.inMemory : Call → Bool
  | .upsertPeer _ | .updatePeerStatus _ _ _ _ | .setConfig _ _ | .listPeers | .linkPeer _ _ => false
  | _ => true

/-- A failure of a call on memory cannot happen. -/
def Possible (pool : AgentPool) : Interleave.Label Handshaken → Prop
  | .begin _ _ => True
  | .turn thread fails => fails = true → ∀ call ∈ pool.nextCall thread, Call.inMemory call.2 = false

instance (pool : AgentPool) :
    (label : Interleave.Label Handshaken) → Decidable (Possible pool label)
  | .begin _ _ => .isTrue trivial
  | .turn _ _ => inferInstanceAs (Decidable (_ = true → ∀ call ∈ _, _ = false))

/-- Any number of connections at a gateway that has just started, over any tables. -/
def serving (outside : Outside) : System AgentPool (Interleave.Label Handshaken) :=
  (interleaving (handleAgentWS outside) noting fun shared register =>
    shared.conns = ∅ ∧ shared.agents = ∅ ∧ register = {}).restrict Possible

/-! ### The newest connection -/

/-- The node of a connection, and whether it is closed. -/
def Shared.view (shared : Shared) (conn : Nat) : Option (String × Bool) :=
  (shared.conns.lookup conn).map fun ac => (ac.meshNodeID, ac.closed)

def Shared.isClosed (shared : Shared) (conn : Nat) : Bool := (shared.view conn).any (·.2)

/-- The newest connection of a node stays registered: one that has finished registering and is open
while all others of its node are closed is the agent of the peer, and the peer was not set offline
by the disconnection of another. -/
def NewestStays (pool : AgentPool) : Prop :=
  ∀ conn ac, pool.store.conns.lookup conn = some ac → conn ∈ pool.ghost.finished →
    ac.closed = false →
    (∀ other another, pool.store.conns.lookup other = some another → other ≠ conn →
      another.meshNodeID = ac.meshNodeID → another.closed = true) →
    pool.store.agents.lookup (meshPeerID ac.meshNodeID) = some conn ∧
      ∀ other ∈ pool.ghost.offlineBy.lookup (meshPeerID ac.meshNodeID), other = conn

/-- Two connections are of one node. -/
def Shared.sameNode (shared : Shared) (conn other : Nat) : Bool :=
  (shared.view conn).map (·.1) == (shared.view other).map (·.1)

/-- A connection is of the peer with an ID. -/
def Shared.isOf (shared : Shared) (id : String) (conn : Nat) : Bool :=
  (shared.view conn).any fun seen => meshPeerID seen.1 == id

/-- The condition on a call: a registration finds an agent of its own node, or one that is closed,
and stores its connection over none but one that is closed; what a disconnection deletes is its own
connection or one that is closed; a peer is set offline only where no other open connection has
marked it online; and a status that fails to be marked online is not offline. -/
def CallKeeps (shared : Shared) (register : Register) (fails : Bool) : Call → Prop
  | .loadAndDeleteAgent conn id => ∀ other ∈ shared.agents.lookup id,
    shared.isClosed other = true ∨ shared.sameNode conn other = true
  | .storeAgent id _ => ∀ other ∈ shared.agents.lookup id, shared.isClosed other = true
  | .deleteAgent conn id => ∀ other ∈ shared.agents.lookup id,
    shared.isClosed other = true ∨ other = conn
  | .updatePeerStatus conn id status _ =>
    if status = statusOnline then fails = true → register.offlineBy.lookup id = none
    else fails = false → (shared.db.getPeer id).isSome = true → ∀ other ∈ register.online,
      shared.isOf id other = true → shared.isClosed other = true ∨ other = conn
  | _ => True

instance (shared : Shared) (register : Register) (fails : Bool) :
    (call : Call) → Decidable (CallKeeps shared register fails call)
  | .loadAndDeleteAgent _ _ => inferInstanceAs (Decidable (∀ _ ∈ _, _ = _ ∨ _ = _))
  | .storeAgent _ _ => inferInstanceAs (Decidable (∀ _ ∈ _, _ = _))
  | .deleteAgent _ _ => inferInstanceAs (Decidable (∀ _ ∈ _, _ = _ ∨ _ = _))
  | .updatePeerStatus _ _ status _ =>
    inferInstanceAs (Decidable (if status = statusOnline then _ = _ → _ = _
      else _ = _ → _ = _ → ∀ _ ∈ _, _ = _ → _ = _ ∨ _ = _))
  | .accept _ | .readFails _ | .upsertPeer _ | .setConfig _ _ | .takePeerID _ | .closeConn _ _
  | .listPeers | .linkPeer _ _ | .setPeerID _ _ => .isTrue trivial

/-- The steps of a run all of whose calls keep the newest connections. -/
def StepsKeep (pool : AgentPool) : Interleave.Label Handshaken → Prop
  | .begin _ _ => True
  | .turn thread fails => ∀ call ∈ pool.nextCall thread,
      CallKeeps pool.store pool.ghost fails call.2

instance (pool : AgentPool) :
    (label : Interleave.Label Handshaken) → Decidable (StepsKeep pool label)
  | .begin _ _ => .isTrue trivial
  | .turn _ _ => inferInstanceAs (Decidable (∀ call ∈ _, CallKeeps _ _ _ _))

/-! ### What is kept -/

variable {about : Nat} {call : Call}

section kept

variable {shared after : Shared} {register noted : Register} {thread conn : Nat} {node : String}

/-- What holds of the connections and the register. -/
structure Sound (shared : Shared) (register : Register) : Prop where
  accepted : ∀ conn, (shared.view conn).isSome = true → conn < shared.nextConn
  handled : ∀ thread conn, register.conns.lookup thread = some conn →
    (shared.view conn).isSome = true
  single : ∀ thread other conn, register.conns.lookup thread = some conn →
    register.conns.lookup other = some conn → thread = other
  known : ∀ conn, conn ∈ register.stored ∨ conn ∈ register.left ∨ conn ∈ register.online ∨
    (register.closing.lookup conn).isSome = true → (shared.view conn).isSome = true
  closed : ∀ conn, shared.isClosed conn = true → conn ∈ register.stored ∨ conn ∈ register.left
  gone : ∀ conn ∈ register.left, shared.isClosed conn = true
  agents : ∀ id conn, shared.agents.lookup id = some conn → conn ∈ register.stored
  closing : ∀ conn old, register.closing.lookup conn = some old →
    conn ∉ register.stored ∧ conn ∉ register.left ∧ old ∈ register.stored ∧
      (shared.isClosed old = true ∨ shared.sameNode conn old = true)
  stays : ∀ id conn, conn ∈ register.stored → shared.isClosed conn = false →
    shared.isOf id conn = true →
    shared.agents.lookup id = some conn ∨ ∃ other, register.closing.lookup other = some conn
  online : ∀ id conn, conn ∈ register.online → shared.isClosed conn = false →
    shared.isOf id conn = true → ∀ other ∈ register.offlineBy.lookup id, other = conn
  finished : ∀ conn ∈ register.finished, conn ∈ register.stored ∧ conn ∈ register.online

/-- How far a handler has got with its connection: whether it wrote its status, was stored and is
left, and whom it is about to disconnect. -/
structure Phase where
  online : Bool := false
  stored : Bool := false
  left : Bool := false
  closing : Option Nat := none
  deriving DecidableEq

def Register.phase (register : Register) (conn : Nat) : Phase where
  online := decide (conn ∈ register.online)
  stored := decide (conn ∈ register.stored)
  left := decide (conn ∈ register.left)
  closing := register.closing.lookup conn

/-- A handler has a connection of a node, and has got to a phase with it. -/
structure At (thread conn : Nat) (node : String) (phase : Phase) (shared : Shared)
    (register : Register) : Prop where
  handles : register.conns.lookup thread = some conn
  node : (shared.view conn).map (·.1) = some node
  phase : register.phase conn = phase

/-- What a handler expects of the others: they leave its connection as far as it is. -/
def minding : Rely gateway Register where
  allows thread shared register after noted :=
    noted.conns.lookup thread = register.conns.lookup thread ∧
      ∀ conn, register.conns.lookup thread = some conn →
        noted.phase conn = register.phase conn ∧
          (after.view conn).map (·.1) = (shared.view conn).map (·.1)
  refl _ _ _ := ⟨rfl, fun _ _ => ⟨rfl, rfl⟩⟩
  trans first second := ⟨second.1.trans first.1, fun conn handles =>
    ⟨(second.2 conn (first.1.trans handles)).1.trans (first.2 conn handles).1,
      (second.2 conn (first.1.trans handles)).2.trans (first.2 conn handles).2⟩⟩

theorem At.later {phase : Phase} (standing : At thread conn node phase shared register)
    (changed : minding.allows thread shared register after noted) :
    At thread conn node phase after noted :=
  ⟨changed.1.trans standing.handles, (changed.2 conn standing.handles).2.trans standing.node,
    (changed.2 conn standing.handles).1.trans standing.phase⟩

/-- What a handler that has got to a phase knows of its next call. -/
def Known (conn : Nat) (node : String) (phase : Phase) : Call → Prop
  | .accept _ => False
  | .readFails other => other = conn ∧ phase.closing = none
  | .updatePeerStatus other id status _ =>
    status = statusOnline → other = conn ∧ id = meshPeerID node
  | .loadAndDeleteAgent other _ =>
    other = conn ∧ phase.stored = false ∧ phase.left = false ∧ phase.closing = none
  | .storeAgent id other => other = conn ∧ id = meshPeerID node ∧ phase.closing = none
  | .deleteAgent other _ => (other = conn ∧ phase.left = true) ∨ phase.closing = some other
  | .closeConn caller other => caller = conn ∧
    ((other = conn ∧ phase.left = true ∧ phase.closing = none) ∨ phase.closing = some other)
  | .setPeerID other _ => other = conn ∧ phase.stored = true ∧ phase.online = true
  | .upsertPeer _ | .setConfig _ _ | .takePeerID _ | .listPeers | .linkPeer _ _ => True

/-- The phase after a call. -/
def Phase.next (phase : Phase) : (call : Call) → Option call.Answer → Phase
  | .readFails _, _ => { phase with left := true }
  | .updatePeerStatus _ _ status _, _ =>
    if status = statusOnline then { phase with online := true } else phase
  | .loadAndDeleteAgent _ _, some (some old) => { phase with closing := some old }
  | .storeAgent _ _, _ => { phase with stored := true }
  | .closeConn _ _, _ => { phase with closing := none }
  | _, _ => phase

theorem view_update (shared : Shared) (other : Nat) (change : AgentConn → AgentConn)
    (keeps : ∀ ac, ((change ac).meshNodeID, (change ac).closed) = (ac.meshNodeID, ac.closed)) :
    Shared.view { shared with conns := shared.conns.update other change } = shared.view := by
  funext conn
  unfold Shared.view
  dsimp only
  rw [Table.lookup_update]
  split
  · next same =>
    rw [same, Option.map_map]
    exact congrArg (fun read => (shared.conns.lookup other).map read) (funext keeps)
  · rfl

/-- Closing a connection changes its view alone. -/
theorem view_close (shared : Shared) (other conn : Nat) :
    Shared.view { shared with
        conns := shared.conns.update other fun ac => { ac with closed := true } } conn =
      if conn = other then (shared.view conn).map fun seen => (seen.1, true)
      else shared.view conn := by
  unfold Shared.view
  dsimp only
  rw [Table.lookup_update]
  split
  · next same =>
    rw [same, Option.map_map, Option.map_map]
    rfl
  · rfl

/-- A connection is closed. -/
def Shared.close (shared : Shared) (conn : Nat) : Shared :=
  { shared with conns := shared.conns.update conn fun ac => { ac with closed := true } }

theorem isSome_view_close (shared : Shared) (closed other : Nat) :
    ((shared.close closed).view other).isSome = (shared.view other).isSome := by
  rw [Shared.close, view_close]
  split
  · rw [Option.isSome_map]
  · rfl

theorem node_close (shared : Shared) (closed other : Nat) :
    ((shared.close closed).view other).map (·.1) = (shared.view other).map (·.1) := by
  rw [Shared.close, view_close]
  split
  · rw [Option.map_map, Function.comp_def]
  · rfl

theorem isOf_close (shared : Shared) (closed : Nat) (id : String) (other : Nat) :
    (shared.close closed).isOf id other = shared.isOf id other := by
  unfold Shared.isOf
  rw [Shared.close, view_close]
  split
  · rw [Option.any_map]
  · rfl

theorem sameNode_close (shared : Shared) (closed conn other : Nat) :
    (shared.close closed).sameNode conn other = shared.sameNode conn other := by
  rw [Shared.sameNode, node_close, node_close, Shared.sameNode]

variable {other : Nat}

theorem isClosed_close_iff {closed : Nat} :
    (shared.close closed).isClosed other = true ↔
      shared.isClosed other = true ∨ (other = closed ∧ (shared.view other).isSome = true) := by
  unfold Shared.isClosed
  rw [Shared.close, view_close]
  by_cases same : other = closed
  · rw [if_pos same, Option.any_map, and_iff_right same]
    cases shared.view other with
    | none => simp only [Option.any_none, Option.isSome_none, or_self]
    | some seen => simp only [Option.any_some, Option.isSome_some, or_true]
  · rw [if_neg same]
    exact ⟨.inl, fun isClosed => isClosed.resolve_right fun both => same both.1⟩

theorem isOpen_of_close {closed : Nat}
    (isOpen : (shared.close closed).isClosed other = false) : shared.isClosed other = false := by
  by_contra isClosed
  have later : (shared.close closed).isClosed other = true :=
    isClosed_close_iff.mpr (.inl (Bool.not_eq_false _ ▸ isClosed))
  exact absurd (later.symm.trans isOpen) (by decide)

/-- What is kept depends on the views, the agents and the register only. -/
theorem Sound.same (sound : Sound shared register) (view : after.view = shared.view)
    (agents : after.agents = shared.agents) (nextConn : after.nextConn = shared.nextConn) :
    Sound after register := by
  have isClosed (conn : Nat) : after.isClosed conn = shared.isClosed conn := by
    rw [Shared.isClosed, view, Shared.isClosed]
  have isOf (id : String) (conn : Nat) : after.isOf id conn = shared.isOf id conn := by
    rw [Shared.isOf, view, Shared.isOf]
  have sameNode (conn other : Nat) : after.sameNode conn other = shared.sameNode conn other := by
    rw [Shared.sameNode, view, Shared.sameNode]
  constructor
  · rw [view, nextConn]
    exact sound.accepted
  · rw [view]
    exact sound.handled
  · exact sound.single
  · rw [view]
    exact sound.known
  · simp only [isClosed]
    exact sound.closed
  · simp only [isClosed]
    exact sound.gone
  · rw [agents]
    exact sound.agents
  · simp only [isClosed, sameNode]
    exact sound.closing
  · simp only [isClosed, isOf, agents]
    exact sound.stays
  · simp only [isClosed, isOf]
    exact sound.online
  · exact sound.finished

/-- A step takes a handler's connection to a phase, and leaves all others as far as they are. -/
structure Moves (conn : Nat) (phase : Phase) (shared : Shared) (register : Register)
    (after : Shared) (noted : Register) : Prop where
  conns : noted.conns = register.conns
  nodes : ∀ other, (after.view other).map (·.1) = (shared.view other).map (·.1)
  own : noted.phase conn = phase
  others : ∀ other, other ≠ conn → noted.phase other = register.phase other

theorem Moves.refl (conn : Nat) (shared : Shared) (register : Register) :
    Moves conn (register.phase conn) shared register shared register :=
  ⟨rfl, fun _ => rfl, rfl, fun _ _ => rfl⟩

theorem Moves.standing {phase before : Phase} (moves : Moves conn phase shared register after noted)
    (standing : At thread conn node before shared register) :
    At thread conn node phase after noted :=
  ⟨moves.conns ▸ standing.handles, (moves.nodes conn).trans standing.node, moves.own⟩

theorem Moves.allows {phase before : Phase} (moves : Moves conn phase shared register after noted)
    (sound : Sound shared register) (standing : At thread conn node before shared register)
    (different : other ≠ thread) :
    minding.allows other shared register after noted := by
  refine ⟨congrArg (AList.lookup other) moves.conns, fun another handles =>
    ⟨?_, moves.nodes another⟩⟩
  refine moves.others another fun same => different ?_
  exact sound.single other thread conn (same ▸ handles) standing.handles

theorem decide_mem_cons_of_ne (different : other ≠ conn) (listed : List Nat) :
    decide (other ∈ conn :: listed) = decide (other ∈ listed) :=
  decide_eq_decide.mpr ⟨fun member => (List.mem_cons.mp member).resolve_left different,
    List.mem_cons_of_mem conn⟩

section

variable {phase : Phase} (standing : At thread conn node phase shared register)

include standing

/-- What a handler has got to of a connection is what the register says. -/
theorem At.stored : phase.stored = true ↔ conn ∈ register.stored := by
  rw [← standing.phase]
  exact decide_eq_true_iff

theorem At.left : phase.left = true ↔ conn ∈ register.left := by
  rw [← standing.phase]
  exact decide_eq_true_iff

theorem At.online : phase.online = true ↔ conn ∈ register.online := by
  rw [← standing.phase]
  exact decide_eq_true_iff

theorem At.closing : phase.closing = register.closing.lookup conn := by
  rw [← standing.phase]
  rfl

theorem At.isOf_iff (id : String) : shared.isOf id conn = true ↔ id = meshPeerID node := by
  obtain ⟨seen, found, same⟩ := Option.map_eq_some_iff.mp standing.node
  rw [Shared.isOf, found, Option.any_some, same, beq_iff_eq, eq_comm]

theorem At.present : (shared.view conn).isSome = true := by
  obtain ⟨seen, found, _⟩ := Option.map_eq_some_iff.mp standing.node
  rw [found]
  rfl

end

section calls

variable {phase : Phase} (sound : Sound shared register)
  (standing : At thread conn node phase shared register)

include sound standing

/-- The status is marked online. -/
theorem Sound.markOnline {offlineBy : Table String Nat}
    (known : ∀ other ∈ offlineBy.lookup (meshPeerID node), other = conn)
    (fewer : ∀ id other, offlineBy.lookup id = some other →
      register.offlineBy.lookup id = some other) :
    Sound shared { register with online := conn :: register.online, offlineBy } ∧
      Moves conn { phase with online := true } shared register shared
        { register with online := conn :: register.online, offlineBy } := by
  refine ⟨{ sound with known := ?_, online := ?_, finished := ?_ }, rfl, fun _ => rfl, ?_, ?_⟩
  · rintro other (stored | left | online | closing)
    · exact sound.known other (.inl stored)
    · exact sound.known other (.inr (.inl left))
    · rcases List.mem_cons.mp online with rfl | older
      · exact standing.present
      · exact sound.known other (.inr (.inr (.inl older)))
    · exact sound.known other (.inr (.inr (.inr closing)))
  · intro id other online isOpen isOf another found
    rcases List.mem_cons.mp online with rfl | older
    · cases (standing.isOf_iff id).mp isOf
      exact known another found
    · exact sound.online id other older isOpen isOf another (fewer id another found)
  · exact fun other finished => ⟨(sound.finished other finished).1,
      List.mem_cons_of_mem _ (sound.finished other finished).2⟩
  · rw [← standing.phase]
    simp only [Register.phase, List.mem_cons_self, decide_true]
  · intro other different
    simp only [Register.phase, decide_mem_cons_of_ne different]

/-- A row is written anew. -/
theorem Sound.upsert (id : String) :
    Sound shared { register with offlineBy := register.offlineBy.erase id } ∧
      Moves conn phase shared register shared
        { register with offlineBy := register.offlineBy.erase id } := by
  refine ⟨{ sound with online := fun id conn online isOpen isOf other found => ?_ }, rfl,
    fun _ => rfl, standing.phase, fun _ _ => rfl⟩
  exact sound.online id conn online isOpen isOf other (Table.lookup_erase_iff.mp found).2

variable {id : String}

/-- A peer is set offline, where the condition lets it be. -/
theorem Sound.markOffline (keeps : ∀ other ∈ register.online, shared.isOf id other = true →
      shared.isClosed other = true ∨ other = about) :
    Sound shared { register with offlineBy := register.offlineBy.insert id about } ∧
      Moves conn phase shared register shared
        { register with offlineBy := register.offlineBy.insert id about } := by
  refine ⟨{ sound with online := fun another other online isOpen isOf by_ found => ?_ }, rfl,
    fun _ => rfl, standing.phase, fun _ _ => rfl⟩
  rcases Table.lookup_insert_iff.mp found with ⟨rfl, rfl⟩ | ⟨_, older⟩
  · rcases keeps other online isOf with isClosed | same
    · exact absurd (isClosed.symm.trans isOpen) (by decide)
    · exact same.symm
  · exact sound.online another other online isOpen isOf by_ older

/-- A registration finishes. -/
theorem Sound.finish (stored : phase.stored = true) (online : phase.online = true) :
    Sound shared { register with finished := conn :: register.finished } ∧
      Moves conn phase shared register shared
        { register with finished := conn :: register.finished } := by
  refine ⟨{ sound with finished := fun other finished => ?_ }, rfl, fun _ => rfl, standing.phase,
    fun _ _ => rfl⟩
  rcases List.mem_cons.mp finished with rfl | older
  · exact ⟨standing.stored.mp stored, standing.online.mp online⟩
  · exact sound.finished other older

/-- A registration takes out the agent that it finds, which it is about to disconnect. -/
theorem Sound.take {old : Nat} (found : shared.agents.lookup id = some old)
    (keeps : shared.isClosed old = true ∨ shared.sameNode conn old = true)
    (stored : phase.stored = false) (left : phase.left = false) (closing : phase.closing = none) :
    Sound { shared with agents := shared.agents.erase id }
        { register with closing := register.closing.insert conn old } ∧
      Moves conn { phase with closing := some old } shared register
        { shared with agents := shared.agents.erase id }
        { register with closing := register.closing.insert conn old } := by
  have idle : register.closing.lookup conn = none := standing.closing.symm.trans closing
  refine ⟨{ sound with known := ?_, agents := ?_, closing := ?_, stays := ?_ }, rfl, fun _ => rfl,
    ?_, ?_⟩
  · rintro other (isStored | isLeft | online | isClosing)
    · exact sound.known other (.inl isStored)
    · exact sound.known other (.inr (.inl isLeft))
    · exact sound.known other (.inr (.inr (.inl online)))
    · obtain ⟨another, closes⟩ := Option.isSome_iff_exists.mp isClosing
      rcases Table.lookup_insert_iff.mp closes with ⟨rfl, _⟩ | ⟨_, older⟩
      · exact standing.present
      · exact sound.known other (.inr (.inr (.inr (Option.isSome_iff_exists.mpr ⟨_, older⟩))))
  · exact fun another other listed =>
      sound.agents another other (Table.lookup_erase_iff.mp listed).2
  · intro other closed closes
    rcases Table.lookup_insert_iff.mp closes with ⟨rfl, rfl⟩ | ⟨_, older⟩
    · exact ⟨fun isStored => Bool.false_ne_true (stored.symm.trans (standing.stored.mpr isStored)),
        fun isLeft => Bool.false_ne_true (left.symm.trans (standing.left.mpr isLeft)),
        sound.agents id closed found, keeps⟩
    · exact sound.closing other closed older
  · intro another other isStored isOpen isOf
    rcases sound.stays another other isStored isOpen isOf with listed | ⟨closer, closes⟩
    · by_cases same : another = id
      · subst same
        cases found.symm.trans listed
        exact .inr ⟨conn, AList.lookup_insert _⟩
      · exact .inl (Table.lookup_erase_iff.mpr ⟨same, listed⟩)
    · refine .inr ⟨closer, Table.lookup_insert_iff.mpr (.inr ⟨fun same => ?_, closes⟩)⟩
      rw [same, idle] at closes
      cases closes
  · rw [← standing.phase]
    simp only [Register.phase, AList.lookup_insert]
  · intro other different
    simp only [Register.phase, AList.lookup_insert_ne different]

/-- An agent is deleted, where the condition lets it be: what is deleted is closed, or is about to
be. -/
theorem Sound.delete
    (keeps : ∀ other ∈ shared.agents.lookup id, shared.isClosed other = true ∨ other = about)
    (known : (about = conn ∧ phase.left = true) ∨ phase.closing = some about) :
    Sound { shared with agents := shared.agents.erase id } register ∧
      Moves conn phase shared register { shared with agents := shared.agents.erase id }
        register := by
  refine ⟨{ sound with agents := ?_, stays := ?_ }, rfl, fun _ => rfl, standing.phase,
    fun _ _ => rfl⟩
  · exact fun another other listed =>
      sound.agents another other (Table.lookup_erase_iff.mp listed).2
  · intro another other isStored isOpen isOf
    rcases sound.stays another other isStored isOpen isOf with listed | closes
    · by_cases same : another = id
      · subst same
        rcases keeps other listed with isClosed | rfl
        · exact absurd (isClosed.symm.trans isOpen) (by decide)
        · rcases known with ⟨rfl, left⟩ | closing
          · have isClosed := sound.gone other (standing.left.mp left)
            exact absurd (isClosed.symm.trans isOpen) (by decide)
          · exact .inr ⟨conn, standing.closing.symm.trans closing⟩
      · exact .inl (Table.lookup_erase_iff.mpr ⟨same, listed⟩)
    · exact .inr closes

/-- A connection is stored over none but one that is closed. -/
theorem Sound.store (keeps : ∀ other ∈ shared.agents.lookup (meshPeerID node),
      shared.isClosed other = true) (closing : phase.closing = none) :
    Sound { shared with agents := shared.agents.insert (meshPeerID node) conn }
        { register with stored := conn :: register.stored } ∧
      Moves conn { phase with stored := true } shared register
        { shared with agents := shared.agents.insert (meshPeerID node) conn }
        { register with stored := conn :: register.stored } := by
  have idle : register.closing.lookup conn = none := standing.closing.symm.trans closing
  refine ⟨{ sound with
    known := ?_, closed := ?_, agents := ?_, closing := ?_, stays := ?_, finished := ?_ }, rfl,
    fun _ => rfl, ?_, ?_⟩
  · rintro other (isStored | isLeft | online | isClosing)
    · rcases List.mem_cons.mp isStored with rfl | older
      · exact standing.present
      · exact sound.known other (.inl older)
    · exact sound.known other (.inr (.inl isLeft))
    · exact sound.known other (.inr (.inr (.inl online)))
    · exact sound.known other (.inr (.inr (.inr isClosing)))
  · exact fun other isClosed =>
      (sound.closed other isClosed).imp (List.mem_cons_of_mem _) fun left => left
  · intro another other listed
    rcases Table.lookup_insert_iff.mp listed with ⟨_, rfl⟩ | ⟨_, older⟩
    · exact List.mem_cons_self
    · exact List.mem_cons_of_mem _ (sound.agents another other older)
  · intro other closed closes
    obtain ⟨unstored, unleft, isStored, ofNode⟩ := sound.closing other closed closes
    refine ⟨fun member => ?_, unleft, List.mem_cons_of_mem _ isStored, ofNode⟩
    rcases List.mem_cons.mp member with rfl | older
    · rw [idle] at closes
      cases closes
    · exact unstored older
  · intro another other isStored isOpen isOf
    rcases List.mem_cons.mp isStored with rfl | older
    · rw [(standing.isOf_iff another).mp isOf]
      exact .inl (AList.lookup_insert _)
    · rcases sound.stays another other older isOpen isOf with listed | closes
      · by_cases same : another = meshPeerID node
        · subst same
          exact absurd ((keeps other listed).symm.trans isOpen) (by decide)
        · exact .inl (Table.lookup_insert_iff.mpr (.inr ⟨same, listed⟩))
      · exact .inr closes
  · exact fun other finished => ⟨List.mem_cons_of_mem _ (sound.finished other finished).1,
      (sound.finished other finished).2⟩
  · rw [← standing.phase]
    simp only [Register.phase, List.mem_cons_self, decide_true]
  · intro other different
    simp only [Register.phase, decide_mem_cons_of_ne different]

/-- A handler closes the connection that it is about to disconnect, or its own. -/
theorem Sound.close {closed : Nat}
    (known : (closed = conn ∧ phase.left = true ∧ phase.closing = none) ∨
      phase.closing = some closed) :
    Sound (shared.close closed) { register with closing := register.closing.erase conn } ∧
      Moves conn { phase with closing := none } shared register (shared.close closed)
        { register with closing := register.closing.erase conn } := by
  refine ⟨{ sound with
    accepted := ?_, handled := ?_, known := ?_, closed := ?_, gone := ?_, closing := ?_
    stays := ?_, online := ?_ }, rfl, node_close shared closed, ?_, ?_⟩
  · intro other present
    exact sound.accepted other ((isSome_view_close shared closed other).symm.trans present)
  · intro other another handles
    exact (isSome_view_close shared closed another).trans (sound.handled other another handles)
  · intro other flags
    rw [isSome_view_close]
    refine sound.known other (flags.imp_right fun flags => flags.imp_right fun flags =>
      flags.imp_right fun closes => ?_)
    obtain ⟨another, found⟩ := Option.isSome_iff_exists.mp closes
    exact Option.isSome_iff_exists.mpr ⟨another, (Table.lookup_erase_iff.mp found).2⟩
  · intro other isClosed
    rcases isClosed_close_iff.mp isClosed with older | ⟨rfl, _⟩
    · exact sound.closed other older
    · rcases known with ⟨rfl, left, _⟩ | closing
      · exact .inr (standing.left.mp left)
      · exact .inl (sound.closing conn other (standing.closing.symm.trans closing)).2.2.1
  · exact fun other left => isClosed_close_iff.mpr (.inl (sound.gone other left))
  · intro other another closes
    obtain ⟨unstored, unleft, isStored, ofNode⟩ :=
      sound.closing other another (Table.lookup_erase_iff.mp closes).2
    refine ⟨unstored, unleft, isStored, ofNode.imp ?_ ?_⟩
    · exact fun isClosed => isClosed_close_iff.mpr (.inl isClosed)
    · exact (sameNode_close shared closed other another).trans
  · intro id other isStored isOpen isOf
    refine (sound.stays id other isStored (isOpen_of_close isOpen)
      ((isOf_close shared closed id other).symm.trans isOf)).imp_right ?_
    rintro ⟨closer, closes⟩
    refine ⟨closer, Table.lookup_erase_iff.mpr ⟨fun same => ?_, closes⟩⟩
    subst same
    have isClosed : (shared.close closed).isClosed other = true := by
      have closing := standing.closing.trans closes
      rcases known with ⟨_, _, none⟩ | some
      · exact absurd (none.symm.trans closing) (Option.some_ne_none other).symm
      · cases some.symm.trans closing
        exact isClosed_close_iff.mpr (.inr ⟨rfl, sound.known closed (.inl isStored)⟩)
    exact absurd (isClosed.symm.trans isOpen) (by decide)
  · intro id other online isOpen isOf
    exact sound.online id other online (isOpen_of_close isOpen)
      ((isOf_close shared closed id other).symm.trans isOf)
  · rw [← standing.phase]
    simp only [Register.phase, AList.lookup_erase]
  · intro other different
    simp only [Register.phase, AList.lookup_erase_ne different]

/-- The handler leaves its connection, which is closed from then on. -/
theorem Sound.leave (closing : phase.closing = none) :
    Sound (shared.close conn) { register with left := conn :: register.left } ∧
      Moves conn { phase with left := true } shared register (shared.close conn)
        { register with left := conn :: register.left } := by
  have idle : register.closing.lookup conn = none := standing.closing.symm.trans closing
  refine ⟨{ sound with
    accepted := ?_, handled := ?_, known := ?_, closed := ?_, gone := ?_, closing := ?_
    stays := ?_, online := ?_ }, rfl, node_close shared conn, ?_, ?_⟩
  · intro other present
    exact sound.accepted other ((isSome_view_close shared conn other).symm.trans present)
  · intro other another handles
    exact (isSome_view_close shared conn another).trans (sound.handled other another handles)
  · rintro other (stored | left | rest)
    · exact (isSome_view_close shared conn other).trans (sound.known other (.inl stored))
    · refine (isSome_view_close shared conn other).trans ?_
      rcases List.mem_cons.mp left with rfl | older
      · exact standing.present
      · exact sound.known other (.inr (.inl older))
    · exact (isSome_view_close shared conn other).trans (sound.known other (.inr (.inr rest)))
  · intro other isClosed
    rcases isClosed_close_iff.mp isClosed with older | ⟨rfl, _⟩
    · exact (sound.closed other older).imp_right (List.mem_cons_of_mem _)
    · exact .inr List.mem_cons_self
  · intro other left
    rcases List.mem_cons.mp left with rfl | older
    · exact isClosed_close_iff.mpr (.inr ⟨rfl, standing.present⟩)
    · exact isClosed_close_iff.mpr (.inl (sound.gone other older))
  · intro other another closes
    obtain ⟨unstored, unleft, isStored, ofNode⟩ := sound.closing other another closes
    refine ⟨unstored, fun left => ?_, isStored, ofNode.imp ?_ ?_⟩
    · rcases List.mem_cons.mp left with rfl | older
      · rw [idle] at closes
        cases closes
      · exact unleft older
    · exact fun isClosed => isClosed_close_iff.mpr (.inl isClosed)
    · exact (sameNode_close shared conn other another).trans
  · intro id other isStored isOpen isOf
    exact sound.stays id other isStored (isOpen_of_close isOpen)
      ((isOf_close shared conn id other).symm.trans isOf)
  · intro id other online isOpen isOf
    exact sound.online id other online (isOpen_of_close isOpen)
      ((isOf_close shared conn id other).symm.trans isOf)
  · rw [← standing.phase]
    simp only [Register.phase, List.mem_cons_self, decide_true]
  · intro other different
    simp only [Register.phase, decide_mem_cons_of_ne different]

omit sound standing in
/-- A step may change the database, and what else is not looked at. -/
theorem Moves.same {next : Phase} (stepped : Sound shared noted ∧
      Moves conn next shared register shared noted) (view : after.view = shared.view)
    (agents : after.agents = shared.agents) (nextConn : after.nextConn = shared.nextConn) :
    Sound after noted ∧ Moves conn next shared register after noted := by
  obtain ⟨sound, moves⟩ := stepped
  refine ⟨sound.same view agents nextConn, moves.conns, fun other => ?_, moves.own, moves.others⟩
  rw [view]

/-- A call that changes nothing of the register. -/
theorem Sound.unnoted (view : after.view = shared.view) (agents : after.agents = shared.agents)
    (nextConn : after.nextConn = shared.nextConn) :
    Sound after register ∧ Moves conn phase shared register after register :=
  Moves.same ⟨sound, standing.phase ▸ Moves.refl conn shared register⟩ view agents nextConn

variable {fails : Bool}

omit sound standing in
theorem answer_of_inMemory {answer : Option call.Answer}
    (possible : fails = true → call.inMemory = false) (inMemory : call.inMemory = true)
    (attempted : gateway.attempt fails call shared = (answer, after)) :
    ∃ reply, call.perform shared = some (reply, after) ∧ answer = some reply := by
  cases fails with
  | true => exact absurd (inMemory.symm.trans (possible rfl)) (by decide)
  | false =>
    have performs : (call.perform shared).isSome = true := by
      cases call with
      | upsertPeer _ | updatePeerStatus _ _ _ _ | setConfig _ _ | listPeers | linkPeer _ _ =>
        cases inMemory
      | accept _ | readFails _ | loadAndDeleteAgent _ _ | storeAgent _ _ | takePeerID _
      | deleteAgent _ _ | closeConn _ _ | setPeerID _ _ => rfl
    obtain ⟨⟨reply, later⟩, performed⟩ := Option.isSome_iff_exists.mp performs
    have answered := (Interface.attempt_of_perform performed).symm.trans attempted
    obtain ⟨rfl, rfl⟩ := Prod.mk.inj answered
    exact ⟨reply, performed, rfl⟩

/-- Writing a status: online marks the peer, and offline is put down to a connection. -/
theorem Sound.status {status ip : String}
    {answer : Option Unit} (known : Known conn node phase (.updatePeerStatus about id status ip))
    (keeps : CallKeeps shared register fails (.updatePeerStatus about id status ip))
    (attempted : gateway.attempt fails (.updatePeerStatus about id status ip) shared =
      (answer, after)) :
    Sound after (register.note thread shared (.updatePeerStatus about id status ip) answer) ∧
      Moves conn (phase.next (.updatePeerStatus about id status ip) answer) shared register after
        (register.note thread shared (.updatePeerStatus about id status ip) answer) := by
  have unchanged : after.view = shared.view ∧ after.agents = shared.agents ∧
      after.nextConn = shared.nextConn ∧ (answer.isSome = true ↔ fails = false) := by
    cases fails with
    | true =>
      cases attempted
      exact ⟨rfl, rfl, rfl, iff_of_false Bool.false_ne_true Bool.true_eq_false.mp⟩
    | false =>
      cases attempted
      exact ⟨rfl, rfl, rfl, iff_of_true rfl rfl⟩
  obtain ⟨view, agents, nextConn, answered⟩ := unchanged
  refine Moves.same ?_ view agents nextConn
  unfold Register.note Phase.next
  unfold CallKeeps at keeps
  dsimp only at keeps ⊢
  by_cases isOnline : status = statusOnline
  · obtain ⟨rfl, rfl⟩ := known isOnline
    rw [if_pos isOnline] at keeps ⊢
    rw [if_pos isOnline]
    split
    · refine sound.markOnline standing (fun other found => ?_) fun another other found => ?_
      · rw [AList.lookup_erase] at found
        cases found
      · exact (Table.lookup_erase_iff.mp found).2
    · next failed =>
      have none := keeps (Bool.not_eq_false _ ▸ mt answered.mpr failed)
      refine sound.markOnline standing (fun other found => ?_) fun another other found => found
      rw [none] at found
      cases found
  · rw [if_neg isOnline] at keeps ⊢
    rw [if_neg isOnline]
    split
    · next marks =>
      exact sound.markOffline standing (keeps (answered.mp marks.1) marks.2)
    · exact ⟨sound, standing.phase ▸ Moves.refl conn shared register⟩

/-- What a call keeps that its handler knows enough of, and where it takes the connection. -/
theorem Sound.called {answer : Option call.Answer}
    (known : Known conn node phase call) (possible : fails = true → call.inMemory = false)
    (keeps : CallKeeps shared register fails call)
    (attempted : gateway.attempt fails call shared = (answer, after)) :
    Sound after (register.note thread shared call answer) ∧
      Moves conn (phase.next call answer) shared register after
        (register.note thread shared call answer) := by
  cases call with
  | accept ac => exact known.elim
  | readFails other =>
    obtain ⟨reply, performed, rfl⟩ := answer_of_inMemory possible rfl attempted
    obtain ⟨rfl, closing⟩ := known
    cases performed
    exact sound.leave standing closing
  | upsertPeer row =>
    rcases Interface.attempt_cases attempted with ⟨rfl, rfl⟩ | ⟨reply, _, performed, rfl⟩
    · exact sound.unnoted standing rfl rfl rfl
    · have performed : Call.perform (.upsertPeer row) shared = some (reply, after) := performed
      rw [Call.perform] at performed
      split at performed
      · cases performed
        exact Moves.same (sound.upsert standing row.id) rfl rfl rfl
      · cases performed
  | updatePeerStatus about id status ip => exact sound.status standing known keeps attempted
  | loadAndDeleteAgent other id =>
    obtain ⟨reply, performed, rfl⟩ := answer_of_inMemory possible rfl attempted
    obtain ⟨rfl, stored, left, closing⟩ := known
    cases performed
    cases found : shared.agents.lookup id with
    | none =>
      have absent : shared.agents.erase id = shared.agents :=
        AList.ext (List.kerase_of_notMem_keys (AList.lookup_eq_none.mp found))
      exact sound.unnoted standing rfl absent rfl
    | some old => exact sound.take standing found (keeps old found) stored left closing
  | storeAgent id other =>
    obtain ⟨reply, performed, rfl⟩ := answer_of_inMemory possible rfl attempted
    obtain ⟨rfl, rfl, closing⟩ := known
    cases performed
    exact sound.store standing keeps closing
  | deleteAgent other id =>
    obtain ⟨reply, performed, rfl⟩ := answer_of_inMemory possible rfl attempted
    cases performed
    exact sound.delete standing keeps known
  | closeConn caller other =>
    obtain ⟨reply, performed, rfl⟩ := answer_of_inMemory possible rfl attempted
    obtain ⟨rfl, known⟩ := known
    cases performed
    exact sound.close standing known
  | setPeerID other id =>
    obtain ⟨reply, performed, rfl⟩ := answer_of_inMemory possible rfl attempted
    obtain ⟨rfl, stored, online⟩ := known
    cases performed
    exact Moves.same (sound.finish standing stored online)
      (view_update shared other _ fun _ => rfl) rfl rfl
  | takePeerID other =>
    obtain ⟨reply, performed, rfl⟩ := answer_of_inMemory possible rfl attempted
    cases performed
    exact sound.unnoted standing (view_update shared other _ fun _ => rfl) rfl rfl
  | setConfig key value =>
    rcases Interface.attempt_cases attempted with ⟨rfl, rfl⟩ | ⟨reply, _, performed, rfl⟩
    · exact sound.unnoted standing rfl rfl rfl
    · cases performed
      exact sound.unnoted standing rfl rfl rfl
  | listPeers =>
    rcases Interface.attempt_cases attempted with ⟨rfl, rfl⟩ | ⟨reply, _, performed, rfl⟩
    · exact sound.unnoted standing rfl rfl rfl
    · cases performed
      exact sound.unnoted standing rfl rfl rfl
  | linkPeer id linkedPeerID =>
    rcases Interface.attempt_cases attempted with ⟨rfl, rfl⟩ | ⟨reply, _, performed, rfl⟩
    · exact sound.unnoted standing rfl rfl rfl
    · cases performed
      exact sound.unnoted standing rfl rfl rfl

end calls

theorem Sound.lt_nextConn (sound : Sound shared register)
    (present : (shared.view other).isSome = true) : other ≠ shared.nextConn :=
  (sound.accepted other present).ne

/-- A connection is accepted, and its handler starts. -/
theorem Sound.accept (sound : Sound shared register) (thread : Nat) (agent : Handshaken)
    (performed : Call.perform (.accept agent.conn) shared = some (conn, after)) :
    Sound after { register with conns := register.conns.insert thread conn } ∧
      At thread conn agent.meshNodeID {} after
        { register with conns := register.conns.insert thread conn } ∧
      ∀ other, other ≠ thread → minding.allows other shared register after
        { register with conns := register.conns.insert thread conn } := by
  cases performed
  set after : Shared := { shared with
    conns := shared.conns.insert shared.nextConn agent.conn, nextConn := shared.nextConn + 1 }
  have fresh : after.view shared.nextConn = some (agent.meshNodeID, false) := by
    rw [Shared.view, AList.lookup_insert]
    rfl
  have older {other : Nat} (different : other ≠ shared.nextConn) :
      after.view other = shared.view other := by
    rw [Shared.view, AList.lookup_insert_ne different]
    rfl
  have same {other : Nat} (present : (shared.view other).isSome = true) :
      after.view other = shared.view other := older (sound.lt_nextConn present)
  have isClosed {other : Nat} (present : (shared.view other).isSome = true) :
      after.isClosed other = shared.isClosed other := by
    rw [Shared.isClosed, same present, Shared.isClosed]
  have closedBefore {other : Nat} (closed : after.isClosed other = true) :
      shared.isClosed other = true := by
    by_cases isFresh : other = shared.nextConn
    · rw [isFresh, Shared.isClosed, fresh] at closed
      cases closed
    · rwa [Shared.isClosed, older isFresh] at closed
  have isOf {other : Nat} (id : String) (present : (shared.view other).isSome = true) :
      after.isOf id other = shared.isOf id other := by
    rw [Shared.isOf, same present, Shared.isOf]
  have present {other : Nat} (stored : other ∈ register.stored) :
      (shared.view other).isSome = true := sound.known other (.inl stored)
  have unknown {other : Nat} (isFresh : other = shared.nextConn) :
      ¬ (shared.view other).isSome = true := fun known => sound.lt_nextConn known isFresh
  refine ⟨{ sound with
      accepted := ?_, handled := ?_, single := ?_, known := ?_, closed := ?_, gone := ?_
      closing := ?_, stays := ?_, online := ?_ }, ⟨AList.lookup_insert _, ?_, ?_⟩, ?_⟩
  · intro other present
    by_cases isFresh : other = shared.nextConn
    · exact isFresh ▸ Nat.lt_succ_self _
    · exact Nat.lt_succ_of_lt (sound.accepted other (older isFresh ▸ present))
  · intro another other handles
    rcases Table.lookup_insert_iff.mp handles with ⟨_, rfl⟩ | ⟨_, handled⟩
    · rw [fresh]
      rfl
    · have known := sound.handled another other handled
      exact same known ▸ known
  · intro first second other handles handlesToo
    rcases Table.lookup_insert_iff.mp handles with ⟨rfl, isFresh⟩ | ⟨_, handled⟩ <;>
      rcases Table.lookup_insert_iff.mp handlesToo with ⟨rfl, isFreshToo⟩ | ⟨_, handledToo⟩
    · rfl
    · exact absurd (sound.handled second other handledToo) (unknown isFresh)
    · exact absurd (sound.handled first other handled) (unknown isFreshToo)
    · exact sound.single first second other handled handledToo
  · intro other flags
    have known := sound.known other flags
    exact same known ▸ known
  · exact fun other closed => sound.closed other (closedBefore closed)
  · intro other left
    exact (isClosed (sound.known other (.inr (.inl left)))).trans (sound.gone other left)
  · intro other old closes
    obtain ⟨unstored, unleft, isStored, ofNode⟩ := sound.closing other old closes
    have known := sound.known other
      (.inr (.inr (.inr (Option.isSome_iff_exists.mpr ⟨old, closes⟩))))
    refine ⟨unstored, unleft, isStored, ofNode.imp (isClosed (present isStored)).trans ?_⟩
    rw [Shared.sameNode, Shared.sameNode, same known, same (present isStored)]
    exact id
  · intro id other isStored isOpen isOf'
    exact sound.stays id other isStored ((isClosed (present isStored)).symm.trans isOpen)
      ((isOf id (present isStored)).symm.trans isOf')
  · intro id other online isOpen isOf'
    have known := sound.known other (.inr (.inr (.inl online)))
    exact sound.online id other online ((isClosed known).symm.trans isOpen)
      ((isOf id known).symm.trans isOf')
  · rw [fresh]
    rfl
  · have absent := sound.known shared.nextConn
    have idle : register.closing.lookup shared.nextConn = none := by
      by_contra closes
      exact unknown rfl (absent (.inr (.inr (.inr (Option.ne_none_iff_isSome.mp closes)))))
    have offline : shared.nextConn ∉ register.online := fun online =>
      unknown rfl (absent (.inr (.inr (.inl online))))
    have unstored : shared.nextConn ∉ register.stored := fun stored =>
      unknown rfl (absent (.inl stored))
    have unleft : shared.nextConn ∉ register.left := fun left =>
      unknown rfl (absent (.inr (.inl left)))
    rw [Register.phase, decide_eq_false offline, decide_eq_false unstored,
      decide_eq_false unleft, idle]
  · intro other different
    refine ⟨AList.lookup_insert_ne different, fun another handles => ⟨rfl, ?_⟩⟩
    rw [same (sound.handled other another handles)]

end kept

/-! ### Handlers among others -/

section among

variable {outside : Outside} {shared : Shared} {register : Register} {thread conn : Nat}
  {agent : Handshaken} {node : String} {phase : Phase}

/-- A call that keeps the newest connections, and does not fail if it is one on memory. -/
def allowedCall (_ : Nat) (_ : Handshaken) (call : Call) (fails : Bool) (shared : Shared)
    (register : Register) : Prop :=
  CallKeeps shared register fails call ∧ (fails = true → call.inMemory = false)

/-- Every step that is left of a handler is fair. -/
structure Proceeds (thread : Nat) (agent : Handshaken) (shared : Shared) (register : Register)
    (program : Steps Unit) : Prop where
  among : program.Among noting allowedCall Sound minding thread agent shared register

theorem proceeds_done : Proceeds thread agent shared register (.done ()) :=
  ⟨fun _ _ _ sound => ⟨sound, fun _ _ => minding.refl _ _ _⟩⟩

/-- A call that the handler knows enough of takes its connection to the next phase. -/
theorem proceeds_call {next : Option call.Answer → Steps Unit}
    (standing : At thread conn node phase shared register) (known : Known conn node phase call)
    (rest : ∀ answer after noted, At thread conn node (phase.next call answer) after noted →
      Proceeds thread agent after noted (next answer)) :
    Proceeds thread agent shared register (.call call next) := by
  refine ⟨fun later ghost changed sound fails allowed answer after attempted => ?_⟩
  have stands := standing.later changed
  obtain ⟨kept, moves⟩ := sound.called stands known allowed.2 allowed.1 attempted
  exact ⟨⟨kept, fun _ different => moves.allows sound stands different⟩,
    (rest answer after _ (moves.standing stands)).among⟩

/-- A handler disconnects the connection that it took out, or its own when it has left it. -/
theorem proceeds_disconnect {rest : Steps Unit}
    (standing : At thread conn node phase shared register)
    (known : (about = conn ∧ phase.left = true ∧ phase.closing = none) ∨
      phase.closing = some about)
    (next : ∀ after noted, At thread conn node { phase with closing := none } after noted →
      Proceeds thread agent after noted rest) :
    Proceeds thread agent shared register (disconnect conn about rest) := by
  have closes {shared : Shared} {register : Register}
      (standing : At thread conn node phase shared register) :
      Proceeds thread agent shared register (perform (.closeConn conn about) rest) :=
    proceeds_call standing ⟨rfl, known⟩ fun _ => next
  refine proceeds_call standing trivial fun taken after noted standing => ?_
  dsimp only
  split
  · exact closes standing
  · refine proceeds_call standing (known.imp_left fun own => ⟨own.1, own.2.1⟩) ?_
    intro _ after noted standing
    refine proceeds_call standing (fun online => absurd online (by decide)) ?_
    intro _ after noted standing
    exact closes standing

theorem proceeds_autoLinkHybrid {rest : Steps Unit} (peerID hostname : String)
    (standing : At thread conn node phase shared register)
    (next : ∀ after noted, At thread conn node phase after noted →
      Proceeds thread agent after noted rest) :
    Proceeds thread agent shared register (autoLinkHybrid outside peerID hostname rest) := by
  unfold autoLinkHybrid
  split
  · exact next shared register standing
  · refine proceeds_call standing trivial fun rows after noted standing => ?_
    dsimp only
    split
    · exact next after noted standing
    · exact proceeds_call standing trivial fun _ => next

theorem bind_disconnect {Result Other : Type} (caller about : Nat) (rest : Steps Result)
    (last : Result → Steps Other) :
    (disconnect caller about rest).bind last = disconnect caller about (rest.bind last) := by
  unfold disconnect
  refine congrArg (Program.call _) (funext fun taken => ?_)
  dsimp only
  split
  · rfl
  · rfl

theorem bind_autoLinkHybrid {Result Other : Type} (peerID hostname : String) (rest : Steps Result)
    (last : Result → Steps Other) :
    (autoLinkHybrid outside peerID hostname rest).bind last =
      autoLinkHybrid outside peerID hostname (rest.bind last) := by
  unfold autoLinkHybrid
  split
  · rfl
  · refine congrArg (Program.call _) (funext fun rows => ?_)
    dsimp only
    split
    · rfl
    · rfl

/-- The end of a registration stores the connection. -/
theorem proceeds_taking {rest : Option String → Steps Unit} {ac : AgentConn}
    (standing : At thread conn ac.meshNodeID phase shared register) (idle : phase.closing = none)
    (next : ∀ after noted, At thread conn ac.meshNodeID { phase with stored := true } after noted →
      Proceeds thread agent after noted (rest (some (meshPeerID ac.meshNodeID)))) :
    Proceeds thread agent shared register ((taking outside conn ac).bind rest) := by
  refine proceeds_call standing ⟨rfl, rfl, idle⟩ fun _ after noted standing => ?_
  rw [bind_autoLinkHybrid]
  exact proceeds_autoLinkHybrid _ _ standing next

/-- A registration marks the peer online and stores the connection, or does nothing. -/
theorem proceeds_registerAgent {rest : Option String → Steps Unit} {ac : AgentConn}
    (standing : At thread conn ac.meshNodeID {} shared register)
    (refused : ∀ after noted, At thread conn ac.meshNodeID {} after noted →
      Proceeds thread agent after noted (rest none))
    (next : ∀ after noted,
      At thread conn ac.meshNodeID { online := true, stored := true } after noted →
      Proceeds thread agent after noted (rest (some (meshPeerID ac.meshNodeID)))) :
    Proceeds thread agent shared register ((registerAgent outside conn ac).bind rest) := by
  refine proceeds_call standing trivial fun written after noted standing => ?_
  cases written with
  | none => exact refused after noted standing
  | some _ =>
    refine proceeds_call standing (fun _ => ⟨rfl, rfl⟩) fun _ after noted standing => ?_
    refine proceeds_call standing trivial fun _ after noted standing => ?_
    refine proceeds_call standing trivial fun _ after noted standing => ?_
    refine proceeds_call standing ⟨rfl, rfl, rfl, rfl⟩ fun taken after noted standing => ?_
    cases taken with
    | none => exact proceeds_taking standing rfl next
    | some found =>
      cases found with
      | none => exact proceeds_taking standing rfl next
      | some old =>
        refine (congrArg (Proceeds thread agent after noted)
          (bind_disconnect conn old (taking outside conn ac) rest)).mpr ?_
        exact proceeds_disconnect standing (.inr rfl) fun after noted standing =>
          proceeds_taking standing rfl next

/-- A handler that has accepted its connection is fair to its end. -/
theorem proceeds_accepted (standing : At thread conn agent.meshNodeID {} shared register) :
    Proceeds thread agent shared register
      ((tryCompleteAuth outside conn agent.conn).bind fun _ =>
        perform (.readFails conn) <| disconnect conn conn (.done ())) := by
  have ends {phase : Phase} {shared : Shared} {register : Register} (idle : phase.closing = none)
      (standing : At thread conn agent.meshNodeID phase shared register) :
      Proceeds thread agent shared register
        (perform (.readFails conn) <| disconnect conn conn (.done ())) := by
    refine proceeds_call standing ⟨rfl, idle⟩ fun _ after noted standing => ?_
    exact proceeds_disconnect standing (.inl ⟨rfl, rfl, idle⟩) fun _ _ _ => proceeds_done
  unfold tryCompleteAuth
  rw [Program.bind_assoc]
  refine proceeds_registerAgent standing (fun after noted standing => ends rfl standing) ?_
  intro after noted standing
  exact proceeds_call standing ⟨rfl, rfl, rfl⟩ fun _ after noted standing => ends rfl standing

theorem proceeds_handleAgentWS (thread : Nat) (agent : Handshaken) (shared : Shared)
    (register : Register) :
    Proceeds thread agent shared register (handleAgentWS outside agent) := by
  refine ⟨fun later ghost _ sound fails allowed answer after attempted => ?_⟩
  obtain ⟨conn, performed, rfl⟩ := answer_of_inMemory allowed.2 rfl attempted
  obtain ⟨kept, standing, others⟩ := sound.accept thread agent performed
  exact ⟨⟨kept, others⟩, (proceeds_accepted standing).among⟩

end among

theorem sound_of_stepsKeep {outside : Outside} {pool : AgentPool}
    (reached : ReachableWhen (serving outside) StepsKeep pool) : Sound pool.store pool.ghost := by
  have obligations : Obligations (handleAgentWS outside) noting
      (fun pool label => StepsKeep pool label ∧ Possible pool label) Sound
      fun store register thread agent program =>
        program.Among noting allowedCall Sound minding thread agent store register :=
    Rely.obligations
      (fun store register thread agent sound =>
        ⟨⟨sound, fun _ _ => minding.refl _ _ _⟩,
          (proceeds_handleAgentWS thread agent store register).among⟩)
      fun pool thread fails agent call holds isNext =>
        ⟨holds.1 (agent, call) isNext, fun failed => holds.2 failed (agent, call) isNext⟩
  refine (obligations.invariant ?_ reached.of_restrict).1
  rintro shared register ⟨unused, idle, rfl⟩
  have absent (conn : Nat) : shared.view conn = none := by
    rw [Shared.view, unused]
    rfl
  have unclosed (conn : Nat) : shared.isClosed conn = false := by
    rw [Shared.isClosed, absent]
    rfl
  exact
    { accepted := fun conn present => by
        rw [absent] at present
        cases present
      handled := fun _ _ found => by cases found
      single := fun _ _ _ found => by cases found
      known := fun conn flags => by
        rcases flags with stored | left | online | closing
        · cases stored
        · cases left
        · cases online
        · cases closing
      closed := fun conn closed => absurd ((unclosed conn).symm.trans closed) (by decide)
      gone := fun conn left => absurd left List.not_mem_nil
      agents := fun id conn found => by
        rw [idle] at found
        cases found
      closing := fun _ _ found => by cases found
      stays := fun _ _ stored => absurd stored List.not_mem_nil
      online := fun _ _ online => absurd online List.not_mem_nil
      finished := fun _ finished => absurd finished List.not_mem_nil }

/-- While the calls of a run keep the newest connections, the newest connection of every node is
the agent of its peer, and no other has set the peer offline. -/
theorem agentStays_of_stepsKeep (outside : Outside) (pool : AgentPool)
    (reached : ReachableWhen (serving outside) StepsKeep pool) : NewestStays pool := by
  have sound := sound_of_stepsKeep reached
  intro conn ac found finished isOpen newest
  have view : pool.store.view conn = some (ac.meshNodeID, ac.closed) := by
    rw [Shared.view, found]
    rfl
  have isOpen : pool.store.isClosed conn = false := by
    rw [Shared.isClosed, view]
    exact isOpen
  have isOf : pool.store.isOf (meshPeerID ac.meshNodeID) conn = true := by
    rw [Shared.isOf, view]
    exact beq_self_eq_true _
  obtain ⟨stored, online⟩ := sound.finished conn finished
  refine ⟨(sound.stays _ conn stored isOpen isOf).resolve_right ?_,
    sound.online _ conn online isOpen isOf⟩
  -- A connection that is about to close this one is itself open and of the same node.
  rintro ⟨other, closes⟩
  obtain ⟨unstored, unleft, _, ofNode⟩ := sound.closing other conn closes
  have sameNode := ofNode.resolve_left (Bool.eq_false_iff.mp isOpen)
  have nodes := eq_of_beq sameNode
  rw [view] at nodes
  obtain ⟨seen, seenOther, node⟩ := Option.map_eq_some_iff.mp nodes
  obtain ⟨another, foundOther, same⟩ := Option.map_eq_some_iff.mp seenOther
  subst same
  have different : other ≠ conn := fun same => unstored (same ▸ stored)
  have closed := newest other another foundOther different node
  have isClosed : pool.store.isClosed other = true := by
    rw [Shared.isClosed, seenOther]
    exact closed
  exact (sound.closed other isClosed).elim unstored unleft

/-! ### Runs -/

/-- A gateway that has just started, over an empty database. -/
def idlePool : AgentPool where
  store :=
    { db :=
        { peers := ∅, history := [], deviceTokens := [], orgDevices := [], serverConfig := ∅ }
      writable := true
      conns := ∅
      nextConn := 0
      agents := ∅ }
  running := ∅
  ghost := {}

theorem started : (serving plainOutside).start idlePool := ⟨rfl, rfl, rfl, rfl⟩

/-- The agent of a key. -/
def handshaken : Handshaken where
  meshNodeID := (hashEnding 0).nodeID
  meshGroupID := "group"
  clientIP := "10.0.0.1"
  hostname := "host"

/-- A thread makes a number of calls, none of which fails. -/
def turns (thread count : Nat) : List (Interleave.Label Handshaken) :=
  List.replicate count (.turn thread false)

/-- An agent registers, and registers again over another connection. -/
def reconnect : List (Interleave.Label Handshaken) :=
  .begin 1 handshaken :: turns 1 9 ++ .begin 2 handshaken :: turns 2 13

/-- A connection has finished registering and is open while all others of its node are closed. -/
def isNewest (pool : AgentPool) (conn : Nat) (node : String) : Bool :=
  decide (conn ∈ pool.ghost.finished) && pool.store.view conn == some (node, false) &&
    pool.store.conns.entries.all fun entry =>
      entry.1 == conn || entry.2.meshNodeID != node || entry.2.closed

theorem newest_of_isNewest {pool : AgentPool} {conn : Nat} {node : String}
    (newest : isNewest pool conn node = true) :
    conn ∈ pool.ghost.finished ∧ pool.store.view conn = some (node, false) ∧
      ∀ other another, pool.store.conns.lookup other = some another → other ≠ conn →
        another.meshNodeID = node → another.closed = true := by
  obtain ⟨both, closed⟩ := Bool.and_eq_true_iff.mp newest
  obtain ⟨finished, view⟩ := Bool.and_eq_true_iff.mp both
  refine ⟨of_decide_eq_true finished, eq_of_beq view, fun other another found different same => ?_⟩
  have listed := List.all_eq_true.mp closed ⟨other, another⟩ (AList.mem_lookup_iff.mp found)
  simpa only [beq_eq_false_iff_ne.mpr different, same, bne_self_eq_false, Bool.false_or]
    using listed

/-- An agent connects again and its first connection is disconnected for it: the new connection is
the only open one, and its peer is left offline. -/
theorem reconnect_leavesOffline : ∃ pool, Reachable (serving plainOutside) pool ∧
    pool.store.view 1 = some (handshaken.meshNodeID, false) ∧
    ((pool.store.db.peers.lookup (meshPeerID handshaken.meshNodeID)).map (·.status) =
      some statusOffline) ∧ ¬ NewestStays pool := by
  have ran : ((serving plainOutside).run idlePool reconnect).any (fun pool =>
      isNewest pool 1 handshaken.meshNodeID &&
        ((pool.store.db.peers.lookup (meshPeerID handshaken.meshNodeID)).map (·.status) ==
            some statusOffline &&
          pool.ghost.offlineBy.lookup (meshPeerID handshaken.meshNodeID) == some 0)) = true := by
    decide +kernel
  obtain ⟨pool, reached, test⟩ := exists_reachable_of_run started ran
  obtain ⟨newest, rest⟩ := Bool.and_eq_true_iff.mp test
  obtain ⟨offline, by_⟩ := Bool.and_eq_true_iff.mp rest
  obtain ⟨finished, view, others⟩ := newest_of_isNewest newest
  refine ⟨pool, reached, view, eq_of_beq offline, fun stays => ?_⟩
  obtain ⟨ac, found, seen⟩ := Option.map_eq_some_iff.mp view
  obtain ⟨node, isOpen⟩ := Prod.mk.inj seen
  have kept := (stays 1 ac found finished isOpen fun other another found different same =>
    others other another found different (same.trans node)).2 0
  rw [node] at kept
  exact absurd (kept (eq_of_beq by_)) (by decide)

/-- An agent that connects again when its first connection has ended stays registered. -/
theorem agentStays_again : ∃ pool, ReachableWhen (serving plainOutside) StepsKeep pool ∧
    isNewest pool 1 handshaken.meshNodeID = true ∧ NewestStays pool := by
  have ran : ((serving plainOutside).runWhen StepsKeep idlePool
      (.begin 1 handshaken :: turns 1 14 ++ .begin 2 handshaken :: turns 2 9)).any (fun pool =>
        isNewest pool 1 handshaken.meshNodeID) = true := by
    decide +kernel
  obtain ⟨pool, reached, newest⟩ := exists_reachableWhen_of_runWhen started ran
  exact ⟨pool, reached, newest, agentStays_of_stepsKeep plainOutside pool reached⟩

end SovaDesk.Meshcentral.Agents
