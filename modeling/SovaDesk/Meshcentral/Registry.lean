/-
This file models the registration of mesh agents, and settles when it honours the life
of the devices.

An agent that has completed the handshake is registered under a peer ID made from its node
ID. Its row is written, it is marked online, and the connection takes the place of another
one under the ID, which is disconnected. The gateways of the signal server and of CDAP ask
whether the device is banned, deleted or enrolled; this one asks nothing, and whatever
writes the row writes it over the row of another kind of device, or of another agent
whose node ID begins alike.
-/

import SovaDesk.Lib.Interleave
import SovaDesk.Meshcentral.NodeIDs
import SovaDesk.Signal.Registration

namespace SovaDesk.Meshcentral.Agents

open Interleave Signal Transition

/-! ### The calls -/

/-- The fields of an `AgentConn` that the registration uses. -/
structure AgentConn where
  meshNodeID : String
  meshGroupID : String
  clientIP : String
  hostname : String
  peerID : String := ""
  closed : Bool := false
  deriving DecidableEq

/-- What the handlers share: the tables of the database, in which rows can be written or not, the
connections, and the agents by their peer ID. -/
structure Shared where
  db : PeerDB
  writable : Bool
  conns : Table Nat AgentConn
  nextConn : Nat
  agents : Table String Nat

def statusOnline : String := "ONLINE"
def statusOffline : String := "OFFLINE"

/-- The calls on what is shared. A change of a status names the connection it is about. -/
inductive Call
  | accept (ac : AgentConn)
  | readFails (conn : Nat)
  | upsertPeer (row : PeerRow)
  | updatePeerStatus (conn : Nat) (id status ip : String)
  | setConfig (key value : String)
  | loadAndDeleteAgent (conn : Nat) (id : String)
  | storeAgent (id : String) (conn : Nat)
  | takePeerID (conn : Nat)
  | deleteAgent (conn : Nat) (id : String)
  | closeConn (caller conn : Nat)
  | listPeers
  | linkPeer (id linkedPeerID : String)
  | setPeerID (conn : Nat) (id : String)
  deriving DecidableEq

@[reducible] def Call.Answer : Call → Type
  | .accept _ => Nat
  | .loadAndDeleteAgent _ _ => Option Nat
  | .takePeerID _ => String × String
  | .listPeers => List PeerRow
  | _ => Unit

def Call.perform : (call : Call) → Shared → Option (call.Answer × Shared)
  | .accept ac, shared =>
    some (shared.nextConn, { shared with
      conns := shared.conns.insert shared.nextConn ac, nextConn := shared.nextConn + 1 })
  | .readFails conn, shared =>
    some ((), { shared with
      conns := shared.conns.update conn fun ac => { ac with closed := true } })
  | .upsertPeer row, shared =>
    if shared.writable then some ((), { shared with db := shared.db.upsertPeer row }) else none
  | .updatePeerStatus _ id status ip, shared =>
    some ((), { shared with db := shared.db.updatePeerStatus id status ip })
  | .setConfig key value, shared => some ((), { shared with db := shared.db.setConfig key value })
  | .loadAndDeleteAgent _ id, shared =>
    some (shared.agents.lookup id, { shared with agents := shared.agents.erase id })
  | .storeAgent id conn, shared =>
    some ((), { shared with agents := shared.agents.insert id conn })
  | .takePeerID conn, shared =>
    some (((shared.conns.lookup conn).map fun ac => (ac.peerID, ac.clientIP)).getD ("", ""),
      { shared with conns := shared.conns.update conn fun ac => { ac with peerID := "" } })
  | .deleteAgent _ id, shared => some ((), { shared with agents := shared.agents.erase id })
  | .closeConn _ conn, shared =>
    some ((), { shared with
      conns := shared.conns.update conn fun ac => { ac with closed := true } })
  | .listPeers, shared =>
    some ((shared.db.peers.entries.map (·.2)).filter fun row => !row.softDeleted, shared)
  | .linkPeer id linkedPeerID, shared =>
    some ((), { shared with db := { shared.db with
      peers := shared.db.peers.update id fun row =>
        if row.softDeleted then row else { row with linkedPeerID } } })
  | .setPeerID conn id, shared =>
    some ((), { shared with
      conns := shared.conns.update conn fun ac => { ac with peerID := id } })

@[reducible] def gateway : Interface where
  Store := Shared
  Call := Call
  Answer := Call.Answer
  perform := Call.perform

abbrev Steps (Result : Type) := Program gateway Result

/-- Make a call whose outcome is not looked at. -/
def perform {Result : Type} (call : Call) (rest : Steps Result) : Steps Result :=
  .call call fun _ => rest

/-! ### The handlers -/

/-- `disconnect` of a connection, by the handler of another or by its own. -/
def disconnect {Result : Type} (caller conn : Nat) (rest : Steps Result) : Steps Result :=
  .call (.takePeerID conn) fun taken =>
    let (pid, ip) := taken.getD ("", "")
    if pid = "" then perform (.closeConn caller conn) rest
    else
      perform (.deleteAgent conn pid) <|
      perform (.updatePeerStatus conn pid statusOffline ip) <|
      perform (.closeConn caller conn) rest

/-- Whatever the handlers use from outside: the version of the assets, and the comparison of names
without regard to case. -/
structure Outside where
  version : String
  equalFold : String → String → Bool

def meshAgentType : String := "mesh_agent"

section handlers

variable (outside : Outside)

/-- The first device of another kind with the name, if it is not linked yet. -/
def hybridOf (peerID hostname : String) (rows : List PeerRow) : Option PeerRow :=
  rows.find? fun row => !(row.id == peerID || row.deviceType == meshAgentType) &&
    outside.equalFold row.hostname hostname && row.linkedPeerID == ""

def autoLinkHybrid {Result : Type} (peerID hostname : String) (rest : Steps Result) :
    Steps Result :=
  if hostname = "" then rest
  else
    .call .listPeers fun rows =>
      match rows.bind (hybridOf outside peerID hostname) with
      | none => rest
      | some row => perform (.linkPeer peerID row.id) rest

/-- The name of an agent, made up if it has not sent one. -/
def hostnameOf (ac : AgentConn) : String :=
  if ac.hostname = "" then "MeshAgent-" ++ String.ofList (ac.meshNodeID.toList.take 8)
  else ac.hostname

/-- The row that is written. -/
def agentRow (ac : AgentConn) : PeerRow :=
  { emptyRow (meshPeerID ac.meshNodeID) with
    hostname := hostnameOf ac
    status := statusOnline
    ip := ac.clientIP
    deviceType := meshAgentType
    os := "mesh"
    version := outside.version }

/-- The end of a registration: the place is taken, and the agent linked. -/
def taking (conn : Nat) (ac : AgentConn) : Steps (Option String) :=
  perform (.storeAgent (meshPeerID ac.meshNodeID) conn) <|
  autoLinkHybrid outside (meshPeerID ac.meshNodeID) (hostnameOf ac) <|
  .done (some (meshPeerID ac.meshNodeID))

/-- `registerAgent`; nothing is registered if the row cannot be written. -/
def registerAgent (conn : Nat) (ac : AgentConn) : Steps (Option String) :=
  .call (.upsertPeer (agentRow outside ac)) fun
  | none => .done none
  | some _ =>
    perform (.updatePeerStatus conn (meshPeerID ac.meshNodeID) statusOnline ac.clientIP) <|
    perform (.setConfig ("mesh_node_id_" ++ meshPeerID ac.meshNodeID) ac.meshNodeID) <|
    perform (.setConfig ("mesh_group_id_" ++ meshPeerID ac.meshNodeID) ac.meshGroupID) <|
    .call (.loadAndDeleteAgent conn (meshPeerID ac.meshNodeID)) fun
    | some (some old) => disconnect conn old (taking outside conn ac)
    | _ => taking outside conn ac

/-- `tryCompleteAuth` from the moment the handshake is complete, up to the messages it sends. -/
def tryCompleteAuth (conn : Nat) (ac : AgentConn) : Steps Bool :=
  (registerAgent outside conn ac).bind fun
  | none => .done false
  | some peerID => perform (.setPeerID conn peerID) (.done true)

end handlers

/-! ### Registrations -/

/-- An agent that completes the handshake; its node ID is made of the hash of its key. -/
structure Agent where
  hash : NodeHash
  meshGroupID : String
  clientIP : String
  hostname : String
  deriving DecidableEq

def Agent.conn (agent : Agent) : AgentConn where
  meshNodeID := agent.hash.nodeID
  meshGroupID := agent.meshGroupID
  clientIP := agent.clientIP
  hostname := agent.hostname

def Agent.peerID (agent : Agent) : String := meshPeerID agent.hash.nodeID

/-- A connection completes the handshake, or ends; and the rest of the server leaves the tables of
the database in any state. -/
inductive Event
  | register (agent : Agent)
  | disconnect (conn : Nat)
  | database (db : PeerDB) (writable : Bool)

/-- What is shared, and the hashes of the agents that were registered. -/
structure Registrations where
  shared : Shared
  registered : List NodeHash

/-- An agent has connected. -/
def Shared.accept (shared : Shared) (agent : Agent) : Shared :=
  { shared with
    conns := shared.conns.insert shared.nextConn agent.conn, nextConn := shared.nextConn + 1 }

/-- A connection that has just been accepted completes the handshake. -/
def Registrations.register (outside : Outside) (s : Registrations) (agent : Agent) :
    Registrations :=
  let (done, shared) :=
    (tryCompleteAuth outside s.shared.nextConn agent.conn).eval (s.shared.accept agent)
  { shared, registered := if done then agent.hash :: s.registered else s.registered }

/-- Runs of a gateway that has just started, one handler after the other, over any tables. -/
def registering (outside : Outside) : System Registrations Event where
  start s := s.shared.conns = ∅ ∧ s.shared.agents = ∅ ∧ s.registered = []
  step s
  | .register agent => some (s.register outside agent)
  | .disconnect conn =>
    some { s with shared := ((disconnect conn conn (.done ())).eval s.shared).2 }
  | .database db writable => some { s with shared := { s.shared with db, writable } }

/-- The registration has made the connection the agent of the peer, or marked the peer online. -/
def TookPlace (agent : Agent) (before after : Shared) : Prop :=
  after.agents.lookup agent.peerID = some before.nextConn ∨
    ∃ row, after.db.peers.lookup agent.peerID = some row ∧ row.status = statusOnline ∧
      before.db.peers.lookup agent.peerID ≠ some row

/-- A device may be registered as a mesh agent: it is neither banned nor deleted, is none of another
kind, and the enrolment policy permits it. -/
structure Admissible (config : Config) (db : PeerDB) (id : String) : Prop where
  notBanned : db.isPeerBanned id = false
  notDeleted : db.isPeerSoftDeleted id = false
  ofKind : ∀ row, db.peers.lookup id = some row → row.deviceType = meshAgentType
  enrolled : enrollmentPermits config db id = true

/-- A registration takes place only for a device that may be registered, and under a peer ID that
no agent with another node ID was registered under. -/
def Honours (config : Config) (step : Taken Registrations Event) : Prop :=
  match step.label with
  | .register agent =>
    TookPlace agent step.before.shared step.after.shared →
      Admissible config step.before.shared.db agent.peerID ∧
        ∀ other ∈ step.before.registered, other.nodeID ≠ agent.hash.nodeID →
          meshPeerID other.nodeID ≠ agent.peerID
  | .disconnect _ | .database _ _ => True

/-- The condition: the row cannot be written, or the device may be registered and the digits of no
other agent begin like those of this one. -/
def Fit (config : Config) (s : Registrations) : Event → Prop
  | .register agent => s.shared.writable = true →
    Admissible config s.shared.db agent.peerID ∧
      ∀ other ∈ s.registered, other ≠ agent.hash → ¬ Alike other agent.hash
  | .disconnect _ | .database _ _ => True

/-! ### The calls of a registration -/

section calls

variable {outside : Outside} {conn caller : Nat} {ac : AgentConn} {shared after : Shared}
  {mine : Nat → Prop}

/-- A program stores no agents but its own. -/
def StoresOnly (mine : Nat → Prop) : Call → Prop
  | .storeAgent _ conn => mine conn
  | _ => True

/-- The agents are connections that were accepted, and so are those of a program. -/
def Accepted (mine : Nat → Prop) (shared : Shared) : Prop :=
  (∀ conn, mine conn → conn < shared.nextConn) ∧
    ∀ id conn, shared.agents.lookup id = some conn → conn < shared.nextConn

theorem Accepted.perform {call : Call} {answer : call.Answer} (own : StoresOnly mine call)
    (accepted : Accepted mine shared) (performed : call.perform shared = some (answer, after)) :
    Accepted mine after := by
  obtain ⟨present, known⟩ := accepted
  have erased (id : String) : Accepted mine { shared with agents := shared.agents.erase id } :=
    ⟨present, fun _ other found => known _ other (Table.lookup_erase_iff.mp found).2⟩
  cases call with
  | accept ac =>
    cases performed
    exact ⟨fun conn isMine => Nat.lt_succ_of_lt (present conn isMine),
      fun id conn found => Nat.lt_succ_of_lt (known id conn found)⟩
  | upsertPeer row =>
    rw [Call.perform] at performed
    split at performed
    · cases performed
      exact ⟨present, known⟩
    · cases performed
  | loadAndDeleteAgent _ id =>
    cases performed
    exact erased id
  | storeAgent id other =>
    cases performed
    refine ⟨present, fun _ another found => ?_⟩
    rcases Table.lookup_insert_iff.mp found with ⟨_, rfl⟩ | ⟨_, older⟩
    · exact present _ own
    · exact known _ another older
  | deleteAgent _ id =>
    cases performed
    exact erased id
  | readFails _ | takePeerID _ | closeConn _ _ | setPeerID _ _ | updatePeerStatus _ _ _ _
  | setConfig _ _ | listPeers | linkPeer _ _ =>
    cases performed
    exact ⟨present, known⟩

/-- Every agent that a program stores is its own. -/
abbrev StoresOwn {Result : Type} (mine : Nat → Prop) (program : Steps Result) : Prop :=
  program.Always fun call _ => StoresOnly mine call

variable {Result : Type} {rest : Steps Result}

theorem storesOwn_perform {call : Call} (own : StoresOnly mine call) (later : StoresOwn mine rest) :
    StoresOwn mine (perform call rest) :=
  ⟨own, fun _ => later⟩

theorem storesOwn_disconnect (other : Nat)
    (later : StoresOwn mine rest) : StoresOwn mine (disconnect caller other rest) := by
  refine ⟨trivial, fun taken => ?_⟩
  have closes : StoresOwn mine (perform (.closeConn caller other) rest) :=
    storesOwn_perform trivial later
  dsimp only
  split
  · exact closes
  · exact storesOwn_perform trivial (storesOwn_perform trivial closes)

theorem storesOwn_autoLinkHybrid (peerID hostname : String) (later : StoresOwn mine rest) :
    StoresOwn mine (autoLinkHybrid outside peerID hostname rest) := by
  unfold autoLinkHybrid
  split
  · exact later
  · refine ⟨trivial, fun rows => ?_⟩
    dsimp only
    split
    · exact later
    · exact storesOwn_perform trivial later

theorem storesOwn_taking (own : mine conn) : StoresOwn mine (taking outside conn ac) :=
  storesOwn_perform own (storesOwn_autoLinkHybrid _ _ trivial)

theorem storesOwn_registerAgent (own : mine conn) :
    StoresOwn mine (registerAgent outside conn ac) := by
  refine ⟨trivial, fun written => ?_⟩
  cases written with
  | none => trivial
  | some _ =>
    refine storesOwn_perform trivial (storesOwn_perform trivial (storesOwn_perform trivial
      ⟨trivial, fun old => ?_⟩))
    cases old with
    | none => exact storesOwn_taking own
    | some found =>
      cases found with
      | none => exact storesOwn_taking own
      | some old => exact storesOwn_disconnect old (storesOwn_taking own)

theorem storesOwn_tryCompleteAuth (own : mine conn) :
    StoresOwn mine (tryCompleteAuth outside conn ac) := by
  refine Program.Always.bind (storesOwn_registerAgent own) fun registered => ?_
  cases registered with
  | none => trivial
  | some peerID => exact storesOwn_perform trivial trivial

/-- A disconnection ends in what comes after it. -/
theorem eval_disconnect (caller : Nat) (rest : Steps Result) (other : Nat) (shared : Shared) :
    ∃ later, (disconnect caller other rest).eval shared = rest.eval later := by
  unfold disconnect
  rw [Program.eval_call rfl]
  dsimp only
  split
  · exact ⟨_, Program.eval_call rfl⟩
  · exact ⟨_, (Program.eval_call rfl).trans ((Program.eval_call rfl).trans (Program.eval_call rfl))⟩

theorem eval_autoLinkHybrid (outside : Outside) (rest : Steps Result)
    (peerID hostname : String) (shared : Shared) :
    ∃ later, (autoLinkHybrid outside peerID hostname rest).eval shared = rest.eval later ∧
      later.agents = shared.agents := by
  unfold autoLinkHybrid
  split
  · exact ⟨shared, rfl, rfl⟩
  · rw [Program.eval_call rfl]
    dsimp only
    split
    · exact ⟨shared, rfl, rfl⟩
    · exact ⟨_, Program.eval_call rfl, rfl⟩

/-- The end of a registration leaves the connection as the agent. -/
theorem eval_taking (shared : Shared) : ∃ later,
    (taking outside conn ac).eval shared = (some (meshPeerID ac.meshNodeID), later) ∧
      later.agents.lookup (meshPeerID ac.meshNodeID) = some conn := by
  obtain ⟨later, linked, same⟩ := eval_autoLinkHybrid outside
    (.done (some (meshPeerID ac.meshNodeID))) (meshPeerID ac.meshNodeID) (hostnameOf ac)
    { shared with agents := shared.agents.insert (meshPeerID ac.meshNodeID) conn }
  refine ⟨later, (Program.eval_call rfl).trans linked, ?_⟩
  rw [same]
  exact AList.lookup_insert _

/-- Where the row can be written, a registration makes the connection the agent. -/
theorem eval_registerAgent (outside : Outside) (conn : Nat) (ac : AgentConn)
    (writable : shared.writable = true) : ∃ later,
    (registerAgent outside conn ac).eval shared = (some (meshPeerID ac.meshNodeID), later) ∧
      later.agents.lookup (meshPeerID ac.meshNodeID) = some conn := by
  have written : Call.perform (.upsertPeer (agentRow outside ac)) shared =
      some ((), { shared with db := shared.db.upsertPeer (agentRow outside ac) }) :=
    if_pos writable
  unfold registerAgent
  rw [Program.eval_call written]
  dsimp only
  unfold perform
  rw [Program.eval_call rfl, Program.eval_call rfl, Program.eval_call rfl, Program.eval_call rfl]
  dsimp only
  split
  · next old _ =>
    obtain ⟨later, ended⟩ := eval_disconnect conn (taking outside conn ac) old _
    rw [ended]
    exact eval_taking later
  · exact eval_taking _

/-- Where the row cannot be written, nothing happens. -/
theorem eval_registerAgent_none (unwritable : shared.writable = false) :
    (registerAgent outside conn ac).eval shared = (none, shared) := by
  have refused : Call.perform (.upsertPeer (agentRow outside ac)) shared = none :=
    if_neg (Bool.not_eq_true _ ▸ unwritable)
  unfold registerAgent
  rw [Program.eval_refused refused]
  rfl

theorem eval_tryCompleteAuth (outside : Outside) (conn : Nat) (ac : AgentConn)
    (writable : shared.writable = true) : ∃ later,
    (tryCompleteAuth outside conn ac).eval shared = (true, later) ∧
      later.agents.lookup (meshPeerID ac.meshNodeID) = some conn := by
  obtain ⟨later, registered, stored⟩ := eval_registerAgent outside conn ac writable
  unfold tryCompleteAuth
  rw [Program.eval_bind, registered]
  exact ⟨_, Program.eval_call rfl, stored⟩

theorem eval_tryCompleteAuth_of_unwritable (unwritable : shared.writable = false) :
    (tryCompleteAuth outside conn ac).eval shared = (false, shared) := by
  unfold tryCompleteAuth
  rw [Program.eval_bind, eval_registerAgent_none unwritable]
  rfl

end calls

/-! ### The condition is exact -/

section exact_condition

variable {config : Config} {outside : Outside} {s after : Registrations} {agent : Agent}

/-- The agents are connections that were accepted. -/
def KnownAgents (shared : Shared) : Prop :=
  ∀ id conn, shared.agents.lookup id = some conn → conn < shared.nextConn

theorem knownAgents_of_reachable (reached : Reachable (registering outside) s) :
    KnownAgents s.shared := by
  refine reached.invariant (fun s => KnownAgents s.shared) (fun s initial id conn found => ?_)
    fun before event after known _ taken => ?_
  · rw [initial.2.1] at found
    exact absurd found (Option.some_ne_none conn).symm
  · cases event with
    | register agent =>
      cases taken
      have accepted : Accepted (before.shared.nextConn = ·) (before.shared.accept agent) :=
        ⟨fun conn same => same ▸ Nat.lt_succ_self _,
          fun id conn found => Nat.lt_succ_of_lt (known id conn found)⟩
      exact (Program.eval_keeps (storesOwn_tryCompleteAuth rfl)
        (fun _ own _ _ _ holds performed => holds.perform own performed) accepted).2
    | disconnect conn =>
      cases taken
      have accepted : Accepted (fun _ => False) before.shared := ⟨fun _ => False.elim, known⟩
      have stores : StoresOwn (fun _ => False) (disconnect conn conn (.done ()) : Steps Unit) :=
        storesOwn_disconnect conn trivial
      exact (Program.eval_keeps stores
        (fun _ own _ _ _ holds performed => holds.perform own performed) accepted).2
    | database db writable =>
      cases taken
      exact known

/-- A registration takes place exactly where the row can be written. -/
theorem tookPlace_iff (known : KnownAgents s.shared) :
    TookPlace agent s.shared (s.register outside agent).shared ↔ s.shared.writable = true := by
  unfold Registrations.register
  cases writable : s.shared.writable with
  | true =>
    have writable : (s.shared.accept agent).writable = true := writable
    obtain ⟨later, completed, stored⟩ :=
      eval_tryCompleteAuth outside s.shared.nextConn agent.conn writable
    rw [completed]
    exact iff_of_true (.inl stored) rfl
  | false =>
    have unwritable : (s.shared.accept agent).writable = false := writable
    rw [eval_tryCompleteAuth_of_unwritable unwritable]
    refine iff_of_false ?_ Bool.false_ne_true
    rintro (stored | ⟨row, written, _, changed⟩)
    · exact absurd (known _ _ stored) (Nat.lt_irrefl _)
    · exact changed written

theorem honours_iff_fit {event : Event} (reached : Reachable (registering outside) s)
    (taken : (registering outside).step s event = some after) :
    Honours config ⟨s, event, after⟩ ↔ Fit config s event := by
  cases event with
  | register agent =>
    cases taken
    refine imp_congr (tookPlace_iff (knownAgents_of_reachable reached)) ?_
    refine and_congr_right' (forall₂_congr fun other _ => ?_)
    exact imp_congr (not_congr NodeHash.nodeID_inj) (not_congr (meshPeerID_eq_iff other agent.hash))
  | disconnect conn => exact Iff.rfl
  | database db writable => exact Iff.rfl

end exact_condition

/-- The registrations of a history honour the life of the devices exactly when all of them meet the
condition. -/
theorem honours_iff_all_fit (config : Config) (outside : Outside)
    (steps : List (Taken Registrations Event)) (final : Registrations)
    (history : History (registering outside) steps final) :
    (∀ step ∈ steps, Honours config step) ↔ ∀ step ∈ steps, Fit config step.before step.label :=
  history.forall_iff fun _ reached taken => honours_iff_fit reached taken

/-! ### A banned device -/

def plainOutside : Outside where
  version := "1"
  equalFold first second := first == second

def openConfig : Config where
  enrollmentMode := enrollmentModeOpen
  sessionOwner _ _ := none

/-- A hash of zeros but for the last byte. -/
def hashEnding (last : UInt8) : NodeHash where
  bytes := List.replicate 47 0 ++ [last]
  length_eq := rfl

def agentEnding (last : UInt8) : Agent where
  hash := hashEnding last
  meshGroupID := "group"
  clientIP := "10.0.0.1"
  hostname := "host"

/-- A database with a row of the agents' peer ID, banned or not. -/
def rowDB (banned : Bool) : PeerDB where
  peers := AList.insert (agentEnding 0).peerID
    { emptyRow (agentEnding 0).peerID with banned, deviceType := meshAgentType } ∅
  history := []
  deviceTokens := []
  orgDevices := []
  serverConfig := ∅

def newGateway (banned : Bool) : Registrations where
  shared := { db := rowDB banned, writable := true, conns := ∅, nextConn := 0, agents := ∅ }
  registered := []

/-- Two agents whose hashes differ in the last byte are registered, one after the other. -/
def first (banned : Bool) : Registrations :=
  (newGateway banned).register plainOutside (agentEnding 0)

def second (banned : Bool) : Registrations := (first banned).register plainOutside (agentEnding 1)

theorem twoAgents (banned : Bool) : History (registering plainOutside)
    [⟨first banned, .register (agentEnding 1), second banned⟩,
      ⟨newGateway banned, .register (agentEnding 0), first banned⟩] (second banned) := by
  cases banned with
  | true => exact .step (.step (.start ⟨rfl, rfl, rfl⟩) rfl) rfl
  | false => exact .step (.step (.start ⟨rfl, rfl, rfl⟩) rfl) rfl

/-- A banned device is registered and marked online, and another agent takes its place. -/
theorem banned_registered : ∃ steps final, History (registering plainOutside) steps final ∧
    final.shared.agents.lookup (agentEnding 0).peerID = some 1 ∧
    (agentEnding 0).hash.nodeID ≠ (agentEnding 1).hash.nodeID ∧
    ¬ ∀ step ∈ steps, Honours openConfig step := by
  refine ⟨_, _, twoAgents true, by decide +kernel, by decide +kernel, fun honours => ?_⟩
  have stored : (first true).shared.agents.lookup (agentEnding 0).peerID = some 0 := by
    decide +kernel
  have banned : (rowDB true).isPeerBanned (agentEnding 0).peerID = true := by decide +kernel
  have admissible := (honours _ (List.mem_cons_of_mem _ List.mem_cons_self) (.inl stored)).1
  exact absurd (banned.symm.trans admissible.notBanned) (by decide)

/-- A single agent whose device may be registered is. -/
theorem honours_single :
    Honours openConfig ⟨newGateway false, .register (agentEnding 0), first false⟩ := by
  have history : History (registering plainOutside)
      [⟨newGateway false, .register (agentEnding 0), first false⟩] (first false) :=
    .step (.start ⟨rfl, rfl, rfl⟩) rfl
  refine (honours_iff_all_fit openConfig plainOutside _ _ history).mpr (fun step member => ?_) _
    List.mem_cons_self
  cases List.mem_singleton.mp member
  intro _
  refine ⟨⟨by decide +kernel, by decide +kernel, fun row found => ?_, by decide +kernel⟩,
    fun other member => absurd member List.not_mem_nil⟩
  have same : (rowDB false).peers.lookup (agentEnding 0).peerID = some
      { emptyRow (agentEnding 0).peerID with deviceType := meshAgentType } := by decide +kernel
  cases same.symm.trans found
  rfl

end SovaDesk.Meshcentral.Agents
