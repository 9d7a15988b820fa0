/-
This file settles whom the relay tunnels of the mesh gateway join.

A tunnel has an identifier, and the two ends that the server made it for arrive one after
the other over WebSocket, each with a sealed cookie that proves who sent it. The first to
arrive finds no record and leaves itself in one, the second finds the first there and
forwards data between the two. The record has a field that says whether it waits or is
paired, and a connection has one that says whether a cookie came with it. Both are written
and neither is read, so whoever knows the identifier is joined to the first end, with a
cookie or without, and as often as it comes. A timer removes the record from the table two
minutes after it was made, whatever becomes of the tunnel, and a new record of the same
identifier joins two more.
-/

import SovaDesk.Lib.System
import SovaDesk.Lib.Table

namespace SovaDesk.Meshcentral

open Transition

/-! ### Connections and records -/

/-- A WebSocket connection to the relay, and the `relayPeer` made for it. -/
abbrev ConnId := Nat

/-- The query of a relay connection, as far as the pairing reads it. -/
structure RelayQuery where
  id : String
  auth : String
  rauth : String
  p : String

/-- Where the handler of a connection stands. A record is named by the connection that stored
it. -/
inductive Stage
  | multiplexed
  | toJoin (session : ConnId)
  | waiting (session : ConnId)
  | piping (peer1 : ConnId)
  | toDelete
  | returned
  deriving DecidableEq

/-- The handler has joined its connection to another, now or earlier. -/
def Stage.hasJoined : Stage → Bool
  | .piping _ | .toDelete | .returned => true
  | .multiplexed | .toJoin _ | .waiting _ => false

structure Connection where
  relayID : String
  authenticated : Bool
  stage : Stage
  deriving DecidableEq

/-- `relaySession`. Its `state` is 0 while it waits and 1 once it is paired. -/
structure RelaySession where
  id : String
  peer1 : Option ConnId
  state : Nat
  deriving DecidableEq

/-- What the handlers share. `timers` has the deadline of each record's timer and `closed` the
connections that are closed at either end; `paired` and `delivered` note the pairs that were made
and the messages that were forwarded, by sender and receiver, for the statements only. -/
structure State where
  now : Nat
  connections : Table ConnId Connection
  relays : Table String ConnId
  sessions : Table ConnId RelaySession
  timers : Table ConnId Nat
  closed : List ConnId
  paired : List (ConnId × ConnId)
  delivered : List (ConnId × ConnId)

/-- How long a record stays in the table, in seconds. -/
def relayPairWindow : Nat := 120

/-! ### The operations -/

/-- The check of the cookies in `handleRelayWS`: a bad cookie is refused, and a connection without
any is admitted. The result says whether a cookie came with it. -/
def checkCookies (decodes : Nat → String → Bool) (now : Nat) (q : RelayQuery) : Option Bool :=
  if q.auth ≠ "" ∧ decodes now q.auth = false then none
  else if q.rauth ≠ "" ∧ decodes now q.rauth = false then none
  else some (q.auth ≠ "" || q.rauth ≠ "")

/-- The desktop protocol is not paired but multiplexed, by a hub of its own. -/
def isKvmRelayProto (proto : String) : Bool :=
  proto == "2"

variable {s : State} {c : ConnId} {connection : Connection} {session : RelaySession}

namespace State

/-- `pairRelay` up to its LoadOrStore. The one that stores a record starts its timer. -/
def loadOrStore (s : State) (c : ConnId) (q : RelayQuery) (authenticated : Bool) : State :=
  if isKvmRelayProto q.p then
    { s with connections := s.connections.insert c ⟨q.id, authenticated, .multiplexed⟩ }
  else
    match s.relays.lookup q.id with
    | some session =>
      { s with connections := s.connections.insert c ⟨q.id, authenticated, .toJoin session⟩ }
    | none =>
      { s with
        connections := s.connections.insert c ⟨q.id, authenticated, .toJoin c⟩
        relays := s.relays.insert q.id c
        sessions := s.sessions.insert c ⟨q.id, none, 0⟩
        timers := s.timers.insert c (s.now + relayPairWindow) }

/-- `pairRelay` under the lock of the record: be the first of the pair and wait, or be joined to
the first. -/
def joinSession (s : State) (c : ConnId) (connection : Connection) (ref : ConnId)
    (session : RelaySession) : State :=
  match session.peer1 with
  | none =>
    { s with
      connections := s.connections.insert c { connection with stage := .waiting ref }
      sessions := s.sessions.insert ref { session with peer1 := some c } }
  | some peer1 =>
    { s with
      connections := s.connections.insert c { connection with stage := .piping peer1 }
      sessions := s.sessions.insert ref { session with state := 1 }
      paired := (peer1, c) :: s.paired }

theorem joinSession_of_none {ref : ConnId} (vacant : session.peer1 = none) :
    s.joinSession c connection ref session =
      { s with
        connections := s.connections.insert c { connection with stage := .waiting ref }
        sessions := s.sessions.insert ref { session with peer1 := some c } } := by
  unfold joinSession
  rw [vacant]

theorem joinSession_of_some {ref peer1 : ConnId} (isFirst : session.peer1 = some peer1) :
    s.joinSession c connection ref session =
      { s with
        connections := s.connections.insert c { connection with stage := .piping peer1 }
        sessions := s.sessions.insert ref { session with state := 1 }
        paired := (peer1, c) :: s.paired } := by
  unfold joinSession
  rw [isFirst]

/-- `pipeRelay` copies a message from one end to the other. -/
def copyMessage (s : State) (c peer1 : ConnId) (fromPeer1 : Bool) : State :=
  { s with delivered := (if fromPeer1 then (peer1, c) else (c, peer1)) :: s.delivered }

/-- The end of `pipeRelay` closes both ends. -/
def endPipe (s : State) (c : ConnId) (connection : Connection) (peer1 : ConnId) : State :=
  { s with
    connections := s.connections.insert c { connection with stage := .toDelete }
    closed := peer1 :: c :: s.closed }

/-- The Delete after `pipeRelay`, of whatever record is under the identifier. -/
def deleteRelay (s : State) (c : ConnId) (connection : Connection) : State :=
  { s with
    connections := s.connections.insert c { connection with stage := .returned }
    relays := s.relays.erase connection.relayID }

/-- The timer of a record fires. -/
def expire (s : State) (c : ConnId) (connection : Connection) : State :=
  { s with relays := s.relays.erase connection.relayID, timers := s.timers.erase c }

end State

/-- Whose operation comes next. A connection that the limiter and the blocklist refuse is not
seen. -/
inductive Label
  | accept (c : ConnId) (q : RelayQuery)
  | join (c : ConnId)
  | message (c : ConnId) (fromPeer1 : Bool)
  | depart (c : ConnId)
  | endPipe (c : ConnId)
  | delete (c : ConnId)
  | expire (c : ConnId)
  | advance (elapsed : Nat)

/-- The handler of a connection that is already there. -/
def handlerStep (s : State) (c : ConnId) (connection : Connection) : Label → Option State
  | .join _ =>
    match connection.stage with
    | .toJoin ref => (s.sessions.lookup ref).map (s.joinSession c connection ref)
    | _ => none
  | .message _ fromPeer1 =>
    match connection.stage with
    | .piping peer1 =>
      if c ∈ s.closed ∨ peer1 ∈ s.closed then none else some (s.copyMessage c peer1 fromPeer1)
    | _ => none
  | .endPipe _ =>
    match connection.stage with
    | .piping peer1 =>
      if c ∈ s.closed ∨ peer1 ∈ s.closed then some (s.endPipe c connection peer1) else none
    | _ => none
  | .delete _ => if connection.stage = .toDelete then some (s.deleteRelay c connection) else none
  | .expire _ =>
    match s.timers.lookup c with
    | some deadline =>
      if deadline ≤ s.now ∧ connection.stage ≠ .returned then some (s.expire c connection)
      else none
    | none => none
  | .depart _ => some { s with closed := c :: s.closed }
  | .accept .. | .advance _ => none

/-- The successor of a state under a label. A message is copied while both ends are open, and the
copying ends when one is closed. -/
def step (decodes : Nat → String → Bool) (s : State) (label : Label) : Option State :=
  match label with
  | .accept c q =>
    if (s.connections.lookup c).isSome then none
    else if q.id = "" then some s
    else
      match checkCookies decodes s.now q with
      | none => some s
      | some authenticated => some (s.loadOrStore c q authenticated)
  | .advance elapsed => some { s with now := s.now + elapsed }
  | .join c | .message c _ | .depart c | .endPipe c | .delete c | .expire c =>
    (s.connections.lookup c).bind fun connection => handlerStep s c connection label

def newGateway (now : Nat) : State :=
  ⟨now, ∅, ∅, ∅, ∅, [], [], []⟩

/-- The relay tunnels as a transition system, given the cookies that decode at each time. -/
def tunnels (decodes : Nat → String → Bool) : System State Label where
  start s := ∃ now, s = newGateway now
  step := step decodes

/-! ### The property and the condition -/

namespace State

/-- The connection came with a cookie that was good when it arrived. -/
def Authenticated (s : State) (c : ConnId) : Prop :=
  ∃ connection, s.connections.lookup c = some connection ∧ connection.authenticated = true

/-- Data is forwarded between the two connections, under the identifier. -/
def Pipes (s : State) (id : String) (peer1 c : ConnId) : Prop :=
  ∃ connection, s.connections.lookup c = some connection ∧ connection.relayID = id ∧
    connection.stage = .piping peer1

/-- The connection is an end of a tunnel with the identifier that forwards data. -/
def Forwards (s : State) (id : String) (c : ConnId) : Prop :=
  ∃ peer1 peer2, s.Pipes id peer1 peer2 ∧ (c = peer1 ∨ c = peer2)

/-- The connections of all pairs that were ever made. -/
def parties (s : State) : List ConnId :=
  s.paired.flatMap fun pair => [pair.1, pair.2]

end State

/-- At any time a tunnel forwards between at most two connections, everything was forwarded
between authenticated connections only, and no connection was ever paired twice. -/
structure JoinsTwo (s : State) : Prop where
  atMostTwo : ∀ id a b c, s.Forwards id a → s.Forwards id b → s.Forwards id c →
    a = b ∨ a = c ∨ b = c
  authenticated : ∀ id c, s.Forwards id c → s.Authenticated c
  delivered : ∀ message ∈ s.delivered, s.Authenticated message.1 ∧ s.Authenticated message.2
  onlyOnce : s.parties.Nodup

/-- The connection is not joined to another, or it is joined to one that still waits, both are
authenticated, and no tunnel with the identifier is running. -/
def JoinsWaiting (s : State) : Label → Prop
  | .join c =>
    ∀ connection ref session peer1, s.connections.lookup c = some connection →
      connection.stage = .toJoin ref → s.sessions.lookup ref = some session →
      session.peer1 = some peer1 →
        session.state = 0 ∧ connection.authenticated = true ∧ s.Authenticated peer1 ∧
          ∀ first second, ¬ s.Pipes connection.relayID first second
  | _ => True

/-! ### What a step does -/

/-- What a step does to the connections and the records: nothing, or one of the operations. -/
inductive Did (s : State) : Label → State → Prop
  | aside {label : Label} {now : Nat} {relays : Table String ConnId} {timers : Table ConnId Nat}
      {closed : List ConnId} (free : JoinsWaiting s label) :
      Did s label { s with now, relays, timers, closed }
  | arrived {c : ConnId} {q : RelayQuery} {authenticated : Bool}
      (fresh : s.connections.lookup c = none) :
      Did s (.accept c q) (s.loadOrStore c q authenticated)
  | joined {c ref : ConnId} {connection : Connection} {session : RelaySession}
      (found : s.connections.lookup c = some connection) (stage : connection.stage = .toJoin ref)
      (loaded : s.sessions.lookup ref = some session) :
      Did s (.join c) (s.joinSession c connection ref session)
  | copied {c peer1 : ConnId} {connection : Connection} {fromPeer1 : Bool}
      (found : s.connections.lookup c = some connection)
      (stage : connection.stage = .piping peer1) :
      Did s (.message c fromPeer1) (s.copyMessage c peer1 fromPeer1)
  | left {label : Label} {c : ConnId} {connection : Connection} {stage : Stage}
      {relays : Table String ConnId} {closed : List ConnId}
      (found : s.connections.lookup c = some connection)
      (joined : connection.stage.hasJoined = true) (ends : stage = .toDelete ∨ stage = .returned)
      (free : JoinsWaiting s label) :
      Did s label { s with
        connections := s.connections.insert c { connection with stage }, relays, closed }

variable {after : State} {label : Label}

theorem handlerStep_did (found : s.connections.lookup c = some connection)
    (own : label = .join c ∨ (∃ fromPeer1, label = .message c fromPeer1) ∨ label = .depart c ∨
      label = .endPipe c ∨ label = .delete c ∨ label = .expire c)
    (taken : handlerStep s c connection label = some after) : Did s label after := by
  rcases own with rfl | ⟨fromPeer1, rfl⟩ | rfl | rfl | rfl | rfl
  · rw [handlerStep] at taken
    split at taken
    · next ref stage =>
      obtain ⟨session, loaded, rfl⟩ := Option.map_eq_some_iff.mp taken
      exact .joined found stage loaded
    · exact absurd taken (Option.some_ne_none _).symm
  · rw [handlerStep] at taken
    split at taken
    · next peer1 stage =>
      obtain ⟨_, same⟩ := Option.ite_none_left_eq_some.mp taken
      cases same
      exact .copied found stage
    · exact absurd taken (Option.some_ne_none _).symm
  · rw [handlerStep, Option.some_inj] at taken
    cases taken
    exact .aside trivial
  · rw [handlerStep] at taken
    split at taken
    · next peer1 stage =>
      obtain ⟨_, same⟩ := Option.ite_none_right_eq_some.mp taken
      cases same
      exact .left found (by rw [stage]; rfl) (.inl rfl) trivial
    · exact absurd taken (Option.some_ne_none _).symm
  · rw [handlerStep] at taken
    obtain ⟨stage, same⟩ := Option.ite_none_right_eq_some.mp taken
    cases same
    exact .left found (by rw [stage]; rfl) (.inr rfl) trivial
  · rw [handlerStep] at taken
    split at taken
    · obtain ⟨_, same⟩ := Option.ite_none_right_eq_some.mp taken
      cases same
      exact .aside trivial
    · exact absurd taken (Option.some_ne_none _).symm

variable {decodes : Nat → String → Bool}

theorem step_did (taken : step decodes s label = some after) : Did s label after := by
  cases label with
  | accept c q =>
    rw [step] at taken
    obtain ⟨vacant, taken⟩ := Option.ite_none_left_eq_some.mp taken
    have refused : some s = some after → Did s (.accept c q) after := by
      intro same
      cases same
      exact .aside trivial
    split at taken
    · exact refused taken
    · split at taken
      · exact refused taken
      · cases taken
        exact .arrived (Option.not_isSome_iff_eq_none.mp vacant)
  | advance elapsed =>
    rw [step, Option.some_inj] at taken
    cases taken
    exact .aside trivial
  | join c | message c _ | depart c | endPipe c | delete c | expire c =>
    obtain ⟨connection, found, taken⟩ := Option.bind_eq_some_iff.mp taken
    refine handlerStep_did found ?_ taken
    simp

/-! ### What every run keeps -/

/-- A record has as its first the connection that waits in it, a pair is a connection that waits
in a paired record and one whose handler has joined it, and a running tunnel is a pair. -/
structure Sound (s : State) : Prop where
  stored : ∀ ref session, s.sessions.lookup ref = some session →
    (s.connections.lookup ref).isSome
  unpaired : ∀ ref session, s.sessions.lookup ref = some session → session.peer1 = none →
    session.state = 0
  first : ∀ ref session peer1, s.sessions.lookup ref = some session →
    session.peer1 = some peer1 → ∃ connection, s.connections.lookup peer1 = some connection ∧
      connection.stage = .waiting ref
  noted : ∀ ref session peer1, s.sessions.lookup ref = some session →
    session.peer1 = some peer1 → session.state ≠ 0 → ∃ c, (peer1, c) ∈ s.paired
  piping : ∀ id peer1 c, s.Pipes id peer1 c → (peer1, c) ∈ s.paired
  waited : ∀ pair ∈ s.paired, ∃ connection ref session,
    s.connections.lookup pair.1 = some connection ∧ connection.stage = .waiting ref ∧
      s.sessions.lookup ref = some session ∧ session.state ≠ 0
  joined : ∀ pair ∈ s.paired, ∃ connection, s.connections.lookup pair.2 = some connection ∧
    connection.stage.hasJoined = true

theorem newGateway_sound (now : Nat) : Sound (newGateway now) where
  stored := fun _ _ found => (nomatch found)
  unpaired := fun _ _ found => (nomatch found)
  first := fun _ _ _ found => (nomatch found)
  noted := fun _ _ _ found => (nomatch found)
  piping := fun _ _ _ ⟨_, found, _⟩ => (nomatch found)
  waited := fun _ member => absurd member List.not_mem_nil
  joined := fun _ member => absurd member List.not_mem_nil

variable {new : Connection}

/-- An insertion leaves a connection alone that is at another stage. -/
theorem lookup_insert_of_stage {connections : Table ConnId Connection} {other : ConnId}
    {found : Connection} (lookup : connections.lookup other = some found)
    (differs : ∀ old, connections.lookup c = some old → old.stage ≠ found.stage) :
    (connections.insert c new).lookup other = some found := by
  refine Table.lookup_insert_iff.mpr (.inr ⟨?_, lookup⟩)
  rintro rfl
  exact differs found lookup rfl

theorem pipes_of_insert
    (isNot : ∀ peer1, new.stage ≠ .piping peer1) {id : String} {peer1 peer2 : ConnId}
    (pipes : State.Pipes { s with connections := s.connections.insert c new } id peer1 peer2) :
    s.Pipes id peer1 peer2 := by
  obtain ⟨connection, found, sameID, stage⟩ := pipes
  rcases Table.lookup_insert_iff.mp found with ⟨-, rfl⟩ | ⟨-, older⟩
  · exact absurd stage (isNot peer1)
  · exact ⟨connection, older, sameID, stage⟩

/-- A connection that is there already, but waits in no record, goes on to a stage that is neither
a wait nor the forwarding of data, and stays joined if it was. -/
theorem Sound.moved (sound : Sound s)
    (wasNot : ∀ old ref, s.connections.lookup c = some old → old.stage ≠ .waiting ref)
    (isNot : ∀ peer1, new.stage ≠ .piping peer1)
    (stays : ∀ old, s.connections.lookup c = some old → old.stage.hasJoined = true →
      new.stage.hasJoined = true) :
    Sound { s with connections := s.connections.insert c new } :=
  { sound with
    stored := by
      intro ref session found
      rw [Table.lookup_insert_if]
      split
      · rfl
      · exact sound.stored ref session found
    first := by
      intro ref session peer1 found isFirst
      obtain ⟨connection, lookup, stage⟩ := sound.first ref session peer1 found isFirst
      exact ⟨connection,
        lookup_insert_of_stage lookup fun old there => stage ▸ wasNot old ref there, stage⟩
    piping := fun id peer1 other pipes => sound.piping id peer1 other (pipes_of_insert isNot pipes)
    waited := by
      intro pair member
      obtain ⟨connection, ref, session, lookup, stage, record⟩ := sound.waited pair member
      exact ⟨connection, ref, session,
        lookup_insert_of_stage lookup fun old there => stage ▸ wasNot old ref there, stage, record⟩
    joined := by
      intro pair member
      obtain ⟨connection, lookup, hasJoined⟩ := sound.joined pair member
      rw [Table.lookup_insert_if]
      split
      · next same => exact ⟨new, rfl, stays connection (same ▸ lookup) hasJoined⟩
      · exact ⟨connection, lookup, hasJoined⟩ }

/-- A record that nobody knows yet is stored under the name of a connection that is there. -/
theorem Sound.stores (sound : Sound s) (id : String)
    (fresh : s.sessions.lookup c = none) (there : (s.connections.lookup c).isSome) :
    Sound { s with sessions := s.sessions.insert c ⟨id, none, 0⟩ } :=
  { sound with
    stored := Table.forall_insert there sound.stored
    unpaired := Table.forall_insert (fun _ => rfl) sound.unpaired
    first := by
      intro ref session peer1 found isFirst
      rcases Table.lookup_insert_iff.mp found with ⟨-, rfl⟩ | ⟨-, older⟩
      · exact absurd isFirst (Option.some_ne_none _).symm
      · exact sound.first ref session peer1 older isFirst
    noted := by
      intro ref session peer1 found isFirst
      rcases Table.lookup_insert_iff.mp found with ⟨-, rfl⟩ | ⟨-, older⟩
      · exact absurd isFirst (Option.some_ne_none _).symm
      · exact sound.noted ref session peer1 older isFirst
    waited := by
      intro pair member
      obtain ⟨connection, ref, session, lookup, stage, record, used⟩ := sound.waited pair member
      refine ⟨connection, ref, session, lookup, stage, ?_, used⟩
      refine Table.lookup_insert_iff.mpr (.inr ⟨?_, record⟩)
      rintro rfl
      exact Option.some_ne_none session (record.symm.trans fresh) }

/-- An arrival keeps it. -/
theorem Sound.loadOrStore (sound : Sound s)
    (fresh : s.connections.lookup c = none) (q : RelayQuery) (authenticated : Bool) :
    Sound (s.loadOrStore c q authenticated) := by
  have absent : ∀ old : Connection, s.connections.lookup c ≠ some old := fun old there =>
    Option.some_ne_none old (there.symm.trans fresh)
  have arrives : ∀ stage : Stage, (∀ peer1, stage ≠ .piping peer1) →
      Sound { s with connections := s.connections.insert c ⟨q.id, authenticated, stage⟩ } :=
    fun stage isNot => sound.moved (fun old _ there => absurd there (absent old)) isNot
      fun old there => absurd there (absent old)
  unfold State.loadOrStore
  split
  · exact arrives .multiplexed fun _ same => Stage.noConfusion same
  · split
    · next session _ => exact arrives (.toJoin session) fun _ same => Stage.noConfusion same
    · have unknown : s.sessions.lookup c = none := by
        cases record : s.sessions.lookup c with
        | none => rfl
        | some session =>
          have there := sound.stored c session record
          rw [fresh] at there
          exact absurd there Bool.false_ne_true
      have there : ((s.connections.insert c ⟨q.id, authenticated, .toJoin c⟩).lookup c).isSome := by
        rw [AList.lookup_insert]
        rfl
      have arrived := arrives (.toJoin c) fun _ same => Stage.noConfusion same
      exact { arrived.stores q.id unknown there with }

/-- The first of a pair keeps it. -/
theorem Sound.waits (sound : Sound s) {ref : ConnId}
    (found : s.connections.lookup c = some connection)
    (stage : connection.stage = .toJoin ref) (loaded : s.sessions.lookup ref = some session)
    (vacant : session.peer1 = none) : Sound (s.joinSession c connection ref session) := by
  have moved : Sound { s with
      connections := s.connections.insert c { connection with stage := .waiting ref } } := by
    refine sound.moved ?_ (fun _ same => Stage.noConfusion same) ?_
    · intro old other there
      rw [found, Option.some_inj] at there
      rw [← there, stage]
      exact fun same => Stage.noConfusion same
    · intro old there hasJoined
      rw [found, Option.some_inj] at there
      rw [← there, stage] at hasJoined
      exact absurd hasJoined Bool.false_ne_true
  rw [State.joinSession_of_none vacant]
  have waiting := sound.unpaired ref session loaded vacant
  obtain ⟨stored, unpaired, first, noted, piping, waited, joined⟩ := moved
  refine ⟨?_, ?_, ?_, ?_, piping, ?_, joined⟩
  · intro other record lookup
    rcases Table.lookup_insert_iff.mp lookup with ⟨rfl, -⟩ | ⟨-, older⟩
    · exact stored other session loaded
    · exact stored other record older
  · intro other record lookup isVacant
    rcases Table.lookup_insert_iff.mp lookup with ⟨-, rfl⟩ | ⟨-, older⟩
    · exact absurd isVacant (Option.some_ne_none c)
    · exact unpaired other record older isVacant
  · intro other record peer1 lookup isFirst
    rcases Table.lookup_insert_iff.mp lookup with ⟨rfl, rfl⟩ | ⟨-, older⟩
    · obtain rfl := Option.some.inj isFirst
      exact ⟨_, AList.lookup_insert _, rfl⟩
    · exact first other record peer1 older isFirst
  · intro other record peer1 lookup isFirst used
    rcases Table.lookup_insert_iff.mp lookup with ⟨-, rfl⟩ | ⟨-, older⟩
    · exact absurd waiting used
    · exact noted other record peer1 older isFirst used
  · intro pair member
    obtain ⟨waiter, other, record, lookup, isWaiting, kept, used⟩ := waited pair member
    refine ⟨waiter, other, record, lookup, isWaiting, ?_, used⟩
    refine Table.lookup_insert_iff.mpr (.inr ⟨?_, kept⟩)
    rintro rfl
    rw [loaded, Option.some_inj] at kept
    exact used (kept ▸ waiting)

/-- The second of a pair keeps it. -/
theorem Sound.pairs (sound : Sound s) {ref peer1 : ConnId}
    (found : s.connections.lookup c = some connection)
    (stage : connection.stage = .toJoin ref) (loaded : s.sessions.lookup ref = some session)
    (isFirst : session.peer1 = some peer1) : Sound (s.joinSession c connection ref session) := by
  obtain ⟨stored, unpaired, first, noted, piping, waited, joined⟩ := sound
  rw [State.joinSession_of_some isFirst]
  obtain ⟨waiter, there, waits⟩ := first ref session peer1 loaded isFirst
  have stays : ∀ other old record new, s.connections.lookup other = some old →
      old.stage = .waiting record → (s.connections.insert c new).lookup other = some old := by
    intro other old record new lookup isWaiting
    refine lookup_insert_of_stage lookup fun mover same => ?_
    rw [found, Option.some_inj] at same
    rw [← same, stage, isWaiting]
    exact fun same => Stage.noConfusion same
  refine ⟨?_, ?_, ?_, ?_, ?_, ?_, ?_⟩
  · intro other record lookup
    have earlier : (s.connections.lookup other).isSome := by
      rcases Table.lookup_insert_iff.mp lookup with ⟨rfl, -⟩ | ⟨-, older⟩
      · exact stored other session loaded
      · exact stored other record older
    rw [Table.lookup_insert_if]
    split
    · rfl
    · exact earlier
  · intro other record lookup isVacant
    rcases Table.lookup_insert_iff.mp lookup with ⟨-, rfl⟩ | ⟨-, older⟩
    · exact absurd (isFirst.symm.trans isVacant) (Option.some_ne_none peer1)
    · exact unpaired other record older isVacant
  · intro other record head lookup isHead
    have earlier : ∃ older, s.sessions.lookup other = some older ∧ older.peer1 = some head := by
      rcases Table.lookup_insert_iff.mp lookup with ⟨rfl, rfl⟩ | ⟨-, older⟩
      · exact ⟨session, loaded, isHead⟩
      · exact ⟨record, older, isHead⟩
    obtain ⟨older, olderRecord, olderHead⟩ := earlier
    obtain ⟨connection, there, isWaiting⟩ := first other older head olderRecord olderHead
    exact ⟨connection, stays head connection other _ there isWaiting, isWaiting⟩
  · intro other record head lookup isHead used
    rcases Table.lookup_insert_iff.mp lookup with ⟨rfl, rfl⟩ | ⟨-, older⟩
    · obtain rfl := Option.some.inj (isFirst.symm.trans isHead)
      exact ⟨c, List.mem_cons_self⟩
    · obtain ⟨second, member⟩ := noted other record head older isHead used
      exact ⟨second, List.mem_cons_of_mem _ member⟩
  · rintro id head second ⟨piped, lookup, sameID, isPiping⟩
    rcases Table.lookup_insert_iff.mp lookup with ⟨rfl, rfl⟩ | ⟨-, older⟩
    · cases isPiping
      exact List.mem_cons_self
    · exact List.mem_cons_of_mem _ (piping id head second ⟨piped, older, sameID, isPiping⟩)
  · intro pair member
    rcases List.mem_cons.mp member with rfl | older
    · exact ⟨waiter, ref, _, stays peer1 waiter ref _ there waits, waits,
        AList.lookup_insert _, Nat.one_ne_zero⟩
    · obtain ⟨head, other, record, lookup, isWaiting, kept, used⟩ := waited pair older
      have nowThere := stays pair.1 head other { connection with stage := .piping peer1 } lookup
        isWaiting
      by_cases same : other = ref
      · refine ⟨head, other, { session with state := 1 }, nowThere, isWaiting, ?_,
          Nat.one_ne_zero⟩
        rw [same]
        exact AList.lookup_insert _
      · exact ⟨head, other, record, nowThere, isWaiting,
          Table.lookup_insert_iff.mpr (.inr ⟨same, kept⟩), used⟩
  · intro pair member
    rcases List.mem_cons.mp member with rfl | older
    · exact ⟨_, AList.lookup_insert _, rfl⟩
    · obtain ⟨second, lookup, hasJoined⟩ := joined pair older
      rw [Table.lookup_insert_if]
      split
      · exact ⟨_, rfl, rfl⟩
      · exact ⟨second, lookup, hasJoined⟩

/-- Every step keeps it. -/
theorem Sound.kept (sound : Sound s) (did : Did s label after) : Sound after := by
  cases did with
  | aside => exact { sound with }
  | arrived fresh => exact sound.loadOrStore fresh _ _
  | joined found stage loaded =>
    next session =>
      cases first : session.peer1 with
      | none => exact sound.waits found stage loaded first
      | some peer1 => exact sound.pairs found stage loaded first
  | copied => exact { sound with }
  | left found joined ends =>
    refine { sound.moved ?_ ?_ ?_ with }
    · intro old ref there isWaiting
      rw [found, Option.some_inj] at there
      rw [there, isWaiting] at joined
      exact Bool.false_ne_true joined
    · intro peer1
      rcases ends with rfl | rfl
      · exact fun same => Stage.noConfusion same
      · exact fun same => Stage.noConfusion same
    · intro old there hasJoined
      rcases ends with rfl | rfl
      · rfl
      · rfl

theorem tunnels_sound {guard : State → Label → Prop}
    (reached : ReachableWhen (tunnels decodes) guard s) : Sound s := by
  refine reached.invariant Sound ?_ ?_
  · rintro state ⟨now, rfl⟩
    exact newGateway_sound now
  · intro before label after sound _ taken
    exact sound.kept (step_did taken)

/-! ### Steps that join nobody -/

theorem authenticated_of_insert
    (stays : ∀ old, s.connections.lookup c = some old → old.authenticated = new.authenticated)
    {other : ConnId} (known : s.Authenticated other) :
    State.Authenticated { s with connections := s.connections.insert c new } other := by
  obtain ⟨connection, found, authenticated⟩ := known
  by_cases same : other = c
  · subst same
    exact ⟨new, AList.lookup_insert _, (stays connection found).symm.trans authenticated⟩
  · exact ⟨connection, (AList.lookup_insert_ne same).trans found, authenticated⟩

/-- What forwards no more than before and pairs nobody keeps the property. -/
theorem JoinsTwo.of_pipes (joins : JoinsTwo s)
    (pipes : ∀ id peer1 peer2, after.Pipes id peer1 peer2 → s.Pipes id peer1 peer2)
    (known : ∀ c, s.Authenticated c → after.Authenticated c) (paired : after.paired = s.paired)
    (delivered : ∀ message ∈ after.delivered,
      s.Authenticated message.1 ∧ s.Authenticated message.2) : JoinsTwo after := by
  have earlier : ∀ id c, after.Forwards id c → s.Forwards id c := by
    rintro id c ⟨peer1, peer2, piped, isEnd⟩
    exact ⟨peer1, peer2, pipes id peer1 peer2 piped, isEnd⟩
  refine ⟨?_, ?_, ?_, ?_⟩
  · intro id a b c fromA fromB fromC
    exact joins.atMostTwo id a b c (earlier id a fromA) (earlier id b fromB) (earlier id c fromC)
  · exact fun id c forwards => known c (joins.authenticated id c (earlier id c forwards))
  · exact fun message member =>
      ⟨known _ (delivered message member).1, known _ (delivered message member).2⟩
  · rw [State.parties, paired]
    exact joins.onlyOnce

/-- A connection whose stage changes to one that forwards nothing keeps it. -/
theorem JoinsTwo.moved (joins : JoinsTwo s) (isNot : ∀ peer1, new.stage ≠ .piping peer1)
    (stays : ∀ old, s.connections.lookup c = some old → old.authenticated = new.authenticated) :
    JoinsTwo { s with connections := s.connections.insert c new } :=
  joins.of_pipes (fun _ _ _ => pipes_of_insert isNot) (fun _ => authenticated_of_insert stays) rfl
    joins.delivered

/-- An arrival keeps it. -/
theorem JoinsTwo.loadOrStore (joins : JoinsTwo s)
    (fresh : s.connections.lookup c = none) (q : RelayQuery) (authenticated : Bool) :
    JoinsTwo (s.loadOrStore c q authenticated) := by
  have stays : ∀ (new old : Connection), s.connections.lookup c = some old →
      old.authenticated = new.authenticated := fun _ old there =>
    absurd (there.symm.trans fresh) (Option.some_ne_none old)
  unfold State.loadOrStore
  split
  · exact joins.moved (fun _ same => Stage.noConfusion same) (stays _)
  · split
    · exact joins.moved (fun _ same => Stage.noConfusion same) (stays _)
    · exact { joins.moved (fun _ same => Stage.noConfusion same) (stays _) with }

/-- A message between the ends of a running tunnel keeps it. -/
theorem JoinsTwo.copyMessage (joins : JoinsTwo s) {peer1 : ConnId}
    (found : s.connections.lookup c = some connection)
    (stage : connection.stage = .piping peer1) (fromPeer1 : Bool) :
    JoinsTwo (s.copyMessage c peer1 fromPeer1) := by
  have pipes : s.Pipes connection.relayID peer1 c := ⟨connection, found, rfl, stage⟩
  have first := joins.authenticated connection.relayID peer1 ⟨peer1, c, pipes, .inl rfl⟩
  have second := joins.authenticated connection.relayID c ⟨peer1, c, pipes, .inr rfl⟩
  refine joins.of_pipes (fun _ _ _ piped => piped) (fun _ known => known) rfl ?_
  intro message member
  rcases List.mem_cons.mp member with rfl | older
  · cases fromPeer1
    · exact ⟨second, first⟩
    · exact ⟨first, second⟩
  · exact joins.delivered message older

/-! ### The step that joins two connections -/

/-- The connections of a pair have left the stages from which they could be paired again. -/
theorem Sound.not_mem_parties (sound : Sound s) (found : s.connections.lookup c = some connection)
    (notJoined : connection.stage.hasJoined = false)
    (waitsUnpaired : ∀ ref session, connection.stage = .waiting ref →
      s.sessions.lookup ref = some session → session.state = 0) : c ∉ s.parties := by
  intro member
  obtain ⟨pair, paired, isEnd⟩ := List.mem_flatMap.mp member
  rcases List.mem_pair.mp isEnd with rfl | rfl
  · obtain ⟨other, ref, session, lookup, stage, record, used⟩ := sound.waited pair paired
    rw [found, Option.some_inj] at lookup
    exact used (waitsUnpaired ref session (lookup ▸ stage) record)
  · obtain ⟨other, lookup, hasJoined⟩ := sound.joined pair paired
    rw [found, Option.some_inj] at lookup
    rw [← lookup, notJoined] at hasJoined
    exact Bool.false_ne_true hasJoined

section joining

variable {s : State} {c ref peer1 : ConnId} {connection : Connection} {session : RelaySession}

theorem parties_joinSession (isFirst : session.peer1 = some peer1) :
    (s.joinSession c connection ref session).parties = peer1 :: c :: s.parties := by
  rw [State.joinSession_of_some isFirst]
  rfl

/-- A joined connection forwards, and whoever forwarded before still does. -/
theorem pipes_joinSession (found : s.connections.lookup c = some connection)
    (stage : connection.stage = .toJoin ref) (isFirst : session.peer1 = some peer1) {id : String}
    {first second : ConnId} :
    (s.joinSession c connection ref session).Pipes id first second ↔
      (id = connection.relayID ∧ first = peer1 ∧ second = c) ∨ s.Pipes id first second := by
  rw [State.joinSession_of_some isFirst]
  constructor
  · rintro ⟨piped, lookup, sameID, isPiping⟩
    rcases Table.lookup_insert_iff.mp lookup with ⟨rfl, rfl⟩ | ⟨-, older⟩
    · cases isPiping
      exact .inl ⟨sameID.symm, rfl, rfl⟩
    · exact .inr ⟨piped, older, sameID, isPiping⟩
  · rintro (⟨rfl, rfl, rfl⟩ | ⟨piped, lookup, sameID, isPiping⟩)
    · exact ⟨_, AList.lookup_insert _, rfl, rfl⟩
    · refine ⟨piped, lookup_insert_of_stage lookup fun old there => ?_, sameID, isPiping⟩
      rw [found, Option.some_inj] at there
      rw [← there, stage, isPiping]
      exact fun same => Stage.noConfusion same

theorem authenticated_joinSession (found : s.connections.lookup c = some connection)
    (isFirst : session.peer1 = some peer1) (other : ConnId) :
    (s.joinSession c connection ref session).Authenticated other ↔ s.Authenticated other := by
  rw [State.joinSession_of_some isFirst]
  constructor
  · rintro ⟨known, lookup, authenticated⟩
    rcases Table.lookup_insert_iff.mp lookup with ⟨rfl, rfl⟩ | ⟨-, older⟩
    · exact ⟨connection, found, authenticated⟩
    · exact ⟨known, older, authenticated⟩
  · refine authenticated_of_insert fun old there => ?_
    rw [found, Option.some_inj] at there
    rw [there]

/-- The two connections of a record that is still open are apart and in no pair. -/
theorem Sound.endsFree (sound : Sound s) (found : s.connections.lookup c = some connection)
    (stage : connection.stage = .toJoin ref) (loaded : s.sessions.lookup ref = some session)
    (isFirst : session.peer1 = some peer1) (waiting : session.state = 0) :
    peer1 ≠ c ∧ peer1 ∉ s.parties ∧ c ∉ s.parties := by
  obtain ⟨waiter, there, waits⟩ := sound.first ref session peer1 loaded isFirst
  refine ⟨?_, ?_, ?_⟩
  · rintro rfl
    rw [found, Option.some_inj] at there
    rw [← there, stage] at waits
    exact Stage.noConfusion waits
  · refine sound.not_mem_parties there (by rw [waits]; rfl) fun record other isWaiting kept => ?_
    obtain rfl := Stage.waiting.inj (waits.symm.trans isWaiting)
    rw [loaded, Option.some_inj] at kept
    exact kept ▸ waiting
  · exact sound.not_mem_parties found (by rw [stage]; rfl) fun record _ isWaiting _ =>
      absurd (stage.symm.trans isWaiting) fun same => Stage.noConfusion same

/-- Where nothing was piped under the ID, only the two joined connections forward under it. -/
theorem forwards_joinSession (found : s.connections.lookup c = some connection)
    (stage : connection.stage = .toJoin ref) (isFirst : session.peer1 = some peer1)
    (alone : ∀ first second, ¬ s.Pipes connection.relayID first second) {id : String}
    {other : ConnId} (forwards : (s.joinSession c connection ref session).Forwards id other) :
    (id = connection.relayID ∧ (other = peer1 ∨ other = c)) ∨
      (id ≠ connection.relayID ∧ s.Forwards id other) := by
  obtain ⟨first, second, piped, isEnd⟩ := forwards
  rcases (pipes_joinSession found stage isFirst).mp piped with ⟨sameID, rfl, rfl⟩ | older
  · exact .inl ⟨sameID, isEnd⟩
  · refine .inr ⟨?_, first, second, older, isEnd⟩
    rintro rfl
    exact alone first second older

/-- What has to hold for the first and the second of a record to be joined. -/
theorem joinsTwo_joinSession_iff (sound : Sound s) (joins : JoinsTwo s)
    (found : s.connections.lookup c = some connection) (stage : connection.stage = .toJoin ref)
    (loaded : s.sessions.lookup ref = some session) (isFirst : session.peer1 = some peer1) :
    JoinsTwo (s.joinSession c connection ref session) ↔
      session.state = 0 ∧ connection.authenticated = true ∧ s.Authenticated peer1 ∧
        ∀ first second, ¬ s.Pipes connection.relayID first second := by
  have pipes := fun id first second =>
    @pipes_joinSession s c ref peer1 connection session found stage isFirst id first second
  have known := @authenticated_joinSession s c ref peer1 connection session found isFirst
  have parties := @parties_joinSession s c ref peer1 connection session isFirst
  have ends : ∀ party, party = peer1 ∨ party = c →
      (s.joinSession c connection ref session).Forwards connection.relayID party :=
    fun _ isEnd => ⟨peer1, c, (pipes _ _ _).mpr (.inl ⟨rfl, rfl, rfl⟩), isEnd⟩
  constructor
  · intro joinsAfter
    have distinct := joinsAfter.onlyOnce
    rw [parties, List.nodup_cons, List.nodup_cons, List.mem_cons, not_or] at distinct
    obtain ⟨⟨differs, unpairedFirst⟩, unpairedSecond, -⟩ := distinct
    refine ⟨?_, ?_, ?_, ?_⟩
    · by_contra used
      obtain ⟨second, pair⟩ := sound.noted ref session peer1 loaded isFirst used
      exact unpairedFirst (List.mem_flatMap.mpr ⟨_, pair, List.mem_cons_self⟩)
    · obtain ⟨own, lookup, authenticated⟩ :=
        (known c).mp (joinsAfter.authenticated _ c (ends c (.inr rfl)))
      rw [found, Option.some_inj] at lookup
      exact lookup ▸ authenticated
    · exact (known peer1).mp (joinsAfter.authenticated _ peer1 (ends peer1 (.inl rfl)))
    · intro first second running
      have paired : first ∈ s.parties := List.mem_flatMap.mpr
        ⟨_, sound.piping _ first second running, List.mem_cons_self⟩
      have forwards : (s.joinSession c connection ref session).Forwards connection.relayID first :=
        ⟨first, second, (pipes _ _ _).mpr (.inr running), .inl rfl⟩
      rcases joinsAfter.atMostTwo _ first peer1 c forwards (ends peer1 (.inl rfl))
        (ends c (.inr rfl)) with rfl | rfl | same
      · exact unpairedFirst paired
      · exact unpairedSecond paired
      · exact differs same
  · rintro ⟨waiting, authenticated, firstAuthenticated, alone⟩
    have forwards := fun id other => @forwards_joinSession s c ref peer1 connection session found
      stage isFirst alone id other
    refine ⟨?_, ?_, ?_, ?_⟩
    · intro id a b c' fromA fromB fromC
      rcases forwards id a fromA with ⟨sameID, isA⟩ | ⟨otherID, olderA⟩
      · rcases forwards id b fromB with ⟨-, isB⟩ | ⟨otherID, -⟩
        · rcases forwards id c' fromC with ⟨-, isC⟩ | ⟨otherID, -⟩
          · grind
          · exact absurd sameID otherID
        · exact absurd sameID otherID
      · rcases forwards id b fromB with ⟨sameID, -⟩ | ⟨-, olderB⟩
        · exact absurd sameID otherID
        · rcases forwards id c' fromC with ⟨sameID, -⟩ | ⟨-, olderC⟩
          · exact absurd sameID otherID
          · exact joins.atMostTwo id a b c' olderA olderB olderC
    · intro id other forwarded
      refine (known other).mpr ?_
      rcases forwards id other forwarded with ⟨-, rfl | rfl⟩ | ⟨-, older⟩
      · exact firstAuthenticated
      · exact ⟨connection, found, authenticated⟩
      · exact joins.authenticated id other older
    · rw [State.joinSession_of_some isFirst] at known ⊢
      exact fun message member => ⟨(known _).mpr (joins.delivered message member).1,
        (known _).mpr (joins.delivered message member).2⟩
    · obtain ⟨differs, unpairedFirst, unpairedSecond⟩ :=
        sound.endsFree found stage loaded isFirst waiting
      rw [parties, List.nodup_cons, List.nodup_cons, List.mem_cons, not_or]
      exact ⟨⟨differs, unpairedFirst⟩, unpairedSecond, joins.onlyOnce⟩

end joining

/-! ### Every run -/

/-- A step keeps the property exactly when it meets the condition. -/
theorem joinsTwo_iff_of_did (sound : Sound s)
    (joins : JoinsTwo s) (did : Did s label after) : JoinsTwo after ↔ JoinsWaiting s label := by
  cases did with
  | aside free => exact iff_of_true { joins with } free
  | arrived fresh => exact iff_of_true (joins.loadOrStore fresh _ _) trivial
  | copied found stage => exact iff_of_true (joins.copyMessage found stage _) trivial
  | left found joined ends free =>
    refine iff_of_true { joins.moved ?_ ?_ with } free
    · intro peer1
      rcases ends with rfl | rfl
      · exact fun same => Stage.noConfusion same
      · exact fun same => Stage.noConfusion same
    · intro old there
      rw [found, Option.some_inj] at there
      rw [there]
  | @joined c ref connection session found stage loaded =>
    cases first : session.peer1 with
    | none =>
      refine iff_of_true ?_ ?_
      · rw [State.joinSession_of_none first]
        refine { joins.moved (fun _ same => Stage.noConfusion same) fun old there => ?_ with }
        rw [found, Option.some_inj] at there
        rw [there]
      · intro own record other peer1 ownFound ownStage ownLoaded isFirst
        rw [found, Option.some_inj] at ownFound
        rw [← ownFound, stage] at ownStage
        obtain rfl := Stage.toJoin.inj ownStage
        rw [loaded, Option.some_inj] at ownLoaded
        rw [← ownLoaded, first] at isFirst
        exact absurd isFirst (Option.some_ne_none peer1).symm
    | some peer1 =>
      rw [joinsTwo_joinSession_iff sound joins found stage loaded first]
      constructor
      · intro meets own record other head ownFound ownStage ownLoaded isFirst
        rw [found, Option.some_inj] at ownFound
        rw [← ownFound, stage] at ownStage
        obtain rfl := Stage.toJoin.inj ownStage
        rw [loaded, Option.some_inj] at ownLoaded
        rw [← ownLoaded, first] at isFirst
        obtain rfl := Option.some.inj isFirst
        exact ownFound ▸ ownLoaded ▸ meets
      · exact fun meets => meets connection ref session peer1 found stage loaded first

theorem newGateway_joinsTwo (now : Nat) : JoinsTwo (newGateway now) where
  atMostTwo := fun _ _ _ _ ⟨_, _, ⟨_, found, _⟩, _⟩ => (nomatch found)
  authenticated := fun _ _ ⟨_, _, ⟨_, found, _⟩, _⟩ => (nomatch found)
  delivered := fun _ member => absurd member List.not_mem_nil
  onlyOnce := List.nodup_nil

/-- In the runs whose steps meet the condition the property holds of every state reached. -/
theorem tunnels_joinsTwo
    (reached : ReachableWhen (tunnels decodes) JoinsWaiting s) : JoinsTwo s := by
  have both : Sound s ∧ JoinsTwo s := by
    refine reached.invariant (fun state => Sound state ∧ JoinsTwo state) ?_ ?_
    · rintro state ⟨now, rfl⟩
      exact ⟨newGateway_sound now, newGateway_joinsTwo now⟩
    · rintro before label after ⟨sound, joins⟩ meets taken
      exact ⟨sound.kept (step_did taken),
        (joinsTwo_iff_of_did sound joins (step_did taken)).mpr meets⟩
  exact both.2

/-- A tunnel joins two authenticated connections and no third in every state of a run exactly when
every connection that finds another in its record finds one that still waits, both came with a
good cookie, and no tunnel with the identifier is running. -/
theorem joinsTwo_iff_joinsWaiting (decodes : Nat → String → Bool)
    {steps : List (Taken State Label)} {final : State}
    (history : History (tunnels decodes) steps final) :
    (∀ step ∈ steps, JoinsTwo step.after) ↔
      ∀ step ∈ steps, JoinsWaiting step.before step.label := by
  have agree : ∀ step : Taken State Label,
      ReachableWhen (tunnels decodes) JoinsWaiting step.before →
      (tunnels decodes).step step.before step.label = some step.after →
      (JoinsTwo step.after ↔ JoinsWaiting step.before step.label) := fun step reached taken =>
    joinsTwo_iff_of_did (tunnels_sound reached) (tunnels_joinsTwo reached) (step_did taken)
  exact history.forall_iff_when agree

/-! ### A tunnel and a third connection -/

/-- The server's cookie decodes. -/
def decodesOwn (_ : Nat) (cookie : String) : Bool :=
  cookie == "sealed"

/-- The browser's end of a terminal tunnel, and the agent's. -/
def browserQuery : RelayQuery := ⟨"tunnel", "sealed", "", "1"⟩

def agentQuery : RelayQuery := ⟨"tunnel", "", "sealed", "1"⟩

/-- The two ends that the tunnel was made for arrive and exchange messages. -/
def twoEnds : List Label :=
  [.accept 0 browserQuery, .accept 1 agentQuery, .join 0, .join 1, .message 1 true,
    .message 1 false]

theorem newGateway_start (now : Nat) :
    (tunnels decodes).start (newGateway now) := ⟨now, rfl⟩

/-- A tunnel that is used as intended, until one end leaves. -/
theorem joinsTwo_iff_joinsWaiting_twoEnds :
    ∃ steps final, History (tunnels decodesOwn) steps final ∧ final.delivered = [(1, 0), (0, 1)] ∧
      ((∀ step ∈ steps, JoinsTwo step.after) ↔
        ∀ step ∈ steps, JoinsWaiting step.before step.label) := by
  have ends : ((tunnels decodesOwn).trace [] (newGateway 0)
      (twoEnds ++ [.depart 0, .endPipe 1, .delete 1])).any
        (fun run => decide (run.2.delivered = [(1, 0), (0, 1)])) = true := by decide
  obtain ⟨steps, final, history, passed⟩ := exists_history_of_trace (newGateway_start 0) ends
  exact ⟨steps, final, history, of_decide_eq_true passed,
    joinsTwo_iff_joinsWaiting decodesOwn history⟩

/-- A third connection, without a cookie, is joined to the first end of a running tunnel. -/
theorem thirdConnection_joined :
    ¬ ∀ state, Reachable (tunnels decodesOwn) state → JoinsTwo state := by
  intro always
  have ends : ((tunnels decodesOwn).run (newGateway 0)
      (twoEnds ++ [.accept 2 ⟨"tunnel", "", "", "1"⟩, .join 2])).any
        (fun state => decide (state.paired = [(0, 2), (0, 1)])) = true := by decide
  obtain ⟨state, reached, passed⟩ := exists_reachable_of_run (newGateway_start 0) ends
  have distinct := (always state reached).onlyOnce
  rw [State.parties, of_decide_eq_true passed] at distinct
  exact absurd distinct (by decide)

/-- In every run, however many connections come with an identifier, one that another was joined to
is never joined to one itself: data is forwarded between two different connections, and no
connection passes on in one tunnel what it gets in another. -/
theorem first_ne_second (decodes : Nat → String → Bool) (s : State)
    (reached : Reachable (tunnels decodes) s) :
    (∀ pair ∈ s.paired, ∀ other ∈ s.paired, pair.1 ≠ other.2) ∧
      ∀ id peer1 c other second third, s.Pipes id peer1 c → s.Pipes other second third →
        peer1 ≠ third := by
  have sound := tunnels_sound reached
  have apart : ∀ pair ∈ s.paired, ∀ other ∈ s.paired, pair.1 ≠ other.2 := by
    intro pair isPair other isOther same
    obtain ⟨connection, ref, -, found, waits, -⟩ := sound.waited pair isPair
    obtain ⟨second, foundSecond, hasJoined⟩ := sound.joined other isOther
    rw [same, foundSecond] at found
    rw [Option.some.inj found, waits] at hasJoined
    exact Bool.false_ne_true hasJoined
  exact ⟨apart, fun id peer1 c other second third pipe otherPipe =>
    apart _ (sound.piping id peer1 c pipe) _ (sound.piping other second third otherPipe)⟩

/-- The first end, which two others were joined to. -/
theorem first_ne_second_third : ∃ s, Reachable (tunnels decodesOwn) s ∧
    s.paired = [(0, 2), (0, 1)] ∧ ∀ pair ∈ s.paired, ∀ other ∈ s.paired, pair.1 ≠ other.2 := by
  have ends : ((tunnels decodesOwn).run (newGateway 0)
      (twoEnds ++ [.accept 2 ⟨"tunnel", "", "", "1"⟩, .join 2])).any
        (fun state => decide (state.paired = [(0, 2), (0, 1)])) = true := by decide
  obtain ⟨state, reached, passed⟩ := exists_reachable_of_run (newGateway_start 0) ends
  exact ⟨state, reached, of_decide_eq_true passed, (first_ne_second decodesOwn state reached).1⟩

end SovaDesk.Meshcentral
