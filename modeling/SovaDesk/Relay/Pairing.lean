/-
This file models the rendezvous of the relay server: how two connections that carry
the same session UUID find each other in the `pending` map.

Every call of `pairIncomingConn` runs in its own goroutine and touches the shared map
by separate operations, and `cleanupPending` sweeps the same map from a goroutine of
its own. The model gives each of these operations one label, so that a run is any
order in which the goroutines' operations can fall. A call and the `pendingConn` it
brings are one record: the connection is named by a number, its `done` channel is a
flag, and what happens to it is written to a log that nothing in the code reads.

A second close of a `done` channel panics, and a panic in one goroutine ends the
process: after it no label is enabled.
-/

import SovaDesk.Lib.System
import SovaDesk.Lib.Table

namespace SovaDesk.Relay

open Transition

/-- How a peer reached the relay: the framing differs, so the two are never mixed in a session. -/
inductive RelayTransport
  | tcp
  | ws
  deriving DecidableEq

/-- A connection that reached `pairIncomingConn`, and the `pendingConn` made for it. -/
abbrev ConnId := Nat

/-- How long a connection waits for its pair, in nanoseconds (`config.RelayPairTimeout`). -/
def relayPairTimeout : Nat := 30 * 1000000000

/-- Why a waiting call gives up: its timer fired or the server's context was cancelled. -/
inductive Expiry
  | timeout
  | ctxDone
  deriving DecidableEq

/-- Where a `pairIncomingConn` call stands: each stage is named by the operation that comes
next. -/
inductive Stage
  | toLoadOrStore
  | toDelete
  | toCloseDone
  | toStart
  | relaying
  | toSelect
  | selecting (deadline : Nat)
  | toCompare (cause : Expiry)
  | toExpireDelete (cause : Expiry)
  | toExpireClose (cause : Expiry)
  | returned
  deriving DecidableEq

/-- One call of `pairIncomingConn` with the fields of its `pendingConn`. `existing` is the entry
that LoadOrStore handed back, if it loaded one; `done` tells whether the channel is closed. -/
structure Call where
  transport : RelayTransport
  created : Nat
  uuid : String
  done : Bool
  existing : Option ConnId
  stage : Stage
  deriving DecidableEq

/-- Where the sweeper stands: outside its `Range`, between two visits, or inside the callback for
the entry it saw. -/
inductive SweepStage
  | idle
  | ranging
  | toRemove (key : String) (aim : ConnId)
  | toCloseConn (aim : ConnId)
  | toCloseDone (aim : ConnId)
  deriving DecidableEq

/-- Who closed a connection. -/
inductive Closer
  | mismatch
  | session
  | expiry (cause : Expiry)
  | sweep
  deriving DecidableEq

/-- Which operation removed an entry from `pending`: the Delete of a partner that loaded an entry,
the Delete of a call that gave up, or a sweep aimed at the entry it saw in its Range. -/
inductive Remover
  | partner (pc : ConnId)
  | expiry (pc : ConnId)
  | sweep (aim : ConnId)
  deriving DecidableEq

/-- What happened to the connections, for the statements only. -/
inductive Event
  | doneClosed (entry : ConnId)
  | connClosed (entry : ConnId) (closer : Closer)
  | sessionStarted (existing pc : ConnId) (transport : RelayTransport) (uuid : String)
  | removed (key : String) (entry : ConnId) (remover : Remover)
  deriving DecidableEq

/-- The relay's shared state. `seen` lists the mappings `pending` held at some moment since the
sweeper's Range began, which is what a concurrent Range may report, and `visited` the keys this
Range has already reported. The log has its newest event first. -/
structure State where
  now : Nat
  ctxDone : Bool
  calls : Table ConnId Call
  pending : Table String ConnId
  sweeper : SweepStage
  seen : List (String × ConnId)
  visited : List String
  panicked : Bool
  log : List Event

/-- The operations of one `pairIncomingConn` call. -/
inductive Operation
  | loadOrStore
  | delete
  | closeDone
  | startRelay
  | endRelay
  | enterSelect
  | recvDone
  | timeout
  | recvCtxDone
  | compare
  | expireDelete
  | expireClose
  deriving DecidableEq

/-- Whose operation comes next: a connection arrives, a call takes its next step, the sweeper takes
its next step, the server's context is cancelled, or time passes. -/
inductive Label
  | arrive (c : ConnId) (uuid : String) (transport : RelayTransport)
  | call (c : ConnId) (operation : Operation)
  | sweepStart
  | sweepVisit (key : String) (aim : ConnId)
  | sweepRemove
  | sweepCloseConn
  | sweepCloseDone
  | sweepEnd
  | cancel
  | advance (elapsed : Nat)
  deriving DecidableEq

/-! ### The operations on the shared state -/

variable {c : ConnId}

namespace State

/-- Replace the record of one call. -/
def setCall (s : State) (c : ConnId) (call : Call) : State :=
  { s with calls := s.calls.insert c call }

/-- Append an event to the log. -/
def emit (s : State) (event : Event) : State :=
  { s with log := event :: s.log }

/-- Store an entry under a vacant key: from now on a Range in progress may report it. -/
def storePending (s : State) (key : String) (c : ConnId) : State :=
  { s with pending := s.pending.insert key c, seen := (key, c) :: s.seen }

/-- Remove the entry under a key, noting what was there: `Delete` and `LoadAndDelete`. -/
def removePending (s : State) (key : String) (remover : Remover) : State :=
  match s.pending.lookup key with
  | some entry => ({ s with pending := s.pending.erase key }).emit (.removed key entry remover)
  | none => s

/-- `close(pc.done)`: a second close panics. -/
def closeDone (s : State) (c : ConnId) : State :=
  match s.calls.lookup c with
  | some call =>
    if call.done then ({ s with panicked := true }).emit (.doneClosed c)
    else (s.setCall c { call with done := true }).emit (.doneClosed c)
  | none => s

variable (s : State)

@[simp] theorem setCall_pending (c : ConnId) (call : Call) :
    (s.setCall c call).pending = s.pending := rfl

@[simp] theorem setCall_sweeper (c : ConnId) (call : Call) :
    (s.setCall c call).sweeper = s.sweeper := rfl

@[simp] theorem setCall_seen (c : ConnId) (call : Call) :
    (s.setCall c call).seen = s.seen := rfl

@[simp] theorem setCall_visited (c : ConnId) (call : Call) :
    (s.setCall c call).visited = s.visited := rfl

@[simp] theorem setCall_log (c : ConnId) (call : Call) :
    (s.setCall c call).log = s.log := rfl

@[simp] theorem setCall_panicked (c : ConnId) (call : Call) :
    (s.setCall c call).panicked = s.panicked := rfl

@[simp] theorem emit_calls (event : Event) : (s.emit event).calls = s.calls := rfl

@[simp] theorem emit_pending (event : Event) :
    (s.emit event).pending = s.pending := rfl

@[simp] theorem emit_sweeper (event : Event) :
    (s.emit event).sweeper = s.sweeper := rfl

@[simp] theorem emit_seen (event : Event) : (s.emit event).seen = s.seen := rfl

@[simp] theorem emit_visited (event : Event) :
    (s.emit event).visited = s.visited := rfl

@[simp] theorem emit_log (event : Event) : (s.emit event).log = event :: s.log := rfl

@[simp] theorem emit_panicked (event : Event) :
    (s.emit event).panicked = s.panicked := rfl

@[simp] theorem lookup_setCall (c other : ConnId) (call : Call) :
    (s.setCall c call).calls.lookup other =
      if other = c then some call else s.calls.lookup other :=
  Table.lookup_insert_if s.calls c other call

@[simp] theorem storePending_calls (key : String) (c : ConnId) :
    (s.storePending key c).calls = s.calls := rfl

@[simp] theorem storePending_sweeper (key : String) (c : ConnId) :
    (s.storePending key c).sweeper = s.sweeper := rfl

@[simp] theorem storePending_seen (key : String) (c : ConnId) :
    (s.storePending key c).seen = (key, c) :: s.seen := rfl

@[simp] theorem storePending_visited (key : String) (c : ConnId) :
    (s.storePending key c).visited = s.visited := rfl

@[simp] theorem storePending_log (key : String) (c : ConnId) :
    (s.storePending key c).log = s.log := rfl

@[simp] theorem storePending_panicked (key : String) (c : ConnId) :
    (s.storePending key c).panicked = s.panicked := rfl

@[simp] theorem lookup_storePending (key other : String) (c : ConnId) :
    (s.storePending key c).pending.lookup other =
      if other = key then some c else s.pending.lookup other :=
  Table.lookup_insert_if s.pending key other c

@[simp] theorem removePending_calls (key : String) (remover : Remover) :
    (s.removePending key remover).calls = s.calls := by
  unfold removePending
  split <;> rfl

@[simp] theorem removePending_sweeper (key : String) (remover : Remover) :
    (s.removePending key remover).sweeper = s.sweeper := by
  unfold removePending
  split <;> rfl

@[simp] theorem removePending_seen (key : String) (remover : Remover) :
    (s.removePending key remover).seen = s.seen := by
  unfold removePending
  split <;> rfl

@[simp] theorem removePending_visited (key : String) (remover : Remover) :
    (s.removePending key remover).visited = s.visited := by
  unfold removePending
  split <;> rfl

@[simp] theorem removePending_panicked (key : String) (remover : Remover) :
    (s.removePending key remover).panicked = s.panicked := by
  unfold removePending
  split <;> rfl

@[simp] theorem lookup_removePending (key other : String) (remover : Remover) :
    (s.removePending key remover).pending.lookup other =
      if other = key then none else s.pending.lookup other := by
  unfold removePending
  split
  · exact Table.lookup_erase_if s.pending key other
  · next absent =>
    split
    · next same => rw [same, absent]
    · rfl

theorem removePending_log (key : String) (remover : Remover) :
    (s.removePending key remover).log =
      match s.pending.lookup key with
      | some entry => .removed key entry remover :: s.log
      | none => s.log := by
  unfold removePending
  split <;> rfl

@[simp] theorem closeDone_pending (c : ConnId) :
    (s.closeDone c).pending = s.pending := by
  unfold closeDone
  split
  · split <;> rfl
  · rfl

@[simp] theorem closeDone_sweeper (c : ConnId) :
    (s.closeDone c).sweeper = s.sweeper := by
  unfold closeDone
  split
  · split <;> rfl
  · rfl

@[simp] theorem closeDone_seen (c : ConnId) : (s.closeDone c).seen = s.seen := by
  unfold closeDone
  split
  · split <;> rfl
  · rfl

@[simp] theorem closeDone_visited (c : ConnId) :
    (s.closeDone c).visited = s.visited := by
  unfold closeDone
  split
  · split <;> rfl
  · rfl

@[simp] theorem lookup_closeDone (c other : ConnId) :
    (s.closeDone c).calls.lookup other =
      if other = c then (s.calls.lookup c).map fun call => { call with done := true }
      else s.calls.lookup other := by
  unfold closeDone
  split
  · next call found =>
    split
    · next closed =>
      split
      · next same =>
        have unchanged : { call with done := true } = call := by rw [← closed]
        rw [same, found, Option.map_some, unchanged]
        exact found
      · rfl
    · rw [found, Option.map_some]
      exact lookup_setCall s c other { call with done := true }
  · next missing =>
    split
    · next same => rw [same, missing, Option.map_none]
    · rfl

variable {call : Call}

theorem closeDone_log {s : State} (found : s.calls.lookup c = some call) :
    (s.closeDone c).log = .doneClosed c :: s.log := by
  unfold closeDone
  rw [found]
  dsimp only
  split <;> rfl

theorem mem_closeDone_log {s : State} {event : Event}
    (member : event ∈ (s.closeDone c).log) : event = .doneClosed c ∨ event ∈ s.log := by
  cases found : s.calls.lookup c with
  | some call =>
    rw [closeDone_log found] at member
    exact List.mem_cons.mp member
  | none =>
    simp only [closeDone, found] at member
    exact Or.inr member

/-- Closing an open channel does not panic. -/
theorem closeDone_panicked {s : State}
    (found : s.calls.lookup c = some call) (opened : call.done = false) :
    (s.closeDone c).panicked = s.panicked := by
  unfold closeDone
  rw [found]
  simp [opened]

/-- After a close a call is what it was, up to its own channel. -/
theorem lookup_of_closeDone {s : State} {other : ConnId}
    (found : (s.closeDone c).calls.lookup other = some call) :
    ∃ earlier, s.calls.lookup other = some earlier ∧ call.transport = earlier.transport ∧
      call.uuid = earlier.uuid ∧ call.existing = earlier.existing ∧ call.stage = earlier.stage ∧
      call.done = if other = c then true else earlier.done := by
  rw [lookup_closeDone] at found
  split at found
  · next same =>
    obtain ⟨earlier, earlierFound, rfl⟩ := Option.map_eq_some_iff.mp found
    exact ⟨earlier, same ▸ earlierFound, rfl, rfl, rfl, rfl, (if_pos same).symm⟩
  · next different => exact ⟨call, found, rfl, rfl, rfl, rfl, (if_neg different).symm⟩

end State

/-! ### The steps of `pairIncomingConn` -/

/-- `LoadOrStore(uuid, pc)`: join the entry that waits under the UUID, or become it. -/
def loadOrStoreStep (s : State) (c : ConnId) (call : Call) : State :=
  match s.pending.lookup call.uuid with
  | some existing => s.setCall c { call with existing := some existing, stage := .toDelete }
  | none => (s.storePending call.uuid c).setCall c { call with stage := .toSelect }

/-- The loaded path's `pending.Delete(uuid)`. -/
def deleteStep (s : State) (c : ConnId) (call : Call) : State :=
  (s.removePending call.uuid (.partner c)).setCall c { call with stage := .toCloseDone }

/-- The loaded path's `close(existing.done)`. -/
def closeDoneStep (s : State) (c : ConnId) (call : Call) (existing : ConnId) : State :=
  (s.setCall c { call with stage := .toStart }).closeDone existing

/-- The loaded path's end: mixed transports are closed, equal ones are handed to `startRelay` or
`startWSRelay`. -/
def startRelayStep (s : State) (c : ConnId) (call : Call) (existing : ConnId)
    (waiting : Call) : State :=
  if waiting.transport = call.transport then
    (s.setCall c { call with stage := .relaying }).emit
      (.sessionStarted existing c call.transport call.uuid)
  else
    ((s.setCall c { call with stage := .returned }).emit (.connClosed existing .mismatch)).emit
      (.connClosed c .mismatch)

/-- The session's end closes both connections. -/
def endRelayStep (s : State) (c : ConnId) (call : Call) (existing : ConnId) : State :=
  ((s.setCall c { call with stage := .returned }).emit (.connClosed existing .session)).emit
    (.connClosed c .session)

/-- `Load(uuid)` and the comparison with the own entry: only the own entry is deleted. -/
def compareStep (s : State) (c : ConnId) (call : Call) (cause : Expiry) : State :=
  if s.pending.lookup call.uuid = some c then
    s.setCall c { call with stage := .toExpireDelete cause }
  else s.setCall c { call with stage := .returned }

/-- The give-up branch's `pending.Delete(uuid)`. -/
def expireDeleteStep (s : State) (c : ConnId) (call : Call) (cause : Expiry) : State :=
  (s.removePending call.uuid (.expiry c)).setCall c { call with stage := .toExpireClose cause }

/-- The give-up branch's `pc.close()`. -/
def expireCloseStep (s : State) (c : ConnId) (call : Call) (cause : Expiry) : State :=
  (s.setCall c { call with stage := .returned }).emit (.connClosed c (.expiry cause))

/-! ### The steps of `cleanupPending` -/

/-- The callback's `LoadAndDelete(key)`: on success the sweeper goes on to close the entry it saw,
whichever entry it removed. -/
def sweepRemoveStep (s : State) (key : String) (aim : ConnId) : State :=
  match s.pending.lookup key with
  | some _ => { s.removePending key (.sweep aim) with sweeper := .toCloseConn aim }
  | none => { s with sweeper := .ranging }

/-- The callback's `pc.close()`. -/
def sweepCloseConnStep (s : State) (aim : ConnId) : State :=
  { s.emit (.connClosed aim .sweep) with sweeper := .toCloseDone aim }

/-- The callback's `close(pc.done)`. -/
def sweepCloseDoneStep (s : State) (aim : ConnId) : State :=
  { s.closeDone aim with sweeper := .ranging }

/-! ### The step function -/

/-- One operation of a call, enabled only where the call stands at it. The three branches of the
`select` are enabled by what they wait for. -/
def callStep (s : State) (c : ConnId) (call : Call) : Operation → Option State
  | .loadOrStore => if call.stage = .toLoadOrStore then some (loadOrStoreStep s c call) else none
  | .delete => if call.stage = .toDelete then some (deleteStep s c call) else none
  | .closeDone =>
    if call.stage = .toCloseDone then call.existing.map (closeDoneStep s c call) else none
  | .startRelay =>
    if call.stage = .toStart then
      call.existing.bind fun existing =>
        (s.calls.lookup existing).map (startRelayStep s c call existing)
    else none
  | .endRelay => if call.stage = .relaying then call.existing.map (endRelayStep s c call) else none
  | .enterSelect =>
    if call.stage = .toSelect then
      some (s.setCall c { call with stage := .selecting (s.now + relayPairTimeout) })
    else none
  | .recvDone =>
    match call.stage with
    | .selecting _ =>
      if call.done then some (s.setCall c { call with stage := .returned }) else none
    | _ => none
  | .timeout =>
    match call.stage with
    | .selecting deadline =>
      if deadline ≤ s.now then some (s.setCall c { call with stage := .toCompare .timeout })
      else none
    | _ => none
  | .recvCtxDone =>
    match call.stage with
    | .selecting _ =>
      if s.ctxDone then some (s.setCall c { call with stage := .toCompare .ctxDone }) else none
    | _ => none
  | .compare =>
    match call.stage with
    | .toCompare cause => some (compareStep s c call cause)
    | _ => none
  | .expireDelete =>
    match call.stage with
    | .toExpireDelete cause => some (expireDeleteStep s c call cause)
    | _ => none
  | .expireClose =>
    match call.stage with
    | .toExpireClose cause => some (expireCloseStep s c call cause)
    | _ => none

/-- The callback runs for an entry that the Range may report under a key it has not visited; the
entry is left alone unless it is stale (`time.Since(pc.created) > config.RelayPairTimeout`). -/
def sweepVisitStep (s : State) (key : String) (aim : ConnId) (entry : Call) : State :=
  if relayPairTimeout < s.now - entry.created then
    { s with sweeper := .toRemove key aim, visited := key :: s.visited }
  else { s with visited := key :: s.visited }

/-- The entries of `pending`, as a Range that starts now may report them. -/
def State.mappings (s : State) : List (String × ConnId) :=
  s.pending.entries.map fun entry => (entry.1, entry.2)

theorem State.mem_mappings {s : State} {key : String} :
    (key, c) ∈ s.mappings ↔ s.pending.lookup key = some c := by
  rw [← Table.mem_entries_iff, State.mappings, List.mem_map]
  constructor
  · rintro ⟨entry, member, same⟩
    cases same
    exact member
  · intro member
    exact ⟨_, member, rfl⟩

/-- The successor of a state under a label; a process that has panicked takes no step. An empty
UUID is rejected before `pairIncomingConn` is called. -/
def step (s : State) (label : Label) : Option State :=
  if s.panicked then none
  else
    match label with
    | .arrive c uuid transport =>
      if uuid = "" ∨ (s.calls.lookup c).isSome then none
      else
        some (s.setCall c
          { transport, created := s.now, uuid, done := false, existing := none,
            stage := .toLoadOrStore })
    | .call c operation => (s.calls.lookup c).bind fun call => callStep s c call operation
    | .sweepStart =>
      if s.sweeper = .idle then
        some { s with sweeper := .ranging, seen := s.mappings, visited := [] }
      else none
    | .sweepVisit key aim =>
      if s.sweeper = .ranging ∧ (key, aim) ∈ s.seen ∧ key ∉ s.visited then
        (s.calls.lookup aim).map (sweepVisitStep s key aim)
      else none
    | .sweepRemove =>
      match s.sweeper with
      | .toRemove key aim => some (sweepRemoveStep s key aim)
      | _ => none
    | .sweepCloseConn =>
      match s.sweeper with
      | .toCloseConn aim => some (sweepCloseConnStep s aim)
      | _ => none
    | .sweepCloseDone =>
      match s.sweeper with
      | .toCloseDone aim => some (sweepCloseDoneStep s aim)
      | _ => none
    | .sweepEnd => if s.sweeper = .ranging then some { s with sweeper := .idle } else none
    | .cancel => some { s with ctxDone := true }
    | .advance elapsed => some { s with now := s.now + elapsed }

/-- The relay as it starts: nobody waits and nothing has happened. -/
def initial (now : Nat) : State :=
  { now, ctxDone := false, calls := ∅, pending := ∅, sweeper := .idle, seen := [], visited := [],
    panicked := false, log := [] }

/-- The rendezvous as a transition system. -/
def pairing : System State Label where
  start s := ∃ now, s = initial now
  step := step

theorem pairing_start (now : Nat) : pairing.start (initial now) := ⟨now, rfl⟩

end SovaDesk.Relay
