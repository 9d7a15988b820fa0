/-
This file models how the signal server tracks the status of its peers.

A heartbeat of a peer sets the time of its last registration. A loop looks at all peers at
each tick: a peer that is due for a check and has sent no heartbeat for too long has missed
one more beat, any other that is due has missed none; the number of missed beats decides the
tier, and a change of the tier to DEGRADED or CRITICAL is reported. In the same tick the
peers without a heartbeat for the whole registration timeout are removed and reported
OFFLINE. The heartbeats of the transports differ in what they do to the number of missed
beats. Only the fields of an entry that the status depends on are kept. Times and
durations are in nanoseconds.
-/

import SovaDesk.Lib.System
import SovaDesk.Signal.Registration

namespace SovaDesk.Peer

open Transition
open Signal (regTimeout)

/-! ### Constants -/

def second : Int := 1000000000

def heartbeatExpected : Int := 15 * second

def degradedThreshold : Nat := 2

def criticalThreshold : Nat := 4

/-! ### Entries -/

inductive Status
  | online
  | degraded
  | critical
  | offline
  deriving DecidableEq

/-- An entry of the peer map. An entry that was never checked has no time of its last check, and an
entry that was made without a tier has none until then. -/
structure Entry where
  lastReg : Int
  missedBeats : Nat
  lastStatusCheck : Option Int
  statusTier : Option Status
  deriving DecidableEq

def Entry.computeStatus (entry : Entry) : Status :=
  if entry.missedBeats ≥ criticalThreshold then .critical
  else if entry.missedBeats ≥ degradedThreshold then .degraded
  else .online

/-- A status check is due. -/
def Entry.isDue (entry : Entry) (now : Int) : Bool :=
  entry.lastStatusCheck.all fun checked => now - checked ≥ heartbeatExpected

def Entry.isExpired (entry : Entry) (now : Int) : Bool :=
  now - entry.lastReg > regTimeout

/-! ### Heartbeats -/

/-- The messages that refresh an entry: a registration over UDP or over WebSocket, a key
registration, and a keep-alive frame. -/
inductive Heartbeat
  | registerPeer
  | registerPeerWS
  | registerPk
  | keepAlive
  deriving DecidableEq

/-- What a heartbeat makes of an entry, or of none. Only `UpdateHeartbeat` and `TouchHeartbeat` set
the missed beats back. -/
def Heartbeat.apply (now : Int) : Heartbeat → Option Entry → Option Entry
  | .registerPeer, some entry => some { entry with lastReg := now, missedBeats := 0 }
  | .registerPeer, none =>
    some { lastReg := now, missedBeats := 0, lastStatusCheck := some now,
           statusTier := some .online }
  | .registerPeerWS, some entry | .registerPk, some entry => some { entry with lastReg := now }
  | .registerPeerWS, none | .registerPk, none =>
    some { lastReg := now, missedBeats := 0, lastStatusCheck := none, statusTier := none }
  | .keepAlive, some entry =>
    some { entry with lastReg := now, missedBeats := 0, statusTier := some .online }
  | .keepAlive, none => none

/-! ### Status checks -/

/-- The check of an entry that is due, and the tier that is reported. -/
def Entry.check (entry : Entry) (now : Int) : Entry × Option Status :=
  if now - entry.lastReg > heartbeatExpected then
    let checked :=
      { entry with lastStatusCheck := some now, missedBeats := entry.missedBeats + 1 }
    let newStatus := checked.computeStatus
    ({ checked with statusTier := some newStatus },
      if newStatus = entry.computeStatus then none
      else if newStatus = .degraded ∨ newStatus = .critical then some newStatus
      else none)
  else
    ({ entry with
        lastStatusCheck := some now, missedBeats := 0, statusTier := some .online }, none)

/-- Where the loop of the heartbeat cleaner stands: it waits for its ticker, or checks the peers
that were due at a time. -/
inductive Cleaner
  | waiting
  | checking (now : Int) (due : List String)
  deriving DecidableEq

/-- What happened to the peers: a heartbeat arrived, or a status was reported. -/
inductive Event
  | heartbeat (id : String)
  | reported (id : String) (status : Status)
  deriving DecidableEq

/-- The peer map and its cleaner, with the clock, the events so far (the latest first), and the
missed beats of each peer that were counted before its last heartbeat and still count. -/
structure Tracker where
  clock : Int
  peers : Table String Entry
  cleaner : Cleaner
  carried : Table String Nat
  log : List Event

inductive Label
  | heartbeat (kind : Heartbeat) (id : String) (now : Int)
  | remove (id : String)
  | checkHeartbeats (now : Int) (due : List String)
  | checkPeer
  | cleanExpired (now : Int)
  deriving DecidableEq

/-- The first phase of `CheckHeartbeats`, in the order of the map. -/
def Tracker.due (s : Tracker) (now : Int) : List String :=
  (s.peers.entries.filter fun entry => entry.2.isDue now).map (·.1)

def Tracker.expired (s : Tracker) (now : Int) : List String :=
  (s.peers.entries.filter fun entry => entry.2.isExpired now).map (·.1)

/-- The check that comes next: of a peer that is still there and still due. -/
def Tracker.nextCheck (s : Tracker) : Option (String × Entry × Int) :=
  match s.cleaner with
  | .checking now (id :: _) =>
    ((s.peers.lookup id).filter (·.isDue now)).map fun entry => (id, entry, now)
  | _ => none

/-- The statuses that a step reports. -/
def Tracker.reports (s : Tracker) : Label → List (String × Status)
  | .checkPeer =>
    match s.nextCheck with
    | some (id, entry, now) => (entry.check now).2.toList.map fun status => (id, status)
    | none => []
  | .cleanExpired now => (s.expired now).map fun id => (id, .offline)
  | _ => []

/-- The second phase of `CheckHeartbeats` for one peer. -/
def Tracker.checkNext (s : Tracker) : Tracker :=
  match s.nextCheck with
  | some (id, entry, now) =>
    let checked := (entry.check now).1
    { s with
      peers := s.peers.insert id checked
      carried := if checked.missedBeats = 0 then s.carried.insert id 0 else s.carried }
  | none => s

/-- One step. The clock does not run backwards. -/
def Tracker.step (s : Tracker) (label : Label) : Option Tracker :=
  let log := (s.reports label).map (fun report => Event.reported report.1 report.2) ++ s.log
  match label with
  | .heartbeat kind id now =>
    if now < s.clock then none
    else
      match kind.apply now (s.peers.lookup id) with
      | none => some { s with clock := now }
      | some entry =>
        some
          { s with
            clock := now
            peers := s.peers.insert id entry
            carried := s.carried.insert id entry.missedBeats
            log := .heartbeat id :: s.log }
  | .remove id => some { s with peers := s.peers.erase id }
  | .checkHeartbeats now due =>
    if now < s.clock ∨ s.cleaner ≠ .waiting ∨ ¬ due.Perm (s.due now) then none
    else some { s with clock := now, cleaner := .checking now due }
  | .checkPeer =>
    match s.cleaner with
    | .checking now (_ :: rest) => some { s.checkNext with cleaner := .checking now rest, log }
    | _ => none
  | .cleanExpired now =>
    match s.cleaner with
    | .checking _ [] =>
      if now < s.clock then none
      else
        some
          { s with
            clock := now
            peers := s.peers.filter fun _ entry => !entry.isExpired now
            cleaner := .waiting
            log }
    | _ => none

/-- Runs from an empty map. -/
def tracking : System Tracker Label where
  start s := s.peers = ∅ ∧ s.cleaner = .waiting ∧ s.carried = ∅ ∧ s.log = []
  step := Tracker.step

end SovaDesk.Peer
