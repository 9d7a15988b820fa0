/-
This file settles when the stored tier of a peer agrees with its missed beats.

The tier of a peer is computed from the number of its missed beats, and kept in the entry
besides. A status check stores both. Of the two functions that take a heartbeat,
`TouchHeartbeat` sets the missed beats back and the tier to ONLINE, while `UpdateHeartbeat`
sets the missed beats back and leaves the tier. So the two agree on an entry exactly if it
was ONLINE, and a peer that was DEGRADED keeps that tier after its heartbeat over UDP. An
entry made over WebSocket or by a key registration has no tier at all.

The counters have the width they have in the entry, and wrap.
-/

import SovaDesk.Peer.Heartbeats

namespace SovaDesk.Peer.Liveness

open Transition

/-! ### Entries -/

/-- The thresholds of `CheckHeartbeats`. -/
structure Thresholds where
  degraded : Int32
  critical : Int32

/-- An entry that has missed no beat is below both thresholds. -/
def Thresholds.Positive (thresholds : Thresholds) : Prop :=
  0 < thresholds.degraded ∧ 0 < thresholds.critical

instance (thresholds : Thresholds) : Decidable thresholds.Positive :=
  inferInstanceAs (Decidable (_ ∧ _))

/-- An entry of the peer map, with the fields that heartbeats and status checks read and write. The
tier of an entry that was made without one is the empty text, and its last check the zero time. -/
structure MapEntry where
  lastReg : Int
  heartbeatCount : Int64
  missedBeats : Int32
  lastStatusCheck : Option Int
  statusTier : Option Status
  deriving DecidableEq

def MapEntry.computeStatus (thresholds : Thresholds) (entry : MapEntry) : Status :=
  if entry.missedBeats ≥ thresholds.critical then .critical
  else if entry.missedBeats ≥ thresholds.degraded then .degraded
  else .online

/-- What `RegisterPeer` over UDP, `RegisterPeer` over WebSocket and `RegisterPk` put into the map
for a peer that is not there. -/
inductive Fresh
  | registerPeer
  | registerPeerWS
  | registerPk
  deriving DecidableEq

def Fresh.entry (now : Int) : Fresh → MapEntry
  | .registerPeer =>
    { lastReg := now, heartbeatCount := 1, missedBeats := 0, lastStatusCheck := some now,
      statusTier := some .online }
  | .registerPeerWS | .registerPk =>
    { lastReg := now, heartbeatCount := 0, missedBeats := 0, lastStatusCheck := none,
      statusTier := none }

/-! ### Heartbeats and checks -/

def updateHeartbeat (now : Int) (entry : MapEntry) : MapEntry :=
  { entry with
    lastReg := now, missedBeats := 0, heartbeatCount := entry.heartbeatCount + 1 }

def touchHeartbeat (now : Int) (entry : MapEntry) : MapEntry :=
  { entry with
    lastReg := now, missedBeats := 0, statusTier := some .online
    heartbeatCount := entry.heartbeatCount + 1 }

/-- What delivers a heartbeat: a datagram, or a frame of a WebSocket connection. -/
inductive Transport
  | udp
  | webSocket
  deriving DecidableEq

def Transport.heartbeat : Transport → Int → MapEntry → MapEntry
  | .udp => updateHeartbeat
  | .webSocket => touchHeartbeat

/-- A status check is due. -/
def MapEntry.isDue (interval now : Int) (entry : MapEntry) : Bool :=
  entry.lastStatusCheck.all fun checked => now - checked ≥ interval

/-- The second phase of `CheckHeartbeats` for one entry: an entry that was checked in the meantime
is left alone. -/
def MapEntry.check (thresholds : Thresholds) (interval now : Int) (entry : MapEntry) : MapEntry :=
  if entry.isDue interval now then
    if now - entry.lastReg > interval then
      let checked :=
        { entry with lastStatusCheck := some now, missedBeats := entry.missedBeats + 1 }
      { checked with statusTier := some (checked.computeStatus thresholds) }
    else
      { entry with
        lastStatusCheck := some now, missedBeats := 0, statusTier := some .online }
  else entry

/-! ### The peer map -/

/-- The peer map, and where the one goroutine that calls `CheckHeartbeats` stands. -/
structure PeerMap where
  entries : Table String MapEntry
  cleaner : Cleaner
  deriving DecidableEq

inductive Action
  | put (fresh : Fresh) (id : String) (now : Int)
  | heartbeat (transport : Transport) (id : String) (now : Int)
  | remove (id : String)
  | checkHeartbeats (now : Int) (due : List String)
  | checkPeer
  deriving DecidableEq

/-- The first phase of `CheckHeartbeats`, in the order of the map. -/
def PeerMap.due (interval now : Int) (s : PeerMap) : List String :=
  (s.entries.entries.filter fun entry => entry.2.isDue interval now).map (·.1)

def PeerMap.step (thresholds : Thresholds) (interval : Int) (s : PeerMap) : Action → Option PeerMap
  | .put fresh id now => some { s with entries := s.entries.insert id (fresh.entry now) }
  | .heartbeat transport id now =>
    some { s with entries := s.entries.update id (transport.heartbeat now) }
  | .remove id => some { s with entries := s.entries.erase id }
  | .checkHeartbeats now due =>
    if s.cleaner = .waiting ∧ due.Perm (s.due interval now) then
      some { s with cleaner := .checking now due }
    else none
  | .checkPeer =>
    match s.cleaner with
    | .checking now (id :: rest) =>
      some
        { entries := s.entries.update id (MapEntry.check thresholds interval now)
          cleaner := .checking now rest }
    | .checking _ [] => some { s with cleaner := .waiting }
    | .waiting => none

/-- Runs from an empty map. -/
def mapping (thresholds : Thresholds) (interval : Int) : System PeerMap Action where
  start s := s.entries = ∅ ∧ s.cleaner = .waiting
  step := PeerMap.step thresholds interval

theorem start_empty (thresholds : Thresholds) (interval : Int) :
    (mapping thresholds interval).start { entries := ∅, cleaner := .waiting } :=
  ⟨rfl, rfl⟩

/-! ### The property -/

/-- The part of an entry that tells whether its peer is alive. -/
def MapEntry.liveness (entry : MapEntry) : Int × Int32 × Int64 × Option Status :=
  (entry.lastReg, entry.missedBeats, entry.heartbeatCount, entry.statusTier)

/-- The stored tier is the one that the missed beats make. -/
def MapEntry.Matches (thresholds : Thresholds) (entry : MapEntry) : Prop :=
  entry.statusTier = some (entry.computeStatus thresholds)

instance (thresholds : Thresholds) (entry : MapEntry) : Decidable (entry.Matches thresholds) :=
  inferInstanceAs (Decidable (_ = _))

/-- A heartbeat that arrives at an entry has the effect it had over the other transport. -/
def SameEffect (s : PeerMap) : Action → Prop
  | .heartbeat transport id now => ∀ entry, s.entries.lookup id = some entry →
      ∀ other : Transport,
        (transport.heartbeat now entry).liveness = (other.heartbeat now entry).liveness
  | _ => True

/-- What is claimed of a step: every stored tier matches afterwards, and the transport of a
heartbeat makes no difference. -/
def KeepsTiers (thresholds : Thresholds) (taken : Taken PeerMap Action) : Prop :=
  (∀ id entry, taken.after.entries.lookup id = some entry → entry.Matches thresholds) ∧
    SameEffect taken.before taken.label

/-- The condition: only registrations over UDP make entries, with thresholds that a new entry is
below, and heartbeats arrive only at entries whose stored tier is ONLINE. -/
def ArrivesOnline (thresholds : Thresholds) (s : PeerMap) : Action → Prop
  | .put fresh _ _ => fresh = .registerPeer ∧ thresholds.Positive
  | .heartbeat _ id _ => ∀ entry, s.entries.lookup id = some entry →
      entry.statusTier = some .online
  | _ => True

instance (thresholds : Thresholds) (s : PeerMap) :
    (action : Action) → Decidable (ArrivesOnline thresholds s action)
  | .put _ _ _ => inferInstanceAs (Decidable (_ ∧ _))
  | .heartbeat _ id _ =>
    inferInstanceAs (Decidable (∀ entry ∈ s.entries.lookup id, entry.statusTier = some .online))
  | .remove _ | .checkHeartbeats _ _ | .checkPeer => .isTrue trivial

/-! ### Entries that match -/

section entries

variable {thresholds : Thresholds} {interval now : Int} {entry : MapEntry}

/-- An entry that has missed no beat is ONLINE exactly if both thresholds are positive. -/
theorem computeStatus_eq_online_iff (none_missed : entry.missedBeats = 0) :
    entry.computeStatus thresholds = .online ↔ thresholds.Positive := by
  unfold MapEntry.computeStatus Thresholds.Positive
  rw [none_missed]
  by_cases critical : (0 : Int32) ≥ thresholds.critical
  · rw [if_pos critical]
    exact iff_of_false (by decide) fun positive => Int32.not_le.mpr positive.2 critical
  · rw [if_neg critical]
    by_cases degraded : (0 : Int32) ≥ thresholds.degraded
    · rw [if_pos degraded]
      exact iff_of_false (by decide) fun positive => Int32.not_le.mpr positive.1 degraded
    · rw [if_neg degraded]
      exact iff_of_true rfl ⟨Int32.not_le.mp degraded, Int32.not_le.mp critical⟩

/-- An entry without missed beats matches exactly if it is ONLINE, under positive thresholds. -/
theorem matches_iff_online (none_missed : entry.missedBeats = 0)
    (positive : thresholds.Positive) :
    entry.Matches thresholds ↔ entry.statusTier = some .online := by
  rw [MapEntry.Matches, (computeStatus_eq_online_iff none_missed).mpr positive]

/-- Of the fresh entries only those of registrations over UDP match. -/
theorem matches_fresh_iff {fresh : Fresh} :
    (fresh.entry now).Matches thresholds ↔ fresh = .registerPeer ∧ thresholds.Positive := by
  have none_missed : (fresh.entry now).missedBeats = 0 := by cases fresh <;> rfl
  cases fresh with
  | registerPeer =>
    rw [← computeStatus_eq_online_iff none_missed]
    exact ⟨fun same => ⟨rfl, (Option.some.inj same).symm⟩, fun both => congrArg some both.2.symm⟩
  | registerPeerWS =>
    exact iff_of_false (Option.some_ne_none _).symm fun both => absurd both.1 (by decide)
  | registerPk =>
    exact iff_of_false (Option.some_ne_none _).symm fun both => absurd both.1 (by decide)

theorem matches_check (positive : thresholds.Positive) (matched : entry.Matches thresholds) :
    (entry.check thresholds interval now).Matches thresholds := by
  unfold MapEntry.check
  split
  · split
    · rfl
    · exact (matches_iff_online rfl positive).mpr rfl
  · exact matched

/-- The two functions that take a heartbeat differ in what they leave of the tier. -/
theorem liveness_heartbeat_iff (transport : Transport) :
    (∀ other : Transport,
      (transport.heartbeat now entry).liveness = (other.heartbeat now entry).liveness) ↔
        entry.statusTier = some .online := by
  constructor
  · intro same
    cases transport with
    | udp => exact congrArg (·.2.2.2) (same .webSocket)
    | webSocket => exact (congrArg (·.2.2.2) (same .udp)).symm
  · intro online other
    have touched : touchHeartbeat now entry = updateHeartbeat now entry := by
      unfold touchHeartbeat updateHeartbeat
      rw [online]
    cases transport <;> cases other <;> simp only [Transport.heartbeat, touched]

theorem missedBeats_heartbeat (transport : Transport) :
    (transport.heartbeat now entry).missedBeats = 0 := by
  cases transport <;> rfl

theorem statusTier_heartbeat (transport : Transport) (online : entry.statusTier = some .online) :
    (transport.heartbeat now entry).statusTier = some .online := by
  cases transport with
  | udp => exact online
  | webSocket => rfl

end entries

/-! ### Runs -/

section runs

variable {thresholds : Thresholds} {interval : Int} {s after : PeerMap}

/-- What holds of the states of guarded runs: entries match, and there is none unless the thresholds
are positive. -/
def Sound (thresholds : Thresholds) (s : PeerMap) : Prop :=
  ∀ id entry, s.entries.lookup id = some entry →
    entry.Matches thresholds ∧ thresholds.Positive

/-- Changing one entry into a matching one keeps all matching. -/
theorem Sound.update (sound : Sound thresholds s) {id : String} {change : MapEntry → MapEntry}
    {cleaner : Cleaner}
    (kept : ∀ entry, s.entries.lookup id = some entry → (change entry).Matches thresholds) :
    Sound thresholds { entries := s.entries.update id change, cleaner } := by
  intro other entry found
  rw [Table.lookup_update] at found
  split at found
  · obtain ⟨old, present, rfl⟩ := Option.map_eq_some_iff.mp found
    exact ⟨kept old present, (sound id old present).2⟩
  · exact sound other entry found

theorem Sound.heartbeat (sound : Sound thresholds s) {transport : Transport} {id : String}
    {now : Int} (online : ∀ entry, s.entries.lookup id = some entry →
      entry.statusTier = some .online) :
    Sound thresholds { s with entries := s.entries.update id (transport.heartbeat now) } :=
  sound.update fun entry found =>
    (matches_iff_online (missedBeats_heartbeat transport) (sound id entry found).2).mpr
      (statusTier_heartbeat transport (online entry found))

theorem sound_step (sound : Sound thresholds s) {action : Action}
    (allowed : ArrivesOnline thresholds s action)
    (taken : s.step thresholds interval action = some after) : Sound thresholds after := by
  cases action with
  | put fresh id now =>
    cases taken
    intro other entry found
    rcases Table.lookup_insert_iff.mp found with ⟨_, rfl⟩ | ⟨_, old⟩
    · exact ⟨matches_fresh_iff.mpr allowed, allowed.2⟩
    · exact sound other entry old
  | heartbeat transport id now =>
    cases taken
    exact sound.heartbeat allowed
  | remove id =>
    cases taken
    exact fun other entry found => sound other entry (Table.lookup_erase_iff.mp found).2
  | checkHeartbeats now due =>
    obtain ⟨_, started⟩ := Option.ite_none_right_eq_some.mp taken
    cases started
    exact sound
  | checkPeer =>
    dsimp only [PeerMap.step] at taken
    split at taken
    · next now id rest _ =>
      cases taken
      exact sound.update fun entry found =>
        matches_check (sound id entry found).2 (sound id entry found).1
    · cases taken
      exact sound
    · cases taken

theorem sound_of_reachableWhen
    (reached : ReachableWhen (mapping thresholds interval) (ArrivesOnline thresholds) s) :
    Sound thresholds s := by
  refine reached.invariant (Sound thresholds) (fun state initial id entry found => ?_)
    fun before label after sound allowed taken => sound_step sound allowed taken
  rw [initial.1] at found
  exact absurd found (Option.some_ne_none entry).symm

/-- From a state of a guarded run, a step keeps what is claimed exactly if it meets the
condition. -/
theorem keepsTiers_iff (sound : Sound thresholds s) {action : Action}
    (taken : s.step thresholds interval action = some after) :
    KeepsTiers thresholds ⟨s, action, after⟩ ↔ ArrivesOnline thresholds s action := by
  constructor
  · rintro ⟨matched, same⟩
    cases action with
    | put fresh id now =>
      cases taken
      exact matches_fresh_iff.mp (matched id (fresh.entry now) (AList.lookup_insert _))
    | heartbeat transport id now =>
      exact fun entry found => (liveness_heartbeat_iff transport).mp (same entry found)
    | remove id => trivial
    | checkHeartbeats now due => trivial
    | checkPeer => trivial
  · intro allowed
    refine ⟨fun id entry found => (sound_step sound allowed taken id entry found).1, ?_⟩
    cases action with
    | heartbeat transport id now =>
      exact fun entry found => (liveness_heartbeat_iff transport).mpr (allowed entry found)
    | put fresh id now => trivial
    | remove id => trivial
    | checkHeartbeats now due => trivial
    | checkPeer => trivial

/-- The stored tiers match the missed beats, and heartbeats have the same effect over both
transports, exactly in the runs in which entries are made over UDP only and heartbeats arrive at
peers that are ONLINE. -/
theorem keepsTiers_iff_arrivesOnline (thresholds : Thresholds) (interval : Int)
    {steps : List (Taken PeerMap Action)} {final : PeerMap}
    (history : History (mapping thresholds interval) steps final) :
    (∀ step ∈ steps, KeepsTiers thresholds step) ↔
      ∀ step ∈ steps, ArrivesOnline thresholds step.before step.label := by
  have agree : ∀ step : Taken PeerMap Action,
      ReachableWhen (mapping thresholds interval) (ArrivesOnline thresholds) step.before →
      (mapping thresholds interval).step step.before step.label = some step.after →
      (KeepsTiers thresholds step ↔ ArrivesOnline thresholds step.before step.label) :=
    fun _ reached taken => keepsTiers_iff (sound_of_reachableWhen reached) taken
  exact history.forall_iff_when agree

end runs

/-! ### The thresholds in use -/

/-- The thresholds and the interval that the heartbeat cleaner passes. -/
def stock : Thresholds := { degraded := 2, critical := 4 }

/-- A peer misses two beats and then sends a heartbeat over UDP. -/
def returning : List Action :=
  [.put .registerPeer "peer" 0, .checkHeartbeats (16 * second) ["peer"], .checkPeer, .checkPeer,
    .checkHeartbeats (31 * second) ["peer"], .checkPeer, .heartbeat .udp "peer" (32 * second)]

/-- The peer stays DEGRADED without a missed beat. -/
theorem returning_staysDegraded :
    ¬ ∀ steps final, History (mapping stock heartbeatExpected) steps final →
      ∀ step ∈ steps, KeepsTiers stock step := by
  intro claimed
  have ran : ((mapping stock heartbeatExpected).trace [] ⟨∅, .waiting⟩ returning).any (fun ends =>
      ends.1.head?.any fun step => (step.after.entries.lookup "peer").any fun entry =>
        !decide (entry.Matches stock)) = true := by
    decide
  obtain ⟨steps, final, history, passed⟩ := exists_history_of_trace (start_empty _ _) ran
  obtain ⟨step, latest, broken⟩ := Option.any_eq_true _ _ |>.mp passed
  obtain ⟨entry, found, unlike⟩ := Option.any_eq_true _ _ |>.mp broken
  have matched := (claimed steps final history step (List.mem_of_mem_head? latest)).1 _ _ found
  simp [matched] at unlike

/-- A peer that registers over UDP, misses one beat, and then sends heartbeats over both
transports. -/
def steady : List Action :=
  [.put .registerPeer "peer" 0, .checkHeartbeats (16 * second) ["peer"], .checkPeer,
    .heartbeat .webSocket "peer" (17 * second), .checkPeer, .heartbeat .udp "peer" (18 * second)]

theorem keepsTiers_steady :
    ∃ steps final, History (mapping stock heartbeatExpected) steps final ∧
      steps.reverse.map Taken.label = steady ∧ ∀ step ∈ steps, KeepsTiers stock step := by
  have ran : ((mapping stock heartbeatExpected).trace [] ⟨∅, .waiting⟩ steady).any (fun ends =>
      decide (ends.1.reverse.map Taken.label = steady ∧
        ∀ step ∈ ends.1, ArrivesOnline stock step.before step.label)) = true := by
    decide
  obtain ⟨steps, final, history, passed⟩ := exists_history_of_trace (start_empty _ _) ran
  obtain ⟨labels, guarded⟩ := of_decide_eq_true passed
  exact ⟨steps, final, history, labels,
    (keepsTiers_iff_arrivesOnline stock heartbeatExpected history).mpr guarded⟩

/-! ### The coarser model -/

end SovaDesk.Peer.Liveness
