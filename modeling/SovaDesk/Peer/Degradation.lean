/-
This file settles when the loss of a peer's heartbeats is announced once and in order.

The peer map is scanned in two phases: the peers that are due are collected first, and each
of them is looked up again and checked in a step of its own, between which heartbeats may
arrive and peers may be removed. A check that finds no recent heartbeat counts a missed beat
and reports the tier that the peer enters by it. Thresholds and intervals are those of the
caller, and the count of missed beats is a 32-bit integer that wraps around, from which the
peer counts as online and is announced again. The events are kept in a log, the latest
first.
-/

import SovaDesk.Peer.Heartbeats

namespace SovaDesk.Peer.Degradation

open Transition

/-! ### Entries -/

/-- What the status of a peer depends on. -/
structure Entry where
  lastReg : Int
  missedBeats : Int
  lastStatusCheck : Int
  statusTier : Option Status
  deriving DecidableEq

def maxInt32 : Int := 2147483647

/-- `MissedBeats++` on 32 bits. -/
def increment (missed : Int) : Int := if missed = maxInt32 then -maxInt32 - 1 else missed + 1

def computeStatus (degradedThreshold criticalThreshold missed : Int) : Status :=
  if missed ≥ criticalThreshold then .critical
  else if missed ≥ degradedThreshold then .degraded
  else .online

/-- `UpdateHeartbeat`. -/
def Entry.updateHeartbeat (entry : Entry) (now : Int) : Entry :=
  { entry with lastReg := now, missedBeats := 0 }

/-- `TouchHeartbeat`. -/
def Entry.touchHeartbeat (entry : Entry) (now : Int) : Entry :=
  { entry with lastReg := now, missedBeats := 0, statusTier := some .online }

def Entry.isDue (entry : Entry) (now interval : Int) : Bool :=
  now - entry.lastStatusCheck ≥ interval

/-- The tier that is reported when a beat is counted. -/
def report (degradedThreshold criticalThreshold missed : Int) : Option Status :=
  let oldStatus := computeStatus degradedThreshold criticalThreshold missed
  let newStatus := computeStatus degradedThreshold criticalThreshold (increment missed)
  if newStatus ≠ oldStatus ∧ newStatus ≠ .online then some newStatus else none

/-- The check of a peer without a recent heartbeat. -/
def Entry.count (entry : Entry) (degradedThreshold criticalThreshold now : Int) : Entry :=
  { entry with
    lastStatusCheck := now
    missedBeats := increment entry.missedBeats
    statusTier :=
      some (computeStatus degradedThreshold criticalThreshold (increment entry.missedBeats)) }

/-- The check of a peer with a recent heartbeat. -/
def Entry.settle (entry : Entry) (now : Int) : Entry :=
  { entry with lastStatusCheck := now, missedBeats := 0, statusTier := some .online }

/-! ### The map and its scans -/

/-- A call of `CheckHeartbeats` in progress: its number, the time and the interval it goes by, the
peers that are still to be looked up, and the lists that it will return. -/
structure Scan where
  call : Nat
  now : Int
  interval : Int
  rest : List String
  degraded : List String
  critical : List String

/-- What happened: a heartbeat of a peer, or a missed beat that a call counted, with the count that
it made and the tier that it reported. -/
inductive Event
  | heartbeat (id : String)
  | counted (id : String) (call : Nat) (missed : Int) (report : Option Status)
  deriving DecidableEq

structure Tracker where
  clock : Int
  peers : Table String Entry
  scan : Option Scan
  calls : Nat
  log : List Event

inductive Label
  | updateHeartbeat (id : String) (now : Int)
  | touchHeartbeat (id : String) (now : Int)
  | remove (id : String)
  | checkHeartbeats (now interval : Int) (due : List String)
  | checkPeer
  | returned

/-- The first phase of `CheckHeartbeats`, in the order of the map. -/
def Tracker.due (s : Tracker) (now interval : Int) : List String :=
  (s.peers.entries.filter fun entry => entry.2.isDue now interval).map (·.1)

/-- A heartbeat of a peer that is in the map. -/
def Tracker.heartbeat (s : Tracker) (id : String) (now : Int) (change : Entry → Int → Entry) :
    Tracker :=
  match s.peers.lookup id with
  | some entry =>
    { s with
      clock := now
      peers := s.peers.insert id (change entry now)
      log := .heartbeat id :: s.log }
  | none => { s with clock := now }

section thresholds

variable (degradedThreshold criticalThreshold : Int)

/-- The second phase of `CheckHeartbeats` for one peer. -/
def Tracker.checkPeer (s : Tracker) (scan : Scan) (id : String) (rest : List String) : Tracker :=
  match s.peers.lookup id with
  | none => { s with scan := some { scan with rest } }
  | some entry =>
    if entry.isDue scan.now scan.interval then
      if scan.now - entry.lastReg > scan.interval then
        let reported := report degradedThreshold criticalThreshold entry.missedBeats
        { s with
          peers := s.peers.insert id
            (entry.count degradedThreshold criticalThreshold scan.now)
          scan := some { scan with
            rest
            degraded := if reported = some .degraded then scan.degraded ++ [id] else scan.degraded
            critical := if reported = some .critical then scan.critical ++ [id]
              else scan.critical }
          log := .counted id scan.call (increment entry.missedBeats) reported :: s.log }
      else
        { s with
          peers := s.peers.insert id (entry.settle scan.now)
          scan := some { scan with rest } }
    else { s with scan := some { scan with rest } }

/-- One step. The clock does not run backwards. -/
def Tracker.step (s : Tracker) : Label → Option Tracker
  | .updateHeartbeat id now =>
    if now < s.clock then none else some (s.heartbeat id now Entry.updateHeartbeat)
  | .touchHeartbeat id now =>
    if now < s.clock then none else some (s.heartbeat id now Entry.touchHeartbeat)
  | .remove id => some { s with peers := s.peers.erase id }
  | .checkHeartbeats now interval due =>
    if now < s.clock ∨ s.scan.isSome ∨ ¬ due.Perm (s.due now interval) then none
    else
      some { s with
        clock := now
        scan := some ⟨s.calls, now, interval, due, [], []⟩
        calls := s.calls + 1 }
  | .checkPeer =>
    match s.scan with
    | some scan =>
      match scan.rest with
      | id :: rest => some (s.checkPeer degradedThreshold criticalThreshold scan id rest)
      | [] => none
    | none => none
  | .returned =>
    match s.scan with
    | some scan => if scan.rest = [] then some { s with scan := none } else none
    | none => none

/-- Any peer map, and any heartbeats, removals and calls. -/
def system : System Tracker Label where
  start s := s.scan = none ∧ s.calls = 0 ∧ s.log = []
  step s label := s.step degradedThreshold criticalThreshold label

end thresholds

/-! ### The property -/

/-- The tiers that were reported for a peer since its last heartbeat, the latest first. -/
def reportsSince (id : String) : List Event → List Status
  | [] => []
  | .heartbeat other :: earlier => if other = id then [] else reportsSince id earlier
  | .counted other _ _ reported :: earlier =>
    if other = id then reported.toList ++ reportsSince id earlier else reportsSince id earlier

/-- The beats of a peer that a call has counted. -/
def countedBy (id : String) (call : Nat) : List Event → Nat
  | [] => 0
  | .heartbeat _ :: earlier => countedBy id call earlier
  | .counted other number _ _ :: earlier =>
    countedBy id call earlier + if other = id ∧ number = call then 1 else 0

/-- Since a heartbeat a peer is reported in each list at most once, and as critical only after it
was as degraded; a beat is reported as degraded exactly when it brings the count to the threshold;
and a call counts a peer at most once. -/
structure Announced (degradedThreshold : Int) (s : Tracker) : Prop where
  degradedOnce : ∀ id, .heartbeat id ∈ s.log → (reportsSince id s.log).count .degraded ≤ 1
  criticalOnce : ∀ id, .heartbeat id ∈ s.log → (reportsSince id s.log).count .critical ≤ 1
  inOrder : ∀ id, .heartbeat id ∈ s.log → ∀ later earlier,
    reportsSince id s.log = later ++ .critical :: earlier → .degraded ∈ earlier
  atThreshold : ∀ id call missed reported, .counted id call missed reported ∈ s.log →
    (reported = some .degraded ↔ missed = degradedThreshold)
  oncePerCall : ∀ id call, countedBy id call s.log ≤ 1

/-- A scan counts a missed beat of a peer: it is due, and has sent no heartbeat for longer than the
interval. -/
def Entry.misses (entry : Entry) (scan : Scan) : Prop :=
  entry.isDue scan.now scan.interval = true ∧ scan.now - entry.lastReg > scan.interval

/-- The condition: the interval is not negative, and no beat is counted beyond the largest 32-bit
integer. -/
def Bounded (s : Tracker) : Label → Prop
  | .checkHeartbeats _ interval _ => 0 ≤ interval
  | .checkPeer => ∀ scan id rest entry, s.scan = some scan → scan.rest = id :: rest →
      s.peers.lookup id = some entry → entry.misses scan → entry.missedBeats ≠ maxInt32
  | _ => True

/-! ### One check -/

variable {missed : Int}

section check

variable {degradedThreshold criticalThreshold : Int}

theorem checkPeer_of_misses {s : Tracker} {scan : Scan} {id : String} {entry : Entry}
    (found : s.peers.lookup id = some entry) (misses : entry.misses scan) (rest : List String) :
    ∃ degraded critical, s.checkPeer degradedThreshold criticalThreshold scan id rest =
      { s with
        peers := s.peers.insert id (entry.count degradedThreshold criticalThreshold scan.now)
        scan := some { scan with rest, degraded, critical }
        log := .counted id scan.call (increment entry.missedBeats)
          (report degradedThreshold criticalThreshold entry.missedBeats) :: s.log } := by
  unfold Tracker.checkPeer
  rw [found]
  dsimp only
  rw [if_pos misses.1, if_pos misses.2]
  exact ⟨_, _, rfl⟩

/-- What a check does: nothing, or it finds a recent heartbeat, or it counts a missed beat. -/
theorem checkPeer_cases (s : Tracker) (scan : Scan) (id : String) (rest : List String) :
    s.checkPeer degradedThreshold criticalThreshold scan id rest =
      { s with scan := some { scan with rest } } ∨
    (∃ entry, s.peers.lookup id = some entry ∧ entry.isDue scan.now scan.interval = true ∧
      ¬scan.now - entry.lastReg > scan.interval ∧
      s.checkPeer degradedThreshold criticalThreshold scan id rest =
        { s with
          peers := s.peers.insert id (entry.settle scan.now)
          scan := some { scan with rest } }) ∨
    ∃ entry degraded critical, s.peers.lookup id = some entry ∧ entry.misses scan ∧
      s.checkPeer degradedThreshold criticalThreshold scan id rest =
        { s with
          peers := s.peers.insert id (entry.count degradedThreshold criticalThreshold scan.now)
          scan := some { scan with rest, degraded, critical }
          log := .counted id scan.call (increment entry.missedBeats)
            (report degradedThreshold criticalThreshold entry.missedBeats) :: s.log } := by
  cases found : s.peers.lookup id with
  | none =>
    left
    unfold Tracker.checkPeer
    rw [found]
  | some entry =>
    by_cases due : entry.isDue scan.now scan.interval = true
    · by_cases stale : scan.now - entry.lastReg > scan.interval
      · obtain ⟨degraded, critical, same⟩ := checkPeer_of_misses found ⟨due, stale⟩ rest
        exact Or.inr (Or.inr ⟨entry, degraded, critical, rfl, ⟨due, stale⟩, same⟩)
      · refine Or.inr (Or.inl ⟨entry, rfl, due, stale, ?_⟩)
        unfold Tracker.checkPeer
        rw [found]
        dsimp only
        rw [if_pos due, if_neg stale]
    · left
      unfold Tracker.checkPeer
      rw [found]
      dsimp only
      rw [if_neg due]

theorem computeStatus_eq_critical_iff (missed : Int) :
    computeStatus degradedThreshold criticalThreshold missed = .critical ↔
      criticalThreshold ≤ missed := by
  unfold computeStatus
  split
  · next high => exact ⟨fun _ => high, fun _ => rfl⟩
  · next low =>
    split
    · exact ⟨nofun, fun high => absurd high low⟩
    · exact ⟨nofun, fun high => absurd high low⟩

theorem computeStatus_eq_degraded_iff (missed : Int) :
    computeStatus degradedThreshold criticalThreshold missed = .degraded ↔
      degradedThreshold ≤ missed ∧ missed < criticalThreshold := by
  unfold computeStatus
  split
  · next high => exact ⟨nofun, fun both => absurd high (not_le.mpr both.2)⟩
  · next low =>
    split
    · next middle => exact ⟨fun _ => ⟨middle, not_le.mp low⟩, fun _ => rfl⟩
    · next few => exact ⟨nofun, fun both => absurd both.1 few⟩

/-- A tier is reported when it is entered. -/
theorem report_eq_some_iff {status : Status} (notOnline : status ≠ .online) :
    report degradedThreshold criticalThreshold missed = some status ↔
      computeStatus degradedThreshold criticalThreshold (increment missed) = status ∧
        computeStatus degradedThreshold criticalThreshold missed ≠ status := by
  unfold report
  dsimp only
  split
  · next entered =>
    rw [Option.some_inj]
    exact ⟨fun new => ⟨new, fun old => entered.1 (new.trans old.symm)⟩, fun both => both.1⟩
  · next same =>
    refine ⟨nofun, fun both => absurd ⟨?_, ?_⟩ same⟩
    · rw [both.1]
      exact both.2.symm
    · rw [both.1]
      exact notOnline

/-- A beat is reported as degraded exactly when it brings the count to the threshold. -/
theorem report_eq_degraded_iff (positive : 0 < degradedThreshold)
    (ordered : degradedThreshold < criticalThreshold) (missed : Int) :
    report degradedThreshold criticalThreshold missed = some .degraded ↔
      increment missed = degradedThreshold := by
  rw [report_eq_some_iff (by decide), Ne, computeStatus_eq_degraded_iff,
    computeStatus_eq_degraded_iff]
  unfold increment maxInt32
  split <;> omega

theorem report_ne_online (missed : Int) :
    report degradedThreshold criticalThreshold missed ≠ some .online := by
  unfold report
  dsimp only
  split
  · next entered => exact fun online => entered.2 (Option.some.inj online)
  · exact nofun

/-- The reports that a number of missed beats has caused. -/
def expected (degradedThreshold criticalThreshold missed : Int) : List Status :=
  if missed ≥ criticalThreshold then [.critical, .degraded]
  else if missed ≥ degradedThreshold then [.degraded]
  else []

theorem expected_zero (positive : 0 < degradedThreshold)
    (ordered : degradedThreshold < criticalThreshold) :
    expected degradedThreshold criticalThreshold 0 = [] := by
  rw [expected, if_neg (by omega), if_neg (by omega)]

theorem computeStatus_ne_offline (missed : Int) :
    computeStatus degradedThreshold criticalThreshold missed ≠ .offline := by
  unfold computeStatus
  split
  · exact nofun
  · split <;> exact nofun

/-- The next beat causes the next report. -/
theorem expected_increment (ordered : degradedThreshold < criticalThreshold)
    (bounded : missed ≠ maxInt32) :
    expected degradedThreshold criticalThreshold (increment missed) =
      (report degradedThreshold criticalThreshold missed).toList ++
        expected degradedThreshold criticalThreshold missed := by
  have next : increment missed = missed + 1 := if_neg bounded
  have degraded : report degradedThreshold criticalThreshold missed = some .degraded ↔ _ :=
    report_eq_some_iff (by decide)
  have critical : report degradedThreshold criticalThreshold missed = some .critical ↔ _ :=
    report_eq_some_iff (by decide)
  have offline : report degradedThreshold criticalThreshold missed = some .offline ↔ _ :=
    report_eq_some_iff (by decide)
  rw [Ne, computeStatus_eq_degraded_iff, computeStatus_eq_degraded_iff, next] at degraded
  rw [Ne, computeStatus_eq_critical_iff, computeStatus_eq_critical_iff, next] at critical
  rw [next]
  unfold expected
  cases reported : report degradedThreshold criticalThreshold missed with
  | none =>
    simp only [reported, reduceCtorEq, false_iff] at degraded critical
    rw [Option.toList_none, List.nil_append]
    by_cases few : missed + 1 < degradedThreshold
    · rw [if_neg (by omega), if_neg (by omega), if_neg (by omega), if_neg (by omega)]
    · by_cases many : criticalThreshold ≤ missed
      · rw [if_pos (by omega), if_pos many]
      · rw [if_neg (by omega), if_pos (by omega), if_neg many, if_pos (by omega)]
  | some status =>
    cases status with
    | online => exact absurd reported (report_ne_online missed)
    | degraded =>
      have entered := degraded.mp reported
      rw [if_neg (by omega), if_pos (by omega), if_neg (by omega), if_neg (by omega)]
      rfl
    | critical =>
      have entered := critical.mp reported
      rw [if_pos (by omega), if_neg (by omega), if_pos (by omega)]
      rfl
    | offline => exact absurd (offline.mp reported).1 (computeStatus_ne_offline _)

end check

/-! ### What a call counts -/

section calls

variable {degradedThreshold criticalThreshold : Int}

/-- The beats that were counted: each was reported as its count says, by a call that was made, and
the peers that a scan has still to look up were not counted by it. -/
structure Counted (degradedThreshold : Int) (s : Tracker) : Prop where
  atThreshold : ∀ id call missed reported, .counted id call missed reported ∈ s.log →
    (reported = some .degraded ↔ missed = degradedThreshold)
  once : ∀ id call, countedBy id call s.log ≤ 1
  made : ∀ id call, s.calls ≤ call → countedBy id call s.log = 0
  scan : ∀ scan, s.scan = some scan → scan.call < s.calls ∧ scan.rest.Nodup ∧
    ∀ id ∈ scan.rest, countedBy id scan.call s.log = 0

theorem Counted.start {s : Tracker}
    (initial : (system degradedThreshold criticalThreshold).start s) :
    Counted degradedThreshold s := by
  obtain ⟨noScan, _, noLog⟩ := initial
  refine ⟨fun _ _ _ _ member => ?_, fun _ _ => ?_, fun _ _ _ => ?_, fun scan found => ?_⟩
  · rw [noLog] at member
    exact absurd member List.not_mem_nil
  · rw [noLog]
    exact Nat.zero_le 1
  · rw [noLog]
    rfl
  · rw [noScan] at found
    cases found

theorem Counted.heartbeat {s : Tracker} (counted : Counted degradedThreshold s) (id : String)
    (now : Int) (change : Entry → Int → Entry) :
    Counted degradedThreshold (s.heartbeat id now change) := by
  unfold Tracker.heartbeat
  split
  · refine ⟨fun other call missed reported member => ?_, counted.once, counted.made, counted.scan⟩
    rcases List.mem_cons.mp member with same | member
    · cases same
    · exact counted.atThreshold other call missed reported member
  · exact ⟨counted.atThreshold, counted.once, counted.made, counted.scan⟩

theorem nodup_due (s : Tracker) (now interval : Int) : (s.due now interval).Nodup := by
  have sublist : (s.due now interval).Sublist s.peers.keys := List.Sublist.map _ List.filter_sublist
  exact sublist.nodup s.peers.keys_nodup

theorem Counted.checkPeer {s : Tracker} (counted : Counted degradedThreshold s)
    (positive : 0 < degradedThreshold) (ordered : degradedThreshold < criticalThreshold)
    {scan : Scan} {id : String} {rest : List String} (scanning : s.scan = some scan)
    (next : scan.rest = id :: rest) :
    Counted degradedThreshold
      (s.checkPeer degradedThreshold criticalThreshold scan id rest) := by
  obtain ⟨made, nodup, fresh⟩ := counted.scan scan scanning
  rw [next, List.nodup_cons] at nodup
  rw [next, List.forall_mem_cons] at fresh
  rcases checkPeer_cases s scan id rest with same | ⟨entry, _, _, _, same⟩ |
    ⟨entry, degraded, critical, found, misses, same⟩
  · rw [same]
    refine ⟨counted.atThreshold, counted.once, counted.made, fun other found => ?_⟩
    obtain rfl := Option.some.inj found
    exact ⟨made, nodup.2, fresh.2⟩
  · rw [same]
    refine ⟨counted.atThreshold, counted.once, counted.made, fun other found => ?_⟩
    obtain rfl := Option.some.inj found
    exact ⟨made, nodup.2, fresh.2⟩
  · rw [same]
    refine ⟨fun other call missed reported member => ?_, fun other call => ?_,
      fun other call later => ?_, fun other found => ?_⟩
    · rcases List.mem_cons.mp member with event | member
      · injection event with _ _ missed reported
        rw [reported, missed]
        exact report_eq_degraded_iff positive ordered _
      · exact counted.atThreshold other call missed reported member
    · show countedBy other call s.log + _ ≤ 1
      split
      · next both =>
        rw [← both.1, ← both.2, fresh.1]
      · exact counted.once other call
    · show countedBy other call s.log + _ = 0
      rw [if_neg, counted.made other call later]
      rintro ⟨_, rfl⟩
      exact absurd made (not_lt.mpr later)
    · obtain rfl := Option.some.inj found
      refine ⟨made, nodup.2, fun later member => ?_⟩
      show countedBy later scan.call s.log + _ = 0
      rw [if_neg, fresh.2 later member]
      rintro ⟨rfl, _⟩
      exact nodup.1 member

/-- A call counts a peer at most once, and a beat is reported as degraded exactly when it brings
the count to the threshold. -/
theorem Counted.step {s after : Tracker} {label : Label} (counted : Counted degradedThreshold s)
    (positive : 0 < degradedThreshold) (ordered : degradedThreshold < criticalThreshold)
    (taken : s.step degradedThreshold criticalThreshold label = some after) :
    Counted degradedThreshold after := by
  cases label with
  | updateHeartbeat id now =>
    obtain ⟨_, rfl⟩ := of_guard_not taken
    exact counted.heartbeat id now _
  | touchHeartbeat id now =>
    obtain ⟨_, rfl⟩ := of_guard_not taken
    exact counted.heartbeat id now _
  | remove id =>
    obtain rfl := Option.some.inj taken
    exact ⟨counted.atThreshold, counted.once, counted.made, counted.scan⟩
  | checkHeartbeats now interval due =>
    obtain ⟨enabled, rfl⟩ := of_guard_not taken
    simp only [not_or, not_not] at enabled
    refine ⟨counted.atThreshold, counted.once, fun id call later => ?_, fun scan found => ?_⟩
    · exact counted.made id call (Nat.le_of_succ_le later)
    · obtain rfl := Option.some.inj found
      refine ⟨Nat.lt_succ_self _, enabled.2.2.nodup_iff.mpr (nodup_due s now interval), ?_⟩
      exact fun id _ => counted.made id s.calls (le_refl _)
  | checkPeer =>
    simp only [Tracker.step] at taken
    split at taken
    · next scan scanning =>
      split at taken
      · next id rest next =>
        obtain rfl := Option.some.inj taken
        exact counted.checkPeer positive ordered scanning next
      · cases taken
    · cases taken
  | returned =>
    simp only [Tracker.step] at taken
    split at taken
    · obtain ⟨_, rfl⟩ := of_guard taken
      refine ⟨counted.atThreshold, counted.once, counted.made, fun scan found => ?_⟩
      cases found
    · cases taken

end calls

/-! ### What was reported since a heartbeat -/

section reports

variable {degradedThreshold criticalThreshold : Int}

theorem reportsSince_heartbeat_self (id : String) (log : List Event) :
    reportsSince id (.heartbeat id :: log) = [] := if_pos rfl

theorem reportsSince_heartbeat_other {id other : String} (different : other ≠ id)
    (log : List Event) : reportsSince id (.heartbeat other :: log) = reportsSince id log :=
  if_neg different

theorem reportsSince_counted_self (id : String) (call : Nat) (missed : Int)
    (reported : Option Status) (log : List Event) :
    reportsSince id (.counted id call missed reported :: log) =
      reported.toList ++ reportsSince id log := if_pos rfl

theorem reportsSince_counted_other {id other : String} (different : other ≠ id) (call : Nat)
    (missed : Int) (reported : Option Status) (log : List Event) :
    reportsSince id (.counted other call missed reported :: log) = reportsSince id log :=
  if_neg different

/-- An entry whose peer has sent a heartbeat: the reports since then are those of its missed beats,
and none of these was counted at the time of the heartbeat. -/
structure Current (degradedThreshold criticalThreshold : Int) (log : List Event) (id : String)
    (entry : Entry) : Prop where
  nonneg : 0 ≤ entry.missedBeats
  later : 0 < entry.missedBeats → entry.lastReg < entry.lastStatusCheck
  reports : reportsSince id log = expected degradedThreshold criticalThreshold entry.missedBeats

/-- The invariant of the runs that keep to the condition. A peer that was removed keeps the reports
it had. -/
structure Sound (degradedThreshold criticalThreshold : Int) (s : Tracker) : Prop where
  interval : ∀ scan, s.scan = some scan → 0 ≤ scan.interval
  current : ∀ id entry, s.peers.lookup id = some entry → .heartbeat id ∈ s.log →
    Current degradedThreshold criticalThreshold s.log id entry
  reports : ∀ id, .heartbeat id ∈ s.log → ∃ missed,
    reportsSince id s.log = expected degradedThreshold criticalThreshold missed

theorem Sound.start {s : Tracker} (initial : (system degradedThreshold criticalThreshold).start s) :
    Sound degradedThreshold criticalThreshold s := by
  obtain ⟨noScan, _, noLog⟩ := initial
  refine ⟨fun scan found => ?_, fun id _ _ member => ?_, fun id member => ?_⟩
  · rw [noScan] at found
    cases found
  · rw [noLog] at member
    exact absurd member List.not_mem_nil
  · rw [noLog] at member
    exact absurd member List.not_mem_nil

/-- A heartbeat sets the missed beats back, and the reports begin anew. -/
theorem Sound.heartbeat {s : Tracker} (sound : Sound degradedThreshold criticalThreshold s)
    (positive : 0 < degradedThreshold) (ordered : degradedThreshold < criticalThreshold)
    (id : String) (now : Int) {change : Entry → Int → Entry}
    (resets : ∀ entry, (change entry now).missedBeats = 0) :
    Sound degradedThreshold criticalThreshold (s.heartbeat id now change) := by
  unfold Tracker.heartbeat
  split
  · next entry found =>
    refine ⟨sound.interval, fun other changed lookup member => ?_, fun other member => ?_⟩
    · rcases Table.lookup_insert_iff.mp lookup with ⟨rfl, rfl⟩ | ⟨different, lookup⟩
      · have zero := resets entry
        refine ⟨by omega, by omega, ?_⟩
        rw [reportsSince_heartbeat_self, zero, expected_zero positive ordered]
      · rcases List.mem_cons.mp member with same | member
        · injection same with same
          exact absurd same different
        · have current := sound.current other changed lookup member
          refine ⟨current.nonneg, current.later, ?_⟩
          rw [reportsSince_heartbeat_other (Ne.symm different), current.reports]
    · by_cases same : id = other
      · subst same
        exact ⟨0, by rw [reportsSince_heartbeat_self, expected_zero positive ordered]⟩
      · rcases List.mem_cons.mp member with event | member
        · injection event with event
          exact absurd event.symm same
        · obtain ⟨missed, reports⟩ := sound.reports other member
          exact ⟨missed, by rw [reportsSince_heartbeat_other same, reports]⟩
  · exact ⟨sound.interval, sound.current, sound.reports⟩

/-- A check that finds a recent heartbeat finds no missed beats either. -/
theorem Current.none_missed {log : List Event} {id : String} {entry : Entry}
    (current : Current degradedThreshold criticalThreshold log id entry) {scan : Scan}
    (due : entry.isDue scan.now scan.interval = true)
    (recent : ¬scan.now - entry.lastReg > scan.interval) : entry.missedBeats = 0 := by
  have checked : scan.now - entry.lastStatusCheck ≥ scan.interval := of_decide_eq_true due
  have nonneg := current.nonneg
  by_contra nonzero
  have later := current.later (by omega)
  omega

theorem Sound.checkPeer {s : Tracker} (sound : Sound degradedThreshold criticalThreshold s)
    (ordered : degradedThreshold < criticalThreshold) {scan : Scan} {id : String}
    {rest : List String} (scanning : s.scan = some scan)
    (bounded : ∀ entry, s.peers.lookup id = some entry → entry.misses scan →
      entry.missedBeats ≠ maxInt32) :
    Sound degradedThreshold criticalThreshold
      (s.checkPeer degradedThreshold criticalThreshold scan id rest) := by
  have interval := sound.interval scan scanning
  rcases checkPeer_cases s scan id rest with same | ⟨entry, found, due, recent, same⟩ |
    ⟨entry, degraded, critical, found, misses, same⟩
  · rw [same]
    refine ⟨fun other found => ?_, sound.current, sound.reports⟩
    obtain rfl := Option.some.inj found
    exact interval
  · rw [same]
    refine ⟨fun other found => ?_, fun other changed lookup member => ?_, sound.reports⟩
    · obtain rfl := Option.some.inj found
      exact interval
    · rcases Table.lookup_insert_iff.mp lookup with ⟨rfl, rfl⟩ | ⟨_, lookup⟩
      · have current := sound.current other entry found member
        have none := current.none_missed due recent
        refine ⟨le_refl _, fun positive => absurd positive (lt_irrefl _), ?_⟩
        rw [current.reports, none]
        rfl
      · exact sound.current other changed lookup member
  · rw [same]
    have counts := bounded entry found misses
    have stale := misses.2
    refine ⟨fun other found => ?_, fun other changed lookup member => ?_, fun other member => ?_⟩
    · obtain rfl := Option.some.inj found
      exact interval
    · have earlier : Event.heartbeat other ∈ s.log := by
        rcases List.mem_cons.mp member with event | member
        · cases event
        · exact member
      rcases Table.lookup_insert_iff.mp lookup with ⟨rfl, rfl⟩ | ⟨different, lookup⟩
      · have current := sound.current other entry found earlier
        have next : increment entry.missedBeats = entry.missedBeats + 1 := if_neg counts
        refine ⟨?_, fun _ => ?_, ?_⟩
        · show 0 ≤ increment entry.missedBeats
          have nonneg := current.nonneg
          omega
        · show entry.lastReg < scan.now
          omega
        · rw [reportsSince_counted_self, current.reports]
          exact (expected_increment ordered counts).symm
      · have current := sound.current other changed lookup earlier
        refine ⟨current.nonneg, current.later, ?_⟩
        rw [reportsSince_counted_other (Ne.symm different), current.reports]
    · have earlier : Event.heartbeat other ∈ s.log := by
        rcases List.mem_cons.mp member with event | member
        · cases event
        · exact member
      by_cases self : id = other
      · subst self
        have current := sound.current id entry found earlier
        exact ⟨_, by rw [reportsSince_counted_self, current.reports, expected_increment ordered
          counts]⟩
      · obtain ⟨missed, reports⟩ := sound.reports other earlier
        exact ⟨missed, by rw [reportsSince_counted_other self, reports]⟩

theorem Sound.step {s after : Tracker} {label : Label}
    (sound : Sound degradedThreshold criticalThreshold s) (positive : 0 < degradedThreshold)
    (ordered : degradedThreshold < criticalThreshold) (bounded : Bounded s label)
    (taken : s.step degradedThreshold criticalThreshold label = some after) :
    Sound degradedThreshold criticalThreshold after := by
  cases label with
  | updateHeartbeat id now =>
    obtain ⟨_, rfl⟩ := of_guard_not taken
    exact sound.heartbeat positive ordered id now fun _ => rfl
  | touchHeartbeat id now =>
    obtain ⟨_, rfl⟩ := of_guard_not taken
    exact sound.heartbeat positive ordered id now fun _ => rfl
  | remove id =>
    obtain rfl := Option.some.inj taken
    refine ⟨sound.interval, fun other entry lookup member => ?_, sound.reports⟩
    exact sound.current other entry (Table.lookup_erase_iff.mp lookup).2 member
  | checkHeartbeats now interval due =>
    obtain ⟨_, rfl⟩ := of_guard_not taken
    refine ⟨fun scan found => ?_, sound.current, sound.reports⟩
    obtain rfl := Option.some.inj found
    exact bounded
  | checkPeer =>
    simp only [Tracker.step] at taken
    split at taken
    · next scan scanning =>
      split at taken
      · next id rest next =>
        obtain rfl := Option.some.inj taken
        exact sound.checkPeer ordered scanning fun entry found misses =>
          bounded scan id rest entry scanning next found misses
      · cases taken
    · cases taken
  | returned =>
    simp only [Tracker.step] at taken
    split at taken
    · obtain ⟨_, rfl⟩ := of_guard taken
      refine ⟨fun scan found => ?_, sound.current, sound.reports⟩
      cases found
    · cases taken

theorem count_expected_le (missed : Int) (status : Status) :
    (expected degradedThreshold criticalThreshold missed).count status ≤ 1 := by
  unfold expected
  split
  · cases status <;> decide
  · split <;> cases status <;> decide

theorem degraded_of_critical {later earlier : List Status}
    (reports : expected degradedThreshold criticalThreshold missed =
      later ++ .critical :: earlier) : Status.degraded ∈ earlier := by
  have critical : Status.critical ∈ expected degradedThreshold criticalThreshold missed := by
    rw [reports]
    exact List.mem_append_right _ List.mem_cons_self
  unfold expected at reports critical
  split at reports
  · cases later with
    | nil =>
      obtain ⟨_, rfl⟩ := List.cons.inj reports
      exact List.mem_singleton_self _
    | cons first later =>
      obtain ⟨_, reports⟩ := List.cons.inj reports
      cases later with
      | nil => cases reports
      | cons second later =>
        obtain ⟨_, reports⟩ := List.cons.inj reports
        exact absurd reports.symm (by simp)
  · next few =>
    rw [if_neg few] at critical
    split at critical
    · cases List.mem_singleton.mp critical
    · exact absurd critical List.not_mem_nil

end reports

/-! ### Runs -/

/-- One peer that is checked a first time. -/
def once : Tracker := ⟨0, (∅ : Table String Entry).insert "A" ⟨0, 0, 0, none⟩, none, 0, []⟩

/-- The count after so many missed beats. -/
def wrapped (beats : Nat) : Int := ((beats : Int) + 2147483648) % 4294967296 - 2147483648

theorem increment_wrapped (beats : Nat) : increment (wrapped beats) = wrapped (beats + 1) := by
  unfold increment wrapped maxInt32
  rw [Int.natCast_succ]
  split <;> omega

theorem step_returned {degradedThreshold criticalThreshold : Int} {s : Tracker} {scan : Scan}
    (scanning : s.scan = some scan) (done : scan.rest = []) :
    (system degradedThreshold criticalThreshold).step s .returned =
      some { s with scan := none } := by
  simp only [system, Tracker.step, scanning, if_pos done]

/-- One more call on a peer that sends no heartbeat counts one more beat. -/
theorem one_more {s : Tracker} {entry : Entry} (idle : s.scan = none)
    (alone : s.peers = (∅ : Table String Entry).insert "A" entry)
    (registered : entry.lastReg ≤ s.clock)
    (checked : entry.lastStatusCheck ≤ s.clock) (reached : Reachable (system 1 2) s) :
    ∃ after, Reachable (system 1 2) after ∧ after.scan = none ∧ after.clock = s.clock + 1 ∧
      after.peers = (∅ : Table String Entry).insert "A" (entry.count 1 2 (s.clock + 1)) ∧
      after.log = .counted "A" s.calls (increment entry.missedBeats)
        (report 1 2 entry.missedBeats) :: s.log := by
  have found : s.peers.lookup "A" = some entry := by
    rw [alone, AList.lookup_insert]
  have isDue : entry.isDue (s.clock + 1) 0 = true := decide_eq_true (by omega)
  have due : s.due (s.clock + 1) 0 = ["A"] := by
    rw [Tracker.due, alone]
    show ([(⟨"A", entry⟩ : Sigma fun _ : String => Entry)].filter fun entry =>
      entry.2.isDue (s.clock + 1) 0).map (·.1) = _
    rw [List.filter_cons, if_pos isDue]
    rfl
  have enabled : ¬(s.clock + 1 < s.clock ∨ s.scan.isSome = true ∨
      ¬["A"].Perm (s.due (s.clock + 1) 0)) := by
    rw [idle, due]
    simp
  have stale : s.clock + 1 - entry.lastReg > 0 := by omega
  have called : (system 1 2).step s (.checkHeartbeats (s.clock + 1) 0 ["A"]) = some
      { s with
        clock := s.clock + 1
        scan := some ⟨s.calls, s.clock + 1, 0, ["A"], [], []⟩
        calls := s.calls + 1 } := if_neg enabled
  generalize begun : { s with
    clock := s.clock + 1
    scan := some ⟨s.calls, s.clock + 1, 0, ["A"], [], []⟩
    calls := s.calls + 1 } = during at called
  have foundDuring : during.peers.lookup "A" = some entry := by
    rw [← begun]
    exact found
  obtain ⟨degraded, critical, counted⟩ := @checkPeer_of_misses 1 2 during
    ⟨s.calls, s.clock + 1, 0, ["A"], [], []⟩ "A" entry foundDuring ⟨isDue, stale⟩ []
  have looked : (system 1 2).step during .checkPeer =
      some (during.checkPeer 1 2 ⟨s.calls, s.clock + 1, 0, ["A"], [], []⟩ "A" []) := by
    rw [← begun]
    rfl
  rw [counted] at looked
  refine ⟨_, .step (.step (.step reached trivial called) trivial looked) trivial
    (step_returned rfl rfl), rfl, ?_, ?_, ?_⟩
  · rw [← begun]
  · rw [← begun]
    show s.peers.insert "A" (entry.count 1 2 (s.clock + 1)) = _
    rw [alone, AList.insert_insert]
  · rw [← begun]

/-- After so many calls the peer was reported as degraded once for each time that the count went
through one. -/
theorem reported_after (beats : Nat) :
    ∃ s entry, Reachable (system 1 2) s ∧ s.scan = none ∧
      s.peers = (∅ : Table String Entry).insert "A" entry ∧ entry.lastReg ≤ s.clock ∧
      entry.lastStatusCheck ≤ s.clock ∧ entry.missedBeats = wrapped beats ∧
      .heartbeat "A" ∈ s.log ∧
      (reportsSince "A" s.log).count .degraded = (beats + 4294967295) / 4294967296 := by
  induction beats with
  | zero =>
    have beat : (system 1 2).step once (.updateHeartbeat "A" 0) =
      some (once.heartbeat "A" 0 Entry.updateHeartbeat) := rfl
    have reached : Reachable (system 1 2) once := .start ⟨rfl, rfl, rfl⟩
    exact ⟨_, ⟨0, 0, 0, none⟩, .step reached trivial beat, rfl, rfl, le_refl _, le_refl _, rfl,
      List.mem_singleton_self _, rfl⟩
  | succ beats inductionHypothesis =>
    obtain ⟨s, entry, reached, idle, alone, registered, checked, missed, beat, count⟩ :=
      inductionHypothesis
    obtain ⟨after, reachedAfter, idleAfter, clock, aloneAfter, log⟩ :=
      one_more idle alone registered checked reached
    have atOne : report 1 2 entry.missedBeats = some .degraded ↔ _ :=
      report_eq_degraded_iff (by decide) (by decide) entry.missedBeats
    refine ⟨after, _, reachedAfter, idleAfter, aloneAfter, ?_, ?_, ?_, ?_, ?_⟩
    · rw [clock]
      exact le_trans registered (by omega)
    · rw [clock]
      exact le_refl _
    · show increment entry.missedBeats = wrapped (beats + 1)
      rw [missed, increment_wrapped]
    · rw [log]
      exact List.mem_cons_of_mem _ beat
    · rw [log, reportsSince_counted_self, List.count_append, count]
      rw [missed, increment_wrapped] at atOne
      by_cases one : wrapped (beats + 1) = 1
      · rw [missed, atOne.mpr one]
        show 1 + _ = _
        unfold wrapped at one
        rw [Int.natCast_succ] at one
        omega
      · have none : ((report 1 2 entry.missedBeats).toList).count .degraded = 0 := by
          rw [List.count_eq_zero, Option.mem_toList]
          exact fun reported => one (atOne.mp (missed ▸ reported))
        rw [none]
        unfold wrapped at one
        rw [Int.natCast_succ] at one
        omega

end SovaDesk.Peer.Degradation
