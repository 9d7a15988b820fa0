/-
This file settles when the peers go through the tiers in order.

A peer is reported CRITICAL when its fourth beat in a row is missed, and removed when it has
sent no heartbeat for thirty seconds. A check is due fifteen seconds after the last one, so
of the beats missed since the last heartbeat at most two are counted before the removal, and
a peer is reported CRITICAL after its last heartbeat only if beats that were missed before
it still count. So the order of the tiers is kept exactly as long as each peer that expires
has, with those, missed four.
-/

import SovaDesk.Peer.Heartbeats

namespace SovaDesk.Peer

open Transition
open Signal (regTimeout)

/-! ### The property -/

/-- The status that was reported last for a peer. -/
def lastReport (id : String) : List Event → Option Status
  | [] => none
  | .heartbeat _ :: earlier => lastReport id earlier
  | .reported other status :: earlier =>
    if other = id then some status else lastReport id earlier

/-- A peer has been reported CRITICAL since its last heartbeat. -/
def criticalSince (id : String) : List Event → Bool
  | [] => false
  | .heartbeat other :: earlier => if other = id then false else criticalSince id earlier
  | .reported other status :: earlier =>
    if other = id ∧ status = .critical then true else criticalSince id earlier

/-- What a step reports is the next tier: CRITICAL comes after DEGRADED, and OFFLINE after CRITICAL
since the last heartbeat. -/
def TiersInOrder (taken : Taken Tracker Label) : Prop :=
  ∀ report ∈ taken.before.reports taken.label,
    (report.2 = .critical → lastReport report.1 taken.before.log = some .degraded) ∧
    (report.2 = .offline → criticalSince report.1 taken.before.log = true)

/-- The beats of a peer that were missed before its last heartbeat and still count. -/
def Tracker.carriedBeats (s : Tracker) (id : String) : Nat := (s.carried.lookup id).getD 0

/-- The condition: a peer that expires has missed as many beats as make it CRITICAL, and had not
missed as many when its last heartbeat came. -/
def ExpiresCritical (s : Tracker) : Label → Prop
  | .cleanExpired now => ∀ id entry, s.peers.lookup id = some entry → entry.isExpired now = true →
      s.carriedBeats id < criticalThreshold ∧ criticalThreshold ≤ entry.missedBeats
  | _ => True

instance (s : Tracker) : (label : Label) → Decidable (ExpiresCritical s label)
  | .cleanExpired now =>
    decidable_of_iff (∀ listed ∈ s.peers.entries, listed.2.isExpired now = true →
        s.carriedBeats listed.1 < criticalThreshold ∧ criticalThreshold ≤ listed.2.missedBeats)
      ⟨fun each _ _ found => each _ (Table.mem_entries_iff.mpr found),
        fun each _ member => each _ _ (Table.mem_entries_iff.mp member)⟩
  | .heartbeat _ _ _ | .remove _ | .checkHeartbeats _ _ | .checkPeer => .isTrue trivial

/-! ### What is known of an entry -/

/-- The log and the last check of a peer agree with its missed beats. -/
structure Agrees (s : Tracker) (id : String) (entry : Entry) : Prop where
  carried : s.carriedBeats id ≤ entry.missedBeats
  degraded : degradedThreshold ≤ entry.missedBeats → entry.missedBeats < criticalThreshold →
    lastReport id s.log = some .degraded
  critical : criticalSince id s.log = true ↔
    s.carriedBeats id < criticalThreshold ∧ criticalThreshold ≤ entry.missedBeats
  counted : s.carriedBeats id < entry.missedBeats →
    ∃ checked, entry.lastStatusCheck = some checked ∧
    checked - entry.lastReg > heartbeatExpected

/-- All entries agree with the log. -/
def Consistent (s : Tracker) : Prop :=
  ∀ id entry, s.peers.lookup id = some entry → Agrees s id entry

variable {now : Int}

section steps

variable {s after : Tracker} {id other : String} {entry : Entry} {status : Status}

/-- An event of another peer. -/
theorem lastReport_cons_of_ne (different : other ≠ id) (log : List Event) :
    lastReport id (.reported other status :: log) = lastReport id log :=
  if_neg different

theorem criticalSince_reported_of_ne (different : other ≠ id) (log : List Event) :
    criticalSince id (.reported other status :: log) = criticalSince id log :=
  if_neg fun same => different same.1

/-- What an entry agrees with depends on its own events and carried beats only. -/
theorem Agrees.congr (agrees : Agrees s id entry)
    (carried : after.carriedBeats id = s.carriedBeats id)
    (report : lastReport id after.log = lastReport id s.log)
    (since : criticalSince id after.log = criticalSince id s.log) : Agrees after id entry where
  carried := carried ▸ agrees.carried
  degraded := report ▸ agrees.degraded
  critical := by rw [since, carried]; exact agrees.critical
  counted := carried ▸ agrees.counted

/-- An entry whose beats all count from before has nothing to show for itself. -/
theorem Agrees.of_carried (same : s.carriedBeats id = entry.missedBeats)
    (degraded : degradedThreshold ≤ entry.missedBeats → entry.missedBeats < criticalThreshold →
      lastReport id s.log = some .degraded)
    (quiet : criticalSince id s.log = false) : Agrees s id entry where
  carried := same.le
  degraded := degraded
  critical := by
    rw [quiet, same]
    exact iff_of_false Bool.false_ne_true fun both => absurd both.1 (not_lt.mpr both.2)
  counted fewer := absurd fewer (same ▸ lt_irrefl _)

/-- A heartbeat sets the missed beats back or keeps them. -/
theorem missedBeats_apply {kind : Heartbeat} {before : Option Entry}
    (applied : kind.apply now before = some entry) :
    entry.missedBeats = 0 ∨ ∃ old, before = some old ∧ entry.missedBeats = old.missedBeats := by
  cases kind <;> cases before <;> cases applied
  · exact .inl rfl
  · exact .inl rfl
  · exact .inl rfl
  · exact .inr ⟨_, rfl, rfl⟩
  · exact .inl rfl
  · exact .inr ⟨_, rfl, rfl⟩
  · exact .inl rfl

/-- The check of an entry that has sent no heartbeat for too long: the second beat in a row and the
fourth are reported. -/
theorem check_of_late (late : now - entry.lastReg > heartbeatExpected) :
    (entry.check now).1.missedBeats = entry.missedBeats + 1 ∧
      (entry.check now).1.lastStatusCheck = some now ∧
      (entry.check now).1.lastReg = entry.lastReg ∧
      (entry.check now).2 =
        if entry.missedBeats + 1 = degradedThreshold then some .degraded
        else if entry.missedBeats + 1 = criticalThreshold then some .critical
        else none := by
  unfold Entry.check
  rw [if_pos late]
  refine ⟨rfl, rfl, rfl, ?_⟩
  unfold Entry.computeStatus degradedThreshold criticalThreshold
  dsimp only
  generalize entry.missedBeats = missed
  rcases missed with _ | _ | _ | _ | missed
  · rfl
  · rfl
  · rfl
  · rfl
  · simp

theorem check_of_inTime (inTime : ¬ now - entry.lastReg > heartbeatExpected) :
    (entry.check now).1.missedBeats = 0 ∧ (entry.check now).2 = none := by
  unfold Entry.check
  rw [if_neg inTime]
  exact ⟨rfl, rfl⟩

/-- A check that is due is at least fifteen seconds after the last one. -/
theorem le_of_isDue {checked : Int} (due : entry.isDue now = true)
    (last : entry.lastStatusCheck = some checked) : now - checked ≥ heartbeatExpected := by
  unfold Entry.isDue at due
  rw [last, Option.all_some] at due
  exact of_decide_eq_true due

/-- After a check an entry agrees with the log again. -/
theorem Agrees.check (agrees : Agrees s id entry) (due : entry.isDue now = true) (log : after.log =
      (entry.check now).2.toList.map (fun status => Event.reported id status) ++ s.log)
    (carried : after.carriedBeats id =
      if (entry.check now).1.missedBeats = 0 then 0 else s.carriedBeats id) :
    Agrees after id (entry.check now).1 := by
  by_cases late : now - entry.lastReg > heartbeatExpected
  · obtain ⟨missed, checked, sameReg, status⟩ := check_of_late late
    rw [missed, if_neg (Nat.succ_ne_zero _)] at carried
    have counts : ∃ checkedAt, (entry.check now).1.lastStatusCheck = some checkedAt ∧
        checkedAt - (entry.check now).1.lastReg > heartbeatExpected :=
      ⟨now, checked, by rw [sameReg]; exact late⟩
    have before := agrees.carried
    have critical := agrees.critical
    have degraded := agrees.degraded
    unfold criticalThreshold at critical degraded status
    unfold degradedThreshold at degraded status
    by_cases second : entry.missedBeats + 1 = 2
    · rw [status, if_pos second] at log
      refine ⟨by omega, fun _ _ => ?_, ?_, fun _ => counts⟩
      · rw [log]
        exact if_pos rfl
      · rw [log]
        refine (iff_of_eq (congrArg (· = true) (if_neg fun both => nomatch both.2))).trans ?_
        rw [carried, missed]
        unfold criticalThreshold
        exact critical.trans (by omega)
    · by_cases fourth : entry.missedBeats + 1 = 4
      · rw [status, if_neg second, if_pos fourth] at log
        refine ⟨by omega, fun _ few => ?_, ?_, fun _ => counts⟩
        · unfold criticalThreshold at few
          omega
        · rw [log]
          refine iff_of_true (if_pos ⟨rfl, rfl⟩) ?_
          unfold criticalThreshold
          omega
      · rw [status, if_neg second, if_neg fourth] at log
        have same : after.log = s.log := log
        refine ⟨by omega, fun some few => ?_, ?_, fun _ => counts⟩
        · unfold criticalThreshold at few
          unfold degradedThreshold at some
          rw [same]
          exact degraded (by omega) (by omega)
        · rw [same, carried, missed]
          unfold criticalThreshold
          exact critical.trans (by omega)
  · obtain ⟨missed, status⟩ := check_of_inTime late
    rw [missed, if_pos rfl] at carried
    rw [status] at log
    have same : after.log = s.log := log
    refine .of_carried (carried.trans missed.symm) (fun some => ?_) ?_
    · rw [missed] at some
      exact absurd some (by decide)
    · -- a peer that was reported CRITICAL since its heartbeat was late then, and still is
      rw [same, Bool.eq_false_iff]
      intro since
      obtain ⟨few, many⟩ := agrees.critical.mp since
      obtain ⟨checked, last, wasLate⟩ := agrees.counted (few.trans_le many)
      have apart := le_of_isDue due last
      have positive : heartbeatExpected > 0 := by decide
      omega

/-- Reports about other peers. -/
theorem lastReport_reports {ids : List String} (absent : id ∉ ids) (log : List Event) :
    lastReport id (ids.map (fun id => Event.reported id status) ++ log) = lastReport id log := by
  induction ids with
  | nil => rfl
  | cons first rest inductionHypothesis =>
    have different : first ≠ id := fun same => absent (same ▸ List.mem_cons_self)
    rw [List.map_cons, List.cons_append, lastReport_cons_of_ne different]
    exact inductionHypothesis fun later => absent (List.mem_cons_of_mem _ later)

theorem criticalSince_reports {ids : List String} (absent : id ∉ ids) (log : List Event) :
    criticalSince id (ids.map (fun id => Event.reported id status) ++ log) =
      criticalSince id log := by
  induction ids with
  | nil => rfl
  | cons first rest inductionHypothesis =>
    have different : first ≠ id := fun same => absent (same ▸ List.mem_cons_self)
    rw [List.map_cons, List.cons_append, criticalSince_reported_of_ne different]
    exact inductionHypothesis fun later => absent (List.mem_cons_of_mem _ later)

theorem mem_expired_iff :
    id ∈ s.expired now ↔ ∃ entry, s.peers.lookup id = some entry ∧ entry.isExpired now = true := by
  unfold Tracker.expired
  rw [List.mem_map]
  constructor
  · rintro ⟨⟨other, entry⟩, member, rfl⟩
    obtain ⟨present, expired⟩ := List.mem_filter.mp member
    exact ⟨entry, Table.mem_entries_iff.mp present, expired⟩
  · rintro ⟨entry, found, expired⟩
    exact ⟨⟨id, entry⟩, List.mem_filter.mpr ⟨Table.mem_entries_iff.mpr found, expired⟩, rfl⟩

theorem nextCheck_some (next : s.nextCheck = some (id, entry, now)) :
    s.peers.lookup id = some entry ∧ entry.isDue now = true ∧
      ∃ rest, s.cleaner = .checking now (id :: rest) := by
  unfold Tracker.nextCheck at next
  split at next
  · next checkedAt first rest standing =>
    obtain ⟨found, passed, same⟩ := Option.map_eq_some_iff.mp next
    obtain ⟨isEntry, due⟩ := Option.filter_eq_some_iff.mp passed
    cases same
    exact ⟨isEntry, due, rest, standing⟩
  · exact (nomatch next)

/-- The state after a heartbeat. -/
theorem consistent_heartbeat (consistent : Consistent s) {kind : Heartbeat}
    (taken : s.step (.heartbeat kind id now) = some after) : Consistent after := by
  unfold Tracker.step at taken
  dsimp only at taken
  obtain ⟨_, moved⟩ := Option.ite_none_left_eq_some.mp taken
  cases applied : kind.apply now (s.peers.lookup id) with
  | none =>
    rw [applied] at moved
    obtain rfl := Option.some.inj moved
    exact fun other entry found => (consistent other entry found).congr rfl rfl rfl
  | some entry =>
    rw [applied] at moved
    obtain rfl := Option.some.inj moved
    intro other found isFound
    rcases Table.lookup_insert_iff.mp isFound with ⟨rfl, rfl⟩ | ⟨different, older⟩
    · refine .of_carried ?_ (fun some few => ?_) (if_pos rfl)
      · unfold Tracker.carriedBeats
        rw [AList.lookup_insert]
        rfl
      · rcases missedBeats_apply applied with none | ⟨old, isOld, same⟩
        · rw [none] at some
          exact absurd some (by decide)
        · rw [same] at some few
          exact (consistent other old isOld).degraded some few
    · refine (consistent other found older).congr ?_ rfl (if_neg (Ne.symm different))
      unfold Tracker.carriedBeats
      rw [AList.lookup_insert_ne different]

/-- The state after a check. -/
theorem consistent_checkPeer (consistent : Consistent s)
    (taken : s.step .checkPeer = some after) : Consistent after := by
  unfold Tracker.step at taken
  dsimp only at taken
  split at taken
  · next now first rest standing =>
    obtain rfl := Option.some.inj taken
    unfold Tracker.checkNext Tracker.reports
    dsimp only
    cases next : s.nextCheck with
    | none => exact fun other entry found => (consistent other entry found).congr rfl rfl rfl
    | some check =>
      obtain ⟨id, entry, checkedAt⟩ := check
      obtain ⟨found, due, _⟩ := nextCheck_some next
      dsimp only
      intro other checked isFound
      rcases Table.lookup_insert_iff.mp isFound with ⟨rfl, rfl⟩ | ⟨different, older⟩
      · refine (consistent other entry found).check due ?_ ?_
        · dsimp only
          rw [List.map_map]
          rfl
        · unfold Tracker.carriedBeats
          dsimp only
          split
          · rw [AList.lookup_insert]
            rfl
          · rfl
      · refine (consistent other checked older).congr ?_ ?_ ?_
        · unfold Tracker.carriedBeats
          dsimp only
          split
          · rw [AList.lookup_insert_ne different]
          · rfl
        · cases (entry.check checkedAt).2 with
          | none => rfl
          | some status => exact lastReport_cons_of_ne (Ne.symm different) _
        · cases (entry.check checkedAt).2 with
          | none => rfl
          | some status => exact criticalSince_reported_of_ne (Ne.symm different) _
  · exact (nomatch taken)

/-- The state after the removal of the expired peers. -/
theorem consistent_cleanExpired (consistent : Consistent s)
    (taken : s.step (.cleanExpired now) = some after) : Consistent after := by
  unfold Tracker.step at taken
  dsimp only at taken
  split at taken
  · obtain ⟨_, rfl⟩ := of_guard_not taken
    intro id entry isFound
    obtain ⟨found, kept⟩ := Table.lookup_filter_iff.mp isFound
    have alive : id ∉ s.expired now := by
      rw [mem_expired_iff]
      rintro ⟨other, same, expired⟩
      obtain rfl := Option.some.inj (found.symm.trans same)
      rw [expired] at kept
      exact absurd kept Bool.false_ne_true
    have events : ((s.reports (.cleanExpired now)).map fun report =>
        Event.reported report.1 report.2) =
          (s.expired now).map fun id => Event.reported id .offline :=
      List.map_map
    refine (consistent id entry found).congr rfl ?_ ?_
    · rw [events]
      exact lastReport_reports alive s.log
    · rw [events]
      exact criticalSince_reports alive s.log
  · exact (nomatch taken)

theorem consistent_step (consistent : Consistent s) {label : Label}
    (taken : s.step label = some after) : Consistent after := by
  cases label with
  | heartbeat kind id now => exact consistent_heartbeat consistent taken
  | remove id =>
    obtain rfl := Option.some.inj taken
    intro other entry found
    exact (consistent other entry (Table.lookup_erase_iff.mp found).2).congr rfl rfl rfl
  | checkHeartbeats now due =>
    unfold Tracker.step at taken
    obtain ⟨_, rfl⟩ := of_guard_not taken
    exact fun other entry found => (consistent other entry found).congr rfl rfl rfl
  | checkPeer => exact consistent_checkPeer consistent taken
  | cleanExpired now => exact consistent_cleanExpired consistent taken

theorem consistent_of_reachable (reached : Reachable tracking s) : Consistent s := by
  refine reached.invariant Consistent ?_ fun _ _ _ consistent _ taken =>
    consistent_step consistent taken
  rintro s ⟨empty, _⟩ id entry found
  rw [empty] at found
  exact (nomatch found)

end steps

/-! ### Every run -/

/-- A check reports CRITICAL only after DEGRADED. -/
theorem inOrder_checkPeer {before after : Tracker} (consistent : Consistent before) :
    TiersInOrder ⟨before, .checkPeer, after⟩ := by
  intro report member
  unfold Tracker.reports at member
  dsimp only at member
  split at member
  · next id entry now next =>
    obtain ⟨found, _, _⟩ := nextCheck_some next
    obtain ⟨status, isReport, rfl⟩ := List.mem_map.mp member
    rw [Option.mem_toList] at isReport
    by_cases late : now - entry.lastReg > heartbeatExpected
    · obtain ⟨_, _, _, reported⟩ := check_of_late late
      rw [reported] at isReport
      constructor
      · rintro rfl
        have fourth : entry.missedBeats + 1 = criticalThreshold := by
          split at isReport
          · cases isReport
          · exact (Option.ite_none_right_eq_some.mp isReport).1
        unfold criticalThreshold at fourth
        refine (consistent id entry found).degraded ?_ ?_
        · unfold degradedThreshold
          omega
        · unfold criticalThreshold
          omega
      · rintro rfl
        split at isReport
        · cases isReport
        · obtain ⟨_, impossible⟩ := Option.ite_none_right_eq_some.mp isReport
          cases impossible
    · rw [(check_of_inTime late).2] at isReport
      exact (nomatch isReport)
  · exact absurd member List.not_mem_nil

/-- A removal comes after CRITICAL exactly when the peers that expire have missed enough beats. -/
theorem inOrder_cleanExpired_iff {before after : Tracker} (consistent : Consistent before) :
    TiersInOrder ⟨before, .cleanExpired now, after⟩ ↔
      ExpiresCritical before (.cleanExpired now) := by
  constructor
  · intro inOrder id entry found expired
    have member : (id, Status.offline) ∈ before.reports (.cleanExpired now) :=
      List.mem_map.mpr ⟨id, mem_expired_iff.mpr ⟨entry, found, expired⟩, rfl⟩
    exact (consistent id entry found).critical.mp ((inOrder _ member).2 rfl)
  · intro critical report member
    obtain ⟨id, isExpired, rfl⟩ := List.mem_map.mp member
    obtain ⟨entry, found, expired⟩ := mem_expired_iff.mp isExpired
    refine ⟨nofun, fun _ => ?_⟩
    exact (consistent id entry found).critical.mpr (critical id entry found expired)

/-- In every run, the tiers are reported in order exactly when all peers that expire have missed
enough beats since their last heartbeat. -/
theorem tiersInOrder_iff {steps : List (Taken Tracker Label)} {final : Tracker}
    (history : History tracking steps final) :
    (∀ taken ∈ steps, TiersInOrder taken) ↔
      ∀ taken ∈ steps, ExpiresCritical taken.before taken.label := by
  refine history.forall_iff fun step reached _ => ?_
  have consistent := consistent_of_reachable reached
  obtain ⟨before, label, after⟩ := step
  cases label with
  | checkPeer => exact iff_of_true (inOrder_checkPeer consistent) trivial
  | cleanExpired now => exact inOrder_cleanExpired_iff consistent
  | heartbeat | remove | checkHeartbeats =>
    exact iff_of_true (fun _ member => absurd member List.not_mem_nil) trivial

/-! ### A silent peer -/

def newTracker : Tracker where
  clock := 0
  peers := ∅
  cleaner := .waiting
  carried := ∅
  log := []

/-- A tick of the cleaner: a number of seconds from the start, and the peers that are due. -/
def tick (seconds : Int) (due : List String) : List Label :=
  .checkHeartbeats (seconds * second) due :: due.map (fun _ => .checkPeer) ++
    [.cleanExpired (seconds * second)]

/-- A peer registers once over UDP; the cleaner ticks every three seconds. -/
def silentPeer : List Label :=
  .heartbeat .registerPeer "device-1" 0 ::
    (tick 3 [] ++ tick 6 [] ++ tick 9 [] ++ tick 12 [] ++ tick 15 ["device-1"] ++ tick 18 [] ++
      tick 21 [] ++ tick 24 [] ++ tick 27 [] ++ tick 30 ["device-1"] ++ tick 33 [])

/-- The peer is removed although only one missed beat was counted, and neither DEGRADED nor CRITICAL
was reported. -/
theorem silentPeer_skipsTiers :
    ¬ ∀ steps final, History tracking steps final → ∀ taken ∈ steps, TiersInOrder taken := by
  intro always
  have ran : (tracking.trace [] newTracker silentPeer).any (fun traced =>
      traced.1.any fun taken => taken.before.reports taken.label = [("device-1", .offline)] &&
        !criticalSince "device-1" taken.before.log) = true := by decide
  obtain ⟨steps, final, history, skipped⟩ :=
    exists_history_of_trace (show tracking.start newTracker from ⟨rfl, rfl, rfl, rfl⟩) ran
  obtain ⟨taken, member, found⟩ := List.any_eq_true.mp skipped
  obtain ⟨reported, unreported⟩ := Bool.and_eq_true_iff.mp found
  have isReport : ("device-1", Status.offline) ∈ taken.before.reports taken.label :=
    (of_decide_eq_true reported) ▸ List.mem_cons_self
  have critical := (always steps final history taken member _ isReport).2 rfl
  rw [critical] at unreported
  exact absurd unreported Bool.false_ne_true

/-- A peer over WebSocket whose heartbeats come late again and again, and then not at all. -/
def latePeer : List Label :=
  .heartbeat .registerPeerWS "device-1" 0 ::
    (tick 3 ["device-1"] ++ [.heartbeat .registerPeerWS "device-1" (4 * second)] ++
      tick 21 ["device-1"] ++ [.heartbeat .registerPeerWS "device-1" (22 * second)] ++
      tick 39 ["device-1"] ++ [.heartbeat .registerPeerWS "device-1" (40 * second)] ++
      tick 57 ["device-1"] ++ [.heartbeat .registerPeerWS "device-1" (58 * second)] ++
      tick 75 ["device-1"] ++ tick 90 ["device-1"])

/-- It goes through the tiers in order. -/
theorem tiersInOrder_iff_late :
    ∃ steps final, History tracking steps final ∧
      (∃ taken ∈ steps, ("device-1", Status.offline) ∈ taken.before.reports taken.label) ∧
      ∀ taken ∈ steps, TiersInOrder taken := by
  have ran : (tracking.trace [] newTracker latePeer).any (fun traced =>
      (traced.1.any fun taken =>
        taken.before.reports taken.label = [("device-1", Status.offline)]) &&
      traced.1.all fun taken => ExpiresCritical taken.before taken.label) = true := by decide
  obtain ⟨steps, final, history, passed⟩ :=
    exists_history_of_trace (show tracking.start newTracker from ⟨rfl, rfl, rfl, rfl⟩) ran
  obtain ⟨removed, critical⟩ := Bool.and_eq_true_iff.mp passed
  obtain ⟨taken, member, reported⟩ := List.any_eq_true.mp removed
  refine ⟨steps, final, history, ⟨taken, member, ?_⟩, (tiersInOrder_iff history).mpr ?_⟩
  · rw [of_decide_eq_true reported]
    exact List.mem_cons_self
  · exact fun taken member => of_decide_eq_true (List.all_eq_true.mp critical taken member)

end SovaDesk.Peer
