/-
This file settles whether the rendezvous pairs connections one to one.

LoadOrStore hands the waiting entry to every connection that arrives before the first
of them has deleted it, so two partners can hold one entry and both close its channel:
the second close panics. The sweeper has the same gap between its Range and its
LoadAndDelete. The runs in which no operation takes an entry that a partner already
holds are free of both: there every entry has at most one partner, a channel is closed
only while it is open, and a connection enters at most one session.
-/

import SovaDesk.Relay.Coherence

namespace SovaDesk.Relay

open Transition

/-! ### The property -/

/-- How often a connection's `done` channel was closed. -/
def closesOf (c : ConnId) (log : List Event) : Nat := log.count (.doneClosed c)

/-- Whether an event hands a connection to `startRelay` or `startWSRelay`. -/
def Event.hands (c : ConnId) : Event → Bool
  | .sessionStarted existing pc _ _ => existing == c || pc == c
  | _ => false

/-- How many sessions a connection was handed to. -/
def sessionsOf (c : ConnId) (log : List Event) : Nat := log.countP (Event.hands c)

theorem closesOf_cons (c : ConnId) (event : Event) (log : List Event) :
    closesOf c (event :: log) = closesOf c log + if event = .doneClosed c then 1 else 0 := by
  simp [closesOf, List.count_cons]

theorem sessionsOf_cons (c : ConnId) (event : Event) (log : List Event) :
    sessionsOf c (event :: log) = sessionsOf c log + if event.hands c then 1 else 0 := by
  simp [sessionsOf, List.countP_cons]

@[simp] theorem closesOf_removePending (c : ConnId) (s : State) (key : String)
    (remover : Remover) : closesOf c (s.removePending key remover).log = closesOf c s.log := by
  rw [State.removePending_log]
  split
  · simp [closesOf_cons]
  · rfl

@[simp] theorem sessionsOf_removePending (c : ConnId) (s : State) (key : String)
    (remover : Remover) : sessionsOf c (s.removePending key remover).log = sessionsOf c s.log := by
  rw [State.removePending_log]
  split
  · simp [sessionsOf_cons, Event.hands]
  · rfl

@[simp] theorem sessionsOf_closeDone (c entry : ConnId) (s : State) :
    sessionsOf c (s.closeDone entry).log = sessionsOf c s.log := by
  cases found : s.calls.lookup entry with
  | some call => simp [State.closeDone_log found, sessionsOf_cons, Event.hands]
  | none => simp [State.closeDone, found]

/-- The process has not panicked, no channel was closed twice, and no connection was handed to two
sessions. -/
def OneToOne (s : State) : Prop :=
  s.panicked = false ∧ ∀ c, closesOf c s.log ≤ 1 ∧ sessionsOf c s.log ≤ 1

/-- Two partners load the entry of connection 0 before either deletes it, and both close it. -/
def doublePartner : List Label :=
  [.arrive 0 "session" .tcp, .call 0 .loadOrStore, .arrive 1 "session" .tcp,
    .arrive 2 "session" .tcp, .call 1 .loadOrStore, .call 2 .loadOrStore, .call 1 .delete,
    .call 2 .delete, .call 1 .closeDone, .call 2 .closeDone]

theorem doublePartner_panics : ¬ ∀ s, Reachable pairing s → OneToOne s := by
  intro always
  have ends : (pairing.run (initial 0) doublePartner).any (·.panicked) = true := by decide
  obtain ⟨final, reached, panicked⟩ := exists_reachable_of_run (pairing_start 0) ends
  have running := (always final reached).1
  rw [panicked] at running
  cases running

/-! ### The condition -/

/-- Whether some partner has loaded this entry. -/
def State.taken (s : State) (c : ConnId) : Bool :=
  s.calls.entries.any fun entry => entry.2.existing == some c

variable {c : ConnId}

theorem State.taken_iff {s : State} :
    s.taken c = true ↔
      ∃ p call, s.calls.lookup p = some call ∧ call.existing = some c := by
  simp only [State.taken, List.any_eq_true, beq_iff_eq]
  constructor
  · rintro ⟨⟨p, call⟩, member, partner⟩
    exact ⟨p, call, Table.mem_entries_iff.mp member, partner⟩
  · rintro ⟨p, call, found, partner⟩
    exact ⟨⟨p, call⟩, Table.mem_entries_iff.mpr found, partner⟩

/-- The entry a call's LoadOrStore would load. -/
def State.loadable (s : State) (c : ConnId) : Option ConnId :=
  (s.calls.lookup c).bind fun call => s.pending.lookup call.uuid

/-- The entry the sweeper will close, if its LoadAndDelete is about to find one. -/
def State.sweepable (s : State) : Option ConnId :=
  match s.sweeper with
  | .toRemove key aim => (s.pending.lookup key).map fun _ => aim
  | _ => none

/-- A step does not take an entry that a partner already holds: a LoadOrStore does not load one,
and a LoadAndDelete that succeeds was not aimed at one. -/
def undisputed (s : State) : Label → Bool
  | .call c .loadOrStore => (s.loadable c).all fun entry => !s.taken entry
  | .sweepRemove => s.sweepable.all fun aim => !s.taken aim
  | _ => true

variable {call : Call}

theorem not_taken_of_load {s : State} {existing : ConnId}
    (allowed : undisputed s (.call c .loadOrStore) = true) (found : s.calls.lookup c = some call)
    (waiting : s.pending.lookup call.uuid = some existing) : s.taken existing = false := by
  simpa [undisputed, State.loadable, found, waiting] using allowed

theorem not_taken_of_sweep {s : State} {key : String} {aim entry : ConnId}
    (allowed : undisputed s .sweepRemove = true) (visiting : s.sweeper = .toRemove key aim)
    (present : s.pending.lookup key = some entry) : s.taken aim = false := by
  simpa [undisputed, State.sweepable, visiting, present] using allowed

/-! ### The invariant -/

/-- A connection is inside a session or has left one. -/
def InSession (s : State) (c : ConnId) : Prop :=
  ∃ p call existing, s.calls.lookup p = some call ∧ call.existing = some existing ∧
    (call.stage = .relaying ∨ call.stage = .returned) ∧ (p = c ∨ existing = c)

/-- What the undisputed steps keep: an entry has one partner, a channel about to be closed is
open, and the log agrees with the calls. -/
structure Exclusive (s : State) : Prop where
  running : s.panicked = false
  unique : ∀ p q callP callQ c, s.calls.lookup p = some callP → s.calls.lookup q = some callQ →
    callP.existing = some c → callQ.existing = some c → p = q
  /-- The channel is open until the partner has closed it. -/
  unclosed : ∀ p call c entry, s.calls.lookup p = some call → call.existing = some c →
    call.stage = .toDelete ∨ call.stage = .toCloseDone → s.calls.lookup c = some entry →
    entry.done = false
  /-- An entry the sweeper is closing has no partner, its channel is open, and this Range has
  visited its key. -/
  spared : ∀ c, s.sweeper = .toCloseConn c ∨ s.sweeper = .toCloseDone c →
    s.taken c = false ∧ ∀ entry, s.calls.lookup c = some entry →
      entry.done = false ∧ entry.uuid ∈ s.visited
  /-- The entry the sweeper aims at is open unless a partner took it. -/
  aimedOpen : ∀ key c, s.sweeper = .toRemove key c → key ∈ s.visited ∧ (s.taken c = false →
    ∀ entry, s.calls.lookup c = some entry → entry.done = false)
  /-- So is every entry the Range may still report. -/
  seenOpen : s.sweeper ≠ .idle → ∀ key c, (key, c) ∈ s.seen → key ∉ s.visited →
    s.taken c = false → ∀ entry, s.calls.lookup c = some entry → entry.done = false
  closes : ∀ c, closesOf c s.log =
    if (s.calls.lookup c).any (·.done) then 1 else 0
  sessions : ∀ c, sessionsOf c s.log = 0 ∨ (sessionsOf c s.log = 1 ∧ InSession s c)

section exclusive

variable {s after : State} {label : Label}

/-- A partner never lets go of its entry. -/
theorem Effect.keeps_taken (effect : Effect s label after) (coherent : Coherent s)
    (taken : s.taken c = true) : after.taken c = true := by
  obtain ⟨p, before, stood, partner⟩ := State.taken_iff.mp taken
  obtain ⟨call, found, evolves⟩ := effect.call_evolves stood
  refine State.taken_iff.mpr ⟨p, call, found, ?_⟩
  cases evolves with
  | stays | goes => exact partner
  | loads existing own stage => cases (coherent.fresh p before stood stage).1.symm.trans partner

variable {p : ConnId}

/-- Nobody holds an entry that is not taken. -/
theorem State.existing_ne_of_untaken (untaken : s.taken c = false)
    (found : s.calls.lookup p = some call) : call.existing ≠ some c := by
  intro partner
  rw [State.taken_iff.mpr ⟨p, call, found, partner⟩] at untaken
  cases untaken

/-- A partner held its entry before the step, or loads it in the step. -/
theorem Effect.partner_cases (effect : Effect s label after)
    (found : after.calls.lookup p = some call) (partner : call.existing = some c) :
    (∃ before, s.calls.lookup p = some before ∧ before.existing = some c ∧
      Evolves s label after p before call) ∨
      label = .call p .loadOrStore ∧ ∃ before, s.calls.lookup p = some before ∧
        s.pending.lookup before.uuid = some c := by
  rcases effect.call_cases found with ⟨_, alone, _⟩ | ⟨before, stood, evolves⟩
  · cases alone.symm.trans partner
  have same := evolves
  cases evolves with
  | stays | goes => exact .inl ⟨before, stood, partner, same⟩
  | loads existing own stage waiting =>
    cases partner
    exact .inr ⟨own, before, stood, waiting⟩

/-- An entry finds a partner only in a LoadOrStore that loads it. -/
theorem Effect.untaken (effect : Effect s label after) (untaken : s.taken c = false)
    (unloaded : ∀ p, label = .call p .loadOrStore → s.loadable p ≠ some c) :
    after.taken c = false := by
  by_contra taken
  obtain ⟨p, call, found, partner⟩ := State.taken_iff.mp (by simpa using taken)
  rcases effect.partner_cases found partner with ⟨before, stood, held, _⟩ |
    ⟨own, before, stood, waiting⟩
  · exact State.existing_ne_of_untaken untaken stood held
  · exact unloaded p own (by rw [State.loadable, stood, Option.bind_some, waiting])

/-- An entry that is out of the map is loaded by nobody. -/
theorem Coherent.not_loadable (coherent : Coherent s) {uuid : String}
    (stored : Stored s c uuid) (gone : s.pending.lookup uuid ≠ some c) (p : ConnId) :
    s.loadable p ≠ some c := by
  intro loadable
  obtain ⟨call, found, waiting⟩ := Option.bind_eq_some_iff.mp loadable
  obtain ⟨entry, entryFound, sameUuid, _⟩ := coherent.mapped call.uuid c waiting
  obtain ⟨storedEntry, storedFound, storedUuid, _⟩ := stored
  rw [Option.some.inj (entryFound.symm.trans storedFound), storedUuid] at sameUuid
  exact gone (sameUuid ▸ waiting)

theorem Effect.keeps_unique (effect : Effect s label after)
    (allowed : undisputed s label = true) (exclusive : Exclusive s) :
    ∀ p q callP callQ c, after.calls.lookup p = some callP → after.calls.lookup q = some callQ →
      callP.existing = some c → callQ.existing = some c → p = q := by
  intro p q callP callQ c foundP foundQ partnerP partnerQ
  -- nobody held an entry before the step that loads it
  have unheld : ∀ r call, label = .call r .loadOrStore → s.calls.lookup r = some call →
      s.pending.lookup call.uuid = some c → s.taken c = false := by
    rintro r call rfl found waiting
    exact not_taken_of_load allowed found waiting
  rcases effect.partner_cases foundP partnerP with ⟨beforeP, stoodP, heldP, _⟩ |
      ⟨ownP, beforeP, stoodP, waitingP⟩ <;>
    rcases effect.partner_cases foundQ partnerQ with ⟨beforeQ, stoodQ, heldQ, _⟩ |
      ⟨ownQ, beforeQ, stoodQ, waitingQ⟩
  · exact exclusive.unique p q beforeP beforeQ c stoodP stoodQ heldP heldQ
  · have untaken := unheld q beforeQ ownQ stoodQ waitingQ
    exact absurd heldP (State.existing_ne_of_untaken untaken stoodP)
  · have untaken := unheld p beforeP ownP stoodP waitingP
    exact absurd heldQ (State.existing_ne_of_untaken untaken stoodQ)
  · cases ownP.symm.trans ownQ
    rfl

/-- A channel that was open is open after the step, unless the step closes it. -/
theorem Effect.stays_open (effect : Effect s label after) {entry : Call}
    (found : after.calls.lookup c = some entry)
    (opened : ∀ before, s.calls.lookup c = some before → before.done = false)
    (unclosed : ¬ Closing s label c) : entry.done = false := by
  rcases effect.call_cases found with ⟨_, _, arrived, _⟩ | ⟨before, stood, evolves⟩
  · exact arrived
  cases evolves with
  | stays done closed | goes stage done follows closed =>
    exact (closed.resolve_right unclosed).trans (opened before stood)
  | loads => exact opened before stood

/-- The partner that closes a channel goes on to its session. -/
theorem Effect.stage_of_closeDone (effect : Effect s (.call p .closeDone) after)
    (found : after.calls.lookup p = some call) : call.stage = .toStart := by
  cases effect with
  | closeDone _ existing caller callerFound stage partner =>
    obtain ⟨earlier, earlierFound, _, _, _, sameStage, _⟩ := State.lookup_of_closeDone found
    rw [State.lookup_setCall, if_pos rfl] at earlierFound
    cases earlierFound
    exact sameStage

section

variable (effect : Effect s label after)

include effect

theorem Effect.keeps_unclosed (coherent : Coherent s) (exclusive : Exclusive s) :
    ∀ p call c entry, after.calls.lookup p = some call → call.existing = some c →
      call.stage = .toDelete ∨ call.stage = .toCloseDone → after.calls.lookup c = some entry →
      entry.done = false := by
  intro p call c entry found partner stage entryFound
  rcases effect.partner_cases found partner with ⟨before, stood, held, evolves⟩ |
    ⟨rfl, before, stood, waiting⟩
  · have stageBefore : before.stage = .toDelete ∨ before.stage = .toCloseDone := by
      cases evolves with
      | stays => exact stage
      | loads existing own fresh =>
        cases (coherent.fresh p before stood fresh).1.symm.trans held
      | goes next done follows =>
        rcases stage with again | closes
        · exact absurd again follows.ne_toDelete
        · cases closes
          cases follows with
          | delete deletes => exact .inl deletes
    refine effect.stays_open entryFound (fun waiting waitingFound =>
      exclusive.unclosed p before c waiting stood held stageBefore waitingFound) ?_
    rintro (⟨q, other, rfl, otherFound, _, otherHeld⟩ | ⟨rfl, closing⟩)
    · -- the only partner is still before its close
      cases exclusive.unique q p other before c otherFound stood otherHeld held
      rw [effect.stage_of_closeDone found] at stage
      rcases stage with deletes | closes
      · cases deletes
      · cases closes
    · exact State.existing_ne_of_untaken (exclusive.spared c (.inr closing)).1 stood held
  · -- the entry just loaded was mapped, so its channel was open
    obtain ⟨mapped, mappedFound, _, _, opened, _⟩ := coherent.mapped _ _ waiting
    refine effect.stays_open entryFound (fun earlier earlierFound => ?_) ?_
    · rw [Option.some.inj (earlierFound.symm.trans mappedFound), opened]
    · rintro (⟨_, _, other, _⟩ | ⟨other, _⟩)
      · cases other
      · cases other

/-- While no partner holds an entry, only the sweeper closes its channel. -/
theorem Effect.keeps_open (spared : label = .sweepCloseDone → s.sweeper ≠ .toCloseDone c)
    (opened : s.taken c = false → ∀ entry, s.calls.lookup c = some entry → entry.done = false)
    (untaken : after.taken c = false) (coherent : Coherent s) :
    ∀ entry, after.calls.lookup c = some entry → entry.done = false := by
  intro entry found
  have untakenBefore : s.taken c = false := by
    by_contra taken
    rw [effect.keeps_taken coherent (by simpa using taken)] at untaken
    cases untaken
  refine effect.stays_open found (opened untakenBefore) ?_
  rintro (⟨p, partner, _, partnerFound, _, held⟩ | ⟨sweeps, closing⟩)
  · exact State.existing_ne_of_untaken untakenBefore partnerFound held
  · exact spared sweeps closing

/-- A Range that goes on forgets no key that it has visited. -/
theorem Effect.keeps_visited (awake : s.sweeper ≠ .idle)
    {key : String} (visited : key ∈ s.visited) : key ∈ after.visited := by
  cases effect with
  | sweepStart idle => exact absurd idle awake
  | sweepStale | sweepSkip => exact List.mem_cons_of_mem _ visited
  | _ => simpa using visited

theorem Effect.keeps_aimedOpen (coherent : Coherent s) (exclusive : Exclusive s) :
    ∀ key c, after.sweeper = .toRemove key c → key ∈ after.visited ∧ (after.taken c = false →
      ∀ entry, after.calls.lookup c = some entry → entry.done = false) := by
  intro key c aim
  by_cases earlier : s.sweeper = .toRemove key c
  · obtain ⟨visited, opened⟩ := exclusive.aimedOpen key c earlier
    refine ⟨?_, fun untaken => ?_⟩
    · exact effect.keeps_visited (by simp [earlier]) visited
    · exact effect.keeps_open (by simp [earlier]) opened untaken coherent
  · -- the step is the visit of a stale entry
    cases effect with
    | sweepStale seenKey entry _ ranging seen fresh _ =>
      have same : seenKey = key ∧ entry = c := by simpa using aim
      rw [same.1, same.2] at seen
      rw [same.1] at fresh
      exact ⟨by simp [same.1],
        exclusive.seenOpen (by simp [ranging]) key c seen fresh⟩
    | _ =>
      simp only [State.setCall_sweeper, State.emit_sweeper, State.removePending_sweeper,
        State.storePending_sweeper, State.closeDone_sweeper] at aim
      grind

theorem Effect.keeps_seenOpen (coherent : Coherent s) (exclusive : Exclusive s) :
    after.sweeper ≠ .idle → ∀ key c, (key, c) ∈ after.seen → key ∉ after.visited →
      after.taken c = false → ∀ entry, after.calls.lookup c = some entry → entry.done = false := by
  intro awake key c member unvisited untaken
  by_cases earlier : s.sweeper ≠ .idle ∧ (key, c) ∈ s.seen ∧ key ∉ s.visited
  · obtain ⟨awakeBefore, seen, fresh⟩ := earlier
    have stored := coherent.seen key c seen
    refine effect.keeps_open ?_
      (exclusive.seenOpen awakeBefore key c seen fresh) untaken coherent
    -- the sweeper closes only an entry whose key it has visited
    intro _ closing
    obtain ⟨call, found, sameUuid, _, _⟩ := stored
    have visited := ((exclusive.spared c (Or.inr closing)).2 call found).2
    exact fresh (sameUuid ▸ visited)
  · -- the entry has just been stored, or the Range has just started
    intro entry found
    cases effect with
    | store newer call callFound stage vacant =>
      simp only [State.setCall_sweeper, State.storePending_sweeper, State.setCall_seen,
        State.storePending_seen, State.setCall_visited, State.storePending_visited,
        State.lookup_setCall, State.storePending_calls, List.mem_cons]
        at awake member unvisited found
      have opened := coherent.fresh newer call callFound stage
      grind
    | sweepStart idle =>
      obtain ⟨call, callFound, _, _, opened, _⟩ :=
        coherent.mapped key c (State.mem_mappings.mp member)
      rw [Option.some.inj (found.symm.trans callFound)]
      exact opened
    | _ =>
      simp only [State.setCall_sweeper, State.emit_sweeper, State.removePending_sweeper,
        State.closeDone_sweeper, State.setCall_seen, State.emit_seen, State.removePending_seen,
        State.closeDone_seen, State.setCall_visited, State.emit_visited,
        State.removePending_visited, State.closeDone_visited] at awake member unvisited
      grind

theorem Effect.keeps_spared (coherent : Coherent s)
    (allowed : undisputed s label = true) (exclusive : Exclusive s) :
    ∀ c, after.sweeper = .toCloseConn c ∨ after.sweeper = .toCloseDone c →
      after.taken c = false ∧ ∀ entry, after.calls.lookup c = some entry →
        entry.done = false ∧ entry.uuid ∈ after.visited := by
  intro c closing
  by_cases earlier : s.sweeper = .toCloseConn c ∨ s.sweeper = .toCloseDone c
  · obtain ⟨untaken, fields⟩ := exclusive.spared c earlier
    obtain ⟨uuid, stored, gone⟩ := coherent.swept c earlier
    have untakenAfter : after.taken c = false :=
      effect.untaken untaken fun p _ => coherent.not_loadable stored gone p
    refine ⟨untakenAfter, fun entry found => ⟨?_, ?_⟩⟩
    · refine effect.keeps_open ?_ (fun _ entry found => (fields entry found).1)
        untakenAfter coherent entry found
      -- after the close of the channel the sweeper is back in its Range
      rintro rfl
      cases effect
      simp at closing
    · obtain ⟨call, callFound, _⟩ := stored
      obtain ⟨later, laterFound, evolves⟩ := effect.call_evolves callFound
      rw [Option.some.inj (found.symm.trans laterFound), evolves.uuid]
      have awake : s.sweeper ≠ .idle := by rcases earlier with aims | aims <;> simp [aims]
      exact effect.keeps_visited awake (fields call callFound).2
  · -- the step is the LoadAndDelete that found something
    cases effect with
    | sweepHit key aim entry visiting present =>
      have same : aim = c := by simpa using closing
      subst same
      have untaken := not_taken_of_sweep allowed visiting present
      obtain ⟨visited, opened⟩ := exclusive.aimedOpen key aim visiting
      obtain ⟨call, callFound, sameUuid, _, _⟩ := coherent.aimed key aim visiting
      refine ⟨by simpa [State.taken] using untaken, fun other otherFound => ?_⟩
      simp only [State.removePending_calls] at otherFound
      rw [Option.some.inj (otherFound.symm.trans callFound), sameUuid]
      exact ⟨opened untaken call callFound, by simpa using visited⟩
    | _ =>
      simp only [State.setCall_sweeper, State.emit_sweeper, State.removePending_sweeper,
        State.storePending_sweeper, State.closeDone_sweeper] at closing
      grind

theorem Effect.keeps_running (coherent : Coherent s)
    (exclusive : Exclusive s) : after.panicked = false := by
  have running := exclusive.running
  cases effect with
  | closeDone p existing call found stage partner =>
    obtain ⟨_, entry, entryFound, _, alone, _⟩ := coherent.partner p call existing found partner
    have opened := exclusive.unclosed p call existing entry found partner (Or.inr stage) entryFound
    have different : existing ≠ p := by
      rintro rfl
      rw [Option.some.inj (entryFound.symm.trans found), partner] at alone
      cases alone
    rw [State.closeDone_panicked (by simp [different, entryFound]) opened]
    exact running
  | sweepCloseDone aim closing =>
    obtain ⟨uuid, ⟨entry, entryFound, _⟩, _⟩ := coherent.swept aim (Or.inr closing)
    have opened := ((exclusive.spared aim (Or.inr closing)).2 entry entryFound).1
    simpa [State.closeDone_panicked entryFound opened] using running
  | _ => simpa using running

theorem Effect.keeps_closes (coherent : Coherent s) (exclusive : Exclusive s) (c : ConnId) :
    closesOf c after.log = if (after.calls.lookup c).any (·.done) then 1 else 0 := by
  have before := exclusive.closes c
  cases effect with
  | closeDone p existing call found stage partner =>
    obtain ⟨_, entry, entryFound, _, alone, _⟩ := coherent.partner p call existing found partner
    have opened := exclusive.unclosed p call existing entry found partner (Or.inr stage) entryFound
    have different : existing ≠ p := by
      rintro rfl
      rw [Option.some.inj (entryFound.symm.trans found), partner] at alone
      cases alone
    have present : (s.setCall p { call with stage := .toStart }).calls.lookup existing =
        some entry := by simp [different, entryFound]
    rw [State.closeDone_log present, closesOf_cons, State.setCall_log, before,
      State.lookup_closeDone, State.lookup_setCall, State.lookup_setCall]
    grind
  | sweepCloseDone aim closing =>
    obtain ⟨uuid, ⟨entry, entryFound, _⟩, _⟩ := coherent.swept aim (Or.inr closing)
    have opened := ((exclusive.spared aim (Or.inr closing)).2 entry entryFound).1
    simp only [State.closeDone_log entryFound, closesOf_cons, before, State.lookup_closeDone]
    grind
  | _ =>
    simp only [State.setCall_log, State.emit_log, State.storePending_log, closesOf_removePending,
      closesOf_cons, State.lookup_setCall, State.emit_calls, State.storePending_calls,
      State.removePending_calls, before] <;> grind

/-- A connection that entered a session stays one that did. -/
theorem Effect.keeps_inSession (inside : InSession s c) : InSession after c := by
  obtain ⟨p, call, existing, found, partner, stage, member⟩ := inside
  obtain ⟨later, laterFound, evolves⟩ := effect.call_evolves found
  refine ⟨p, later, existing, laterFound, ?_⟩
  cases evolves with
  | stays => exact ⟨partner, stage, member⟩
  | loads _ _ fresh =>
    rw [fresh] at stage
    rcases stage with bad | bad <;> cases bad
  | goes next done follows =>
    refine ⟨partner, .inr ?_, member⟩
    cases follows <;> simp_all

end

/-- Neither side of a pair that is about to start has entered a session before. -/
theorem Exclusive.not_inSession (exclusive : Exclusive s) (coherent : Coherent s)
    {existing : ConnId} (found : s.calls.lookup p = some call)
    (stage : call.stage = .toStart) (partner : call.existing = some existing)
    (member : existing = c ∨ p = c) : ¬ InSession s c := by
  rintro ⟨q, other, entry, otherFound, otherPartner, otherStage, otherMember⟩
  obtain ⟨_, waiting, waitingFound, _, alone, _⟩ := coherent.partner p call existing found partner
  obtain ⟨_, second, secondFound, _, secondAlone, _⟩ :=
    coherent.partner q other entry otherFound otherPartner
  have notSelf : q ≠ p := by
    rintro rfl
    rw [Option.some.inj (otherFound.symm.trans found), stage] at otherStage
    rcases otherStage with bad | bad <;> cases bad
  have unique := exclusive.unique p q call other
  -- an entry is never itself a partner, and it has only one
  rcases member with rfl | rfl <;> rcases otherMember with rfl | rfl <;> grind

theorem Effect.keeps_sessions (effect : Effect s label after) (coherent : Coherent s)
    (exclusive : Exclusive s) (c : ConnId) :
    sessionsOf c after.log = 0 ∨ (sessionsOf c after.log = 1 ∧ InSession after c) := by
  have before := (exclusive.sessions c).imp_right fun inside =>
    And.intro inside.1 (effect.keeps_inSession inside.2)
  cases effect with
  | session p existing call waiting found stage partner entry same =>
    by_cases member : existing = c ∨ p = c
    · have outside := exclusive.not_inSession coherent found stage partner member
      have none : sessionsOf c s.log = 0 :=
        (exclusive.sessions c).resolve_right fun inside => outside inside.2
      refine Or.inr ⟨?_, p, { call with stage := .relaying }, existing, by simp, partner,
        Or.inl rfl, member.symm⟩
      have hands : (Event.sessionStarted existing p call.transport call.uuid).hands c = true := by
        simpa [Event.hands] using member
      rw [State.emit_log, State.setCall_log, sessionsOf_cons, none, if_pos hands]
    · have unrelated :
          (Event.sessionStarted existing p call.transport call.uuid).hands c = false := by
        simpa [Event.hands] using member
      rw [State.emit_log, State.setCall_log, sessionsOf_cons, unrelated]
      exact before
  | _ => simpa [sessionsOf_cons, Event.hands] using before

theorem Effect.keeps_exclusive (effect : Effect s label after) (coherent : Coherent s)
    (allowed : undisputed s label = true) (exclusive : Exclusive s) : Exclusive after where
  running := effect.keeps_running coherent exclusive
  unique := effect.keeps_unique allowed exclusive
  unclosed := effect.keeps_unclosed coherent exclusive
  spared := effect.keeps_spared coherent allowed exclusive
  aimedOpen := effect.keeps_aimedOpen coherent exclusive
  seenOpen := effect.keeps_seenOpen coherent exclusive
  closes := effect.keeps_closes coherent exclusive
  sessions := effect.keeps_sessions coherent exclusive

end exclusive

theorem initial_exclusive (now : Nat) : Exclusive (initial now) where
  running := rfl
  unique _ _ _ _ _ found := nomatch found
  unclosed _ _ _ _ found := nomatch found
  spared _ closing := by rcases closing with closing | closing <;> cases closing
  aimedOpen _ _ visiting := nomatch visiting
  seenOpen awake := absurd rfl awake
  closes _ := rfl
  sessions _ := Or.inl rfl

/-! ### The runs that pair one to one -/

/-- In every run whose steps take no entry that a partner already holds, no channel is closed twice
and no connection is handed to two sessions. -/
theorem oneToOne_of_undisputed (s : State)
    (reached : ReachableWhen pairing (fun before label => undisputed before label = true) s) :
    OneToOne s := by
  have exclusive : Exclusive s ∧ Coherent s := by
    refine reached.invariant (fun state => Exclusive state ∧ Coherent state) ?_ ?_
    · rintro _ ⟨now, rfl⟩
      exact ⟨initial_exclusive now, initial_coherent now⟩
    · rintro before label after ⟨exclusive, coherent⟩ allowed taken
      have effect := (step_effect taken).2
      exact ⟨effect.keeps_exclusive coherent allowed exclusive, effect.keeps_coherent coherent⟩
  refine ⟨exclusive.1.running, fun c => ⟨?_, ?_⟩⟩
  · rw [exclusive.1.closes c]
    split <;> decide
  · rcases exclusive.1.sessions c with none | one
    · rw [none]
      exact Nat.zero_le 1
    · exact Nat.le_of_eq one.1

/-- Two connections meet under one UUID while a third gives up under another. -/
def pairAndExpire : List Label :=
  [.arrive 0 "session" .ws, .arrive 1 "session" .ws, .arrive 2 "lonely" .tcp,
    .call 0 .loadOrStore, .call 2 .loadOrStore, .call 1 .loadOrStore, .call 1 .delete,
    .call 0 .enterSelect, .call 1 .closeDone, .call 1 .startRelay, .call 0 .recvDone,
    .call 2 .enterSelect, .advance relayPairTimeout, .call 2 .timeout, .call 2 .compare,
    .call 2 .expireDelete, .call 2 .expireClose, .call 1 .endRelay]

theorem pairAndExpire_oneToOne : ∃ s, sessionsOf 0 s.log = 1 ∧ OneToOne s := by
  have ends : (pairing.runWhen (fun before label => undisputed before label = true) (initial 0)
      pairAndExpire).any (fun s => sessionsOf 0 s.log == 1) = true := by decide
  obtain ⟨s, reached, started⟩ := exists_reachableWhen_of_runWhen (pairing_start 0) ends
  exact ⟨s, beq_iff_eq.mp started, oneToOne_of_undisputed s reached⟩

end SovaDesk.Relay
