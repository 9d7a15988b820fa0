/-
This file settles whether the rendezvous machinery leaves established sessions alone.

A call that gives up loads its entry, compares it with its own and deletes the key in
separate operations, and the sweeper deletes the key of the entry it saw and then
closes that entry, whichever entry the key held by then. A partner that arrives
between two of these operations starts a session on a connection that is about to be
closed, and a newer connection that stores itself there is removed in place of the
older one. The runs in which an entry has one claimant at a time are free of both: no
partner takes an entry that is giving up, no call gives up an entry that a partner has
loaded, and a sweep removes the entry it saw, when nobody else has claimed it.
-/

import SovaDesk.Relay.OneToOne

namespace SovaDesk.Relay

open Transition

/-! ### The property -/

/-- The closes of the rendezvous machinery: the give-up branches and the sweeper. -/
def Closer.rendezvous : Closer → Bool
  | .expiry _ | .sweep => true
  | .mismatch | .session => false

/-- A later event closes, from the rendezvous machinery, a connection that an earlier event handed
to a session. -/
def Event.cuts (later earlier : Event) : Bool :=
  match later with
  | .connClosed c closer => closer.rendezvous && earlier.hands c
  | _ => false

/-- A give-up branch or a sweep that removed an entry removed the one it was aimed at. -/
def Event.removesOwn : Event → Bool
  | .removed _ entry (.expiry pc) => entry == pc
  | .removed _ entry (.sweep aim) => entry == aim
  | _ => true

/-- No established session was cut, and no entry was removed in place of an older one. The log has
its newest event first. -/
def NeverCut (s : State) : Prop :=
  (s.log.Pairwise fun later earlier => later.cuts earlier = false) ∧
    ∀ event ∈ s.log, event.removesOwn = true

instance (s : State) : Decidable (NeverCut s) :=
  inferInstanceAs (Decidable (_ ∧ ∀ event ∈ s.log, event.removesOwn = true))

variable {s : State}

theorem neverCut_emit {event : Event} (neverCut : NeverCut s)
    (gentle : ∀ earlier ∈ s.log, event.cuts earlier = false) (own : event.removesOwn = true) :
    NeverCut (s.emit event) :=
  ⟨List.pairwise_cons.mpr ⟨gentle, neverCut.1⟩, List.forall_mem_cons.mpr ⟨own, neverCut.2⟩⟩

theorem neverCut_removePending {key : String} {remover : Remover} (neverCut : NeverCut s)
    (own : ∀ entry, s.pending.lookup key = some entry →
      (Event.removed key entry remover).removesOwn = true) :
    NeverCut (s.removePending key remover) := by
  unfold State.removePending
  split
  · next entry present => exact neverCut_emit neverCut (fun _ _ => rfl) (own entry present)
  · exact neverCut

variable {c : ConnId}

theorem neverCut_closeDone (neverCut : NeverCut s) :
    NeverCut (s.closeDone c) := by
  unfold State.closeDone
  split
  · split <;> exact neverCut_emit neverCut (fun _ _ => rfl) rfl
  · exact neverCut

/-- A partner takes the entry of connection 0 after its timer's comparison: the session starts, and
the give-up branch closes it. -/
def partnerInTheGap : List Label :=
  [.arrive 0 "session" .tcp, .call 0 .loadOrStore, .call 0 .enterSelect, .advance relayPairTimeout,
    .call 0 .timeout, .call 0 .compare, .arrive 1 "session" .tcp, .call 1 .loadOrStore,
    .call 1 .delete, .call 1 .closeDone, .call 1 .startRelay, .call 0 .expireDelete,
    .call 0 .expireClose]

/-- The sweeper sees connection 0, which gives up by itself; connection 1 stores itself under the
same UUID and is removed in its place. -/
def sweepOfAnOlderEntry : List Label :=
  [.arrive 0 "session" .tcp, .call 0 .loadOrStore, .call 0 .enterSelect,
    .advance (relayPairTimeout + 1), .sweepStart, .sweepVisit "session" 0, .call 0 .timeout,
    .call 0 .compare, .call 0 .expireDelete, .call 0 .expireClose, .arrive 1 "session" .tcp,
    .call 1 .loadOrStore, .sweepRemove]

theorem rendezvous_cuts_sessions :
    ¬ ∀ s, Reachable pairing s → NeverCut s := by
  intro always
  have ends : (pairing.run (initial 0) partnerInTheGap).any (fun s => !decide (NeverCut s)) =
      true := by decide
  obtain ⟨final, reached, cut⟩ := exists_reachable_of_run (pairing_start 0) ends
  have kept := decide_eq_true (always final reached)
  rw [kept] at cut
  cases cut

example : (pairing.run (initial 0) sweepOfAnOlderEntry).any (fun s => !decide (NeverCut s)) =
    true := by decide

/-! ### The condition -/

/-- Whether a call stands between the comparison of its give-up branch and its Delete. -/
def State.givingUp (s : State) (c : ConnId) : Bool :=
  (s.calls.lookup c).any fun call =>
    match call.stage with
    | .toExpireDelete _ => true
    | _ => false

/-- Whether a partner that passes a test has loaded this entry and not yet deleted it. -/
def State.joinedBy (s : State) (c : ConnId) (test : Call → Bool) : Bool :=
  s.calls.entries.any fun entry =>
    entry.2.existing == some c && entry.2.stage == .toDelete && test entry.2

/-- Whether a partner of the entry's own transport has loaded it and not yet deleted it. -/
def State.joinedAlike (s : State) (c : ConnId) : Bool :=
  (s.calls.lookup c).any fun entry => s.joinedBy c fun call => call.transport == entry.transport

/-- A step claims no entry that another party has claimed: a partner neither loads nor deletes an
entry that is giving up, a call gives up only an entry that no partner has loaded, and a sweep that
removes an entry removes the one it saw, which is neither giving up nor loaded by a partner that
will start a session with it. -/
def unclaimed (s : State) : Label → Bool
  | .call c .loadOrStore => (s.loadable c).all fun entry => !s.givingUp entry
  | .call c .delete => (s.loadable c).all fun entry => !s.givingUp entry
  | .call c .compare => s.loadable c != some c || !s.joinedBy c fun _ => true
  | .sweepRemove =>
    match s.sweeper with
    | .toRemove key aim =>
      (s.pending.lookup key).all fun entry =>
        entry == aim && !s.givingUp entry && !s.joinedAlike entry
    | _ => true
  | _ => true

variable {call : Call}

theorem State.givingUp_of_stage {cause : Expiry}
    (found : s.calls.lookup c = some call) (stage : call.stage = .toExpireDelete cause) :
    s.givingUp c = true := by
  simp [State.givingUp, found, stage]

theorem State.joinedBy_iff {test : Call → Bool} :
    s.joinedBy c test = true ↔ ∃ p call, s.calls.lookup p = some call ∧
      call.existing = some c ∧ call.stage = .toDelete ∧ test call = true := by
  simp only [State.joinedBy, List.any_eq_true, Bool.and_eq_true, beq_iff_eq]
  constructor
  · rintro ⟨⟨p, call⟩, member, ⟨partner, stage⟩, passed⟩
    exact ⟨p, call, Table.mem_entries_iff.mp member, partner, stage, passed⟩
  · rintro ⟨p, call, found, partner, stage, passed⟩
    exact ⟨⟨p, call⟩, Table.mem_entries_iff.mpr found, ⟨partner, stage⟩, passed⟩

/-! ### The invariant -/

/-- A connection was handed to a session: it is the partner of an entry of its own transport and
has passed its Delete, or it is such an entry. -/
def Handed (s : State) (c : ConnId) : Prop :=
  ∃ p call existing entry, s.calls.lookup p = some call ∧ call.existing = some existing ∧
    s.calls.lookup existing = some entry ∧ entry.transport = call.transport ∧
    call.stage ≠ .toDelete ∧ (p = c ∨ existing = c)

/-- What the steps with one claimant keep. -/
structure Claims (s : State) : Prop where
  /-- The entry of a call that is about to delete it is still its own. -/
  own : ∀ c call cause, s.calls.lookup c = some call → call.stage = .toExpireDelete cause →
    s.pending.lookup call.uuid = some c
  /-- A call that gives up has no partner. -/
  alone : ∀ c call cause, s.calls.lookup c = some call →
    call.stage = .toExpireDelete cause ∨ call.stage = .toExpireClose cause → s.taken c = false
  /-- An entry the sweeper is closing has no partner that would start a session with it. -/
  spared : ∀ c, s.sweeper = .toCloseConn c → ∀ p call entry, s.calls.lookup p = some call →
    call.existing = some c → s.calls.lookup c = some entry → entry.transport ≠ call.transport
  handed : ∀ event ∈ s.log, ∀ c, event.hands c = true → Handed s c
  neverCut : NeverCut s

section claims

variable {s after : State} {label : Label}

theorem Effect.keeps_handed (effect : Effect s label after) (coherent : Coherent s)
    (handed : Handed s c) : Handed after c := by
  obtain ⟨p, call, existing, entry, found, partner, entryFound, same, passed, member⟩ := handed
  obtain ⟨later, laterFound, evolves⟩ := effect.call_evolves found
  obtain ⟨laterEntry, laterEntryFound, entryEvolves⟩ := effect.call_evolves entryFound
  have alike : laterEntry.transport = later.transport := by
    rw [entryEvolves.transport, evolves.transport, same]
  have moved : later.existing = some existing ∧ later.stage ≠ .toDelete := by
    cases evolves with
    | stays => exact ⟨partner, passed⟩
    | loads _ _ fresh => cases (coherent.fresh p call found fresh).1.symm.trans partner
    | goes next done follows => exact ⟨partner, follows.ne_toDelete⟩
  exact ⟨p, later, existing, laterEntry, laterFound, moved.1, laterEntryFound, alike, moved.2,
    member⟩

/-- An entry leaves the map by the Delete of a partner, that of a call that gave up, or a sweep. -/
theorem Effect.mapped_cases (effect : Effect s label after) {key : String}
    (mapped : s.pending.lookup key = some c) :
    after.pending.lookup key = some c ∨
      (∃ p caller, label = .call p .delete ∧ s.calls.lookup p = some caller ∧
        caller.uuid = key) ∨
      (∃ p caller cause, label = .call p .expireDelete ∧ s.calls.lookup p = some caller ∧
        caller.stage = .toExpireDelete cause ∧ caller.uuid = key) ∨
      ∃ aim, label = .sweepRemove ∧ s.sweeper = .toRemove key aim := by
  cases effect with
  | store newer call found stage vacant =>
    refine .inl ?_
    rw [State.setCall_pending, State.lookup_storePending, if_neg]
    · exact mapped
    · intro same
      cases (same ▸ vacant).symm.trans mapped
  | delete p caller found stage =>
    by_cases same : key = caller.uuid
    · exact .inr (.inl ⟨p, caller, rfl, found, same.symm⟩)
    · exact .inl (by simp [same, mapped])
  | expireDelete p caller cause found stage =>
    by_cases same : key = caller.uuid
    · exact .inr (.inr (.inl ⟨p, caller, cause, rfl, found, stage, same.symm⟩))
    · exact .inl (by simp [same, mapped])
  | sweepHit aimed aim entry visiting present =>
    by_cases same : key = aimed
    · exact .inr (.inr (.inr ⟨aim, rfl, same ▸ visiting⟩))
    · exact .inl (by simp [same, mapped])
  | _ => exact .inl (by simpa using mapped)

theorem Effect.keeps_own (effect : Effect s label after)
    (allowed : unclaimed s label = true) (claims : Claims s) :
    ∀ c call cause, after.calls.lookup c = some call → call.stage = .toExpireDelete cause →
      after.pending.lookup call.uuid = some c := by
  intro c call cause found stage
  rcases effect.call_cases found with ⟨_, _, _, arrived⟩ | ⟨before, stood, evolves⟩
  · cases arrived.symm.trans stage
  rw [evolves.uuid]
  cases evolves with
  | loads => cases stage
  | goes next done follows =>
    cases stage
    cases follows with
    | compareOwn _ _ compares own =>
      rcases effect.mapped_cases own with kept | ⟨_, _, other, _⟩ | ⟨_, _, _, other, _⟩ |
        ⟨_, other, _⟩
      · exact kept
      all_goals cases compares.symm.trans other
  | stays =>
    have giving : s.givingUp c = true := State.givingUp_of_stage stood stage
    have mine := claims.own c before cause stood stage
    rcases effect.mapped_cases mine with kept | ⟨p, caller, rfl, callerFound, sameUuid⟩ |
      ⟨p, caller, _, rfl, callerFound, callerStage, sameUuid⟩ | ⟨aim, rfl, aims⟩
    · exact kept
    · -- the partner's Delete does not hit an entry that is giving up
      rw [← sameUuid] at mine
      have quiet : s.givingUp c = false := by
        simpa [unclaimed, State.loadable, callerFound, mine] using allowed
      cases giving.symm.trans quiet
    · -- the other call that gives up has an entry of its own
      have theirs := claims.own p caller _ callerFound callerStage
      rw [sameUuid, mine] at theirs
      cases theirs
      cases effect with
      | expireDelete _ again _ againFound =>
        rw [State.lookup_setCall, if_pos rfl] at found
        have moved := congrArg Call.stage (Option.some.inj found)
        cases moved.trans stage
    · have quiet : s.givingUp c = false := by
        simp only [unclaimed, aims, mine, Option.all_some, Bool.and_eq_true] at allowed
        simpa using allowed.1.2
      cases giving.symm.trans quiet

/-- A call that finds its own entry in the map, and that no partner has just loaded, has no
partner: an earlier one would have deleted the entry. -/
theorem untaken_of_own (coherent : Coherent s)
    (allowed : unclaimed s (.call c .compare) = true) (found : s.calls.lookup c = some call)
    (own : s.pending.lookup call.uuid = some c) : s.taken c = false := by
  by_contra taken
  obtain ⟨p, partner, partnerFound, entry⟩ := State.taken_iff.mp (by simpa using taken)
  by_cases stage : partner.stage = .toDelete
  · have joined : s.joinedBy c (fun _ => true) = true :=
      State.joinedBy_iff.mpr ⟨p, partner, partnerFound, entry, stage, rfl⟩
    simp [unclaimed, State.loadable, found, own, joined] at allowed
  · obtain ⟨_, stored, storedFound, sameUuid, _⟩ := coherent.partner p partner c partnerFound entry
    have gone := coherent.served p partner c partnerFound entry stage
    rw [← sameUuid, Option.some.inj (storedFound.symm.trans found)] at gone
    exact gone own

theorem Effect.keeps_gaveUpAlone (effect : Effect s label after) (coherent : Coherent s)
    (allowed : unclaimed s label = true) (claims : Claims s) :
    ∀ c call cause, after.calls.lookup c = some call →
      call.stage = .toExpireDelete cause ∨ call.stage = .toExpireClose cause →
      after.taken c = false := by
  intro c call cause found stage
  rcases effect.call_cases found with ⟨_, _, _, arrived⟩ | ⟨before, stood, evolves⟩
  · rw [arrived] at stage
    rcases stage with bad | bad <;> cases bad
  -- a call that was giving up before
  have stillAlone : before.stage = .toExpireDelete cause ∨ before.stage = .toExpireClose cause →
      after.taken c = false := by
    intro stageBefore
    refine effect.untaken (claims.alone c before cause stood stageBefore) ?_
    rintro p rfl loadable
    rcases stageBefore with giving | gone
    · -- the condition keeps a partner off an entry that is giving up
      have quiet : s.givingUp c = false := by simpa [unclaimed, loadable] using allowed
      rw [State.givingUp_of_stage stood giving] at quiet
      cases quiet
    · exact coherent.not_loadable (coherent.gaveUp_stored stood gone)
        (coherent.gaveUp c before cause stood gone) p loadable
  cases evolves with
  | stays => exact stillAlone stage
  | loads => rcases stage with bad | bad <;> cases bad
  | goes next done follows =>
    rcases stage with compared | deleted
    · cases compared
      cases follows with
      | compareOwn _ _ compares own =>
        subst compares
        refine effect.untaken (untaken_of_own coherent allowed stood own) ?_
        intro p other
        cases other
    · cases deleted
      cases follows with
      | expireDelete _ stageBefore => exact stillAlone (.inl stageBefore)

theorem Effect.keeps_spared_alike (effect : Effect s label after) (coherent : Coherent s)
    (allowed : unclaimed s label = true) (claims : Claims s) :
    ∀ c, after.sweeper = .toCloseConn c → ∀ p call entry, after.calls.lookup p = some call →
      call.existing = some c → after.calls.lookup c = some entry →
      entry.transport ≠ call.transport := by
  intro c closing p call entry found partner entryFound
  by_cases earlier : s.sweeper = .toCloseConn c
  · obtain ⟨uuid, stored, gone⟩ := coherent.swept c (Or.inl earlier)
    have unloaded := coherent.not_loadable stored gone
    obtain ⟨storedEntry, storedFound, _⟩ := stored
    rcases effect.partner_cases found partner with ⟨before, stood, held, evolves⟩ |
      ⟨own, before, stood, waiting⟩
    · obtain ⟨later, laterFound, entryEvolves⟩ := effect.call_evolves storedFound
      rw [Option.some.inj (entryFound.symm.trans laterFound), entryEvolves.transport,
        evolves.transport]
      exact claims.spared c earlier p before storedEntry stood held storedFound
    · -- the entry is out of the map, so this load took another one
      exact absurd (by rw [State.loadable, stood, Option.bind_some, waiting]) (unloaded p)
  · -- the step is the LoadAndDelete that found the entry
    cases effect with
    | sweepHit key aim other visiting present =>
      have same : aim = c := by simpa using closing
      subst same
      simp only [State.removePending_calls] at found entryFound
      simp only [unclaimed, visiting, present, Option.all_some, Bool.and_eq_true, beq_iff_eq]
        at allowed
      obtain ⟨⟨sameEntry, _⟩, quiet⟩ := allowed
      subst sameEntry
      intro alike
      by_cases stage : call.stage = .toDelete
      · have joined : s.joinedAlike other = true := by
          rw [State.joinedAlike, entryFound, Option.any_some]
          exact State.joinedBy_iff.mpr ⟨p, call, found, partner, stage, by simp [alike]⟩
        simp [joined] at quiet
      · obtain ⟨_, stored, storedFound, sameUuid, _⟩ := coherent.partner p call other found partner
        obtain ⟨mapped, mappedFound, mappedKey, _⟩ := coherent.mapped key other present
        have gone := coherent.served p call other found partner stage
        rw [← sameUuid, Option.some.inj (storedFound.symm.trans mappedFound), mappedKey] at gone
        exact gone present
    | _ =>
      simp only [State.setCall_sweeper, State.emit_sweeper, State.removePending_sweeper,
        State.storePending_sweeper, State.closeDone_sweeper] at closing
      grind

/-- A connection that is being given up was never handed to a session. -/
theorem Claims.not_handed_of_gaveUp (claims : Claims s) (coherent : Coherent s)
    {cause : Expiry} (found : s.calls.lookup c = some call)
    (stage : call.stage = .toExpireClose cause) : ¬ Handed s c := by
  rintro ⟨p, partner, existing, entry, partnerFound, partnerEntry, _, _, _, rfl | rfl⟩
  · have serves := (coherent.partner p partner existing partnerFound partnerEntry).1
    rw [Option.some.inj (partnerFound.symm.trans found), stage] at serves
    cases serves
  · have untaken := claims.alone existing call cause found (Or.inr stage)
    rw [State.taken_iff.mpr ⟨p, partner, partnerFound, partnerEntry⟩] at untaken
    cases untaken

/-- Nor was one that the sweeper is about to close. -/
theorem Claims.not_handed_of_swept (claims : Claims s) (coherent : Coherent s)
    (closing : s.sweeper = .toCloseConn c) : ¬ Handed s c := by
  obtain ⟨uuid, ⟨stored, storedFound, _, alone, _⟩, _⟩ := coherent.swept c (Or.inl closing)
  rintro ⟨p, partner, existing, entry, partnerFound, partnerEntry, entryFound, same, _, rfl | rfl⟩
  · rw [Option.some.inj (partnerFound.symm.trans storedFound), alone] at partnerEntry
    cases partnerEntry
  · exact claims.spared existing closing p partner entry partnerFound partnerEntry entryFound same

theorem Effect.keeps_handedLog (effect : Effect s label after) (coherent : Coherent s)
    (claims : Claims s) : ∀ event ∈ after.log, ∀ c, event.hands c = true → Handed after c := by
  intro event member c hands
  by_cases earlier : event ∈ s.log
  · exact effect.keeps_handed coherent (claims.handed event earlier c hands)
  · cases effect with
    | session p existing call waiting found stage partner entry same =>
      simp only [State.emit_log, State.setCall_log, List.mem_cons, earlier, or_false] at member
      subst member
      have different : existing ≠ p := by
        obtain ⟨_, stored, storedFound, _, alone, _⟩ :=
          coherent.partner p call existing found partner
        rintro rfl
        rw [Option.some.inj (storedFound.symm.trans found), partner] at alone
        cases alone
      refine ⟨p, { call with stage := .relaying }, existing, waiting, by simp, partner,
        by simp [different, entry], same, by simp, ?_⟩
      simpa [Event.hands, or_comm] using hands
    | delete | expireDelete | sweepHit =>
      simp only [State.setCall_log, State.removePending_log] at member
      split at member
      · rw [List.mem_cons, or_iff_left earlier] at member
        subst member
        cases hands
      · exact absurd member earlier
    | closeDone | sweepCloseDone =>
      rcases State.mem_closeDone_log member with rfl | older
      · cases hands
      · exact absurd older earlier
    | mismatch | endRelay =>
      simp only [State.setCall_log, State.emit_log, List.mem_cons, earlier, or_false] at member
      rcases member with rfl | rfl <;> cases hands
    | expireClose | sweepCloseConn =>
      simp only [State.setCall_log, State.emit_log, List.mem_cons, earlier, or_false] at member
      subst member
      cases hands
    | _ => exact absurd member earlier

theorem Claims.log_unhanded (claims : Claims s) (unhanded : ¬ Handed s c) :
    ∀ earlier ∈ s.log, earlier.hands c = false := by
  intro earlier member
  by_contra hands
  exact unhanded (claims.handed earlier member c (by simpa using hands))

theorem Effect.keeps_neverCut (effect : Effect s label after) (coherent : Coherent s)
    (allowed : unclaimed s label = true) (claims : Claims s) : NeverCut after := by
  have before := claims.neverCut
  cases effect with
  | delete p call found stage => exact neverCut_removePending before fun _ _ => rfl
  | expireDelete c call cause found stage =>
    refine neverCut_removePending before fun entry present => ?_
    have own := claims.own c call cause found stage
    rw [Option.some.inj (present.symm.trans own)]
    exact beq_self_eq_true c
  | sweepHit key aim entry visiting present =>
    refine neverCut_removePending before fun other otherPresent => ?_
    simp only [unclaimed, visiting, present, Option.all_some, Bool.and_eq_true] at allowed
    rw [Option.some.inj (otherPresent.symm.trans present)]
    exact allowed.1.1
  | expireClose c call cause found stage =>
    have unhanded := claims.log_unhanded (claims.not_handed_of_gaveUp coherent found stage)
    exact neverCut_emit before (fun earlier member => by simp [Event.cuts, unhanded earlier member])
      rfl
  | sweepCloseConn aim closing =>
    have unhanded := claims.log_unhanded (claims.not_handed_of_swept coherent closing)
    exact neverCut_emit before (fun earlier member => by simp [Event.cuts, unhanded earlier member])
      rfl
  | closeDone p existing call found stage partner => exact neverCut_closeDone (by exact before)
  | sweepCloseDone aim closing => exact neverCut_closeDone before
  | session => exact neverCut_emit before (fun _ _ => rfl) rfl
  | mismatch | endRelay =>
    exact neverCut_emit (neverCut_emit before (fun _ _ => rfl) rfl) (fun _ _ => rfl) rfl
  | _ => exact before

theorem Effect.keeps_claims (effect : Effect s label after) (coherent : Coherent s)
    (allowed : unclaimed s label = true) (claims : Claims s) : Claims after where
  own := effect.keeps_own allowed claims
  alone := effect.keeps_gaveUpAlone coherent allowed claims
  spared := effect.keeps_spared_alike coherent allowed claims
  handed := effect.keeps_handedLog coherent claims
  neverCut := effect.keeps_neverCut coherent allowed claims

end claims

theorem initial_claims (now : Nat) : Claims (initial now) where
  own _ _ _ found := nomatch found
  alone _ _ _ found := nomatch found
  spared _ closing := nomatch closing
  handed _ member := nomatch member
  neverCut := ⟨.nil, fun _ member => nomatch member⟩

/-! ### The runs that never cut a session -/

/-- In every run in which an entry has one claimant at a time, no established session is closed by
the rendezvous machinery and no entry is removed in place of an older one. -/
theorem neverCut_of_unclaimed (s : State)
    (reached : ReachableWhen pairing (fun before label => unclaimed before label = true) s) :
    NeverCut s := by
  have kept : Claims s ∧ Coherent s := by
    refine reached.invariant (fun state => Claims state ∧ Coherent state) ?_ ?_
    · rintro _ ⟨now, rfl⟩
      exact ⟨initial_claims now, initial_coherent now⟩
    · rintro before label after ⟨claims, coherent⟩ allowed taken
      have effect := (step_effect taken).2
      exact ⟨effect.keeps_claims coherent allowed claims, effect.keeps_coherent coherent⟩
  exact kept.1.neverCut

/-- Connections 0 and 1 meet, connection 2 gives up, and connection 3 is swept. -/
def meetExpireAndSweep : List Label :=
  pairAndExpire ++ [.arrive 3 "stale" .tcp, .call 3 .loadOrStore,
    .advance (relayPairTimeout + 1), .sweepStart, .sweepVisit "stale" 3, .sweepRemove,
    .sweepCloseConn, .sweepCloseDone, .sweepEnd]

theorem meetExpireAndSweep_neverCut :
    ∃ s, s.log.length = 10 ∧ sessionsOf 0 s.log = 1 ∧ NeverCut s := by
  have ends : (pairing.runWhen (fun before label => unclaimed before label = true) (initial 0)
      meetExpireAndSweep).any (fun s => s.log.length == 10 && sessionsOf 0 s.log == 1) =
      true := by decide
  obtain ⟨s, reached, shape⟩ := exists_reachableWhen_of_runWhen (pairing_start 0) ends
  rw [Bool.and_eq_true, beq_iff_eq, beq_iff_eq] at shape
  exact ⟨s, shape.1, shape.2, neverCut_of_unclaimed s reached⟩

end SovaDesk.Relay
