/-
This file says once what a step of the rendezvous can do, and derives the shape every
reachable state has whatever the interleaving.

`Effect` lists the outcomes of the operations with the conditions under which each
occurs, so that later proofs split on outcomes and never unfold the step function.
`Evolves` says what a step makes of one call: it stays where it is, loads an entry, or
goes on to the stage that follows.
`Coherent` is what the map operations alone guarantee: an entry in `pending` is a call
that still waits under its own UUID with its channel open, a partner holds an entry
that stored itself earlier and will never store again, and an entry that its partner,
its own give-up branch or the sweeper has removed never comes back. The two guarded
invariants of the rendezvous are built on it.
-/

import SovaDesk.Relay.Pairing

namespace SovaDesk.Relay

open Transition

/-! ### What a step does -/

/-- The outcomes of a step, each with the condition it needs. -/
inductive Effect (s : State) : Label → State → Prop
  | arrive (c : ConnId) (uuid : String) (transport : RelayTransport)
      (fresh : s.calls.lookup c = none) :
      Effect s (.arrive c uuid transport)
        (s.setCall c ⟨transport, s.now, uuid, false, none, .toLoadOrStore⟩)
  | load (c : ConnId) (call : Call) (existing : ConnId) (found : s.calls.lookup c = some call)
      (stage : call.stage = .toLoadOrStore)
      (waiting : s.pending.lookup call.uuid = some existing) :
      Effect s (.call c .loadOrStore)
        (s.setCall c { call with existing := some existing, stage := .toDelete })
  | store (c : ConnId) (call : Call) (found : s.calls.lookup c = some call)
      (stage : call.stage = .toLoadOrStore) (vacant : s.pending.lookup call.uuid = none) :
      Effect s (.call c .loadOrStore)
        ((s.storePending call.uuid c).setCall c { call with stage := .toSelect })
  | delete (c : ConnId) (call : Call) (found : s.calls.lookup c = some call)
      (stage : call.stage = .toDelete) :
      Effect s (.call c .delete)
        ((s.removePending call.uuid (.partner c)).setCall c { call with stage := .toCloseDone })
  | closeDone (c existing : ConnId) (call : Call) (found : s.calls.lookup c = some call)
      (stage : call.stage = .toCloseDone) (partner : call.existing = some existing) :
      Effect s (.call c .closeDone)
        ((s.setCall c { call with stage := .toStart }).closeDone existing)
  | session (c existing : ConnId) (call waiting : Call) (found : s.calls.lookup c = some call)
      (stage : call.stage = .toStart) (partner : call.existing = some existing)
      (entry : s.calls.lookup existing = some waiting)
      (same : waiting.transport = call.transport) :
      Effect s (.call c .startRelay)
        ((s.setCall c { call with stage := .relaying }).emit
          (.sessionStarted existing c call.transport call.uuid))
  | mismatch (c existing : ConnId) (call waiting : Call) (found : s.calls.lookup c = some call)
      (stage : call.stage = .toStart) (partner : call.existing = some existing)
      (entry : s.calls.lookup existing = some waiting)
      (different : waiting.transport ≠ call.transport) :
      Effect s (.call c .startRelay)
        (((s.setCall c { call with stage := .returned }).emit
          (.connClosed existing .mismatch)).emit (.connClosed c .mismatch))
  | endRelay (c existing : ConnId) (call : Call) (found : s.calls.lookup c = some call)
      (stage : call.stage = .relaying) (partner : call.existing = some existing) :
      Effect s (.call c .endRelay)
        (((s.setCall c { call with stage := .returned }).emit
          (.connClosed existing .session)).emit (.connClosed c .session))
  | enterSelect (c : ConnId) (call : Call) (found : s.calls.lookup c = some call)
      (stage : call.stage = .toSelect) :
      Effect s (.call c .enterSelect)
        (s.setCall c { call with stage := .selecting (s.now + relayPairTimeout) })
  | recvDone (c : ConnId) (call : Call) (deadline : Nat) (found : s.calls.lookup c = some call)
      (stage : call.stage = .selecting deadline) (closed : call.done = true) :
      Effect s (.call c .recvDone) (s.setCall c { call with stage := .returned })
  | timeout (c : ConnId) (call : Call) (deadline : Nat) (found : s.calls.lookup c = some call)
      (stage : call.stage = .selecting deadline) (passed : deadline ≤ s.now) :
      Effect s (.call c .timeout) (s.setCall c { call with stage := .toCompare .timeout })
  | recvCtxDone (c : ConnId) (call : Call) (deadline : Nat) (found : s.calls.lookup c = some call)
      (stage : call.stage = .selecting deadline) (cancelled : s.ctxDone = true) :
      Effect s (.call c .recvCtxDone) (s.setCall c { call with stage := .toCompare .ctxDone })
  | compareOwn (c : ConnId) (call : Call) (cause : Expiry) (found : s.calls.lookup c = some call)
      (stage : call.stage = .toCompare cause) (own : s.pending.lookup call.uuid = some c) :
      Effect s (.call c .compare) (s.setCall c { call with stage := .toExpireDelete cause })
  | compareOther (c : ConnId) (call : Call) (cause : Expiry) (found : s.calls.lookup c = some call)
      (stage : call.stage = .toCompare cause) (other : s.pending.lookup call.uuid ≠ some c) :
      Effect s (.call c .compare) (s.setCall c { call with stage := .returned })
  | expireDelete (c : ConnId) (call : Call) (cause : Expiry)
      (found : s.calls.lookup c = some call) (stage : call.stage = .toExpireDelete cause) :
      Effect s (.call c .expireDelete)
        ((s.removePending call.uuid (.expiry c)).setCall c
          { call with stage := .toExpireClose cause })
  | expireClose (c : ConnId) (call : Call) (cause : Expiry)
      (found : s.calls.lookup c = some call) (stage : call.stage = .toExpireClose cause) :
      Effect s (.call c .expireClose)
        ((s.setCall c { call with stage := .returned }).emit (.connClosed c (.expiry cause)))
  | sweepStart (idle : s.sweeper = .idle) :
      Effect s .sweepStart { s with sweeper := .ranging, seen := s.mappings, visited := [] }
  | sweepStale (key : String) (aim : ConnId) (entry : Call) (ranging : s.sweeper = .ranging)
      (seen : (key, aim) ∈ s.seen) (fresh : key ∉ s.visited)
      (found : s.calls.lookup aim = some entry) :
      Effect s (.sweepVisit key aim)
        { s with sweeper := .toRemove key aim, visited := key :: s.visited }
  | sweepSkip (key : String) (aim : ConnId) (ranging : s.sweeper = .ranging) :
      Effect s (.sweepVisit key aim) { s with visited := key :: s.visited }
  | sweepHit (key : String) (aim entry : ConnId) (visiting : s.sweeper = .toRemove key aim)
      (present : s.pending.lookup key = some entry) :
      Effect s .sweepRemove
        { s.removePending key (.sweep aim) with sweeper := .toCloseConn aim }
  | sweepMiss (key : String) (aim : ConnId) (visiting : s.sweeper = .toRemove key aim)
      (absent : s.pending.lookup key = none) :
      Effect s .sweepRemove { s with sweeper := .ranging }
  | sweepCloseConn (aim : ConnId) (closing : s.sweeper = .toCloseConn aim) :
      Effect s .sweepCloseConn
        { s.emit (.connClosed aim .sweep) with sweeper := .toCloseDone aim }
  | sweepCloseDone (aim : ConnId) (closing : s.sweeper = .toCloseDone aim) :
      Effect s .sweepCloseDone { s.closeDone aim with sweeper := .ranging }
  | sweepEnd (ranging : s.sweeper = .ranging) : Effect s .sweepEnd { s with sweeper := .idle }
  | cancel : Effect s .cancel { s with ctxDone := true }
  | advance (elapsed : Nat) : Effect s (.advance elapsed) { s with now := s.now + elapsed }

variable {c : ConnId} {call : Call}

theorem callStep_effect {s after : State} {operation : Operation}
    (found : s.calls.lookup c = some call) (taken : callStep s c call operation = some after) :
    Effect s (.call c operation) after := by
  cases operation with
  | loadOrStore =>
    simp only [callStep, Option.ite_none_right_eq_some, Option.some_inj] at taken
    obtain ⟨stage, rfl⟩ := taken
    unfold loadOrStoreStep
    split
    · next existing waiting => exact .load c call existing found stage waiting
    · next vacant => exact .store c call found stage vacant
  | delete =>
    simp only [callStep, Option.ite_none_right_eq_some, Option.some_inj] at taken
    obtain ⟨stage, rfl⟩ := taken
    exact .delete c call found stage
  | closeDone =>
    simp only [callStep, Option.ite_none_right_eq_some, Option.map_eq_some_iff] at taken
    obtain ⟨stage, existing, partner, rfl⟩ := taken
    exact .closeDone c existing call found stage partner
  | startRelay =>
    simp only [callStep, Option.ite_none_right_eq_some, Option.bind_eq_some_iff,
      Option.map_eq_some_iff] at taken
    obtain ⟨stage, existing, partner, waiting, entry, rfl⟩ := taken
    unfold startRelayStep
    split
    · next same => exact .session c existing call waiting found stage partner entry same
    · next different => exact .mismatch c existing call waiting found stage partner entry different
  | endRelay =>
    simp only [callStep, Option.ite_none_right_eq_some, Option.map_eq_some_iff] at taken
    obtain ⟨stage, existing, partner, rfl⟩ := taken
    exact .endRelay c existing call found stage partner
  | enterSelect =>
    simp only [callStep, Option.ite_none_right_eq_some, Option.some_inj] at taken
    obtain ⟨stage, rfl⟩ := taken
    exact .enterSelect c call found stage
  | recvDone =>
    simp only [callStep] at taken
    split at taken
    · next deadline stage =>
      obtain ⟨closed, taken⟩ := Option.ite_none_right_eq_some.mp taken
      cases taken
      exact .recvDone c call deadline found stage closed
    · cases taken
  | timeout =>
    simp only [callStep] at taken
    split at taken
    · next deadline stage =>
      obtain ⟨passed, taken⟩ := Option.ite_none_right_eq_some.mp taken
      cases taken
      exact .timeout c call deadline found stage passed
    · cases taken
  | recvCtxDone =>
    simp only [callStep] at taken
    split at taken
    · next deadline stage =>
      obtain ⟨cancelled, taken⟩ := Option.ite_none_right_eq_some.mp taken
      cases taken
      exact .recvCtxDone c call deadline found stage cancelled
    · cases taken
  | compare =>
    simp only [callStep] at taken
    split at taken
    · next cause stage =>
      cases taken
      unfold compareStep
      split
      · next own => exact .compareOwn c call cause found stage own
      · next other => exact .compareOther c call cause found stage other
    · cases taken
  | expireDelete =>
    simp only [callStep] at taken
    split at taken
    · next cause stage =>
      cases taken
      exact .expireDelete c call cause found stage
    · cases taken
  | expireClose =>
    simp only [callStep] at taken
    split at taken
    · next cause stage =>
      cases taken
      exact .expireClose c call cause found stage
    · cases taken

variable {label : Label}

/-- The inversion of a step: the process has not panicked, and one of the outcomes occurs. -/
theorem step_effect {s after : State} (taken : step s label = some after) :
    s.panicked = false ∧ Effect s label after := by
  unfold step at taken
  split at taken
  · cases taken
  · next running =>
    refine ⟨Bool.eq_false_iff.mpr running, ?_⟩
    cases label with
    | arrive c uuid transport =>
      simp only [Option.ite_none_left_eq_some, not_or, Option.isSome_iff_ne_none, ne_eq,
        not_not, Option.some_inj] at taken
      obtain ⟨⟨_, fresh⟩, rfl⟩ := taken
      exact .arrive c uuid transport fresh
    | call c operation =>
      obtain ⟨call, found, taken⟩ := Option.bind_eq_some_iff.mp taken
      exact callStep_effect found taken
    | sweepStart =>
      simp only [Option.ite_none_right_eq_some, Option.some_inj] at taken
      obtain ⟨idle, rfl⟩ := taken
      exact .sweepStart idle
    | sweepVisit key aim =>
      simp only [Option.ite_none_right_eq_some, Option.map_eq_some_iff] at taken
      obtain ⟨⟨ranging, seen, fresh⟩, entry, found, rfl⟩ := taken
      unfold sweepVisitStep
      split
      · exact .sweepStale key aim entry ranging seen fresh found
      · exact .sweepSkip key aim ranging
    | sweepRemove =>
      dsimp only at taken
      split at taken
      · next key aim visiting =>
        cases taken
        unfold sweepRemoveStep
        split
        · next entry present => exact .sweepHit key aim entry visiting present
        · next absent => exact .sweepMiss key aim visiting absent
      · cases taken
    | sweepCloseConn =>
      dsimp only at taken
      split at taken
      · next aim closing =>
        cases taken
        exact .sweepCloseConn aim closing
      · cases taken
    | sweepCloseDone =>
      dsimp only at taken
      split at taken
      · next aim closing =>
        cases taken
        exact .sweepCloseDone aim closing
      · cases taken
    | sweepEnd =>
      simp only [Option.ite_none_right_eq_some, Option.some_inj] at taken
      obtain ⟨ranging, rfl⟩ := taken
      exact .sweepEnd ranging
    | cancel =>
      cases taken
      exact .cancel
    | advance elapsed =>
      cases taken
      exact .advance elapsed

/-! ### What a step makes of a call -/

/-- The step closes the channel of a call: a partner's, or the sweeper's. -/
def Closing (s : State) (label : Label) (c : ConnId) : Prop :=
  (∃ p partner, label = .call p .closeDone ∧ s.calls.lookup p = some partner ∧
    partner.stage = .toCloseDone ∧ partner.existing = some c) ∨
  (label = .sweepCloseDone ∧ s.sweeper = .toCloseDone c)

/-- The stage a call goes on to, apart from the load of an entry, and what that says of the map. -/
inductive Follows (s : State) (label : Label) (after : State) (c : ConnId) (call : Call) :
    Stage → Prop
  | store (stage : call.stage = .toLoadOrStore) : Follows s label after c call .toSelect
  | delete (stage : call.stage = .toDelete) (removed : after.pending.lookup call.uuid = none) :
      Follows s label after c call .toCloseDone
  | closeDone (stage : call.stage = .toCloseDone) : Follows s label after c call .toStart
  | session (stage : call.stage = .toStart) : Follows s label after c call .relaying
  | mismatch (stage : call.stage = .toStart) : Follows s label after c call .returned
  | endRelay (stage : call.stage = .relaying) : Follows s label after c call .returned
  | enterSelect (deadline : Nat) (stage : call.stage = .toSelect) :
      Follows s label after c call (.selecting deadline)
  | recvDone (deadline : Nat) (stage : call.stage = .selecting deadline)
      (closed : call.done = true) : Follows s label after c call .returned
  | expire (deadline : Nat) (cause : Expiry) (stage : call.stage = .selecting deadline) :
      Follows s label after c call (.toCompare cause)
  | compareOwn (cause : Expiry) (stage : call.stage = .toCompare cause)
      (compares : label = .call c .compare) (own : s.pending.lookup call.uuid = some c) :
      Follows s label after c call (.toExpireDelete cause)
  | compareOther (cause : Expiry) (stage : call.stage = .toCompare cause)
      (other : s.pending.lookup call.uuid ≠ some c) : Follows s label after c call .returned
  | expireDelete (cause : Expiry) (stage : call.stage = .toExpireDelete cause)
      (removed : after.pending.lookup call.uuid = none) :
      Follows s label after c call (.toExpireClose cause)
  | expireClose (cause : Expiry) (stage : call.stage = .toExpireClose cause) :
      Follows s label after c call .returned

/-- What a step makes of a call that was there before: it stays where it is, loads an entry, or
goes on to a stage that follows; its channel may be closed besides. -/
inductive Evolves (s : State) (label : Label) (after : State) (c : ConnId) (before : Call) :
    Call → Prop
  | stays (done : Bool) (closed : done = before.done ∨ Closing s label c) :
      Evolves s label after c before { before with done }
  | loads (existing : ConnId) (own : label = .call c .loadOrStore)
      (stage : before.stage = .toLoadOrStore)
      (waiting : s.pending.lookup before.uuid = some existing) :
      Evolves s label after c before { before with existing := some existing, stage := .toDelete }
  | goes (stage : Stage) (done : Bool) (follows : Follows s label after c before stage)
      (closed : done = before.done ∨ Closing s label c) :
      Evolves s label after c before { before with stage, done }

section evolves

variable {s after : State} {label : Label} {c : ConnId} {before call : Call} {next : Stage}

theorem Follows.ne_toLoadOrStore (follows : Follows s label after c before next) :
    next ≠ .toLoadOrStore := by
  cases follows <;> simp

theorem Follows.ne_toDelete (follows : Follows s label after c before next) :
    next ≠ .toDelete := by
  cases follows <;> simp

theorem Follows.removed_of_toDelete (follows : Follows s label after c before next)
    (stage : before.stage = .toDelete) : after.pending.lookup before.uuid = none := by
  cases follows with
  | delete _ removed => exact removed
  | _ => simp_all

theorem Evolves.uuid (evolves : Evolves s label after c before call) : call.uuid = before.uuid := by
  cases evolves <;> rfl

theorem Evolves.transport (evolves : Evolves s label after c before call) :
    call.transport = before.transport := by
  cases evolves <;> rfl

theorem evolves_rfl : Evolves s label after c before before := .stays before.done (.inl rfl)

/-- The record of one call is replaced. -/
theorem evolves_setCall {d : ConnId} {old new : Call}
    (found : (if c = d then some new else s.calls.lookup c) = some call)
    (stood : s.calls.lookup d = some old) (evolves : Evolves s label after d old new) :
    ∃ before, s.calls.lookup c = some before ∧ Evolves s label after c before call := by
  split at found
  · next same =>
    cases found
    subst same
    exact ⟨old, stood, evolves⟩
  · exact ⟨call, found, evolves_rfl⟩

theorem evolves_goes (follows : Follows s label after c before next) :
    Evolves s label after c before { before with stage := next } :=
  .goes next before.done follows (.inl rfl)

/-- A channel is closed beside what the step makes of the calls. -/
theorem evolves_closeDone {middle : State} {d : ConnId} (closing : Closing s label d)
    (found : (middle.closeDone d).calls.lookup c = some call)
    (evolves : ∀ earlier, middle.calls.lookup c = some earlier →
      ∃ before, s.calls.lookup c = some before ∧ (earlier = before ∨ ∃ stage,
        earlier = { before with stage } ∧ Follows s label after c before stage)) :
    ∃ before, s.calls.lookup c = some before ∧ Evolves s label after c before call := by
  rw [State.lookup_closeDone] at found
  split at found
  · next same =>
    subst same
    obtain ⟨earlier, earlierFound, rfl⟩ := Option.map_eq_some_iff.mp found
    obtain ⟨before, stood, rfl | ⟨stage, rfl, follows⟩⟩ := evolves earlier earlierFound
    · exact ⟨earlier, stood, .stays true (.inr closing)⟩
    · exact ⟨before, stood, .goes stage true follows (.inr closing)⟩
  · obtain ⟨before, stood, rfl | ⟨stage, rfl, follows⟩⟩ := evolves call found
    · exact ⟨call, stood, evolves_rfl⟩
    · exact ⟨before, stood, evolves_goes follows⟩

/-- A call after a step has just arrived, or is what the step made of it. -/
theorem Effect.call_cases (effect : Effect s label after)
    (found : after.calls.lookup c = some call) :
    (s.calls.lookup c = none ∧ call.existing = none ∧ call.done = false ∧
      call.stage = .toLoadOrStore) ∨
      ∃ before, s.calls.lookup c = some before ∧ Evolves s label after c before call := by
  cases effect with
  | arrive d uuid transport fresh =>
    rw [State.lookup_setCall] at found
    split at found
    · next same =>
      cases found
      exact .inl ⟨same ▸ fresh, rfl, rfl, rfl⟩
    · exact .inr ⟨call, found, evolves_rfl⟩
  | load d old existing stood stage waiting =>
    rw [State.lookup_setCall] at found
    exact .inr (evolves_setCall found stood (.loads existing rfl stage waiting))
  | store d old stood stage vacant =>
    rw [State.lookup_setCall] at found
    exact .inr (evolves_setCall found stood (evolves_goes (.store stage)))
  | delete d old stood stage =>
    rw [State.lookup_setCall, State.removePending_calls] at found
    refine .inr (evolves_setCall found stood (evolves_goes (.delete stage ?_)))
    rw [State.setCall_pending, State.lookup_removePending, if_pos rfl]
  | closeDone d existing old stood stage partner =>
    refine .inr (evolves_closeDone (.inl ⟨d, old, rfl, stood, stage, partner⟩) found ?_)
    intro earlier earlierFound
    rw [State.lookup_setCall] at earlierFound
    split at earlierFound
    · next same =>
      cases earlierFound
      exact ⟨old, same ▸ stood, .inr ⟨_, rfl, .closeDone stage⟩⟩
    · exact ⟨earlier, earlierFound, .inl rfl⟩
  | session d existing old waiting stood stage partner entry same =>
    rw [State.emit_calls, State.lookup_setCall] at found
    exact .inr (evolves_setCall found stood (evolves_goes (.session stage)))
  | mismatch d existing old waiting stood stage partner entry different =>
    rw [State.emit_calls, State.emit_calls, State.lookup_setCall] at found
    exact .inr (evolves_setCall found stood (evolves_goes (.mismatch stage)))
  | endRelay d existing old stood stage partner =>
    rw [State.emit_calls, State.emit_calls, State.lookup_setCall] at found
    exact .inr (evolves_setCall found stood (evolves_goes (.endRelay stage)))
  | enterSelect d old stood stage =>
    rw [State.lookup_setCall] at found
    exact .inr (evolves_setCall found stood (evolves_goes (.enterSelect _ stage)))
  | recvDone d old deadline stood stage closed =>
    rw [State.lookup_setCall] at found
    exact .inr (evolves_setCall found stood (evolves_goes (.recvDone deadline stage closed)))
  | timeout d old deadline stood stage passed =>
    rw [State.lookup_setCall] at found
    exact .inr (evolves_setCall found stood (evolves_goes (.expire deadline _ stage)))
  | recvCtxDone d old deadline stood stage cancelled =>
    rw [State.lookup_setCall] at found
    exact .inr (evolves_setCall found stood (evolves_goes (.expire deadline _ stage)))
  | compareOwn d old cause stood stage own =>
    rw [State.lookup_setCall] at found
    exact .inr (evolves_setCall found stood (evolves_goes (.compareOwn cause stage rfl own)))
  | compareOther d old cause stood stage other =>
    rw [State.lookup_setCall] at found
    exact .inr (evolves_setCall found stood (evolves_goes (.compareOther cause stage other)))
  | expireDelete d old cause stood stage =>
    rw [State.lookup_setCall, State.removePending_calls] at found
    refine .inr (evolves_setCall found stood (evolves_goes (.expireDelete cause stage ?_)))
    rw [State.setCall_pending, State.lookup_removePending, if_pos rfl]
  | expireClose d old cause stood stage =>
    rw [State.emit_calls, State.lookup_setCall] at found
    exact .inr (evolves_setCall found stood (evolves_goes (.expireClose cause stage)))
  | sweepHit key aim entry visiting present =>
    rw [State.removePending_calls] at found
    exact .inr ⟨call, found, evolves_rfl⟩
  | sweepCloseDone aim closing =>
    exact .inr (evolves_closeDone (.inr ⟨rfl, closing⟩) found fun earlier earlierFound =>
      ⟨earlier, earlierFound, .inl rfl⟩)
  | sweepStart | sweepStale | sweepSkip | sweepMiss | sweepCloseConn | sweepEnd | cancel
  | advance =>
    exact .inr ⟨call, found, evolves_rfl⟩

/-- No step forgets a call. -/
theorem Effect.call_evolves (effect : Effect s label after)
    (found : s.calls.lookup c = some before) :
    ∃ call, after.calls.lookup c = some call ∧ Evolves s label after c before call := by
  have present : (after.calls.lookup c).isSome = true := by
    cases effect <;> simp <;> grind
  obtain ⟨call, foundAfter⟩ := Option.isSome_iff_exists.mp present
  rcases effect.call_cases foundAfter with ⟨new, _⟩ | ⟨same, stood, evolves⟩
  · cases new.symm.trans found
  · cases found.symm.trans stood
    exact ⟨call, foundAfter, evolves⟩

end evolves

/-! ### What no step undoes -/

/-- A call that stored its entry: it loaded nothing, and it will never store again. -/
def Stored (s : State) (c : ConnId) (uuid : String) : Prop :=
  ∃ call, s.calls.lookup c = some call ∧ call.uuid = uuid ∧ call.existing = none ∧
    call.stage ≠ .toLoadOrStore

theorem Effect.stored {s after : State} {uuid : String}
    (effect : Effect s label after) (stored : Stored s c uuid) : Stored after c uuid := by
  obtain ⟨before, found, sameUuid, alone, moved⟩ := stored
  obtain ⟨call, foundAfter, evolves⟩ := effect.call_evolves found
  refine ⟨call, foundAfter, evolves.uuid.trans sameUuid, ?_⟩
  cases evolves with
  | stays => exact ⟨alone, moved⟩
  | loads existing own stage => exact absurd stage moved
  | goes stage done follows => exact ⟨alone, follows.ne_toLoadOrStore⟩

/-- An entry that stored itself and is no longer mapped stays unmapped: only a call that stands
before its LoadOrStore is ever stored. -/
theorem Effect.unmapped {s after : State} {uuid : String}
    (effect : Effect s label after) (stored : Stored s c uuid)
    (gone : s.pending.lookup uuid ≠ some c) : after.pending.lookup uuid ≠ some c := by
  obtain ⟨call, found, _, _, moved⟩ := stored
  cases effect with
  | store other newer otherFound stage vacant =>
    have different : c ≠ other := by
      rintro rfl
      exact moved (Option.some.inj (found.symm.trans otherFound) ▸ stage)
    simp only [State.setCall_pending, State.lookup_storePending]
    split
    · exact fun same => different (Option.some.inj same).symm
    · exact gone
  | delete | expireDelete | sweepHit =>
    simp only [State.setCall_pending, State.lookup_removePending]
    split
    · exact Option.some_ne_none c |>.symm
    · exact gone
  | _ => simpa using gone

/-! ### The shape of every reachable state -/

/-- A stage of the stored path that comes before the call's own Delete. -/
def Stage.waits : Stage → Bool
  | .toSelect | .selecting _ | .toCompare _ | .toExpireDelete _ => true
  | _ => false

/-- A stage of the loaded path, its end included. -/
def Stage.serves : Stage → Bool
  | .toDelete | .toCloseDone | .toStart | .relaying | .returned => true
  | _ => false

/-- A call on the loaded path stays on it. -/
theorem Follows.serves {s after : State} {next : Stage}
    (follows : Follows s label after c call next) (serves : call.stage.serves = true) :
    next.serves = true := by
  cases follows <;> simp_all [Stage.serves]

/-- A call on the stored path stays on it until it returns. -/
theorem Follows.not_serves {s after : State}
    {next : Stage} (follows : Follows s label after c call next)
    (stays : call.stage = .returned ∨ call.stage.serves = false) :
    next = .returned ∨ next.serves = false := by
  cases follows <;> simp_all [Stage.serves]

/-- What the map operations alone guarantee, whatever the interleaving. -/
structure Coherent (s : State) : Prop where
  /-- A call that has not reached the map has loaded nothing and its channel is open. -/
  fresh : ∀ c call, s.calls.lookup c = some call → call.stage = .toLoadOrStore →
    call.existing = none ∧ call.done = false
  /-- A mapped entry is a call that waits under its own UUID with its channel open. -/
  mapped : ∀ key c, s.pending.lookup key = some c → ∃ call, s.calls.lookup c = some call ∧
    call.uuid = key ∧ call.existing = none ∧ call.done = false ∧ call.stage.waits = true
  /-- A partner is on the loaded path and holds an entry stored under its own UUID. -/
  partner : ∀ p call c, s.calls.lookup p = some call → call.existing = some c →
    call.stage.serves = true ∧ Stored s c call.uuid
  /-- A call that loaded nothing is not on the loaded path. -/
  alone : ∀ c call, s.calls.lookup c = some call → call.existing = none →
    call.stage = .returned ∨ call.stage.serves = false
  /-- After the partner's Delete its entry is gone from the map. -/
  served : ∀ p call c, s.calls.lookup p = some call → call.existing = some c →
    call.stage ≠ .toDelete → s.pending.lookup call.uuid ≠ some c
  /-- After the own Delete of a call that gave up its entry is gone from the map. -/
  gaveUp : ∀ c call cause, s.calls.lookup c = some call → call.stage = .toExpireClose cause →
    s.pending.lookup call.uuid ≠ some c
  /-- A Range reports entries that were stored. -/
  seen : ∀ key c, (key, c) ∈ s.seen → Stored s c key
  /-- The sweeper aims at an entry that was stored. -/
  aimed : ∀ key c, s.sweeper = .toRemove key c → Stored s c key
  /-- After a successful LoadAndDelete the entry the sweeper aims at is gone from the map. -/
  swept : ∀ c, s.sweeper = .toCloseConn c ∨ s.sweeper = .toCloseDone c →
    ∃ uuid, Stored s c uuid ∧ s.pending.lookup uuid ≠ some c

section coherent

variable {s after : State} {label : Label}

theorem Coherent.mapped_stored (coherent : Coherent s) {key : String}
    (present : s.pending.lookup key = some c) : Stored s c key := by
  obtain ⟨call, found, same, alone, _, waits⟩ := coherent.mapped key c present
  refine ⟨call, found, same, alone, fun stage => ?_⟩
  rw [stage] at waits
  cases waits

theorem Coherent.gaveUp_stored (coherent : Coherent s) {cause : Expiry}
    (found : s.calls.lookup c = some call) (stage : call.stage = .toExpireClose cause) :
    Stored s c call.uuid := by
  refine ⟨call, found, rfl, ?_, by simp [stage]⟩
  cases partner : call.existing with
  | none => rfl
  | some entry =>
    have serves := (coherent.partner c call entry found partner).1
    rw [stage] at serves
    cases serves

/-- A channel that is being closed is that of an entry that stored itself and is out of the map. -/
theorem Coherent.stored_of_closing (coherent : Coherent s) (closing : Closing s label c) :
    ∃ uuid, Stored s c uuid ∧ s.pending.lookup uuid ≠ some c := by
  rcases closing with ⟨p, partner, _, found, stage, entry⟩ | ⟨_, closing⟩
  · refine ⟨partner.uuid, (coherent.partner p partner c found entry).2, ?_⟩
    exact coherent.served p partner c found entry (by simp [stage])
  · exact coherent.swept c (Or.inr closing)

section

variable (effect : Effect s label after)

include effect

theorem Effect.keeps_fresh (coherent : Coherent s) :
    ∀ c call, after.calls.lookup c = some call → call.stage = .toLoadOrStore →
      call.existing = none ∧ call.done = false := by
  intro c call found stage
  rcases effect.call_cases found with ⟨_, alone, opened, _⟩ | ⟨before, stood, evolves⟩
  · exact ⟨alone, opened⟩
  cases evolves with
  | stays done closed =>
    obtain ⟨alone, opened⟩ := coherent.fresh c before stood stage
    refine ⟨alone, closed.elim (fun same => same.trans opened) fun closing => ?_⟩
    -- a channel that is closed belongs to a call that has stored its entry
    obtain ⟨uuid, ⟨entry, entryFound, _, _, moved⟩, _⟩ := coherent.stored_of_closing closing
    exact absurd (Option.some.inj (entryFound.symm.trans stood) ▸ stage) moved
  | loads existing => cases stage
  | goes next done follows => exact absurd stage follows.ne_toLoadOrStore

theorem Effect.keeps_mapped (coherent : Coherent s) :
    ∀ key c, after.pending.lookup key = some c → ∃ call, after.calls.lookup c = some call ∧
      call.uuid = key ∧ call.existing = none ∧ call.done = false ∧ call.stage.waits = true := by
  intro key c present
  by_cases earlier : s.pending.lookup key = some c
  · obtain ⟨before, stood, sameUuid, alone, opened, waits⟩ := coherent.mapped key c earlier
    obtain ⟨call, found, evolves⟩ := effect.call_evolves stood
    -- a channel that is closed belongs to an entry that is out of the map
    have unclosed : ¬ Closing s label c := by
      intro closing
      obtain ⟨uuid, ⟨entry, entryFound, entryUuid, _⟩, gone⟩ := coherent.stored_of_closing closing
      rw [← entryUuid, Option.some.inj (entryFound.symm.trans stood), sameUuid] at gone
      exact gone earlier
    refine ⟨call, found, evolves.uuid.trans sameUuid, ?_⟩
    cases evolves with
    | stays done closed => exact ⟨alone, (closed.resolve_right unclosed).trans opened, waits⟩
    | loads _ _ stage =>
      rw [stage] at waits
      cases waits
    | goes next done follows closed =>
      refine ⟨alone, (closed.resolve_right unclosed).trans opened, ?_⟩
      cases follows with
      | enterSelect | expire | compareOwn => rfl
      | recvDone _ _ closed => cases opened.symm.trans closed
      | compareOther _ _ other => exact absurd (sameUuid ▸ earlier) other
      | expireDelete _ _ removed => cases (sameUuid ▸ removed).symm.trans present
      | store stage | delete stage | closeDone stage | session stage | mismatch stage
      | endRelay stage | expireClose _ stage =>
        rw [stage] at waits
        cases waits
  · -- the step stores the entry
    cases effect with
    | store newer call found stage vacant =>
      obtain ⟨alone, opened⟩ := coherent.fresh newer call found stage
      simp only [State.setCall_pending, State.lookup_storePending] at present
      split at present
      · next same =>
        cases present
        exact ⟨{ call with stage := .toSelect }, by simp, same.symm, alone, opened, rfl⟩
      · exact absurd present earlier
    | delete | expireDelete | sweepHit =>
      simp only [State.setCall_pending, State.lookup_removePending] at present
      split at present
      · cases present
      · exact absurd present earlier
    | _ => exact absurd (by simpa using present) earlier

theorem Effect.keeps_partner (coherent : Coherent s) :
    ∀ p call c, after.calls.lookup p = some call → call.existing = some c →
      call.stage.serves = true ∧ Stored after c call.uuid := by
  intro p call c found partner
  rcases effect.call_cases found with ⟨_, alone, _⟩ | ⟨before, stood, evolves⟩
  · cases alone.symm.trans partner
  cases evolves with
  | stays =>
    obtain ⟨serves, stored⟩ := coherent.partner p before c stood partner
    exact ⟨serves, effect.stored stored⟩
  | loads existing own stage waiting =>
    cases partner
    exact ⟨rfl, effect.stored (coherent.mapped_stored waiting)⟩
  | goes stage done follows =>
    obtain ⟨serves, stored⟩ := coherent.partner p before c stood partner
    exact ⟨follows.serves serves, effect.stored stored⟩

theorem Effect.keeps_alone (coherent : Coherent s) :
    ∀ c call, after.calls.lookup c = some call → call.existing = none →
      call.stage = .returned ∨ call.stage.serves = false := by
  intro c call found alone
  rcases effect.call_cases found with ⟨_, _, _, stage⟩ | ⟨before, stood, evolves⟩
  · rw [stage]
    exact .inr rfl
  cases evolves with
  | stays => exact coherent.alone c before stood alone
  | loads => cases alone
  | goes stage done follows =>
    exact follows.not_serves (coherent.alone c before stood alone)

theorem Effect.keeps_served (coherent : Coherent s) :
    ∀ p call c, after.calls.lookup p = some call → call.existing = some c →
      call.stage ≠ .toDelete → after.pending.lookup call.uuid ≠ some c := by
  intro p call c found partner passed
  rcases effect.call_cases found with ⟨_, alone, _⟩ | ⟨before, stood, evolves⟩
  · cases alone.symm.trans partner
  -- an entry that is gone from the map does not come back
  have stillGone : before.existing = some c → before.stage ≠ .toDelete →
      after.pending.lookup before.uuid ≠ some c := by
    intro partnerBefore passedBefore
    exact effect.unmapped (coherent.partner p before c stood partnerBefore).2
      (coherent.served p before c stood partnerBefore passedBefore)
  cases evolves with
  | stays => exact stillGone partner passed
  | loads => exact absurd rfl passed
  | goes stage done follows =>
    by_cases deletes : before.stage = .toDelete
    · have removed := follows.removed_of_toDelete deletes
      exact fun present => Option.some_ne_none c (present.symm.trans removed)
    · exact stillGone partner deletes

theorem Effect.keeps_gaveUp (coherent : Coherent s) :
    ∀ c call cause, after.calls.lookup c = some call → call.stage = .toExpireClose cause →
      after.pending.lookup call.uuid ≠ some c := by
  intro c call cause found stage
  rcases effect.call_cases found with ⟨_, _, _, fresh⟩ | ⟨before, stood, evolves⟩
  · cases fresh.symm.trans stage
  cases evolves with
  | stays =>
    have stageBefore : before.stage = .toExpireClose cause := stage
    have stored := coherent.gaveUp_stored stood stageBefore
    exact effect.unmapped stored (coherent.gaveUp c before cause stood stageBefore)
  | loads => cases stage
  | goes next done follows =>
    cases stage
    cases follows with
    | expireDelete _ _ removed =>
      exact fun present => Option.some_ne_none c (present.symm.trans removed)

theorem Effect.keeps_seen (coherent : Coherent s) :
    ∀ key c, (key, c) ∈ after.seen → Stored after c key := by
  intro key c member
  by_cases earlier : Stored s c key
  · exact effect.stored earlier
  have before := coherent.seen key c
  cases effect with
  | store newer call found stage vacant =>
    rcases List.mem_cons.mp member with same | older
    · cases same
      refine ⟨{ call with stage := .toSelect }, by simp, rfl, ?_, by simp⟩
      exact (coherent.fresh c call found stage).1
    · exact absurd (before older) earlier
  | sweepStart idle => exact absurd (coherent.mapped_stored (State.mem_mappings.mp member)) earlier
  | _ => exact absurd (before (by simpa using member)) earlier

theorem Effect.keeps_aimed (coherent : Coherent s) :
    ∀ key c, after.sweeper = .toRemove key c → Stored after c key := by
  intro key c aim
  apply effect.stored
  have before := coherent.aimed key c
  cases effect with
  | sweepStale seenKey entry _ _ seen _ _ =>
    have same : seenKey = key ∧ entry = c := by simpa using aim
    rw [same.1, same.2] at seen
    exact coherent.seen key c seen
  | _ =>
    simp only [State.setCall_sweeper, State.emit_sweeper, State.removePending_sweeper,
      State.storePending_sweeper, State.closeDone_sweeper] at aim
    grind

theorem Effect.keeps_swept (coherent : Coherent s) :
    ∀ c, after.sweeper = .toCloseConn c ∨ after.sweeper = .toCloseDone c →
      ∃ uuid, Stored after c uuid ∧ after.pending.lookup uuid ≠ some c := by
  intro c closing
  by_cases earlier : s.sweeper = .toCloseConn c ∨ s.sweeper = .toCloseDone c
  · obtain ⟨uuid, stored, gone⟩ := coherent.swept c earlier
    exact ⟨uuid, effect.stored stored, effect.unmapped stored gone⟩
  · -- the step is the LoadAndDelete that found something
    have stored := fun key aim visiting => effect.stored (coherent.aimed key aim visiting)
    cases effect with
    | sweepHit key aim entry visiting present =>
      have same : aim = c := by simpa using closing
      subst same
      exact ⟨key, stored key aim visiting, by simp⟩
    | _ =>
      simp only [State.setCall_sweeper, State.emit_sweeper, State.removePending_sweeper,
        State.storePending_sweeper, State.closeDone_sweeper] at closing
      grind

theorem Effect.keeps_coherent (coherent : Coherent s) : Coherent after where
  fresh := effect.keeps_fresh coherent
  mapped := effect.keeps_mapped coherent
  partner := effect.keeps_partner coherent
  alone := effect.keeps_alone coherent
  served := effect.keeps_served coherent
  gaveUp := effect.keeps_gaveUp coherent
  seen := effect.keeps_seen coherent
  aimed := effect.keeps_aimed coherent
  swept := effect.keeps_swept coherent

end

end coherent

theorem initial_coherent (now : Nat) : Coherent (initial now) where
  fresh _ _ found := nomatch found
  mapped _ _ present := nomatch present
  partner _ _ _ found := nomatch found
  alone _ _ found := nomatch found
  served _ _ _ found := nomatch found
  gaveUp _ _ _ found := nomatch found
  seen _ _ member := nomatch member
  aimed _ _ visiting := nomatch visiting
  swept _ closing := by rcases closing with closing | closing <;> cases closing

end SovaDesk.Relay
