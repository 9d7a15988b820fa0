/-
This file settles whether every billed relay session is finalized exactly once.

A relay session calls `ActivateRelay` when it starts and `EndRelay` when it ends, both
under the UUID its clients chose. The map of the billing sessions in progress has one
place for each UUID and is overwritten without a look: when two relay sessions under one
UUID overlap, the billing session of the first is lost, and the first to end finalizes
that of the other. In the runs in which a relay session never stores or takes a billing
session while another one under its UUID has one in progress, every billing session is
finalized once, by its own relay session.
-/

import SovaDesk.Billing.Conservation

namespace SovaDesk.Billing

open Transition

/-! ### Relay sessions -/

/-- A billing session as `ActivateRelay` opened it. -/
structure Opened where
  sessionID : String
  startedAt : Int
  deriving DecidableEq

/-- A relay session: its UUID, the call of `ActivateRelay` at its start and, once it has ended, the
call of `EndRelay`. -/
structure RelaySession where
  relayUUID : String
  activation : Nat
  ending : Option Nat
  deriving DecidableEq

/-- A call of `EndRelay` has passed a billing session to `finalizeSession`. -/
structure Finalization where
  ending : Nat
  opened : Opened
  deriving DecidableEq

/-- The billing service with the relay sessions that drive it, the billing sessions that calls of
`ActivateRelay` have opened, and the finalizations. -/
structure Relayed where
  service : State
  relays : Table Nat RelaySession
  opened : Table Nat Opened
  finalized : List Finalization

/-- A relay session starts or ends, each with a new call, or the service takes a step. -/
inductive RelayedLabel
  | service (label : Label)
  | start (r t : Nat) (relayUUID : String)
  | finish (r t : Nat)
  deriving DecidableEq

def ActiveSession.opened (session : ActiveSession) : Opened := ⟨session.id, session.startedAt⟩

/-- The billing session in progress under a UUID. -/
def State.entry (s : State) (relayUUID : String) : Option Opened :=
  (s.active.lookup relayUUID).map ActiveSession.opened

/-- The billing session that the next step of a call opens: an id that exists is refused. -/
def opens (s : State) (t : Nat) (input : Input) : Option Opened :=
  match s.threads.lookup t with
  | some (.activateCreate ..) =>
    if (s.db.sessions.lookup input.sessionID).isSome then none
    else some ⟨input.sessionID, input.reading.now⟩
  | _ => none

/-- What the next step of a call passes to `finalizeSession`. -/
def passes (s : State) (t : Nat) : Option Finalization :=
  match s.threads.lookup t with
  | some (.endTake relayUUID) => (s.entry relayUUID).map (⟨t, ·⟩)
  | _ => none

/-- The relay server refuses an empty UUID, and calls `EndRelay` after `ActivateRelay` has
returned. -/
def relayedStep (settings : Settings) (s : Relayed) : RelayedLabel → Option Relayed
  | .service (.step t input) =>
    (step settings s.service (.step t input)).map fun service =>
      { service
        relays := s.relays
        opened :=
          match opens s.service t input with
          | some opened => s.opened.insert t opened
          | none => s.opened
        finalized := s.finalized ++ (passes s.service t).toList }
  | .service (.activateRelay _ _) | .service (.endRelay _ _) => none
  | .service label => (step settings s.service label).map fun service => { s with service }
  | .start r t relayUUID =>
    if relayUUID = "" ∨ (s.relays.lookup r).isSome then none
    else
      (step settings s.service (.activateRelay t relayUUID)).map fun service =>
        { s with service, relays := s.relays.insert r ⟨relayUUID, t, none⟩ }
  | .finish r t =>
    match s.relays.lookup r with
    | none => none
    | some relay =>
      if relay.ending.isSome ∨ s.service.threads.lookup relay.activation ≠ some .done then none
      else
        (step settings s.service (.endRelay t relay.relayUUID)).map fun service =>
          { s with service, relays := s.relays.insert r { relay with ending := some t } }

/-- Runs from a server that has just started, on any tables. -/
def relayed (settings : Settings) : System Relayed RelayedLabel where
  start s := s.service = fresh s.service.db ∧ s.relays = ∅ ∧ s.opened = ∅ ∧ s.finalized = []
  step := relayedStep settings

/-! ### The property -/

/-- The call of `EndRelay` that has looked for the billing session of a relay session. -/
def RelaySession.taker (relay : RelaySession) (s : State) : Option Nat :=
  relay.ending.filter fun t => s.threads.lookup t ≠ some (.endTake relay.relayUUID)

/-- Every billing session is finalized once its relay session has ended and not before, by the
`EndRelay` of that relay session, with the time at which it was opened, and exactly once. -/
def FinalizedOnce (s : Relayed) : Prop :=
  ∀ r relay opened, s.relays.lookup r = some relay →
    s.opened.lookup relay.activation = some opened →
      (s.finalized.filter (·.opened.sessionID = opened.sessionID)) =
        ((relay.taker s.service).map (⟨·, opened⟩)).toList

/-! ### The condition -/

/-- A relay session has a billing session in progress: it has opened it and returned from
`ActivateRelay`, and its `EndRelay` has not looked for it. -/
def InProgress (s : Relayed) (relay : RelaySession) : Prop :=
  (s.opened.lookup relay.activation).isSome ∧
    s.service.threads.lookup relay.activation = some .done ∧ relay.taker s.service = none

instance (s : Relayed) (relay : RelaySession) : Decidable (InProgress s relay) :=
  inferInstanceAs (Decidable (_ ∧ _ ∧ _))

/-- When a call of `ActivateRelay` stores its billing session, and when a call of `EndRelay` looks
for one, no other relay session under the UUID has a billing session in progress. -/
def Thread.Alone (s : Relayed) (t : Nat) : Thread → Prop
  | .activateStore relayUUID _ =>
    ∀ r relay, s.relays.lookup r = some relay → relay.relayUUID = relayUUID → ¬ InProgress s relay
  | .endTake relayUUID =>
    ∀ r relay, s.relays.lookup r = some relay → relay.relayUUID = relayUUID →
      InProgress s relay → relay.ending = some t
  | _ => True

def Alone (s : Relayed) : RelayedLabel → Prop
  | .service (.step t _) => ∀ thread ∈ s.service.threads.lookup t, thread.Alone s t
  | _ => True

instance (s : Relayed) (t : Nat) (thread : Thread) : Decidable (thread.Alone s t) :=
  match thread with
  | .activateStore _ _ | .endTake _ => s.relays.decidableForall _
  | .activateTake _ | .activateRead .. | .activateCreate .. | .activateLedger .. | .endSplit _
  | .endRead .. | .endUpdate .. | .endLedger .. | .endReadContract .. | .endWriteContract ..
  | .tickNext _ | .tickLedger .. | .done => instDecidableTrue

instance (s : Relayed) (label : RelayedLabel) : Decidable (Alone s label) :=
  match label with
  | .service (.step t _) =>
    inferInstanceAs (Decidable (∀ thread ∈ s.service.threads.lookup t, thread.Alone s t))
  | .service (.prepare ..) | .service (.sweepPending _) | .service (.activateRelay ..)
  | .service (.endRelay ..) | .service (.tickActive _) | .start .. | .finish .. =>
    instDecidableTrue

/-! ### The invariant -/

/-- The UUID of a call of `ActivateRelay` that has not returned. -/
def Thread.activates : Thread → Option String
  | .activateTake relayUUID | .activateRead relayUUID _ | .activateCreate relayUUID _ _ _
  | .activateLedger relayUUID _ | .activateStore relayUUID _ => some relayUUID
  | _ => none

/-- The billing session that it has opened. -/
def Thread.opened : Thread → Option Opened
  | .activateLedger _ session | .activateStore _ session => some session.opened
  | _ => none

/-- A call is about to open a billing session. -/
def Thread.creates : Thread → Bool
  | .activateCreate .. => true
  | _ => false

/-- The UUID of a call of `EndRelay` that has not looked for the billing session. -/
def Thread.takes : Thread → Option String
  | .endTake relayUUID => some relayUUID
  | _ => none

/-- The calls belong to the relay sessions. -/
structure Calls (s : Relayed) : Prop where
  named : ∀ r relay, s.relays.lookup r = some relay → relay.relayUUID ≠ ""
  activation : ∀ r relay, s.relays.lookup r = some relay →
    s.service.threads.lookup relay.activation = some .done ∨
      ∃ thread, s.service.threads.lookup relay.activation = some thread ∧
        thread.activates = some relay.relayUUID ∧ relay.ending = none ∧
        thread.opened = s.opened.lookup relay.activation
  ending : ∀ r relay t, s.relays.lookup r = some relay → relay.ending = some t →
    ∃ thread, s.service.threads.lookup t = some thread ∧ thread.activates = none ∧
      ∀ relayUUID, thread.takes = some relayUUID → relayUUID = relay.relayUUID
  activator : ∀ t thread, s.service.threads.lookup t = some thread → thread.activates ≠ none →
    ∃ r relay, s.relays.lookup r = some relay ∧ relay.activation = t
  taker : ∀ t thread, s.service.threads.lookup t = some thread → thread.takes ≠ none →
    ∃ r relay, s.relays.lookup r = some relay ∧ relay.ending = some t
  oneActivation : ∀ r other first second, s.relays.lookup r = some first →
    s.relays.lookup other = some second → first.activation = second.activation → r = other
  oneEnding : ∀ r other first second t, s.relays.lookup r = some first →
    s.relays.lookup other = some second → first.ending = some t → second.ending = some t →
      r = other

/-- The billing sessions are where the relay sessions left them. -/
structure Sessions (s : Relayed) : Prop where
  known : ∀ t opened, s.opened.lookup t = some opened →
    (∃ r relay, s.relays.lookup r = some relay ∧ relay.activation = t) ∧
      (s.service.db.sessions.lookup opened.sessionID).isSome
  distinct : ∀ t other first second, s.opened.lookup t = some first →
    s.opened.lookup other = some second → first.sessionID = second.sessionID → t = other
  entries : ∀ relayUUID opened, s.service.entry relayUUID = some opened ↔
    ∃ r relay, s.relays.lookup r = some relay ∧ relay.relayUUID = relayUUID ∧
      InProgress s relay ∧ s.opened.lookup relay.activation = some opened
  passed : ∀ finalization ∈ s.finalized,
    ∃ t, s.opened.lookup t = some finalization.opened
  once : FinalizedOnce s

structure Attended (s : Relayed) : Prop where
  calls : Calls s
  sessions : Sessions s

section attended

variable {settings : Settings} {s : Relayed} {service : State} {t : Nat} {thread next : Thread}

/-! ### What a step leaves -/

variable {opened : Table Nat Opened}

/-- A call that moves on keeps to its relay session. -/
theorem Calls.move (calls : Calls s) {finalized : List Finalization}
    (threads : service.threads = s.service.threads.insert t next)
    (others : ∀ call, call ≠ t → opened.lookup call = s.opened.lookup call)
    (own : ∀ r relay, s.relays.lookup r = some relay → relay.activation = t → next = .done ∨
      (next.activates = some relay.relayUUID ∧ relay.ending = none ∧
        next.opened = opened.lookup t))
    (ended : ∀ r relay, s.relays.lookup r = some relay → relay.ending = some t →
      next.activates = none ∧
        ∀ relayUUID, next.takes = some relayUUID → relayUUID = relay.relayUUID)
    (activator : next.activates ≠ none →
      ∃ r relay, s.relays.lookup r = some relay ∧ relay.activation = t)
    (taker : next.takes ≠ none →
      ∃ r relay, s.relays.lookup r = some relay ∧ relay.ending = some t) :
    Calls { s with service, opened, finalized } where
  named := calls.named
  activation := by
    intro r relay found
    rw [threads, Table.lookup_insert_if]
    by_cases same : relay.activation = t
    · rw [if_pos same, same]
      rcases own r relay found same with rfl | moved
      · exact .inl rfl
      · exact .inr ⟨next, rfl, moved⟩
    · rw [if_neg same, others _ same]
      exact calls.activation r relay found
  ending := by
    intro r relay call found isEnding
    rw [threads, Table.lookup_insert_if]
    by_cases same : call = t
    · rw [if_pos same]
      exact ⟨next, rfl, ended r relay found (same ▸ isEnding)⟩
    · rw [if_neg same]
      exact calls.ending r relay call found isEnding
  activator := by
    intro call other found activates
    rw [threads] at found
    rcases Table.lookup_insert_iff.mp found with ⟨rfl, rfl⟩ | ⟨_, before⟩
    · exact activator activates
    · exact calls.activator call other before activates
  taker := by
    intro call other found takes
    rw [threads] at found
    rcases Table.lookup_insert_iff.mp found with ⟨rfl, rfl⟩ | ⟨_, before⟩
    · exact taker takes
    · exact calls.taker call other before takes
  oneActivation := calls.oneActivation
  oneEnding := calls.oneEnding

/-- A relay session before and after a step that leaves its billing session where it is. -/
structure Alike (s : Relayed) (service : State) (before now : RelaySession) : Prop where
  activation : now.activation = before.activation
  relayUUID : now.relayUUID = before.relayUUID
  progress : InProgress { s with service } now ↔ InProgress s before
  taker : now.taker service = before.taker s.service

/-- A step that opens, stores, takes and finalizes nothing. A relay session that is new has opened
nothing. -/
theorem Sessions.frame (sessions : Sessions s) {relays : Table Nat RelaySession}
    (rows : s.service.KeepsRows service)
    (entry : ∀ relayUUID, service.entry relayUUID = s.service.entry relayUUID)
    (stays : ∀ r before, s.relays.lookup r = some before →
      ∃ now, relays.lookup r = some now ∧ Alike s service before now)
    (stood : ∀ r now, relays.lookup r = some now → (s.opened.lookup now.activation).isSome →
      ∃ before, s.relays.lookup r = some before ∧ Alike s service before now) :
    Sessions { s with service, relays } where
  known := by
    intro call session found
    obtain ⟨⟨r, relay, isRelay, isCall⟩, row⟩ := sessions.known call session found
    obtain ⟨now, isNow, alike⟩ := stays r relay isRelay
    exact ⟨⟨r, now, isNow, alike.activation.trans isCall⟩, rows _ row⟩
  distinct := sessions.distinct
  entries := by
    intro relayUUID session
    rw [entry, sessions.entries]
    constructor
    · rintro ⟨r, before, found, isUUID, isInProgress, isOpened⟩
      obtain ⟨now, isNow, alike⟩ := stays r before found
      exact ⟨r, now, isNow, alike.relayUUID.trans isUUID, alike.progress.mpr isInProgress,
        alike.activation ▸ isOpened⟩
    · rintro ⟨r, now, isNow, isUUID, isInProgress, isOpened⟩
      obtain ⟨before, found, alike⟩ := stood r now isNow (by rw [isOpened]; rfl)
      exact ⟨r, before, found, alike.relayUUID.symm.trans isUUID, alike.progress.mp isInProgress,
        alike.activation ▸ isOpened⟩
  passed := sessions.passed
  once := by
    intro r now session isNow isOpened
    obtain ⟨before, found, alike⟩ := stood r now isNow (by rw [isOpened]; rfl)
    rw [alike.taker]
    exact sessions.once r before session found (alike.activation ▸ isOpened)

theorem Sessions.frame_relays (sessions : Sessions s) (rows : s.service.KeepsRows service)
    (entry : ∀ relayUUID, service.entry relayUUID = s.service.entry relayUUID)
    (progress : ∀ r relay, s.relays.lookup r = some relay →
      (InProgress { s with service } relay ↔ InProgress s relay))
    (taker : ∀ r relay, s.relays.lookup r = some relay →
      relay.taker service = relay.taker s.service) : Sessions { s with service } := by
  have alike : ∀ r relay, s.relays.lookup r = some relay → Alike s service relay relay :=
    fun r relay found => ⟨rfl, rfl, progress r relay found, taker r relay found⟩
  exact sessions.frame rows entry (fun r relay found => ⟨relay, found, alike r relay found⟩)
    fun r relay found _ => ⟨relay, found, alike r relay found⟩

variable {relay : RelaySession}

/-- Whether a relay session's `EndRelay` has looked for the billing session, after a call has
moved on. -/
theorem taker_of_insert (threads : service.threads = s.service.threads.insert t next)
    (kept : relay.ending = some t →
      (s.service.threads.lookup t = some (.endTake relay.relayUUID) ↔
        next = .endTake relay.relayUUID)) :
    relay.taker service = relay.taker s.service := by
  unfold RelaySession.taker
  cases isEnding : relay.ending with
  | none => rfl
  | some call =>
    have same : (service.threads.lookup call = some (.endTake relay.relayUUID)) ↔
        s.service.threads.lookup call = some (.endTake relay.relayUUID) := by
      rw [threads, Table.lookup_insert_if]
      split
      · next isCall =>
        subst isCall
        rw [Option.some_inj]
        exact (kept isEnding).symm
      · exact Iff.rfl
    simp only [Option.filter_some, ne_eq, same]

/-- A call that neither starts nor ends a relay session moves on. -/
theorem attended_quiet (attended : Attended s)
    (threads : service.threads = s.service.threads.insert t next)
    (before : ∀ thread, s.service.threads.lookup t = some thread →
      thread ≠ .done ∧ thread.activates = none ∧ thread.takes = none)
    (activates : next.activates = none) (takes : next.takes = none)
    (rows : s.service.KeepsRows service)
    (entry : ∀ relayUUID, service.entry relayUUID = s.service.entry relayUUID) :
    Attended { s with service } := by
  have foreign : ∀ r relay, s.relays.lookup r = some relay → relay.activation ≠ t := by
    rintro r relay found rfl
    rcases attended.calls.activation r relay found with done | ⟨thread, stands, activating, _⟩
    · exact (before _ done).1 rfl
    · rw [(before _ stands).2.1] at activating
      exact (nomatch activating)
  have taker : ∀ r relay, s.relays.lookup r = some relay →
      relay.taker service = relay.taker s.service := by
    intro r relay _
    refine taker_of_insert threads fun _ => iff_of_false (fun stands => ?_) fun same => ?_
    · exact absurd (before _ stands).2.2 (Option.some_ne_none _)
    · subst same
      exact absurd takes (Option.some_ne_none _)
  refine ⟨attended.calls.move threads (fun _ _ => rfl) ?_ ?_ ?_ ?_,
    attended.sessions.frame_relays rows entry ?_ taker⟩
  · exact fun r relay found same => absurd same (foreign r relay found)
  · intro r relay _ _
    rw [activates, takes]
    exact ⟨rfl, fun _ none => nomatch none⟩
  · exact fun activating => absurd activates activating
  · exact fun taking => absurd takes taking
  · intro r relay found
    unfold InProgress
    rw [taker r relay found, threads, Table.lookup_insert_if, if_neg (foreign r relay found)]

/-! ### A call of `ActivateRelay` -/

variable {relayUUID : String}

theorem ne_done_of_activates (activates : thread.activates = some relayUUID) :
    thread ≠ .done := by
  rintro rfl
  exact (nomatch activates)

theorem takes_of_activates (activates : thread.activates = some relayUUID) :
    thread.takes = none := by
  cases thread <;> first | rfl | exact (nomatch activates)

/-- The relay session of a call that has not returned. -/
theorem Calls.owner (calls : Calls s) (stands : s.service.threads.lookup t = some thread)
    (activates : thread.activates = some relayUUID) :
    ∃ r relay, s.relays.lookup r = some relay ∧ relay.activation = t ∧
      relay.relayUUID = relayUUID ∧ relay.ending = none ∧ thread.opened = s.opened.lookup t := by
  obtain ⟨r, relay, found, rfl⟩ :=
    calls.activator t thread stands (by rw [activates]; exact Option.some_ne_none _)
  refine ⟨r, relay, found, rfl, ?_⟩
  rcases calls.activation r relay found with done | ⟨other, otherStands, activating, rest⟩
  · rw [stands] at done
    exact absurd (Option.some.inj done) (ne_done_of_activates activates)
  · obtain rfl := Option.some.inj (stands.symm.trans otherStands)
    exact ⟨Option.some.inj (activating.symm.trans activates), rest⟩

variable {r : Nat}

/-- No two relay sessions have one call of `ActivateRelay`. -/
theorem Calls.eq_of_activation (calls : Calls s) {other : Nat} {first : RelaySession}
    (found : s.relays.lookup r = some relay) (otherFound : s.relays.lookup other = some first)
    (same : first.activation = relay.activation) : first = relay := by
  obtain rfl := calls.oneActivation other r first relay otherFound found same
  exact Option.some.inj (otherFound.symm.trans found)

/-- It is no call of `EndRelay`. -/
theorem Calls.not_ending (calls : Calls s) (stands : s.service.threads.lookup t = some thread)
    (activates : thread.activates = some relayUUID)
    (found : s.relays.lookup r = some relay) : relay.ending ≠ some t := by
  intro isEnding
  obtain ⟨other, otherStands, idle, _⟩ := calls.ending r relay t found isEnding
  obtain rfl := Option.some.inj (stands.symm.trans otherStands)
  exact absurd (activates.symm.trans idle) (Option.some_ne_none _)

/-- Moving it on keeps it to its relay session. -/
theorem Calls.advance (calls : Calls s) (stands : s.service.threads.lookup t = some thread)
    (activates : thread.activates = some relayUUID)
    (threads : service.threads = s.service.threads.insert t next)
    (others : ∀ call, call ≠ t → opened.lookup call = s.opened.lookup call)
    (goes : next = .done ∨ (next.activates = some relayUUID ∧ next.opened = opened.lookup t)) :
    Calls { s with service, opened } := by
  obtain ⟨r, relay, found, isActivation, sameUUID, unended, _⟩ := calls.owner stands activates
  refine calls.move threads others (fun other first otherFound isCall => ?_)
    (fun other first otherFound isEnding => ?_) (fun _ => ⟨r, relay, found, isActivation⟩)
    fun taking => ?_
  · obtain rfl := calls.eq_of_activation found otherFound (isCall.trans isActivation.symm)
    rcases goes with returns | ⟨activating, kept⟩
    · exact .inl returns
    · exact .inr ⟨by rw [activating, sameUUID], unended, kept⟩
  · exact absurd isEnding (calls.not_ending stands activates otherFound)
  · rcases goes with rfl | ⟨activating, _⟩
    · exact absurd rfl taking
    · exact absurd (takes_of_activates activating) taking

/-- Moving it on changes for no relay session whether its call of `EndRelay` has looked. -/
theorem Calls.taker_of_activates (calls : Calls s)
    (stands : s.service.threads.lookup t = some thread)
    (activates : thread.activates = some relayUUID)
    (threads : service.threads = s.service.threads.insert t next) (r : Nat)
    (relay : RelaySession) (found : s.relays.lookup r = some relay) :
    relay.taker service = relay.taker s.service :=
  taker_of_insert threads fun isEnding =>
    absurd isEnding (calls.not_ending stands activates found)

/-- The relay session of a call that has not returned has no billing session in progress. -/
theorem not_inProgress_of_activates
    (isCall : relay.activation = t) (stands : s.service.threads.lookup t = some thread)
    (activates : thread.activates = some relayUUID) : ¬ InProgress s relay := by
  rintro ⟨_, done, _⟩
  rw [isCall, stands, Option.some_inj] at done
  exact ne_done_of_activates activates done

/-- Nor has one whose call has opened none. -/
theorem not_inProgress_of_unopened (isCall : relay.activation = t)
    (unopened : s.opened.lookup t = none) : ¬ InProgress s relay := by
  rintro ⟨isOpened, _⟩
  rw [isCall, unopened] at isOpened
  exact Bool.false_ne_true isOpened

/-- The relay sessions that do not make the call keep their billing sessions in progress. -/
theorem inProgress_of_insert {relays : Table Nat RelaySession} {finalized : List Finalization}
    (threads : service.threads = s.service.threads.insert t next)
    (others : ∀ call, call ≠ t → opened.lookup call = s.opened.lookup call)
    (taker : relay.taker service = relay.taker s.service) (foreign : relay.activation ≠ t) :
    InProgress ⟨service, relays, opened, finalized⟩ relay ↔ InProgress s relay := by
  unfold InProgress
  rw [others _ foreign, taker, threads, Table.lookup_insert_if, if_neg foreign]

/-- A call of `ActivateRelay` moves on without opening or storing a billing session. -/
theorem attended_advance (attended : Attended s) (stands : s.service.threads.lookup t = some thread)
    (activates : thread.activates = some relayUUID)
    (threads : service.threads = s.service.threads.insert t next)
    (goes : (next = .done ∧ thread.opened = none) ∨
      (next.activates = some relayUUID ∧ next.opened = thread.opened))
    (rows : s.service.KeepsRows service)
    (entry : ∀ relayUUID, service.entry relayUUID = s.service.entry relayUUID) :
    Attended { s with service } := by
  obtain ⟨_, _, _, _, _, _, sameOpened⟩ := attended.calls.owner stands activates
  have stands' : service.threads.lookup t = some next := by
    rw [threads]
    exact AList.lookup_insert _
  have taker := attended.calls.taker_of_activates stands activates threads
  refine ⟨attended.calls.advance stands activates threads (fun _ _ => rfl) ?_,
    attended.sessions.frame_relays rows entry ?_ taker⟩
  · rcases goes with ⟨returns, _⟩ | ⟨activating, kept⟩
    · exact .inl returns
    · exact .inr ⟨activating, kept.trans sameOpened⟩
  · intro other first otherFound
    by_cases isCall : first.activation = t
    · -- the call has opened nothing when it returns, and had not returned before
      refine iff_of_false ?_ (not_inProgress_of_activates isCall stands activates)
      rcases goes with ⟨_, unopened⟩ | ⟨activating, _⟩
      · exact not_inProgress_of_unopened isCall (sameOpened.symm.trans unopened)
      · exact not_inProgress_of_activates isCall stands' activating
    · exact inProgress_of_insert threads (fun _ _ => rfl) (taker other first otherFound) isCall

/-- A call of `ActivateRelay` opens a billing session under a new id. -/
theorem attended_create (attended : Attended s) (session : Opened)
    (stands : s.service.threads.lookup t = some thread)
    (activates : thread.activates = some relayUUID) (unopened : thread.opened = none)
    (threads : service.threads = s.service.threads.insert t next)
    (activating : next.activates = some relayUUID) (holds : next.opened = some session)
    (new : s.service.db.sessions.lookup session.sessionID = none)
    (rows : ∀ id, (s.service.db.sessions.lookup id).isSome ∨ id = session.sessionID →
      (service.db.sessions.lookup id).isSome)
    (entry : ∀ relayUUID, service.entry relayUUID = s.service.entry relayUUID) :
    Attended { s with service, opened := s.opened.insert t session } := by
  obtain ⟨r, relay, found, isActivation, sameUUID, unended, sameOpened⟩ :=
    attended.calls.owner stands activates
  have absent : s.opened.lookup t = none := sameOpened.symm.trans unopened
  have others : ∀ call, call ≠ t → (s.opened.insert t session).lookup call = s.opened.lookup call :=
    fun call different => AList.lookup_insert_ne different
  have own : (s.opened.insert t session).lookup t = some session := AList.lookup_insert _
  have stands' : service.threads.lookup t = some next := by
    rw [threads]
    exact AList.lookup_insert _
  have taker := attended.calls.taker_of_activates stands activates threads
  -- the id is new, so that no other call has opened a session under it
  have fresh : ∀ call other, s.opened.lookup call = some other →
      other.sessionID ≠ session.sessionID := by
    intro call other isOpened same
    have row := (attended.sessions.known call other isOpened).2
    rw [same, new] at row
    exact Bool.false_ne_true row
  refine ⟨attended.calls.advance stands activates threads others
    (.inr ⟨activating, holds.trans own.symm⟩), ?_⟩
  constructor
  case known =>
    intro call other isOpened
    rcases Table.lookup_insert_iff.mp isOpened with ⟨rfl, rfl⟩ | ⟨_, before⟩
    · exact ⟨⟨r, relay, found, isActivation⟩, rows _ (.inr rfl)⟩
    · obtain ⟨owned, row⟩ := attended.sessions.known call other before
      exact ⟨owned, rows _ (.inl row)⟩
  case distinct =>
    intro call other first second isFirst isSecond same
    rcases Table.lookup_insert_iff.mp isFirst with ⟨rfl, rfl⟩ | ⟨_, beforeFirst⟩ <;>
      rcases Table.lookup_insert_iff.mp isSecond with ⟨rfl, rfl⟩ | ⟨_, beforeSecond⟩
    · rfl
    · exact absurd same.symm (fresh _ _ beforeSecond)
    · exact absurd same (fresh _ _ beforeFirst)
    · exact attended.sessions.distinct _ _ _ _ beforeFirst beforeSecond same
  case entries =>
    intro uuid other
    rw [entry, attended.sessions.entries]
    refine exists_congr fun q => exists_congr fun first => and_congr_right fun otherFound =>
      and_congr_right fun _ => ?_
    by_cases isCall : first.activation = t
    · refine iff_of_false (fun before => ?_) fun now => ?_
      · exact not_inProgress_of_unopened isCall absent before.1
      · exact not_inProgress_of_activates isCall stands' activating now.1
    · rw [inProgress_of_insert threads others (taker q first otherFound) isCall, others _ isCall]
  case passed =>
    intro finalization member
    obtain ⟨call, before⟩ := attended.sessions.passed finalization member
    have different : call ≠ t := by
      rintro rfl
      exact absurd (absent.symm.trans before).symm (Option.some_ne_none _)
    exact ⟨call, by rw [others call different, before]⟩
  case once =>
    intro q first other otherFound isOpened
    rw [taker q first otherFound]
    by_cases isCall : first.activation = t
    · obtain rfl := attended.calls.eq_of_activation found otherFound
        (isCall.trans isActivation.symm)
      obtain rfl := Option.some.inj ((isCall ▸ isOpened).symm.trans own)
      have left : first.taker s.service = none := by
        rw [RelaySession.taker, unended]
        rfl
      rw [left]
      refine List.filter_eq_nil_iff.mpr fun finalization member same => ?_
      obtain ⟨call, before⟩ := attended.sessions.passed finalization member
      exact fresh call _ before (of_decide_eq_true same)
    · rw [others _ isCall] at isOpened
      exact attended.sessions.once q first other otherFound isOpened

/-- A call of `ActivateRelay` stores its billing session where none is in progress, and returns. -/
theorem attended_store (attended : Attended s) {session : Opened}
    (stands : s.service.threads.lookup t = some thread)
    (activates : thread.activates = some relayUUID) (holds : thread.opened = some session)
    (alone : ∀ r relay, s.relays.lookup r = some relay → relay.relayUUID = relayUUID →
      ¬ InProgress s relay)
    (threads : service.threads = s.service.threads.insert t .done)
    (rows : s.service.KeepsRows service)
    (entry : ∀ other, service.entry other =
      if other = relayUUID then some session else s.service.entry other) :
    Attended { s with service } := by
  obtain ⟨r, relay, found, isActivation, sameUUID, unended, sameOpened⟩ :=
    attended.calls.owner stands activates
  have own : s.opened.lookup t = some session := sameOpened.symm.trans holds
  have taker := attended.calls.taker_of_activates stands activates threads
  have progress : ∀ other first, s.relays.lookup other = some first → first.activation ≠ t →
      (InProgress { s with service } first ↔ InProgress s first) :=
    fun other first otherFound foreign =>
      inProgress_of_insert threads (fun _ _ => rfl) (taker other first otherFound) foreign
  have ownProgress : InProgress { s with service } relay := by
    refine ⟨?_, ?_, ?_⟩
    · rw [isActivation, own]
      rfl
    · rw [isActivation, threads]
      exact AList.lookup_insert _
    · rw [RelaySession.taker, unended]
      rfl
  refine ⟨attended.calls.advance stands activates threads (fun _ _ => rfl) (.inl rfl), ?_⟩
  constructor
  case known =>
    exact fun call opened found => (attended.sessions.known call opened found).imp_right (rows _)
  case distinct => exact attended.sessions.distinct
  case entries =>
    intro uuid other
    rw [entry]
    split
    · next isUUID =>
      subst isUUID
      constructor
      · intro same
        exact ⟨r, relay, found, sameUUID, ownProgress, by rw [isActivation, own, same]⟩
      · rintro ⟨q, first, otherFound, isUUID, isInProgress, isOpened⟩
        by_cases isCall : first.activation = t
        · rw [isCall, own] at isOpened
          exact isOpened
        · exact absurd ((progress q first otherFound isCall).mp isInProgress)
            (alone q first otherFound isUUID)
    · next different =>
      rw [attended.sessions.entries]
      refine exists_congr fun q => exists_congr fun first => and_congr_right fun otherFound =>
        and_congr_right fun isUUID => and_congr_left fun _ => ?_
      by_cases isCall : first.activation = t
      · obtain rfl := attended.calls.eq_of_activation found otherFound
          (isCall.trans isActivation.symm)
        exact absurd (isUUID.symm.trans sameUUID) different
      · exact (progress q first otherFound isCall).symm
  case passed => exact attended.sessions.passed
  case once =>
    intro q first other otherFound isOpened
    rw [taker q first otherFound]
    exact attended.sessions.once q first other otherFound isOpened

/-! ### A call of `EndRelay` -/

/-- A call of `EndRelay` looks for the billing session under its UUID, where only its own relay
session can have one in progress. -/
theorem attended_take (attended : Attended s)
    (stands : s.service.threads.lookup t = some (.endTake relayUUID))
    (alone : ∀ r relay, s.relays.lookup r = some relay → relay.relayUUID = relayUUID →
      InProgress s relay → relay.ending = some t)
    (threads : service.threads = s.service.threads.insert t next)
    (activates : next.activates = none) (takes : next.takes = none)
    (rows : s.service.KeepsRows service)
    (entry : ∀ other, service.entry other =
      if other = relayUUID then none else s.service.entry other) :
    Attended
      { s with
        service
        finalized := s.finalized ++ ((s.service.entry relayUUID).map (⟨t, ·⟩)).toList } := by
  obtain ⟨r, relay, found, isEnding⟩ := attended.calls.taker t _ stands (Option.some_ne_none _)
  have owns : ∀ other first, s.relays.lookup other = some first → first.ending = some t →
      first = relay := by
    intro other first otherFound isCall
    obtain rfl := attended.calls.oneEnding other r first relay t otherFound found isCall isEnding
    exact Option.some.inj (otherFound.symm.trans found)
  have sameUUID : relay.relayUUID = relayUUID := by
    obtain ⟨thread, isThread, _, taking⟩ := attended.calls.ending r relay t found isEnding
    obtain rfl := Option.some.inj (stands.symm.trans isThread)
    exact (taking relayUUID rfl).symm
  have foreign : ∀ other first, s.relays.lookup other = some first → first.activation ≠ t := by
    rintro other first otherFound rfl
    rcases attended.calls.activation other first otherFound with done | ⟨_, isThread, activating, _⟩
    · rw [stands] at done
      exact (nomatch done)
    · obtain rfl := Option.some.inj (stands.symm.trans isThread)
      exact (nomatch activating)
  -- before the step the call has not looked, and after it it has
  have untaken : relay.taker s.service = none := by
    rw [RelaySession.taker, isEnding, Option.filter_some, sameUUID, stands]
    exact if_neg (by simp)
  have taken : relay.taker service = some t := by
    have different : next ≠ .endTake relay.relayUUID := by
      rintro rfl
      exact (nomatch takes)
    simp [RelaySession.taker, isEnding, threads, different]
  have kept : ∀ other first, s.relays.lookup other = some first → first.ending ≠ some t →
      first.taker service = first.taker s.service := fun other first _ different =>
    taker_of_insert threads fun isCall => absurd isCall different
  have progress : ∀ other first, s.relays.lookup other = some first →
      (InProgress { s with service } first ↔ InProgress s first ∧ first.ending ≠ some t) := by
    intro other first otherFound
    by_cases isCall : first.ending = some t
    · obtain rfl := owns other first otherFound isCall
      refine iff_of_false ?_ fun both => both.2 isCall
      rintro ⟨_, _, left⟩
      exact absurd (taken.symm.trans left) (Option.some_ne_none _)
    · rw [inProgress_of_insert threads (fun _ _ => rfl)
        (kept other first otherFound isCall) (foreign other first otherFound)]
      exact (and_iff_left isCall).symm
  refine ⟨attended.calls.move threads (fun _ _ => rfl)
    (fun other first otherFound same => absurd same (foreign other first otherFound)) ?_
    (fun activating => absurd activates activating) (fun taking => absurd takes taking), ?_⟩
  · intro other first _ _
    rw [activates, takes]
    exact ⟨rfl, fun _ none => nomatch none⟩
  constructor
  case known =>
    exact fun call opened found => (attended.sessions.known call opened found).imp_right (rows _)
  case distinct => exact attended.sessions.distinct
  case entries =>
    intro uuid other
    rw [entry]
    split
    · next isUUID =>
      subst isUUID
      refine iff_of_false nofun ?_
      rintro ⟨q, first, otherFound, isUUID, isInProgress, _⟩
      obtain ⟨before, different⟩ := (progress q first otherFound).mp isInProgress
      exact different (alone q first otherFound isUUID before)
    · next different =>
      rw [attended.sessions.entries]
      refine exists_congr fun q => exists_congr fun first => and_congr_right fun otherFound =>
        and_congr_right fun isUUID => and_congr_left fun _ => ?_
      refine Iff.trans ?_ (progress q first otherFound).symm
      refine (and_iff_left fun isCall => different ?_).symm
      obtain rfl := owns q first otherFound isCall
      exact isUUID.symm.trans sameUUID
  case passed =>
    intro finalization member
    rcases List.mem_append.mp member with earlier | now
    · exact attended.sessions.passed finalization earlier
    · obtain ⟨session, isEntry, rfl⟩ := Option.map_eq_some_iff.mp (Option.mem_toList.mp now)
      obtain ⟨_, first, _, _, _, isOpened⟩ := (attended.sessions.entries _ _).mp isEntry
      exact ⟨first.activation, isOpened⟩
  case once =>
    intro q first other otherFound isOpened
    rw [List.filter_append, attended.sessions.once q first other otherFound isOpened]
    by_cases isCall : first.ending = some t
    · -- its own billing session was in progress and is the one that is found
      obtain rfl := owns q first otherFound isCall
      have returned : s.service.threads.lookup first.activation = some .done := by
        rcases attended.calls.activation q first otherFound with done | ⟨_, _, _, unended, _⟩
        · exact done
        · exact absurd (isCall.symm.trans unended) (Option.some_ne_none _)
      have isInProgress : InProgress s first :=
        ⟨by rw [isOpened]; rfl, returned, untaken⟩
      have isEntry : s.service.entry relayUUID = some other :=
        (attended.sessions.entries _ _).mpr ⟨q, first, otherFound, sameUUID, isInProgress, isOpened⟩
      rw [untaken, taken, isEntry]
      simp
    · -- what is found belongs to the relay session that ends
      rw [kept q first otherFound isCall]
      have apart : (((s.service.entry relayUUID).map (Finalization.mk t ·)).toList.filter
          (·.opened.sessionID = other.sessionID)) = [] := by
        refine List.filter_eq_nil_iff.mpr fun finalization member same => isCall ?_
        obtain ⟨session, isEntry, rfl⟩ := Option.map_eq_some_iff.mp (Option.mem_toList.mp member)
        obtain ⟨p, second, secondFound, isUUID, isInProgress, secondOpened⟩ :=
          (attended.sessions.entries _ _).mp isEntry
        have sameCall := attended.sessions.distinct _ _ _ _ secondOpened isOpened
          (of_decide_eq_true same)
        obtain rfl := attended.calls.eq_of_activation otherFound secondFound sameCall
        exact alone p second secondFound isUUID isInProgress
      rw [apart, List.append_nil]

/-! ### A relay session starts or ends -/

/-- The other calls stand where they stood when a call starts under a new name. -/
theorem lookup_of_new (unused : s.service.threads.lookup t = none)
    (threads : service.threads = s.service.threads.insert t next) {call : Nat}
    (stands : s.service.threads.lookup call = some thread) :
    service.threads.lookup call = some thread := by
  rw [threads, Table.lookup_insert_if, if_neg]
  · exact stands
  · rintro rfl
    exact absurd (unused.symm.trans stands).symm (Option.some_ne_none _)

theorem Calls.activation_stands (calls : Calls s) (found : s.relays.lookup r = some relay) :
    ∃ thread, s.service.threads.lookup relay.activation = some thread := by
  rcases calls.activation r relay found with done | ⟨thread, stands, _⟩
  · exact ⟨_, done⟩
  · exact ⟨thread, stands⟩

/-- The relay sessions there were see no difference. -/
theorem taker_of_new (calls : Calls s) (unused : s.service.threads.lookup t = none)
    (threads : service.threads = s.service.threads.insert t next)
    (found : s.relays.lookup r = some relay) :
    relay.taker service = relay.taker s.service := by
  unfold RelaySession.taker
  cases isEnding : relay.ending with
  | none => rfl
  | some call =>
    obtain ⟨thread, stands, _⟩ := calls.ending r relay call found isEnding
    rw [Option.filter_some, Option.filter_some, stands, lookup_of_new unused threads stands]

/-- A call under a new name is no relay session's. -/
theorem Calls.foreign_of_new (calls : Calls s) (unused : s.service.threads.lookup t = none)
    (found : s.relays.lookup r = some relay) :
    relay.activation ≠ t ∧ relay.ending ≠ some t := by
  constructor
  · rintro rfl
    obtain ⟨thread, stands⟩ := calls.activation_stands found
    exact absurd (unused.symm.trans stands).symm (Option.some_ne_none _)
  · intro isEnding
    obtain ⟨thread, stands, _⟩ := calls.ending r relay t found isEnding
    exact absurd (unused.symm.trans stands).symm (Option.some_ne_none _)

/-- A relay session that neither starts nor ends sees no difference. -/
theorem alike_of_new (calls : Calls s) (unused : s.service.threads.lookup t = none)
    (threads : service.threads = s.service.threads.insert t next)
    (found : s.relays.lookup r = some relay) : Alike s service relay relay where
  activation := rfl
  relayUUID := rfl
  progress := inProgress_of_insert threads (fun _ _ => rfl)
    (taker_of_new calls unused threads found) (calls.foreign_of_new unused found).1
  taker := taker_of_new calls unused threads found

/-- A relay session starts or ends with a call under a new name. -/
theorem Calls.insert (calls : Calls s) {now : RelaySession}
    (unused : s.service.threads.lookup t = none)
    (threads : service.threads = s.service.threads.insert t next) (named : now.relayUUID ≠ "")
    (activation : service.threads.lookup now.activation = some .done ∨
      (now.activation = t ∧ next.activates = some now.relayUUID ∧ now.ending = none ∧
        next.opened = s.opened.lookup t))
    (ending : ∀ call, now.ending = some call → call = t ∧ next.activates = none ∧
      ∀ relayUUID, next.takes = some relayUUID → relayUUID = now.relayUUID)
    (activator : next.activates ≠ none → now.activation = t)
    (taker : next.takes ≠ none → now.ending = some t)
    (replaced : ∀ relay, s.relays.lookup r = some relay →
      now.activation = relay.activation ∧ relay.ending = none)
    (origin : now.activation = t ∨
      ∃ relay, s.relays.lookup r = some relay ∧ relay.activation = now.activation) :
    Calls { s with service, relays := s.relays.insert r now } := by
  have stands : service.threads.lookup t = some next := by
    rw [threads]
    exact AList.lookup_insert _
  have isNow : (s.relays.insert r now).lookup r = some now := AList.lookup_insert _
  have stood : ∀ q other, (s.relays.insert r now).lookup q = some other →
      (q = r ∧ other = now) ∨ s.relays.lookup q = some other := fun q other isOther =>
    (Table.lookup_insert_iff.mp isOther).imp_right And.right
  -- the relay sessions keep their calls
  have stays : ∀ q before, s.relays.lookup q = some before →
      ∃ other, (s.relays.insert r now).lookup q = some other ∧
        other.activation = before.activation ∧
          ∀ call, before.ending = some call → other.ending = some call := by
    intro q before isBefore
    by_cases same : q = r
    · subst same
      obtain ⟨sameCall, unended⟩ := replaced before isBefore
      exact ⟨now, isNow, sameCall, fun call isEnding =>
        absurd (unended.symm.trans isEnding).symm (Option.some_ne_none _)⟩
    · exact ⟨before, (AList.lookup_insert_ne same).trans isBefore, rfl, fun _ isEnding => isEnding⟩
  -- no other relay session has its calls
  have foreign : ∀ q other, s.relays.lookup q = some other →
      other.activation = now.activation → q = r := by
    intro q other isOther same
    rcases origin with isNew | ⟨relay, found, isCall⟩
    · exact absurd (same.trans isNew) (calls.foreign_of_new unused isOther).1
    · exact calls.oneActivation q r other relay isOther found (same.trans isCall.symm)
  have unshared : ∀ q other call, s.relays.lookup q = some other → other.ending = some call →
      now.ending ≠ some call := by
    intro q other call isOther isEnding isCall
    obtain ⟨rfl, -⟩ := ending call isCall
    exact (calls.foreign_of_new unused isOther).2 isEnding
  constructor
  case named =>
    intro q other isOther
    rcases stood q other isOther with ⟨-, rfl⟩ | before
    · exact named
    · exact calls.named q other before
  case activation =>
    intro q other isOther
    rcases stood q other isOther with ⟨-, rfl⟩ | before
    · exact activation.imp_right fun ⟨isCall, rest⟩ => ⟨next, by rw [isCall, stands], isCall ▸ rest⟩
    · rcases calls.activation q other before with done | ⟨thread, isThread, rest⟩
      · exact .inl (lookup_of_new unused threads done)
      · exact .inr ⟨thread, lookup_of_new unused threads isThread, rest⟩
  case ending =>
    intro q other call isOther isEnding
    rcases stood q other isOther with ⟨-, rfl⟩ | before
    · obtain ⟨rfl, rest⟩ := ending call isEnding
      exact ⟨next, stands, rest⟩
    · obtain ⟨thread, isThread, rest⟩ := calls.ending q other call before isEnding
      exact ⟨thread, lookup_of_new unused threads isThread, rest⟩
  case activator =>
    intro call thread isThread activating
    rw [threads] at isThread
    rcases Table.lookup_insert_iff.mp isThread with ⟨rfl, rfl⟩ | ⟨_, before⟩
    · exact ⟨r, now, isNow, activator activating⟩
    · obtain ⟨q, other, isOther, isCall⟩ := calls.activator call thread before activating
      obtain ⟨later, isAfter, sameCall, _⟩ := stays q other isOther
      exact ⟨q, later, isAfter, sameCall.trans isCall⟩
  case taker =>
    intro call thread isThread taking
    rw [threads] at isThread
    rcases Table.lookup_insert_iff.mp isThread with ⟨rfl, rfl⟩ | ⟨_, before⟩
    · exact ⟨r, now, isNow, taker taking⟩
    · obtain ⟨q, other, isOther, isCall⟩ := calls.taker call thread before taking
      obtain ⟨later, isAfter, _, ends⟩ := stays q other isOther
      exact ⟨q, later, isAfter, ends call isCall⟩
  case oneActivation =>
    intro p q first second isFirst isSecond same
    rcases stood p first isFirst with ⟨rfl, rfl⟩ | beforeFirst <;>
      rcases stood q second isSecond with ⟨rfl, rfl⟩ | beforeSecond
    · rfl
    · exact (foreign q second beforeSecond same.symm).symm
    · exact foreign p first beforeFirst same
    · exact calls.oneActivation p q first second beforeFirst beforeSecond same
  case oneEnding =>
    intro p q first second call isFirst isSecond firstEnds secondEnds
    rcases stood p first isFirst with ⟨rfl, rfl⟩ | beforeFirst <;>
      rcases stood q second isSecond with ⟨rfl, rfl⟩ | beforeSecond
    · rfl
    · exact absurd firstEnds (unshared q second call beforeSecond secondEnds)
    · exact absurd secondEnds (unshared p first call beforeFirst firstEnds)
    · exact calls.oneEnding p q first second call beforeFirst beforeSecond firstEnds secondEnds

/-- A relay session starts. -/
theorem attended_start (attended : Attended s)
    (named : relayUUID ≠ "") (new : s.relays.lookup r = none)
    (unused : s.service.threads.lookup t = none)
    (threads : service.threads = s.service.threads.insert t (.activateTake relayUUID))
    (rows : service.db.sessions = s.service.db.sessions)
    (entry : ∀ other, service.entry other = s.service.entry other) :
    Attended { s with service, relays := s.relays.insert r ⟨relayUUID, t, none⟩ } := by
  have unopened : s.opened.lookup t = none := by
    refine Option.eq_none_iff_forall_ne_some.mpr fun session isOpened => ?_
    obtain ⟨⟨q, relay, found, isCall⟩, _⟩ := attended.sessions.known t session isOpened
    exact (attended.calls.foreign_of_new unused found).1 isCall
  refine ⟨attended.calls.insert unused threads named (.inr ⟨rfl, rfl, rfl, unopened.symm⟩) nofun
      (fun _ => rfl) (fun taking => absurd rfl taking) (fun relay found => ?_) (.inl rfl),
    attended.sessions.frame (fun _ row => by rw [rows]; exact row) entry ?_ ?_⟩
  · exact absurd (new.symm.trans found).symm (Option.some_ne_none _)
  · intro q relay found
    refine ⟨relay, Table.lookup_insert_iff.mpr (.inr ⟨?_, found⟩),
      alike_of_new attended.calls unused threads found⟩
    rintro rfl
    exact absurd (new.symm.trans found).symm (Option.some_ne_none _)
  · intro q relay found isOpened
    rcases Table.lookup_insert_iff.mp found with ⟨_, rfl⟩ | ⟨_, before⟩
    · rw [unopened] at isOpened
      exact absurd isOpened Bool.false_ne_true
    · exact ⟨relay, before, alike_of_new attended.calls unused threads before⟩

/-- A relay session ends. -/
theorem attended_finish (attended : Attended s)
    (found : s.relays.lookup r = some relay) (unended : relay.ending = none)
    (returned : s.service.threads.lookup relay.activation = some .done)
    (unused : s.service.threads.lookup t = none)
    (threads : service.threads = s.service.threads.insert t (.endTake relay.relayUUID))
    (rows : service.db.sessions = s.service.db.sessions)
    (entry : ∀ other, service.entry other = s.service.entry other) :
    Attended { s with service, relays := s.relays.insert r { relay with ending := some t } } := by
  -- its `EndRelay` has not looked yet
  have alike : Alike s service relay { relay with ending := some t } := by
    have unlooked :
        ({ relay with ending := some t } : RelaySession).taker service = none := by
      simp [RelaySession.taker, threads]
    have untaken : relay.taker s.service = none := by
      rw [RelaySession.taker, unended]
      rfl
    have stays : service.threads.lookup relay.activation = some .done :=
      lookup_of_new unused threads returned
    refine ⟨rfl, rfl, ?_, unlooked.trans untaken.symm⟩
    unfold InProgress
    rw [unlooked, untaken, returned, stays]
  have calls : Calls
      { s with service, relays := s.relays.insert r { relay with ending := some t } } := by
    refine attended.calls.insert unused threads (attended.calls.named r relay found)
      (.inl (lookup_of_new unused threads returned)) (fun call isEnding => ?_)
      (fun activating => absurd rfl activating) (fun _ => rfl) (fun before isBefore => ?_)
      (.inr ⟨relay, found, rfl⟩)
    · exact ⟨(Option.some.inj isEnding).symm, rfl, fun uuid same => (Option.some.inj same).symm⟩
    · obtain rfl := Option.some.inj (found.symm.trans isBefore)
      exact ⟨rfl, unended⟩
  refine ⟨calls, attended.sessions.frame (fun _ row => by rw [rows]; exact row) entry ?_ ?_⟩
  · intro q before isBefore
    by_cases same : q = r
    · subst same
      obtain rfl := Option.some.inj (found.symm.trans isBefore)
      exact ⟨_, AList.lookup_insert _, alike⟩
    · exact ⟨before, Table.lookup_insert_iff.mpr (.inr ⟨same, isBefore⟩),
        alike_of_new attended.calls unused threads isBefore⟩
  · intro q now isNow _
    rcases Table.lookup_insert_iff.mp isNow with ⟨rfl, rfl⟩ | ⟨_, before⟩
    · exact ⟨relay, found, alike⟩
    · exact ⟨now, before, alike_of_new attended.calls unused threads before⟩

/-! ### The steps of the calls -/

section steps

variable {input : Input} {service : State}

/-- The state after a call has taken a step. -/
def stepped (s : Relayed) (t : Nat) (input : Input) (service : State) : Relayed where
  service := service
  relays := s.relays
  opened :=
    match opens s.service t input with
    | some opened => s.opened.insert t opened
    | none => s.opened
  finalized := s.finalized ++ (passes s.service t).toList

theorem stepped_eq (opensNone : opens s.service t input = none)
    (passesNone : passes s.service t = none) : stepped s t input service = { s with service } := by
  unfold stepped
  rw [opensNone, passesNone, Option.toList_none, List.append_nil]

theorem opens_eq_none (stands : s.service.threads.lookup t = some thread)
    (other : thread.creates = false) : opens s.service t input = none := by
  unfold opens
  rw [stands]
  cases thread with
  | activateCreate relayUUID entry contract rate => exact (nomatch other)
  | _ => rfl

theorem passes_eq_none (stands : s.service.threads.lookup t = some thread)
    (idle : thread.takes = none) : passes s.service t = none := by
  unfold passes
  rw [stands]
  cases thread with
  | endTake relayUUID => exact (nomatch idle)
  | _ => rfl

/-- A progress tick keeps the billing sessions in progress. -/
theorem entry_tickNext (settings : Settings) (s : State) (t : Nat) (snapshot : List ActiveSession)
    (now : Int) (relayUUID : String) :
    (tickNext settings s t snapshot now).entry relayUUID = s.entry relayUUID := by
  unfold tickNext
  cases snapshot with
  | nil => rfl
  | cons session rest =>
    dsimp only
    cases found : s.active.lookup session.relayUUID with
    | none => rfl
    | some current =>
      unfold State.entry State.setThread
      dsimp only
      rw [Table.lookup_insert_if]
      split
      · next same =>
        rw [same, found]
        rfl
      · rfl

section

variable (attended : Attended s)

include attended

/-- A step of a call that belongs to no relay session, or has looked for its billing session. -/
theorem attended_quiet_step
    (stands : s.service.threads.lookup t = some thread) (running : thread ≠ .done)
    (activates : thread.activates = none) (takes : thread.takes = none)
    (threads : service.threads = s.service.threads.insert t next)
    (nextActivates : next.activates = none) (nextTakes : next.takes = none)
    (rows : s.service.KeepsRows service)
    (entry : ∀ relayUUID, service.entry relayUUID = s.service.entry relayUUID) :
    Attended (stepped s t input service) := by
  have idle : thread.creates = false := by
    cases thread <;> first | rfl | exact (nomatch activates)
  rw [stepped_eq (opens_eq_none stands idle) (passes_eq_none stands takes)]
  refine attended_quiet attended threads (fun other isThread => ?_) nextActivates nextTakes rows
    entry
  obtain rfl := Option.some.inj (stands.symm.trans isThread)
  exact ⟨running, activates, takes⟩

/-- A step of a call of `ActivateRelay` that neither opens nor stores a billing session. -/
theorem attended_advance_step (stands : s.service.threads.lookup t = some thread)
    (activates : thread.activates = some relayUUID) (none' : opens s.service t input = none)
    (threads : service.threads = s.service.threads.insert t next)
    (goes : (next = .done ∧ thread.opened = none) ∨
      (next.activates = some relayUUID ∧ next.opened = thread.opened))
    (db : service.db.sessions = s.service.db.sessions)
    (active : service.active = s.service.active) :
    Attended (stepped s t input service) := by
  have idle : thread.takes = none := by
    cases thread <;> first | rfl | exact (nomatch activates)
  rw [stepped_eq none' (passes_eq_none stands idle)]
  exact attended_advance attended stands activates threads goes
    (fun _ row => by rw [db]; exact row) fun _ => by unfold State.entry; rw [active]

/-- The first two steps of `ActivateRelay`, and its entry in the ledger. -/
theorem attended_activateTake
    (stands : s.service.threads.lookup t = some (.activateTake relayUUID)) :
    Attended (stepped s t input (activateTake s.service t relayUUID)) := by
  unfold activateTake
  split
  · exact attended_advance_step attended stands rfl (opens_eq_none stands rfl) rfl
      (.inl ⟨rfl, rfl⟩) rfl rfl
  · exact attended_advance_step attended stands rfl (opens_eq_none stands rfl) rfl
      (.inr ⟨rfl, rfl⟩) rfl rfl

theorem attended_activateRead {pending : PendingRelay}
    (stands : s.service.threads.lookup t = some (.activateRead relayUUID pending)) :
    Attended (stepped s t input (activateRead s.service t relayUUID pending)) := by
  unfold activateRead
  split
  · exact attended_advance_step attended stands rfl (opens_eq_none stands rfl) rfl
      (.inl ⟨rfl, rfl⟩) rfl rfl
  · exact attended_advance_step attended stands rfl (opens_eq_none stands rfl) rfl
      (.inr ⟨rfl, rfl⟩) rfl rfl

theorem attended_activateLedger {session : ActiveSession}
    (stands : s.service.threads.lookup t = some (.activateLedger relayUUID session)) :
    Attended (stepped s t input (activateLedger s.service t relayUUID session)) :=
  attended_advance_step attended stands rfl (opens_eq_none stands rfl) rfl (.inr ⟨rfl, rfl⟩) rfl rfl

theorem attended_activateCreate {pending : PendingRelay} {contract : BillingContract} {rate : Rat}
    (stands : s.service.threads.lookup t =
      some (.activateCreate relayUUID pending contract rate)) :
    Attended (stepped s t input
      (activateCreate s.service t relayUUID pending contract rate input)) := by
  have isOpened : opens s.service t input =
      if (s.service.db.sessions.lookup input.sessionID).isSome then none
      else some ⟨input.sessionID, input.reading.now⟩ := by
    unfold opens
    rw [stands]
  unfold activateCreate
  cases create : s.service.db.createBillingSession (startedRow relayUUID pending input) with
  | none =>
    have taken : (s.service.db.sessions.lookup input.sessionID).isSome := by
      by_contra free
      rw [BillingDB.createBillingSession] at create
      exact Option.some_ne_none _ ((if_neg free).symm.trans create)
    exact attended_advance_step attended stands rfl (isOpened.trans (if_pos taken)) rfl
      (.inl ⟨rfl, rfl⟩) rfl rfl
  | some db =>
    obtain ⟨free, rfl⟩ := of_guard_not create
    have new : s.service.db.sessions.lookup input.sessionID = none := by
      rwa [Option.not_isSome_iff_eq_none] at free
    have created : opens s.service t input = some ⟨input.sessionID, input.reading.now⟩ :=
      isOpened.trans (if_neg (by rw [new]; exact Bool.false_ne_true))
    unfold stepped
    rw [created, passes_eq_none stands rfl, Option.toList_none, List.append_nil]
    refine attended_create attended ⟨input.sessionID, input.reading.now⟩ stands rfl rfl rfl rfl rfl
      new (fun id stored => ?_) fun _ => rfl
    show (AList.lookup id (AList.insert input.sessionID _ _)).isSome
    rw [Table.lookup_insert_if]
    split
    · rfl
    · next different => exact stored.resolve_right different

theorem attended_activateStore {session : ActiveSession}
    (stands : s.service.threads.lookup t = some (.activateStore relayUUID session))
    (alone : ∀ r relay, s.relays.lookup r = some relay → relay.relayUUID = relayUUID →
      ¬ InProgress s relay) :
    Attended (stepped s t input (activateStore s.service t relayUUID session)) := by
  rw [stepped_eq (opens_eq_none stands rfl) (passes_eq_none stands rfl)]
  refine attended_store attended stands rfl rfl alone rfl (fun _ row => row) fun other => ?_
  show (AList.lookup other (AList.insert relayUUID session s.service.active)).map _ = _
  rw [Table.lookup_insert_if]
  split <;> rfl

theorem attended_endTake (stands : s.service.threads.lookup t = some (.endTake relayUUID))
    (alone : ∀ r relay, s.relays.lookup r = some relay → relay.relayUUID = relayUUID →
      InProgress s relay → relay.ending = some t) :
    Attended (stepped s t input (endTake s.service t relayUUID)) := by
  have passed : passes s.service t = (s.service.entry relayUUID).map (⟨t, ·⟩) := by
    unfold passes
    rw [stands]
  unfold stepped endTake
  rw [opens_eq_none stands rfl, passed]
  cases found : s.service.active.lookup relayUUID with
  | none =>
    refine attended_take attended stands alone rfl rfl rfl (fun _ row => row) fun other => ?_
    show s.service.entry other = _
    split
    · next same =>
      rw [same, State.entry, found]
      rfl
    · rfl
  | some session =>
    refine attended_take attended stands alone rfl rfl rfl (fun _ row => row) fun other => ?_
    show (AList.lookup other (AList.erase relayUUID s.service.active)).map _ = _
    rw [Table.lookup_erase_if]
    split <;> rfl

theorem attended_tickNext {snapshot : List ActiveSession}
    (stands : s.service.threads.lookup t = some (.tickNext snapshot)) (now : Int) :
    Attended (stepped s t input (tickNext settings s.service t snapshot now)) := by
  obtain ⟨next, threads, activates, takes, db⟩ : ∃ next,
      (tickNext settings s.service t snapshot now).threads = s.service.threads.insert t next ∧
        next.activates = none ∧ next.takes = none ∧
        (tickNext settings s.service t snapshot now).db = s.service.db := by
    unfold tickNext
    split
    · exact ⟨_, rfl, rfl, rfl, rfl⟩
    · dsimp only
      split
      · exact ⟨_, rfl, rfl, rfl, rfl⟩
      · refine ⟨_, rfl, ?_, ?_, rfl⟩ <;> split <;> rfl
  exact attended_quiet_step attended stands nofun rfl rfl threads activates takes
    (fun _ row => by rw [db]; exact row) fun _ => entry_tickNext _ _ _ _ _ _

/-- A step of a call that meets the condition. -/
theorem attended_threadStep (stands : s.service.threads.lookup t = some thread)
    (alone : thread.Alone s t)
    (taken : threadStep settings s.service t input thread = some service) :
    Attended (stepped s t input service) := by
  cases thread with
  | done => exact (nomatch taken)
  | activateTake relayUUID =>
    obtain rfl := Option.some.inj taken
    exact attended_activateTake attended stands
  | activateRead relayUUID pending =>
    obtain rfl := Option.some.inj taken
    exact attended_activateRead attended stands
  | activateCreate relayUUID pending contract rate =>
    obtain rfl := Option.some.inj taken
    exact attended_activateCreate attended stands
  | activateLedger relayUUID session =>
    obtain rfl := Option.some.inj taken
    exact attended_activateLedger attended stands
  | activateStore relayUUID session =>
    obtain rfl := Option.some.inj taken
    exact attended_activateStore attended stands alone
  | endTake relayUUID =>
    obtain rfl := Option.some.inj taken
    exact attended_endTake attended stands alone
  | endSplit | endLedger | endWriteContract | tickLedger =>
    obtain rfl := Option.some.inj taken
    exact attended_quiet_step attended stands nofun rfl rfl rfl rfl rfl (fun _ row => row)
      fun _ => rfl
  | endRead session endedAt =>
    obtain rfl := Option.some.inj taken
    unfold endRead
    split <;> exact attended_quiet_step attended stands nofun rfl rfl rfl rfl rfl
      (fun _ row => row) fun _ => rfl
  | endUpdate session row =>
    obtain rfl := Option.some.inj taken
    refine attended_quiet_step attended stands nofun rfl rfl rfl rfl rfl (fun id stored => ?_)
      fun _ => rfl
    exact (Table.isSome_lookup_update _ _ _ _).trans stored
  | endReadContract session includedUsed =>
    obtain rfl := Option.some.inj taken
    unfold endReadContract
    split <;> exact attended_quiet_step attended stands nofun rfl rfl rfl rfl rfl
      (fun _ row => row) fun _ => rfl
  | tickNext snapshot =>
    obtain rfl := Option.some.inj taken
    exact attended_tickNext attended stands _

end

end steps

/-! ### Every run -/

theorem attended_fresh (initial : (relayed settings).start s) : Attended s := by
  obtain ⟨isFresh, noRelays, noneOpened, noneFinalized⟩ := initial
  have threads : s.service.threads = ∅ := by rw [isFresh]; rfl
  have active : s.service.active = ∅ := by rw [isFresh]; rfl
  constructor
  · constructor
    case activator | taker =>
      intro call thread stands
      rw [threads] at stands
      exact (nomatch stands)
    all_goals
      rw [noRelays]
      exact fun _ _ => nofun
  · constructor
    case known =>
      rw [noneOpened]
      exact fun _ _ => nofun
    case distinct =>
      rw [noneOpened]
      exact fun _ _ _ _ => nofun
    case entries =>
      intro relayUUID session
      refine iff_of_false ?_ ?_
      · rw [State.entry, active]
        exact nofun
      · rintro ⟨_, _, found, _⟩
        rw [noRelays] at found
        exact (nomatch found)
    case passed =>
      rw [noneFinalized]
      exact fun _ => nofun
    case once =>
      intro r relay session found
      rw [noRelays] at found
      exact (nomatch found)

/-- What waits for a relay is nothing to the relay sessions. -/
theorem attended_pending (attended : Attended s) (pending : Table String PendingRelay) :
    Attended { s with service := { s.service with pending } } where
  calls := ⟨attended.calls.named, attended.calls.activation, attended.calls.ending,
    attended.calls.activator, attended.calls.taker, attended.calls.oneActivation,
    attended.calls.oneEnding⟩
  sessions := ⟨attended.sessions.known, attended.sessions.distinct, attended.sessions.entries,
    attended.sessions.passed, attended.sessions.once⟩

/-- A step that meets the condition. -/
theorem attended_step (attended : Attended s) {label : RelayedLabel} (alone : Alone s label)
    (taken : relayedStep settings s label = some after) : Attended after := by
  cases label with
  | service label =>
    cases label with
    | activateRelay | endRelay => cases taken
    | step t input =>
      obtain ⟨service, isStep, rfl⟩ := Option.map_eq_some_iff.mp taken
      obtain ⟨thread, stands, moved⟩ := Option.bind_eq_some_iff.mp isStep
      exact attended_threadStep attended stands (alone thread stands) moved
    | prepare synced now relayUUID deviceID operatorID =>
      obtain ⟨service, isStep, rfl⟩ := Option.map_eq_some_iff.mp taken
      rw [step] at isStep
      split at isStep
      · obtain rfl := Option.some.inj isStep
        exact attended_pending attended _
      · obtain rfl := Option.some.inj isStep
        exact attended
    | sweepPending now =>
      obtain rfl := Option.some.inj taken
      exact attended_pending attended _
    | tickActive t =>
      obtain ⟨service, isStep, rfl⟩ := Option.map_eq_some_iff.mp taken
      obtain ⟨free, rfl⟩ := of_guard_not isStep
      refine attended_quiet attended rfl (fun thread stands => ?_) rfl rfl
        (fun _ row => row) fun _ => rfl
      rw [stands] at free
      exact absurd rfl free
  | start r t relayUUID =>
    obtain ⟨refused, starts⟩ := Option.ite_none_left_eq_some.mp taken
    obtain ⟨service, isStep, rfl⟩ := Option.map_eq_some_iff.mp starts
    obtain ⟨named, new⟩ := not_or.mp refused
    rw [step, if_neg named] at isStep
    obtain ⟨free, rfl⟩ := of_guard_not isStep
    exact attended_start attended named (Option.not_isSome_iff_eq_none.mp new)
      (Option.not_isSome_iff_eq_none.mp free) rfl rfl fun _ => rfl
  | finish r t =>
    unfold relayedStep at taken
    dsimp only at taken
    cases found : s.relays.lookup r with
    | none =>
      rw [found] at taken
      cases taken
    | some relay =>
      rw [found] at taken
      obtain ⟨refused, ends⟩ := Option.ite_none_left_eq_some.mp taken
      obtain ⟨service, isStep, rfl⟩ := Option.map_eq_some_iff.mp ends
      obtain ⟨unended, returned⟩ := not_or.mp refused
      rw [step, if_neg (attended.calls.named r relay found)] at isStep
      obtain ⟨free, rfl⟩ := of_guard_not isStep
      exact attended_finish attended found (Option.not_isSome_iff_eq_none.mp unended)
        (not_not.mp returned) (Option.not_isSome_iff_eq_none.mp free) rfl rfl fun _ => rfl

end attended

/-- In the runs whose steps meet the condition, every billing session is finalized exactly once, by
its own relay session. -/
theorem finalizedOnce_of_alone {settings : Settings} {s : Relayed}
    (reached : ReachableWhen (relayed settings) Alone s) : FinalizedOnce s :=
  (reached.invariant Attended (fun _ initial => attended_fresh initial)
    fun _ _ _ attended alone taken => attended_step attended alone taken).sessions.once

/-! ### Two relay sessions under one UUID -/

def freshRelayed : Relayed where
  service := fresh sampleDB
  relays := ∅
  opened := ∅
  finalized := []

theorem freshRelayed_start : (relayed sampleSettings).start freshRelayed :=
  ⟨rfl, rfl, rfl, rfl⟩

/-- A relay is prepared, and its session starts at a minute. -/
def startRelay (r t : Nat) (relayUUID sessionID : String) (minutes : Int) : List RelayedLabel :=
  [.service (.prepare true 0 relayUUID "dev" "op"), .start r t relayUUID] ++
    List.replicate 5 (.service (.step t (atMinute minutes sessionID)))

/-- A relay session ends at a minute. -/
def finishRelay (r t : Nat) (minutes : Int) : List RelayedLabel :=
  .finish r t :: List.replicate 7 (.service (.step t (atMinute minutes "")))

/-- The first of two overlapping relay sessions under one UUID finalizes the billing session of the
second, and its own is never finalized. -/
theorem overlapping_notFinalizedOnce :
    ¬ ∀ settings s, Reachable (relayed settings) s → FinalizedOnce s := by
  intro always
  have ends : ((relayed sampleSettings).run freshRelayed
      (startRelay 0 0 "u1" "s1" 0 ++ startRelay 1 1 "u1" "s2" 1 ++ finishRelay 0 2 8)).any
      (fun s => s.relays.lookup 0 == some ⟨"u1", 0, some 2⟩ &&
        s.opened.lookup 0 == some ⟨"s1", 0⟩ && s.service.threads.lookup 2 == some .done &&
        (s.finalized.filter (·.opened.sessionID = "s1")).isEmpty) = true := by decide
  obtain ⟨final, reached, passed⟩ := exists_reachable_of_run freshRelayed_start ends
  simp only [Bool.and_eq_true, beq_iff_eq] at passed
  obtain ⟨⟨⟨relay, opened⟩, returned⟩, none'⟩ := passed
  have once := always sampleSettings final reached 0 _ _ relay opened
  rw [List.isEmpty_iff.mp none'] at once
  simp [RelaySession.taker, returned] at once

/-- One relay session after the other is finalized. -/
theorem finalizedOnce_of_alone_inTurn :
    ∃ s, FinalizedOnce s ∧ s.finalized = [⟨1, ⟨"s1", 0⟩⟩, ⟨3, ⟨"s2", 600000000000⟩⟩] := by
  have ends : ((relayed sampleSettings).runWhen Alone freshRelayed
      (startRelay 0 0 "u1" "s1" 0 ++ finishRelay 0 1 8 ++ startRelay 1 2 "u1" "s2" 10 ++
        finishRelay 1 3 12)).any
      (fun s => s.finalized == [⟨1, ⟨"s1", 0⟩⟩, ⟨3, ⟨"s2", 600000000000⟩⟩]) = true := by decide
  obtain ⟨final, reached, passed⟩ := exists_reachableWhen_of_runWhen freshRelayed_start ends
  exact ⟨final, finalizedOnce_of_alone reached, beq_iff_eq.mp passed⟩

end SovaDesk.Billing
