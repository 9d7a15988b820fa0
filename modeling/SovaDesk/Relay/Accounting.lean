/-
This file settles whether the relay's limit on connections per address counts the
connections that are open.

Every accepted connection has a handler, which takes a slot of the limiter for the address,
reads the first message, hands the connection to `pairIncomingConn` and gives the slot back
when it returns. The handler of a connection that waited returns when a partner has come,
and the connection goes on in the session of the partner. The count covers the open
connections in every run in which no handler returns while its connection is open. The limit
on paired sessions ends a session at once, which is one of the runs of the rendezvous.
-/

import SovaDesk.Ratelimit.ConnLimiter
import SovaDesk.Relay.Coherence

namespace SovaDesk.Relay

open Transition Ratelimit

/-! ### Handlers -/

/-- Where the handler of an accepted connection stands: it reads the first message, has closed the
connection itself, or has handed it to `pairIncomingConn`. -/
inductive HandlerStage
  | reading
  | refused
  | pairing
  deriving DecidableEq

/-- The handler of a connection from an address; its slot is given back when it returns. -/
structure Handler where
  ip : String
  transport : RelayTransport
  stage : HandlerStage
  returned : Bool
  deriving DecidableEq

/-- The relay with its limiter and its handlers. -/
structure Accounts where
  relay : State
  limiter : ConnLimiter
  handlers : Table ConnId Handler

/-- A connection comes from an address, is refused (no message, no relay request, no UUID, a health
check, or no upgrade to a WebSocket), or asks for a UUID; a handler returns; or the rendezvous takes
a step. -/
inductive AccountLabel
  | accept (c : ConnId) (ip : String) (transport : RelayTransport)
  | refuse (c : ConnId)
  | request (c : ConnId) (uuid : String)
  | handlerReturn (c : ConnId)
  | relay (label : Label)
  deriving DecidableEq

/-- A call of `pairIncomingConn` has returned. -/
def State.hasReturned (s : State) (c : ConnId) : Bool :=
  (s.calls.lookup c).any fun call => call.stage = .returned

/-- `handleConn` and `handleWSRelayUpgrade`. A handler may return once its connection was refused or
its call of `pairIncomingConn` has returned. -/
def accountStep (s : Accounts) : AccountLabel → Option Accounts
  | .accept c ip transport =>
    if s.relay.panicked ∨ (s.handlers.lookup c).isSome then none
    else
      match s.limiter.acquire ip with
      | none => some s
      | some limiter =>
        some { s with limiter, handlers := s.handlers.insert c ⟨ip, transport, .reading, false⟩ }
  | .refuse c =>
    match s.handlers.lookup c with
    | some handler =>
      if s.relay.panicked ∨ handler.stage ≠ .reading then none
      else some { s with handlers := s.handlers.insert c { handler with stage := .refused } }
    | none => none
  | .request c uuid =>
    match s.handlers.lookup c with
    | some handler =>
      if handler.stage ≠ .reading then none
      else
        (step s.relay (.arrive c uuid handler.transport)).map fun relay =>
          { s with relay, handlers := s.handlers.insert c { handler with stage := .pairing } }
    | none => none
  | .handlerReturn c =>
    match s.handlers.lookup c with
    | some handler =>
      if s.relay.panicked ∨ handler.returned ∨
        ¬ (handler.stage = .refused ∨ handler.stage = .pairing ∧ s.relay.hasReturned c) then none
      else
        some { s with
          limiter := s.limiter.release handler.ip
          handlers := s.handlers.insert c { handler with returned := true } }
    | none => none
  | .relay (.arrive _ _ _) => none
  | .relay label => (step s.relay label).map fun relay => { s with relay }

/-- A relay with a limit that was configured. -/
def accounting (relayMaxConnsIP : Int) : System Accounts AccountLabel where
  start s := ∃ now, s = ⟨initial now, newConnLimiterFromInt relayMaxConnsIP, ∅⟩
  step := accountStep

/-! ### The property -/

/-- A connection was not closed yet. -/
def Accounts.isOpen (s : Accounts) (c : ConnId) (handler : Handler) : Bool :=
  decide (handler.stage ≠ .refused) && s.relay.log.all fun event =>
    match event with
    | .connClosed entry _ => entry != c
    | _ => true

/-- The open connections from an address. -/
def Accounts.opened (s : Accounts) (ip : String) : Int :=
  s.handlers.sum fun c handler => if handler.ip = ip ∧ s.isOpen c handler then 1 else 0

/-- The slots held for an address. -/
def Accounts.held (s : Accounts) (ip : String) : Int :=
  s.handlers.sum fun _ handler => if handler.ip = ip ∧ handler.returned = false then 1 else 0

/-- The limiter counts every open connection, and no address has more than the limit. -/
def Covered (s : Accounts) : Prop :=
  ∀ ip, s.opened ip ≤ s.limiter.activeCount ip ∧ s.opened ip ≤ s.limiter.maxConn

/-- The steps in which no handler returns while its connection is open. -/
def ReturnsClosed (s : Accounts) : AccountLabel → Prop
  | .handlerReturn c => ∀ handler ∈ s.handlers.lookup c, s.isOpen c handler = false
  | _ => True

instance (s : Accounts) : (label : AccountLabel) → Decidable (ReturnsClosed s label)
  | .handlerReturn _ => inferInstanceAs (Decidable (∀ handler ∈ _, _ = false))
  | .accept _ _ _ | .refuse _ | .request _ _ | .relay _ => .isTrue trivial

/-! ### What is kept -/

theorem mem_log_removePending {s : State} {key : String} {remover : Remover} {event : Event}
    (member : event ∈ s.log) : event ∈ (s.removePending key remover).log := by
  rw [State.removePending_log]
  split
  · exact List.mem_cons_of_mem _ member
  · exact member

theorem mem_log_closeDone {s : State} {c : ConnId} {event : Event} (member : event ∈ s.log) :
    event ∈ (s.closeDone c).log := by
  unfold State.closeDone
  split
  · split <;> exact List.mem_cons_of_mem _ member
  · exact member

/-- What has happened stays in the log. -/
theorem Effect.keeps_log {s after : State} {label : Label} {event : Event}
    (effect : Effect s label after) (member : event ∈ s.log) : event ∈ after.log := by
  cases effect with
  | delete | expireDelete | sweepHit => exact mem_log_removePending member
  | closeDone | sweepCloseDone => exact mem_log_closeDone member
  | session | expireClose | sweepCloseConn => exact List.mem_cons_of_mem _ member
  | mismatch | endRelay => exact List.mem_cons_of_mem _ (List.mem_cons_of_mem _ member)
  | _ => exact member

theorem isOpen_iff {s : Accounts} {c : ConnId} {handler : Handler} :
    s.isOpen c handler = true ↔
      handler.stage ≠ .refused ∧ ∀ closer, Event.connClosed c closer ∉ s.relay.log := by
  unfold Accounts.isOpen
  rw [Bool.and_eq_true_iff, decide_eq_true_iff, List.all_eq_true]
  refine and_congr_right fun _ => ⟨fun all closer member => ?_, fun none event member => ?_⟩
  · exact absurd rfl (bne_iff_ne.mp (all _ member))
  · split
    · next entry closer =>
      exact bne_iff_ne.mpr fun same => none closer (same ▸ member)
    · rfl

/-- The limiter counts the slots that are held, within the limit, and the handler of an open
connection holds its slot. -/
structure Counted (s : Accounts) : Prop where
  slots : ∀ ip, s.limiter.activeCount ip = s.held ip
  limit : ∀ ip, s.limiter.activeCount ip ≤ s.limiter.maxConn
  holds : ∀ c handler, s.handlers.lookup c = some handler → s.isOpen c handler = true →
    handler.returned = false

section kept

variable {s after : Accounts} {c : ConnId} {handler changed : Handler}

/-- The slots that are held after a handler has changed. -/
theorem held_insert (s : Accounts) (relay : State) (limiter : ConnLimiter) (c : ConnId)
    (changed : Handler) (ip : String) :
    Accounts.held ⟨relay, limiter, s.handlers.insert c changed⟩ ip =
      s.held ip - ((s.handlers.lookup c).map fun handler =>
        if handler.ip = ip ∧ handler.returned = false then (1 : Int) else 0).getD 0 +
      if changed.ip = ip ∧ changed.returned = false then 1 else 0 :=
  Table.sum_insert s.handlers _ c changed

/-- The slot of a running handler is among those held for its address. -/
theorem held_pos (found : s.handlers.lookup c = some handler) (running : handler.returned = false) :
    0 < s.held handler.ip := by
  have one : (if handler.ip = handler.ip ∧ handler.returned = false then (1 : Int) else 0) = 1 :=
    if_pos ⟨rfl, running⟩
  have below := Table.le_sum
    (fun _ (other : Handler) =>
      if other.ip = handler.ip ∧ other.returned = false then (1 : Int) else 0)
    (fun _ _ _ => by split <;> omega) found
  exact lt_of_lt_of_le (by rw [one]; exact one_pos) below

/-- A handler that goes on holds the slot it held. -/
theorem Counted.change (counted : Counted s) {relay : State}
    (found : s.handlers.lookup c = some handler) (sameIP : changed.ip = handler.ip)
    (sameReturned : changed.returned = handler.returned)
    (opens : changed.stage = .refused ∨ handler.stage ≠ .refused)
    (grows : ∀ event ∈ s.relay.log, event ∈ relay.log) :
    Counted ⟨relay, s.limiter, s.handlers.insert c changed⟩ := by
  refine ⟨fun ip => ?_, counted.limit, fun other running lookup isOpen => ?_⟩
  · rw [held_insert, found, Option.map_some, Option.getD_some, sameIP, sameReturned]
    rw [counted.slots]
    omega
  · obtain ⟨accepted, unclosed⟩ := isOpen_iff.mp isOpen
    have stillOpen : ∀ closer, Event.connClosed other closer ∉ s.relay.log :=
      fun closer member => unclosed closer (grows _ member)
    rcases Table.lookup_insert_iff.mp lookup with ⟨rfl, rfl⟩ | ⟨_, older⟩
    · rw [sameReturned]
      exact counted.holds other handler found
        (isOpen_iff.mpr ⟨opens.resolve_left accepted, stillOpen⟩)
    · exact counted.holds other running older (isOpen_iff.mpr ⟨accepted, stillOpen⟩)

theorem Counted.accept (counted : Counted s) {ip : String} {transport : RelayTransport}
    {limiter : ConnLimiter} (fresh : s.handlers.lookup c = none)
    (acquired : s.limiter.acquire ip = some limiter) :
    Counted ⟨s.relay, limiter, s.handlers.insert c ⟨ip, transport, .reading, false⟩⟩ := by
  obtain ⟨below, sameLimit, counts⟩ := ConnLimiter.acquire_some acquired
  refine ⟨fun other => ?_, fun other => ?_, fun other running lookup isOpen => ?_⟩
  · rw [held_insert, fresh, counts, ← counted.slots]
    simp only [Option.map_none, Option.getD_none, and_true]
    rcases eq_or_ne other ip with rfl | different
    · rw [if_pos rfl, if_pos rfl]
      omega
    · rw [if_neg different, if_neg different.symm]
      omega
  · rw [counts, sameLimit]
    split
    · next same =>
      subst same
      exact Int.add_one_le_of_lt below
    · exact counted.limit other
  · rcases Table.lookup_insert_iff.mp lookup with ⟨_, rfl⟩ | ⟨_, older⟩
    · rfl
    · exact counted.holds other running older (isOpen_iff.mpr (isOpen_iff.mp isOpen))

theorem Counted.handlerReturn (counted : Counted s) (found : s.handlers.lookup c = some handler)
    (running : handler.returned = false) (closed : s.isOpen c handler = false) :
    Counted ⟨s.relay, s.limiter.release handler.ip,
      s.handlers.insert c { handler with returned := true }⟩ := by
  have holds : 0 < s.limiter.activeCount handler.ip := by
    rw [counted.slots]
    exact held_pos found running
  refine ⟨fun other => ?_, fun other => ?_, fun other entry lookup isOpen => ?_⟩
  · rw [held_insert, found, ConnLimiter.activeCount_release holds, ← counted.slots]
    simp only [Option.map_some, Option.getD_some, running, and_true, reduceCtorEq, and_false,
      if_false]
    rcases eq_or_ne other handler.ip with rfl | different
    · rw [if_pos rfl, if_pos rfl]
      omega
    · rw [if_neg different, if_neg different.symm]
      omega
  · rw [ConnLimiter.activeCount_release holds, ConnLimiter.maxConn_release]
    have within := counted.limit other
    split <;> omega
  · rcases Table.lookup_insert_iff.mp lookup with ⟨rfl, rfl⟩ | ⟨_, older⟩
    · have wasOpen : s.isOpen other handler = true := isOpen_iff.mpr (isOpen_iff.mp isOpen)
      exact absurd (closed.symm.trans wasOpen) nofun
    · exact counted.holds other entry older (isOpen_iff.mpr (isOpen_iff.mp isOpen))

/-- A step keeps the accounts, unless a handler returns whose connection is open. -/
theorem Counted.step (counted : Counted s) {label : AccountLabel} (returns : ReturnsClosed s label)
    (taken : accountStep s label = some after) : Counted after := by
  cases label with
  | accept c ip transport =>
    simp only [accountStep, Option.ite_none_left_eq_some, not_or, Option.isSome_iff_ne_none, ne_eq,
      not_not] at taken
    obtain ⟨⟨_, fresh⟩, taken⟩ := taken
    split at taken
    · exact Option.some.inj taken ▸ counted
    · next limiter acquired => exact Option.some.inj taken ▸ counted.accept fresh acquired
  | refuse c =>
    simp only [accountStep] at taken
    split at taken
    · next handler found =>
      obtain ⟨_, stepped⟩ := Option.ite_none_left_eq_some.mp taken
      exact Option.some.inj stepped ▸ counted.change found rfl rfl (.inl rfl) fun _ member => member
    · exact absurd taken nofun
  | request c uuid =>
    simp only [accountStep] at taken
    split at taken
    · next handler found =>
      obtain ⟨reading, stepped⟩ := Option.ite_none_left_eq_some.mp taken
      obtain ⟨relay, arrived, rfl⟩ := Option.map_eq_some_iff.mp stepped
      refine counted.change found rfl rfl (.inr ?_) fun _ => (step_effect arrived).2.keeps_log
      rw [not_not.mp reading]
      exact nofun
    · exact absurd taken nofun
  | handlerReturn c =>
    simp only [accountStep] at taken
    split at taken
    · next handler found =>
      obtain ⟨may, stepped⟩ := Option.ite_none_left_eq_some.mp taken
      have running : handler.returned = false :=
        Bool.eq_false_iff.mpr fun returned => may (.inr (.inl returned))
      exact Option.some.inj stepped ▸
        counted.handlerReturn found running (returns handler found)
    · exact absurd taken nofun
  | relay label =>
    have stepped : (SovaDesk.Relay.step s.relay label).map
        (fun relay => { s with relay }) = some after := by
      cases label with
      | arrive c uuid transport => exact absurd taken nofun
      | _ => exact taken
    obtain ⟨relay, moved, rfl⟩ := Option.map_eq_some_iff.mp stepped
    refine ⟨counted.slots, counted.limit, fun c handler found isOpen => ?_⟩
    obtain ⟨accepted, unclosed⟩ := isOpen_iff.mp isOpen
    exact counted.holds c handler found (isOpen_iff.mpr
      ⟨accepted, fun closer member => unclosed closer ((step_effect moved).2.keeps_log member)⟩)

theorem opened_le_held {s : Accounts} (counted : Counted s) (ip : String) :
    s.opened ip ≤ s.held ip := by
  refine Table.sum_le_sum fun c handler found => ?_
  split
  · next opened => rw [if_pos ⟨opened.1, counted.holds c handler found opened.2⟩]
  · split
    · exact zero_le_one
    · exact le_refl 0

end kept

/-- In every run in which no handler returns while its connection is open, the limiter covers the
open connections. -/
theorem covered_of_returnsClosed (relayMaxConnsIP : Int) {s : Accounts}
    (reached : ReachableWhen (accounting relayMaxConnsIP) ReturnsClosed s) : Covered s := by
  have counted : Counted s := by
    refine reached.invariant Counted ?_ fun _ _ _ counted returns taken =>
      counted.step returns taken
    rintro _ ⟨now, rfl⟩
    exact ⟨fun _ => rfl, fun _ => ConnLimiter.maxConn_new_nonneg relayMaxConnsIP, nofun⟩
  intro ip
  have covers : s.opened ip ≤ s.limiter.activeCount ip :=
    counted.slots ip ▸ opened_le_held counted ip
  exact ⟨covers, covers.trans (counted.limit ip)⟩

/-! ### Runs -/

theorem accounting_start (relayMaxConnsIP : Int) :
    (accounting relayMaxConnsIP).start
      ⟨initial 0, newConnLimiterFromInt relayMaxConnsIP, ∅⟩ := ⟨0, rfl⟩

/-- A connection from an address comes and hands itself to the rendezvous. -/
def comes (c : ConnId) (ip : String) : List AccountLabel :=
  [.accept c ip .tcp, .request c "session", .relay (.call c .loadOrStore)]

/-- Connection 1 takes connection 0 into a session. -/
def pairs : List AccountLabel :=
  [.relay (.call 0 .enterSelect), .relay (.call 1 .delete), .relay (.call 1 .closeDone),
    .relay (.call 1 .startRelay), .relay (.call 0 .recvDone)]

/-- With a limit of one connection an address has two open ones: one in a session, whose handler has
returned, and one that was accepted since. -/
theorem address_exceedsLimit :
    ∃ s, Reachable (accounting 1) s ∧ s.limiter.maxConn = 1 ∧
      s.limiter.activeCount "192.0.2.1" = 1 ∧ s.opened "192.0.2.1" = 2 ∧ ¬ Covered s := by
  have ran : ((accounting 1).run ⟨initial 0, newConnLimiterFromInt 1, ∅⟩
      (comes 0 "192.0.2.1" ++ comes 1 "198.51.100.7" ++ pairs ++
        [.handlerReturn 0, .accept 2 "192.0.2.1" .tcp])).any (fun s =>
      decide (s.limiter.maxConn = 1) && decide (s.limiter.activeCount "192.0.2.1" = 1) &&
        decide (s.opened "192.0.2.1" = 2)) = true := by decide
  obtain ⟨s, reached, passed⟩ := exists_reachable_of_run (accounting_start 1) ran
  simp only [Bool.and_eq_true, decide_eq_true_eq] at passed
  obtain ⟨⟨limit, count⟩, opened⟩ := passed
  refine ⟨s, reached, limit, count, opened, fun covered => ?_⟩
  have within := (covered "192.0.2.1").1
  omega

/-- The handler of the connection that waited returns after the session has ended. -/
theorem covered_of_returnsClosed_late :
    ∃ s, ReachableWhen (accounting 1) ReturnsClosed s ∧ s.opened "192.0.2.1" = 1 ∧ Covered s := by
  have ran : ((accounting 1).runWhen ReturnsClosed ⟨initial 0, newConnLimiterFromInt 1, ∅⟩
      (comes 0 "192.0.2.1" ++ comes 1 "198.51.100.7" ++ pairs ++
        [.relay (.call 1 .endRelay), .handlerReturn 0, .handlerReturn 1,
          .accept 2 "192.0.2.1" .tcp])).any
      (fun s => decide (s.opened "192.0.2.1" = 1)) = true := by decide
  obtain ⟨s, reached, passed⟩ := exists_reachableWhen_of_runWhen (accounting_start 1) ran
  exact ⟨s, reached, of_decide_eq_true passed, covered_of_returnsClosed 1 reached⟩

end SovaDesk.Relay
