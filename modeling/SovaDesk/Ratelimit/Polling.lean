/-
This file compares two sequences of calls on the bandwidth limiter that differ by calls that were
granted nothing, and settles how far the bucket that is polled falls behind.

A call turns the time since the last refill into whole tokens and moves the time of the refill to
now, so the part of a token that is left over is gone, also when the call is granted nothing. A
bucket of four bytes a second that is asked eight times a second stays empty. How far the polled
bucket may be behind is a number that is computed from the times of the calls alone: a call that
both sequences have takes no more from the poorer bucket than from the fuller one, and the limit
can only bring the two together.
-/

import SovaDesk.Ratelimit.Refill

namespace SovaDesk.Ratelimit

/-! ### Calls that are granted nothing -/

namespace TimedLimiter

/-- The limiter after a sequence of calls. -/
def run (bl : TimedLimiter) (demands : List Demand) : TimedLimiter := demands.foldl after bl

end TimedLimiter

/-- A call of one sequence, and whether it is left out of the other. -/
structure Asked where
  demand : Demand
  extra : Bool

/-- When a call is made, and whether it is left out. -/
structure Slot where
  now : ℚ
  extra : Bool
  deriving DecidableEq

def Asked.slot (asked : Asked) : Slot := ⟨asked.demand.now, asked.extra⟩

/-- The sequence with the extra calls. -/
def polled (calls : List Asked) : List Demand := calls.map Asked.demand

/-- The sequence without them. -/
def plain (calls : List Asked) : List Demand :=
  (calls.filter fun call => !call.extra).map Asked.demand

/-- Every extra call is granted nothing. -/
def Refused : TimedLimiter → List Asked → Prop
  | _, [] => True
  | bl, call :: rest =>
    (call.extra = true → bl.granted call.demand = 0) ∧ Refused (bl.after call.demand) rest

instance decidableRefused : (bl : TimedLimiter) → (calls : List Asked) →
    Decidable (Refused bl calls)
  | _, [] => .isTrue trivial
  | bl, call :: rest =>
    @instDecidableAnd _ _ inferInstance (decidableRefused (bl.after call.demand) rest)

/-- How far the bucket that is polled may be behind: by so many tokens after the last call that both
sequences have, at the time `common`, and since then it has regained so many until the time of its
last call. -/
structure Lag where
  behind : Int
  regained : Int
  common : ℚ
  latest : ℚ

namespace Lag

/-- How far the bucket may be behind at a time. -/
def most (limit : Int) (lag : Lag) (t : ℚ) : Int :=
  min (lag.behind + earned limit lag.common t) limit -
    min (lag.regained + earned limit lag.latest t) limit

def next (limit : Int) (lag : Lag) (slot : Slot) : Lag :=
  if slot.extra then
    { lag with
      regained := lag.regained + earned limit lag.latest slot.now
      latest := slot.now }
  else ⟨lag.most limit slot.now, 0, slot.now, slot.now⟩

end Lag

/-- The tokens that polling can cost until a time, for calls from a start in these slots. -/
def pollingCost (limit : Int) (start : ℚ) (slots : List Slot) (t : ℚ) : Int :=
  (slots.foldl (Lag.next limit) ⟨0, 0, start, start⟩).most limit t

/-- The two buckets, where the polled one had `base` tokens after the last common call. -/
structure Behind (limit base : Int) (fuller poorer : TimedLimiter) (lag : Lag) : Prop where
  fullerBounded : fuller.Bounded
  poorerBounded : poorer.Bounded
  fullerLimit : fuller.limit = limit
  poorerLimit : poorer.limit = limit
  common : fuller.lastRefill = lag.common
  latest : poorer.lastRefill = lag.latest
  ordered : lag.common ≤ lag.latest
  nonneg : 0 ≤ base
  ahead : base ≤ fuller.tokens
  within : fuller.tokens ≤ base + lag.behind
  regained : 0 ≤ lag.regained
  whole : lag.regained ≤ earned limit lag.common lag.latest
  tokens : poorer.tokens = min (base + lag.regained) limit

namespace Behind

variable {limit base : Int} {fuller poorer : TimedLimiter} {lag : Lag}

/-- What the polled bucket has at a time, and by how much it is behind. -/
theorem available (behind : Behind limit base fuller poorer lag) {t : ℚ} (later : lag.latest ≤ t) :
    poorer.available t = min (base + (lag.regained + earned limit lag.latest t)) limit ∧
      poorer.available t ≤ fuller.available t ∧
      fuller.available t ≤ poorer.available t + lag.most limit t := by
  have poorerAvailable :=
    TimedLimiter.available_eq behind.poorerBounded (behind.latest.trans_le later)
  have fullerAvailable := TimedLimiter.available_eq behind.fullerBounded
    (behind.common.trans_le (behind.ordered.trans later))
  rw [behind.poorerLimit, behind.latest, behind.tokens] at poorerAvailable
  rw [behind.fullerLimit, behind.common] at fullerAvailable
  have positive : 0 < limit := behind.poorerLimit ▸ behind.poorerBounded.positive
  have earns := earned_nonneg positive later
  have cut := earned_add_le limit lag.common lag.latest t
  obtain ⟨-, -, -, -, -, -, -, nonneg, ahead, within, regained, whole, -⟩ := behind
  unfold Lag.most
  omega

/-- A call that both sequences have brings the two buckets no further apart than they may be. -/
theorem afterCommon (behind : Behind limit base fuller poorer lag) {demand : Demand}
    (asked : 0 ≤ demand.n) (later : lag.latest ≤ demand.now) :
    Behind limit (poorer.after demand).tokens (fuller.after demand) (poorer.after demand)
      (lag.next limit ⟨demand.now, false⟩) := by
  obtain ⟨-, poorerLe, fullerLe⟩ := behind.available later
  have poorerLater := behind.latest.trans_le later
  have fullerLater := behind.common.trans_le (behind.ordered.trans later)
  obtain ⟨poorerGranted, poorerTokens, poorerLimit⟩ :=
    TimedLimiter.after_spec behind.poorerBounded poorerLater
  obtain ⟨fullerGranted, fullerTokens, fullerLimit⟩ :=
    TimedLimiter.after_spec behind.fullerBounded fullerLater
  have poorerAfter := TimedLimiter.bounded_after behind.poorerBounded asked poorerLater
  have limitAfter : (poorer.after demand).limit = limit := poorerLimit.trans behind.poorerLimit
  have capped := poorerAfter.capped
  rw [limitAfter] at capped
  exact {
    fullerBounded := TimedLimiter.bounded_after behind.fullerBounded asked fullerLater
    poorerBounded := poorerAfter
    fullerLimit := fullerLimit.trans behind.fullerLimit
    poorerLimit := limitAfter
    common := TimedLimiter.lastRefill_after fullerLater
    latest := TimedLimiter.lastRefill_after poorerLater
    ordered := le_refl demand.now
    nonneg := poorerAfter.nonneg
    ahead := by omega
    within := show (fuller.after demand).tokens ≤
      (poorer.after demand).tokens + lag.most limit demand.now by omega
    regained := le_refl 0
    whole := earned_nonneg (limitAfter ▸ poorerAfter.positive) (le_refl demand.now)
    tokens := by
      rw [show (lag.next limit ⟨demand.now, false⟩).regained = 0 from rfl, add_zero]
      exact (min_eq_left capped).symm }

/-- A call that is left out and was granted nothing cuts the time of the polled bucket. -/
theorem afterExtra (behind : Behind limit base fuller poorer lag) {demand : Demand}
    (asked : 0 ≤ demand.n) (later : lag.latest ≤ demand.now)
    (refused : poorer.granted demand = 0) :
    Behind limit base fuller (poorer.after demand) (lag.next limit ⟨demand.now, true⟩) := by
  have poorerLater := behind.latest.trans_le later
  obtain ⟨-, tokens, poorerLimit⟩ := TimedLimiter.after_spec behind.poorerBounded poorerLater
  rw [(behind.available later).1, refused, sub_zero] at tokens
  have positive : 0 < limit := behind.poorerLimit ▸ behind.poorerBounded.positive
  have earns := earned_nonneg positive later
  have cut := earned_add_le limit lag.common lag.latest demand.now
  have whole := behind.whole
  have regained := behind.regained
  exact {
    fullerBounded := behind.fullerBounded
    poorerBounded := TimedLimiter.bounded_after behind.poorerBounded asked poorerLater
    fullerLimit := behind.fullerLimit
    poorerLimit := poorerLimit.trans behind.poorerLimit
    common := behind.common
    latest := TimedLimiter.lastRefill_after poorerLater
    ordered := behind.ordered.trans later
    nonneg := behind.nonneg
    ahead := behind.ahead
    within := behind.within
    regained := show 0 ≤ lag.regained + earned limit lag.latest demand.now by omega
    whole := show lag.regained + earned limit lag.latest demand.now ≤
      earned limit lag.common demand.now by omega
    tokens := tokens }

end Behind

/-! ### What polling costs -/

/-- Slots and an end in the order of time. -/
abbrev InOrder (since : ℚ) (slots : List Slot) (t : ℚ) : Prop :=
  (since :: (slots.map Slot.now ++ [t])).Pairwise (· ≤ ·)

theorem InOrder.cons {since t : ℚ} {slot : Slot} {rest : List Slot}
    (ordered : InOrder since (slot :: rest) t) :
    since ≤ slot.now ∧ InOrder slot.now rest t := by
  obtain ⟨later, rest'⟩ := List.pairwise_cons.mp ordered
  exact ⟨later _ List.mem_cons_self, rest'⟩

variable {slots : List Slot}

theorem InOrder.le {since t : ℚ} (ordered : InOrder since slots t) :
    since ≤ t :=
  (List.pairwise_cons.mp ordered).1 t (List.mem_append_right _ List.mem_cons_self)

variable {limit : Int}

/-- The polled bucket has no more than the other in the end, and is behind by no more than the cost
of the slots. -/
theorem available_run {base : Int} {fuller poorer : TimedLimiter} {lag : Lag} {t : ℚ}
    {calls : List Asked} (behind : Behind limit base fuller poorer lag)
    (asked : ∀ call ∈ calls, 0 ≤ call.demand.n) (refused : Refused poorer calls)
    (ordered : InOrder lag.latest (calls.map Asked.slot) t) :
    (poorer.run (polled calls)).available t ≤ (fuller.run (plain calls)).available t ∧
      (fuller.run (plain calls)).available t ≤ (poorer.run (polled calls)).available t +
        ((calls.map Asked.slot).foldl (Lag.next limit) lag).most limit t := by
  induction calls generalizing base fuller poorer lag with
  | nil => exact (behind.available ordered.le).2
  | cons call rest inductionHypothesis =>
    obtain ⟨later, orderedRest⟩ := InOrder.cons ordered
    obtain ⟨none, refusedRest⟩ := refused
    have askedRest := fun other member => asked other (List.mem_cons_of_mem call member)
    have asks := asked call List.mem_cons_self
    obtain ⟨demand, extra⟩ := call
    cases extra with
    | true =>
      exact inductionHypothesis (behind.afterExtra asks later (none rfl)) askedRest refusedRest
        orderedRest
    | false =>
      exact inductionHypothesis (behind.afterCommon asks later) askedRest refusedRest orderedRest

/-- The calls that keep the polled bucket empty: each call that both sequences have asks for what
it holds, and the others for nothing. -/
def draining (limit : Int) : Lag → List Slot → List Asked
  | _, [] => []
  | lag, slot :: rest =>
    ⟨⟨slot.now, if slot.extra then 0
        else min (lag.regained + earned limit lag.latest slot.now) limit⟩, slot.extra⟩ ::
      draining limit (lag.next limit slot) rest

theorem slot_draining (limit : Int) (lag : Lag) (slots : List Slot) :
    (draining limit lag slots).map Asked.slot = slots := by
  induction slots generalizing lag with
  | nil => rfl
  | cons slot rest inductionHypothesis =>
    rw [draining, List.map_cons, inductionHypothesis]
    rfl

/-- The draining calls are granted what they should be, and leave the polled bucket behind by all
that the slots cost. -/
theorem draining_spec {fuller poorer : TimedLimiter} {lag : Lag} {t : ℚ}
    (behind : Behind limit 0 fuller poorer lag)
    (exactly : fuller.tokens = lag.behind) (ordered : InOrder lag.latest slots t) :
    (∀ call ∈ draining limit lag slots, 0 ≤ call.demand.n) ∧
      Refused poorer (draining limit lag slots) ∧
      (fuller.run (plain (draining limit lag slots))).available t =
        (poorer.run (polled (draining limit lag slots))).available t +
          (slots.foldl (Lag.next limit) lag).most limit t := by
  induction slots generalizing fuller poorer lag with
  | nil =>
    refine ⟨fun _ member => absurd member List.not_mem_nil, trivial, ?_⟩
    obtain ⟨poorerAvailable, -, -⟩ := behind.available ordered.le
    have fullerAvailable := TimedLimiter.available_eq behind.fullerBounded
      (behind.common.trans_le (behind.ordered.trans ordered.le))
    rw [behind.fullerLimit, behind.common, exactly] at fullerAvailable
    show fuller.available t = poorer.available t + lag.most limit t
    rw [Lag.most, poorerAvailable, fullerAvailable]
    omega
  | cons slot rest inductionHypothesis =>
    obtain ⟨later, orderedRest⟩ := ordered.cons
    obtain ⟨now, extra⟩ := slot
    have poorerLater := behind.latest.trans_le later
    obtain ⟨available, -, -⟩ := behind.available later
    rw [zero_add] at available
    cases extra with
    | true =>
      have granted : poorer.granted ⟨now, 0⟩ = min 0 (poorer.available now) :=
        (TimedLimiter.after_spec behind.poorerBounded poorerLater).1
      have bounds := TimedLimiter.available_bounds behind.poorerBounded poorerLater
      have refused : poorer.granted ⟨now, 0⟩ = 0 := granted.trans (min_eq_left bounds.1)
      obtain ⟨asked, refusedRest, same⟩ := inductionHypothesis
        (behind.afterExtra (le_refl 0) later refused) exactly orderedRest
      exact ⟨List.forall_mem_cons.mpr ⟨le_refl 0, asked⟩, ⟨fun _ => refused, refusedRest⟩, same⟩
    | false =>
      let demand : Demand := ⟨now, min (lag.regained + earned limit lag.latest now) limit⟩
      have fullerLater := behind.common.trans_le (behind.ordered.trans later)
      have fullerAvailable := TimedLimiter.available_eq behind.fullerBounded fullerLater
      rw [behind.fullerLimit, behind.common, exactly] at fullerAvailable
      obtain ⟨poorerGranted, poorerTokens, -⟩ :=
        @TimedLimiter.after_spec _ demand behind.poorerBounded poorerLater
      obtain ⟨fullerGranted, fullerTokens, -⟩ :=
        @TimedLimiter.after_spec _ demand behind.fullerBounded fullerLater
      have asks : demand.n = poorer.available now := available.symm
      have nonneg := (TimedLimiter.available_bounds behind.poorerBounded poorerLater).1
      have poorerLe := (behind.available later).2.1
      have empty : (poorer.after demand).tokens = 0 := by
        rw [poorerTokens, poorerGranted, asks, min_self]
        exact Int.sub_self _
      have ahead : (fuller.after demand).tokens = lag.most limit now := by
        rw [fullerTokens, fullerGranted, asks, min_eq_left poorerLe, available]
        exact congrArg (· - _) fullerAvailable
      have next := behind.afterCommon (asks ▸ nonneg) later
      rw [empty] at next
      obtain ⟨asked, refusedRest, same⟩ := inductionHypothesis next ahead orderedRest
      exact ⟨List.forall_mem_cons.mpr ⟨asks ▸ nonneg, asked⟩,
        ⟨fun left => absurd left Bool.false_ne_true, refusedRest⟩, same⟩

/-- Two sequences of calls with the extra calls in the given slots, from any one state: with and
without them the same is available in the end, up to one token. -/
def SameUpToOne (limit : Int) (start : ℚ) (slots : List Slot) (t : ℚ) : Prop :=
  ∀ (bl : TimedLimiter) (calls : List Asked), bl.limit = limit → 0 ≤ bl.tokens →
    bl.tokens ≤ limit → bl.lastRefill = start → calls.map Asked.slot = slots →
    (∀ call ∈ calls, 0 ≤ call.demand.n) → Refused bl calls →
    (bl.run (polled calls)).available t ≤ (bl.run (plain calls)).available t + 1 ∧
      (bl.run (plain calls)).available t ≤ (bl.run (polled calls)).available t + 1

theorem behind_start (positive : 0 < limit) {bl : TimedLimiter}
    (limited : bl.limit = limit) (nonneg : 0 ≤ bl.tokens) (capped : bl.tokens ≤ limit) :
    Behind limit bl.tokens bl bl ⟨0, 0, bl.lastRefill, bl.lastRefill⟩ where
  fullerBounded := ⟨limited ▸ positive, nonneg, limited ▸ capped⟩
  poorerBounded := ⟨limited ▸ positive, nonneg, limited ▸ capped⟩
  fullerLimit := limited
  poorerLimit := limited
  common := rfl
  latest := rfl
  ordered := le_refl _
  nonneg := nonneg
  ahead := le_refl _
  within := (Int.add_zero _).ge
  regained := le_refl 0
  whole := earned_nonneg positive (le_refl _)
  tokens := by rw [Int.add_zero, min_eq_left capped]

/-- The sequences agree up to one token, whatever is asked for, exactly when the slots cost one
token at most. -/
theorem sameUpToOne_iff (positive : 0 < limit) {start t : ℚ} (ordered : InOrder start slots t) :
    SameUpToOne limit start slots t ↔ pollingCost limit start slots t ≤ 1 := by
  constructor
  · intro same
    let bl : TimedLimiter := ⟨⟨limit, ⟨limit, 0, 0⟩, 0, 0, 0⟩, start⟩
    have behind : Behind limit 0 bl bl ⟨0, 0, start, start⟩ :=
      @behind_start limit positive bl rfl (le_refl 0) (Int.le_of_lt positive)
    obtain ⟨asked, refused, cost⟩ := draining_spec behind rfl ordered
    have close := (same bl _ rfl (le_refl 0) (Int.le_of_lt positive) rfl
      (slot_draining limit _ slots) asked refused).2
    rw [cost] at close
    exact Int.le_of_add_le_add_left close
  · rintro cheap bl calls limited nonneg capped rfl rfl asked refused
    obtain ⟨less, close⟩ :=
      available_run (behind_start positive limited nonneg capped) asked refused ordered
    exact ⟨Int.le_add_one less, close.trans (Int.add_le_add_left cheap _)⟩

/-! ### An empty bucket -/

/-- The whole tokens of the times between calls, one after the other. -/
def wholeTokens (limit : Int) : ℚ → List ℚ → Int
  | _, [] => 0
  | since, now :: rest => earned limit since now + wholeTokens limit now rest

/-- The parts of tokens that are left over of the times between calls. -/
def brokenTokens (limit : Int) : ℚ → List ℚ → ℚ
  | _, [] => 0
  | since, now :: rest => Int.fract ((now - since) * limit) + brokenTokens limit now rest

theorem whole_add_broken (limit : Int) (start t : ℚ) (times : List ℚ) :
    (wholeTokens limit start (times ++ [t]) : ℚ) + brokenTokens limit start (times ++ [t]) =
      (t - start) * limit := by
  induction times generalizing start with
  | nil =>
    have parts := Int.floor_add_fract ((t - start) * (limit : ℚ))
    rw [List.nil_append, wholeTokens, wholeTokens, brokenTokens, brokenTokens, earned]
    push_cast
    linarith
  | cons now rest inductionHypothesis =>
    have parts := Int.floor_add_fract ((now - start) * (limit : ℚ))
    have later := inductionHypothesis now
    rw [List.cons_append, wholeTokens, brokenTokens, earned]
    push_cast
    linarith

theorem wholeTokens_nonneg (positive : 0 < limit) {start : ℚ} {times : List ℚ}
    (ordered : (start :: times).Pairwise (· ≤ ·)) : 0 ≤ wholeTokens limit start times := by
  induction times generalizing start with
  | nil => exact le_refl 0
  | cons now rest inductionHypothesis =>
    obtain ⟨later, orderedRest⟩ := List.pairwise_cons.mp ordered
    exact Int.add_nonneg (earned_nonneg positive (later now List.mem_cons_self))
      (inductionHypothesis orderedRest)

/-- However an empty bucket is polled at the given times, if nothing is granted then in the end it
has what the time is worth, up to one token, or is full. -/
def Regains (limit : Int) (start : ℚ) (times : List ℚ) (t : ℚ) : Prop :=
  ∀ (bl : TimedLimiter) (demands : List Demand), bl.limit = limit → bl.tokens = 0 →
    bl.lastRefill = start → demands.map Demand.now = times → (∀ demand ∈ demands, 0 ≤ demand.n) →
    (∀ step ∈ bl.steps demands, step.before.granted step.label = 0) →
    min (limit : ℚ) (limit * (t - start) - 1) ≤ (bl.run demands).available t

/-- A bucket that grants nothing gains the whole tokens of the times between the calls. -/
theorem available_of_refused {bl : TimedLimiter} (bounded : bl.Bounded) {demands : List Demand}
    {t : ℚ} (asked : ∀ demand ∈ demands, 0 ≤ demand.n)
    (ordered : (bl.lastRefill :: (demands.map Demand.now ++ [t])).Pairwise (· ≤ ·))
    (refused : ∀ step ∈ bl.steps demands, step.before.granted step.label = 0) :
    (bl.run demands).available t =
      min (bl.tokens + wholeTokens bl.limit bl.lastRefill (demands.map Demand.now ++ [t]))
        bl.limit := by
  induction demands generalizing bl with
  | nil =>
    have later := (List.pairwise_cons.mp ordered).1 t List.mem_cons_self
    exact (TimedLimiter.available_eq bounded later).trans (by
      rw [List.map_nil, List.nil_append, wholeTokens, wholeTokens, add_zero])
  | cons demand rest inductionHypothesis =>
    rw [List.map_cons, List.cons_append] at ordered
    obtain ⟨later, orderedRest⟩ := List.pairwise_cons.mp ordered
    have next := later _ List.mem_cons_self
    obtain ⟨-, tokens, limit⟩ := TimedLimiter.after_spec bounded next
    have clock := TimedLimiter.lastRefill_after next
    have none : bl.granted demand = 0 :=
      refused ⟨bl, demand, bl.after demand⟩ List.mem_cons_self
    rw [none, sub_zero, TimedLimiter.available_eq bounded next] at tokens
    have rest' := inductionHypothesis
      (TimedLimiter.bounded_after bounded (asked _ List.mem_cons_self) next)
      (fun other member => asked other (List.mem_cons_of_mem _ member))
      (by rw [clock]; exact orderedRest)
      (fun step member => refused step (List.mem_cons_of_mem _ member))
    rw [clock, limit, tokens] at rest'
    have nonneg := wholeTokens_nonneg bounded.positive orderedRest
    have split_ : wholeTokens bl.limit bl.lastRefill
        ((demand :: rest).map Demand.now ++ [t]) =
          earned bl.limit bl.lastRefill demand.now +
            wholeTokens bl.limit demand.now (rest.map Demand.now ++ [t]) := rfl
    have ran : bl.run (demand :: rest) = (bl.after demand).run rest := rfl
    rw [ran, rest', split_]
    omega

/-- Calls at the given times that ask for nothing. -/
def idle (times : List ℚ) : List Demand := times.map fun now => ⟨now, 0⟩

theorem now_idle (times : List ℚ) : (idle times).map Demand.now = times := by
  rw [idle, List.map_map]
  exact List.map_id times

theorem nothing_idle (times : List ℚ) : ∀ demand ∈ idle times, demand.n = 0 := by
  intro demand member
  obtain ⟨now, -, same⟩ := List.mem_map.mp member
  rw [← same]

theorem refused_idle {bl : TimedLimiter} (bounded : bl.Bounded) {times : List ℚ} {t : ℚ}
    (ordered : (bl.lastRefill :: (times ++ [t])).Pairwise (· ≤ ·)) :
    ∀ step ∈ bl.steps (idle times), step.before.granted step.label = 0 := by
  induction times generalizing bl with
  | nil => exact fun _ member => absurd member List.not_mem_nil
  | cons now rest inductionHypothesis =>
    obtain ⟨later, orderedRest⟩ := List.pairwise_cons.mp ordered
    have next : bl.lastRefill ≤ now := later now List.mem_cons_self
    let demand : Demand := ⟨now, 0⟩
    obtain ⟨granted, -, -⟩ := @TimedLimiter.after_spec bl demand bounded next
    have bounds := TimedLimiter.available_bounds bounded next
    have clock := @TimedLimiter.lastRefill_after bl demand next
    intro step member
    rcases List.mem_cons.mp member with first | older
    · rw [first]
      exact granted.trans (min_eq_left bounds.1)
    · exact inductionHypothesis (@TimedLimiter.bounded_after bl demand bounded (le_refl 0) next)
        (by rw [clock]; exact orderedRest) step older

/-- An empty bucket regains what it should exactly when the times between the calls leave over one
token in all at most, or fill the bucket without that. -/
theorem regains_iff (positive : 0 < limit) {start t : ℚ} {times : List ℚ}
    (ordered : (start :: (times ++ [t])).Pairwise (· ≤ ·)) :
    Regains limit start times t ↔
      brokenTokens limit start (times ++ [t]) ≤ 1 ∨
        limit ≤ wholeTokens limit start (times ++ [t]) := by
  have parts := whole_add_broken limit start t times
  -- What the bucket has does not depend on the calls.
  have exactly : Regains limit start times t ↔
      min (limit : ℚ) (limit * (t - start) - 1) ≤
        (min (wholeTokens limit start (times ++ [t])) limit : Int) := by
    constructor
    · intro regains
      let bl : TimedLimiter := ⟨⟨limit, ⟨limit, 0, 0⟩, 0, 0, 0⟩, start⟩
      have bounded : bl.Bounded := ⟨positive, le_refl 0, positive.le⟩
      have asked : ∀ demand ∈ idle times, 0 ≤ demand.n := fun demand member =>
        (nothing_idle times demand member).ge
      have refused := @refused_idle bl bounded times t ordered
      have enough := regains bl (idle times) rfl rfl rfl (now_idle times) asked refused
      rw [available_of_refused bounded asked ((now_idle times).symm ▸ ordered) refused,
        now_idle, Int.zero_add] at enough
      exact enough
    · rintro enough bl demands rfl empty rfl rfl asked refused
      have bounded : bl.Bounded := ⟨positive, empty.ge, empty.le.trans positive.le⟩
      rw [available_of_refused bounded asked ordered refused, empty, zero_add]
      exact enough
  rw [exactly]
  push_cast
  constructor
  · intro enough
    rcases min_le_iff.mp (enough.trans (min_le_left _ _)) with full | most
    · exact .inr (Int.cast_le.mp full)
    · exact .inl (by linarith)
  · intro either
    refine le_min ?_ (min_le_left _ _)
    rcases either with little | full
    · exact (min_le_right _ _).trans (by linarith)
    · exact (min_le_left _ _).trans (Int.cast_le.mpr full)

/-- The times of a second in steps of an eighth, without its ends. -/
def eighths : List ℚ := [1 / 8, 2 / 8, 3 / 8, 4 / 8, 5 / 8, 6 / 8, 7 / 8]

end SovaDesk.Ratelimit
