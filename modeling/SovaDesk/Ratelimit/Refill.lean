/-
This file puts the bandwidth limiter on a clock, and settles how much it grants in any interval.

A call turns the time since the last refill into whole tokens and moves the time of the refill to
now. Time is exact here, and so is the number of tokens that a time is worth before it is cut off.
Rounding down never adds to a bucket, so by the time of any call no more has been granted than
what the bucket held and what the time since was worth. An interval then starts with a full bucket
at most, and what it grants stays within the burst and the rate.
-/

import Mathlib.Data.Rat.Floor
import Mathlib.Tactic.Linarith
import SovaDesk.Ratelimit.Bandwidth

namespace SovaDesk.Ratelimit

open Transition

/-! ### The clock -/

/-- The conversion to a whole number, which cuts off towards zero. -/
def truncate (amount : ℚ) : Int := amount.num.tdiv amount.den

/-- A limiter and the time of its last refill, in seconds. -/
structure TimedLimiter where
  limiter : BandwidthLimiter
  lastRefill : ℚ

/-- A call of `consumeGlobal`: the time, and the bytes that it asks for. -/
structure Demand where
  now : ℚ
  n : Int

/-- `NewBandwidthLimiter` at a time. -/
def newTimedLimiter (totalLimit sessionLimit : Int) (start : ℚ) : TimedLimiter :=
  ⟨newBandwidthLimiter totalLimit sessionLimit, start⟩

namespace TimedLimiter

abbrev limit (bl : TimedLimiter) : Int := bl.limiter.bucket.limit

abbrev tokens (bl : TimedLimiter) : Int := bl.limiter.bucket.tokens

/-- The tokens for the time since the last refill, if any has passed. -/
def refill (bl : TimedLimiter) (now : ℚ) : Option Int :=
  let elapsed := now - bl.lastRefill
  if 0 < elapsed then some (truncate (elapsed * bl.limit)) else none

/-- `consumeGlobal` with its clock: the bytes that are granted, and the limiter after the call. -/
def consumeGlobal (bl : TimedLimiter) (demand : Demand) : Int × TimedLimiter :=
  let consumed := bl.limiter.consumeGlobal (bl.refill demand.now) demand.n
  (consumed.1, ⟨consumed.2,
    if 0 < demand.now - bl.lastRefill then demand.now else bl.lastRefill⟩)

def granted (bl : TimedLimiter) (demand : Demand) : Int := (bl.consumeGlobal demand).1

def after (bl : TimedLimiter) (demand : Demand) : TimedLimiter := (bl.consumeGlobal demand).2

/-- The tokens that a call at this time finds in the bucket. -/
def available (bl : TimedLimiter) (now : ℚ) : Int :=
  (bl.limiter.bucket.refill (bl.refill now)).tokens

/-- The bucket holds between none and all of its limit. -/
structure Bounded (bl : TimedLimiter) : Prop where
  positive : 0 < bl.limit
  nonneg : 0 ≤ bl.tokens
  capped : bl.tokens ≤ bl.limit

end TimedLimiter

theorem bounded_newTimedLimiter {totalLimit : Int} (positive : 0 < totalLimit)
    (sessionLimit : Int) (start : ℚ) :
    (newTimedLimiter totalLimit sessionLimit start).Bounded :=
  ⟨positive, Int.le_of_lt positive, le_refl totalLimit⟩

/-! ### Whole tokens -/

theorem truncate_eq_floor {amount : ℚ} (nonneg : 0 ≤ amount) : truncate amount = ⌊amount⌋ := by
  rw [truncate, Int.tdiv_eq_ediv_of_nonneg (Rat.num_nonneg.mpr nonneg)]
  exact Rat.floor_def'.symm

/-- The whole tokens that a time is worth. -/
def earned (limit : Int) (since now : ℚ) : Int := ⌊(now - since) * limit⌋

theorem earned_le (limit : Int) (since now : ℚ) :
    (earned limit since now : ℚ) ≤ (now - since) * limit := Int.floor_le _

theorem earned_nonneg {limit : Int} (positive : 0 < limit) {since now : ℚ} (later : since ≤ now) :
    0 ≤ earned limit since now :=
  Int.floor_nonneg.mpr
    (mul_nonneg (sub_nonneg.mpr later) (Int.cast_nonneg (Int.le_of_lt positive)))

/-- A time that is cut in two is worth no more. -/
theorem earned_add_le (limit : Int) (since between now : ℚ) :
    earned limit since between + earned limit between now ≤ earned limit since now := by
  have whole : (now - since) * limit = (between - since) * limit + (now - between) * limit := by
    ring
  rw [earned, earned, earned, whole]
  exact Int.le_floor_add _ _

/-! ### One call -/

variable {bl : TimedLimiter} {demand : Demand}

namespace TimedLimiter

theorem available_eq (bounded : bl.Bounded) {now : ℚ} (later : bl.lastRefill ≤ now) :
    bl.available now = min (bl.tokens + earned bl.limit bl.lastRefill now) bl.limit := by
  unfold available refill
  dsimp only
  split
  · next passed =>
    have nonneg : 0 ≤ (now - bl.lastRefill) * bl.limit :=
      mul_nonneg passed.le (Int.cast_nonneg (Int.le_of_lt bounded.positive))
    rw [truncate_eq_floor nonneg]
    rfl
  · next same =>
    have none : now - bl.lastRefill = 0 := le_antisymm (not_lt.mp same) (sub_nonneg.mpr later)
    rw [earned, none, zero_mul, Int.floor_zero, add_zero]
    exact (min_eq_left bounded.capped).symm

theorem available_bounds (bounded : bl.Bounded) {now : ℚ}
    (later : bl.lastRefill ≤ now) : 0 ≤ bl.available now ∧ bl.available now ≤ bl.limit := by
  have earns := earned_nonneg bounded.positive later
  obtain ⟨positive, nonneg, capped⟩ := bounded
  rw [available_eq ⟨positive, nonneg, capped⟩ later]
  omega

/-- A bucket that is not overdrawn grants what it is asked for as far as it holds it. -/
theorem consumeGlobal_bucket (limiter : BandwidthLimiter) (refill : Option Int) (n : Int)
    (holds : 0 ≤ (limiter.bucket.refill refill).tokens) :
    (limiter.consumeGlobal refill n).1 = min n (limiter.bucket.refill refill).tokens ∧
      (limiter.consumeGlobal refill n).2.bucket.tokens =
        (limiter.bucket.refill refill).tokens - (limiter.consumeGlobal refill n).1 ∧
      (limiter.consumeGlobal refill n).2.bucket.limit = limiter.bucket.limit := by
  have limit : (limiter.bucket.refill refill).limit = limiter.bucket.limit := by
    cases refill <;> rfl
  unfold BandwidthLimiter.consumeGlobal
  dsimp only
  split
  · split
    · exact ⟨by omega, (Int.sub_zero _).symm, limit⟩
    · exact ⟨by omega, rfl, limit⟩
  · exact ⟨by omega, rfl, limit⟩

theorem lastRefill_after
    (later : bl.lastRefill ≤ demand.now) : (bl.after demand).lastRefill = demand.now := by
  rw [after, consumeGlobal]
  dsimp only
  split
  · rfl
  · next same => exact le_antisymm later (sub_nonpos.mp (not_lt.mp same))

/-- What a call does to a bucket that is not overdrawn. -/
theorem after_spec (bounded : bl.Bounded) (later : bl.lastRefill ≤ demand.now) :
    bl.granted demand = min demand.n (bl.available demand.now) ∧
      (bl.after demand).tokens = bl.available demand.now - bl.granted demand ∧
      (bl.after demand).limit = bl.limit :=
  consumeGlobal_bucket bl.limiter (bl.refill demand.now) demand.n (available_bounds bounded later).1

theorem bounded_after (bounded : bl.Bounded)
    (asked : 0 ≤ demand.n) (later : bl.lastRefill ≤ demand.now) : (bl.after demand).Bounded := by
  obtain ⟨granted, tokens, limit⟩ := after_spec bounded later
  have bounds := available_bounds bounded later
  exact ⟨by rw [limit]; exact bounded.positive, by omega, by omega⟩

/-! ### Sequences of calls -/

/-- The calls of a sequence, with the limiter before and after each. -/
def steps : TimedLimiter → List Demand → List (Taken TimedLimiter Demand)
  | _, [] => []
  | bl, demand :: rest => ⟨bl, demand, bl.after demand⟩ :: (bl.after demand).steps rest

end TimedLimiter

/-- Calls with arguments that are not negative, at times from the start on that do not decrease. -/
structure Timely (start : ℚ) (demands : List Demand) : Prop where
  asked : ∀ demand ∈ demands, 0 ≤ demand.n
  ordered : (start :: demands.map Demand.now).Pairwise (· ≤ ·)

theorem timely_cons {start : ℚ} {rest : List Demand} (timely : Timely start (demand :: rest)) :
    0 ≤ demand.n ∧ start ≤ demand.now ∧ Timely demand.now rest := by
  obtain ⟨asked, ordered⟩ := timely
  rw [List.map_cons] at ordered
  obtain ⟨later, rest'⟩ := List.pairwise_cons.mp ordered
  exact ⟨asked _ List.mem_cons_self, later _ List.mem_cons_self,
    fun other member => asked _ (List.mem_cons_of_mem _ member), rest'⟩

variable {demands : List Demand}

theorem Timely.le {start : ℚ} (timely : Timely start demands)
    (member : demand ∈ demands) : start ≤ demand.now :=
  (List.pairwise_cons.mp timely.ordered).1 _ (List.mem_map_of_mem member)

/-- What the steps of an interval were granted. -/
def grantedWithin (s t : ℚ) (steps : List (Taken TimedLimiter Demand)) : Int :=
  ((steps.filter fun step => decide (s ≤ step.label.now ∧ step.label.now ≤ t)).map fun step =>
    step.before.granted step.label).sum

theorem grantedWithin_cons (s t : ℚ) (step : Taken TimedLimiter Demand)
    (steps : List (Taken TimedLimiter Demand)) :
    grantedWithin s t (step :: steps) =
      (if s ≤ step.label.now ∧ step.label.now ≤ t then step.before.granted step.label else 0) +
        grantedWithin s t steps := by
  unfold grantedWithin
  rw [List.filter_cons]
  by_cases within : s ≤ step.label.now ∧ step.label.now ≤ t
  · rw [if_pos within, if_pos (decide_eq_true within), List.map_cons, List.sum_cons]
  · rw [if_neg within, if_neg (fun same => within (of_decide_eq_true same)), zero_add]

namespace TimedLimiter

theorem grantedWithin_late (s : ℚ) {t : ℚ}
    (late : ∀ demand ∈ demands, t < demand.now) : grantedWithin s t (bl.steps demands) = 0 := by
  induction demands generalizing bl with
  | nil => rfl
  | cons demand rest inductionHypothesis =>
    have after : ¬(s ≤ demand.now ∧ demand.now ≤ t) := fun within =>
      absurd within.2 (not_le.mpr (late demand List.mem_cons_self))
    rw [steps, grantedWithin_cons, if_neg after, zero_add]
    exact inductionHypothesis fun other member => late other (List.mem_cons_of_mem _ member)

/-- What a call leaves and what it grants come from what was left and from the time since. -/
theorem after_le (bounded : bl.Bounded) (later : bl.lastRefill ≤ demand.now) :
    (bl.granted demand + (bl.after demand).tokens : ℚ) ≤
      bl.tokens + bl.limit * (demand.now - bl.lastRefill) := by
  obtain ⟨-, tokens, -⟩ := after_spec bounded later
  have available := available_eq bounded later
  have whole : bl.granted demand + (bl.after demand).tokens ≤
      bl.tokens + earned bl.limit bl.lastRefill demand.now := by omega
  have exactly := earned_le bl.limit bl.lastRefill demand.now
  have cast : (bl.granted demand + (bl.after demand).tokens : ℚ) ≤
      bl.tokens + earned bl.limit bl.lastRefill demand.now := by exact_mod_cast whole
  linarith

/-- What is granted up to a time comes from what the bucket holds and from the time until then. -/
theorem grantedWithin_le (s : ℚ) {t : ℚ}
    (bounded : bl.Bounded) (timely : Timely bl.lastRefill demands) (later : bl.lastRefill ≤ t) :
    (grantedWithin s t (bl.steps demands) : ℚ) ≤ bl.tokens + bl.limit * (t - bl.lastRefill) := by
  have positive : (0 : ℚ) < bl.limit := Int.cast_pos.mpr bounded.positive
  induction demands generalizing bl with
  | nil =>
    have nonneg : (0 : ℚ) ≤ bl.tokens := Int.cast_nonneg bounded.nonneg
    have time := mul_nonneg positive.le (sub_nonneg.mpr later)
    exact show ((0 : Int) : ℚ) ≤ _ by rw [Int.cast_zero]; linarith
  | cons demand rest inductionHypothesis =>
    obtain ⟨asked, next, timelyRest⟩ := timely_cons timely
    by_cases until_ : demand.now ≤ t
    · obtain ⟨granted, -, limit⟩ := after_spec bounded next
      have bounds := available_bounds bounded next
      have clock := lastRefill_after next
      have step := after_le bounded next
      have others := inductionHypothesis (bounded_after bounded asked next)
        (by rw [clock]; exact timelyRest) (by rw [clock]; exact until_)
        (by rw [limit]; exact positive)
      rw [clock, limit] at others
      have counted : grantedWithin s t (bl.steps (demand :: rest)) ≤
          bl.granted demand + grantedWithin s t ((bl.after demand).steps rest) := by
        rw [steps, grantedWithin_cons]
        dsimp only
        split <;> omega
      have cast : (grantedWithin s t (bl.steps (demand :: rest)) : ℚ) ≤
          bl.granted demand + grantedWithin s t ((bl.after demand).steps rest) := by
        exact_mod_cast counted
      linarith
    · have late : ∀ other ∈ demand :: rest, t < other.now := by
        rintro other (_ | ⟨_, member⟩)
        · exact not_le.mp until_
        · exact lt_of_lt_of_le (not_le.mp until_) (timelyRest.le member)
      have nonneg : (0 : ℚ) ≤ bl.tokens := Int.cast_nonneg bounded.nonneg
      have time := mul_nonneg positive.le (sub_nonneg.mpr later)
      rw [grantedWithin_late s late, Int.cast_zero]
      linarith

/-- What is granted in an interval is a full bucket and what its time is worth, at most. -/
theorem grantedWithin_le_burst {s t : ℚ}
    (bounded : bl.Bounded) (timely : Timely bl.lastRefill demands) (interval : s ≤ t) :
    (grantedWithin s t (bl.steps demands) : ℚ) ≤ bl.limit + bl.limit * (t - s) := by
  have positive : (0 : ℚ) < bl.limit := Int.cast_pos.mpr bounded.positive
  have time := mul_nonneg positive.le (sub_nonneg.mpr interval)
  induction demands generalizing bl with
  | nil => exact show ((0 : Int) : ℚ) ≤ _ by rw [Int.cast_zero]; linarith
  | cons demand rest inductionHypothesis =>
    obtain ⟨asked, next, timelyRest⟩ := timely_cons timely
    obtain ⟨granted, tokens, limit⟩ := after_spec bounded next
    have bounds := available_bounds bounded next
    have clock := lastRefill_after next
    have boundedRest := bounded_after bounded asked next
    rw [← clock] at timelyRest
    rw [steps, grantedWithin_cons]
    dsimp only
    split
    · next within =>
      -- The call finds a full bucket at most, and the calls after it are bounded by the rest.
      have others :=
        grantedWithin_le s (t := t) boundedRest timelyRest (by rw [clock]; exact within.2)
      rw [clock, limit] at others
      have whole : ((bl.granted demand + (bl.after demand).tokens : Int) : ℚ) ≤ bl.limit :=
        Int.cast_le.mpr (by omega)
      have less := mul_nonneg positive.le (sub_nonneg.mpr within.1)
      push_cast at whole ⊢
      linarith
    · have others := inductionHypothesis boundedRest timelyRest
        (by rw [limit]; exact positive) (by rw [limit]; exact time)
      rw [limit] at others
      rw [zero_add]
      exact others

/-- Every call of a sequence is made on a bounded bucket with the limit of the first, later than
its last refill. -/
theorem bounded_steps (bounded : bl.Bounded)
    (timely : Timely bl.lastRefill demands) {step : Taken TimedLimiter Demand}
    (member : step ∈ bl.steps demands) :
    step.before.Bounded ∧ step.before.limit = bl.limit ∧ 0 ≤ step.label.n ∧
      step.before.lastRefill ≤ step.label.now ∧ step.after = step.before.after step.label := by
  induction demands generalizing bl with
  | nil => exact absurd member List.not_mem_nil
  | cons demand rest inductionHypothesis =>
    obtain ⟨asked, next, timelyRest⟩ := timely_cons timely
    rcases List.mem_cons.mp member with rfl | later
    · exact ⟨bounded, rfl, asked, next, rfl⟩
    · rw [← lastRefill_after next] at timelyRest
      rw [← (after_spec bounded next).2.2]
      exact inductionHypothesis (bounded_after bounded asked next) timelyRest later

end TimedLimiter

/-- What a call may do: it grants no more than it is asked for and all of it where the bucket holds
it, and the bucket stays within its limit, before the grant and after. -/
structure Fair (totalLimit : Int) (step : Taken TimedLimiter Demand) : Prop where
  refilled : 0 ≤ step.before.available step.label.now ∧
    step.before.available step.label.now ≤ totalLimit
  left : 0 ≤ step.after.tokens ∧ step.after.tokens ≤ totalLimit
  granted : 0 ≤ step.before.granted step.label ∧ step.before.granted step.label ≤ step.label.n
  whole : step.label.n ≤ step.before.available step.label.now →
    step.before.granted step.label = step.label.n

end SovaDesk.Ratelimit
