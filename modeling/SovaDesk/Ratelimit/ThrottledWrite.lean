/-
This file models the loop in which a limited writer writes a slice, and settles that throttling
does not alter what is written.

The loop cuts what remains of the slice into the pieces that the buckets grant, and goes on behind
what the inner writer took of each piece. What the buckets hold when a round comes to them is up to
time and to the other sessions, so each round finds buckets of its own; what the inner writer does
with a piece is up to it. Of all that the loop depends on the lengths alone: a piece is the
beginning of what remains, and what remains is the slice without the bytes that were taken.
-/

import SovaDesk.Ratelimit.Bandwidth

namespace SovaDesk.Ratelimit

open Transition

/-! ### The loop -/

/-- What a round of the loop finds: the buckets, the tokens that came back to them, and the inner
writer. -/
structure Round where
  limiter : BandwidthLimiter
  writer : Bucket
  sessionRefill : Option Int
  globalRefill : Option Int
  inner : Inner

/-- A call of `limitedWriter.Write` between two rounds: the bytes that remain, the number that is
written, the bytes that the inner writer took, and what was returned, if the loop is over. -/
structure Writing where
  remaining : List UInt8
  written : Nat
  accepted : List UInt8
  returned : Option (Nat × Bool)

namespace Writing

/-- The head of the loop, which ends without an error when nothing remains. -/
def next (w : Writing) : Writing :=
  if w.remaining.length > 0 then w else { w with returned := some (w.written, false) }

/-- How many bytes a round is granted. -/
def granted (w : Writing) (round : Round) : Nat :=
  (grant round.limiter round.writer
    ⟨w.remaining.length, round.sessionRefill, round.globalRefill⟩).1

/-- The piece that the inner writer is handed. -/
def handed (w : Writing) (round : Round) : List UInt8 := w.remaining.take (w.granted round)

/-- What the inner writer does with the piece. -/
def outcome (w : Writing) (round : Round) : Outcome (w.granted round) :=
  round.inner (w.granted round)

/-- The bytes that the inner writer takes in a round. -/
def took (w : Writing) (round : Round) : List UInt8 :=
  if w.granted round = 0 then [] else (w.handed round).take (w.outcome round).count

/-- One round: without a grant the loop sleeps and comes back. -/
def round (w : Writing) (round : Round) : Writing :=
  if w.granted round = 0 then w
  else
    let after := { w with
      written := w.written + (w.outcome round).count
      accepted := w.accepted ++ (w.handed round).take (w.outcome round).count }
    if (w.outcome round).failed then { after with returned := some (after.written, true) }
    else next { after with remaining := w.remaining.drop (w.outcome round).count }

end Writing

/-- `limitedWriter.Write` for a slice. -/
def writing (p : List UInt8) : System Writing Round where
  start w := w = Writing.next ⟨p, 0, [], none⟩
  step w round := if w.returned.isSome then none else some (w.round round)

namespace Writing

/-- The inner writer is handed a piece and reports an error. -/
def Failed (step : Taken Writing Round) : Prop :=
  step.before.granted step.label ≠ 0 ∧ (step.before.outcome step.label).failed = true

/-! ### One round -/

theorem granted_le (w : Writing) (round : Round) : w.granted round ≤ w.remaining.length :=
  (grant_spec _ _ _).1

theorem length_took (w : Writing) (round : Round) :
    (w.took round).length =
      if w.granted round = 0 then 0 else (w.outcome round).count := by
  unfold took handed
  split
  · rfl
  · have piece := w.granted_le round
    have bounded := (w.outcome round).bounded
    rw [List.length_take, List.length_take]
    omega

/-- The bytes taken are the beginning of what remains. -/
theorem took_eq (w : Writing) (round : Round) :
    w.took round = w.remaining.take (w.took round).length := by
  rw [length_took]
  unfold took handed
  split
  · rw [List.take_zero]
  · rw [List.take_take, min_eq_left (w.outcome round).bounded]

/-- What holds of a call for the slice `p` between two rounds. -/
structure Kept (p : List UInt8) (w : Writing) : Prop where
  written : w.written = w.accepted.length
  begins : w.accepted <+: p
  running : w.returned = none → w.accepted ++ w.remaining = p ∧ 0 < w.remaining.length
  outcome : ∀ n failed, w.returned = some (n, failed) →
    n = w.accepted.length ∧ (failed = false → w.accepted = p)

variable {w : Writing}

theorem kept_next {p : List UInt8} (written : w.written = w.accepted.length)
    (whole : w.accepted ++ w.remaining = p) (running : w.returned = none) : Kept p w.next := by
  unfold next
  split
  · next some_ =>
    exact ⟨written, ⟨_, whole⟩, fun _ => ⟨whole, some_⟩,
      fun _ _ returned => (Option.some_ne_none _ (returned.symm.trans running)).elim⟩
  · next none_ =>
    have empty : w.remaining = [] := List.eq_nil_of_length_eq_zero (Nat.eq_zero_of_not_pos none_)
    rw [empty, List.append_nil] at whole
    refine ⟨written, ⟨[], by rw [List.append_nil]; exact whole⟩,
      fun none => (Option.some_ne_none _ none).elim, fun n failed returned => ?_⟩
    have same : (w.written, false) = (n, failed) := Option.some.inj returned
    obtain ⟨count, -⟩ := Prod.mk.inj same
    exact ⟨count.symm.trans written, fun _ => whole⟩

/-- A round is granted nothing, or its inner writer fails, or the loop goes on. -/
theorem round_cases (w : Writing) (round : Round) :
    (w.granted round = 0 ∧ w.took round = [] ∧ w.round round = w) ∨
      (w.granted round ≠ 0 ∧ (w.outcome round).failed = true ∧
        w.round round = { w with
          written := w.written + (w.took round).length
          accepted := w.accepted ++ w.took round
          returned := some (w.written + (w.took round).length, true) }) ∨
      (w.granted round ≠ 0 ∧ (w.outcome round).failed = false ∧
        w.round round = next { w with
          written := w.written + (w.took round).length
          accepted := w.accepted ++ w.took round
          remaining := w.remaining.drop (w.took round).length }) := by
  have length := w.length_took round
  by_cases none : w.granted round = 0
  · exact .inl ⟨none, if_pos none, if_pos none⟩
  · rw [if_neg none] at length
    have took : w.took round = (w.handed round).take (w.outcome round).count := if_neg none
    right
    unfold Writing.round
    rw [if_neg none, length, took]
    cases failed : (w.outcome round).failed with
    | true => exact .inl ⟨none, rfl, rfl⟩
    | false => exact .inr ⟨none, rfl, rfl⟩

theorem accepted_next (w : Writing) : w.next.accepted = w.accepted := by
  unfold next
  split <;> rfl

/-- The head of the loop reports no error. -/
theorem ne_none_of_next {n : Nat} (returned : w.next.returned = some (n, true)) :
    w.returned ≠ none := by
  unfold next at returned
  split at returned
  · exact fun running => Option.some_ne_none _ (returned.symm.trans running)
  · exact absurd (Prod.mk.inj (Option.some.inj returned)).2 Bool.false_ne_true

/-- What a round does to the bytes that were taken. -/
theorem accepted_round (w : Writing) (round : Round) :
    (w.round round).accepted = w.accepted ++ w.took round := by
  rcases w.round_cases round with ⟨-, took, same⟩ | ⟨-, -, same⟩ | ⟨-, -, same⟩
  · rw [same, took, List.append_nil]
  · rw [same]
  · rw [same, accepted_next]

/-- A round of a call keeps what holds of it. -/
theorem Kept.round {p : List UInt8} (kept : Kept p w) (running : w.returned = none)
    (round : Round) : Kept p (w.round round) := by
  obtain ⟨whole, -⟩ := kept.running running
  have written : w.written + (w.took round).length = (w.accepted ++ w.took round).length := by
    rw [kept.written, List.length_append]
  have more : w.took round ++ w.remaining.drop (w.took round).length = w.remaining := by
    conv => lhs; arg 1; rw [w.took_eq round]
    exact List.take_append_drop _ _
  have after : (w.accepted ++ w.took round) ++ w.remaining.drop (w.took round).length = p := by
    rw [List.append_assoc, more, whole]
  rcases w.round_cases round with ⟨-, -, same⟩ | ⟨-, -, same⟩ | ⟨-, -, same⟩
  · rw [same]
    exact kept
  · rw [same]
    refine ⟨written, ⟨_, after⟩, fun none => (Option.some_ne_none _ none).elim, ?_⟩
    intro n failed returned
    obtain ⟨count, isFailed⟩ := Prod.mk.inj (Option.some.inj returned)
    exact ⟨count.symm.trans written,
      fun fine => absurd (isFailed.trans fine) Bool.false_ne_true.symm⟩
  · rw [same]
    exact kept_next written after running

/-- The inner writer has failed exactly when the call returned an error. -/
theorem failed_round_iff (running : w.returned = none) (round : Round) :
    (∃ n, (w.round round).returned = some (n, true)) ↔
      w.granted round ≠ 0 ∧ (w.outcome round).failed = true := by
  rcases w.round_cases round with ⟨none, -, same⟩ | ⟨some_, failed, same⟩ | ⟨-, fine, same⟩
  · rw [same, running]
    constructor
    · rintro ⟨n, returned⟩
      exact (Option.some_ne_none _ returned.symm).elim
    · rintro ⟨some_, -⟩
      exact absurd none some_
  · rw [same]
    exact iff_of_true ⟨_, rfl⟩ ⟨some_, failed⟩
  · rw [same]
    constructor
    · rintro ⟨n, returned⟩
      exact (ne_none_of_next returned running).elim
    · rintro ⟨-, failed⟩
      exact absurd (fine.symm.trans failed) Bool.false_ne_true

end Writing

/-! ### Calls -/

section calls

open Writing

variable {p : List UInt8} {rounds : List (Taken Writing Round)} {w : Writing}

theorem of_step {before after : Writing} {round : Round}
    (taken : (writing p).step before round = some after) :
    before.returned = none ∧ after = before.round round := by
  obtain ⟨running, same⟩ := Option.ite_none_left_eq_some.mp taken
  exact ⟨Option.not_isSome_iff_eq_none.mp running, (Option.some.inj same).symm⟩

theorem kept_of_reachable (reached : Reachable (writing p) w) : Kept p w := by
  refine reached.invariant (Kept p) (fun state initial => ?_)
    fun before label after kept _ taken => ?_
  · rw [show state = Writing.next ⟨p, 0, [], none⟩ from initial]
    exact kept_next rfl rfl rfl
  · obtain ⟨running, same⟩ := of_step taken
    rw [same]
    exact kept.round running label

/-- A call returned an error exactly when its inner writer failed. -/
theorem failed_iff (history : History (writing p) rounds w) :
    (∃ n, w.returned = some (n, true)) ↔ ∃ step ∈ rounds, Failed step := by
  induction history with
  | start initial =>
    rw [initial]
    constructor
    · rintro ⟨n, returned⟩
      exact absurd rfl (ne_none_of_next returned)
    · rintro ⟨step, member, -⟩
      exact absurd member List.not_mem_nil
  | @step steps before after round earlier taken inductionHypothesis =>
    obtain ⟨running, same⟩ := of_step taken
    have never : ¬∃ step ∈ steps, Failed step := fun failed => by
      obtain ⟨n, returned⟩ := inductionHypothesis.mpr failed
      exact Option.some_ne_none _ (returned.symm.trans running)
    rw [same, failed_round_iff running]
    constructor
    · exact fun failed => ⟨_, List.mem_cons_self, failed⟩
    · rintro ⟨step, member, failed⟩
      rcases List.mem_cons.mp member with rfl | older
      · exact failed
      · exact absurd ⟨step, older, failed⟩ never

/-- The inner writer took a byte in no more rounds than there are bytes. -/
theorem productive_le (history : History (writing p) rounds w) :
    (rounds.filter fun step => (step.before.took step.label).length > 0).length ≤
      w.accepted.length := by
  induction history with
  | start _ => exact Nat.zero_le _
  | step earlier taken inductionHypothesis =>
    obtain ⟨-, same⟩ := of_step taken
    rw [same, accepted_round, List.length_append, List.filter_cons]
    dsimp only
    split
    · next took =>
      have some_ := of_decide_eq_true took
      rw [List.length_cons]
      omega
    · omega

end calls

/-- What `Write` does with the slice `p`, for any grants and any inner writer. Each piece that the
inner writer is handed begins where the bytes it took so far end, and these are a beginning of `p`.
A call that returns returns their number, with an error exactly when the inner writer failed, and
without one only for all of `p`. A call that has not returned has bytes left to write, and takes a
byte in no more rounds than there are bytes. -/
theorem write_exact (p : List UInt8) (rounds : List (Taken Writing Round)) (w : Writing)
    (history : History (writing p) rounds w) :
    (w.accepted <+: p ∧ w.written = w.accepted.length) ∧
      (∀ step ∈ rounds, step.before.handed step.label <+: p.drop step.before.accepted.length ∧
        step.after.accepted = step.before.accepted ++ step.before.took step.label ∧
        step.before.took step.label <+: step.before.handed step.label) ∧
      (∀ n failed, w.returned = some (n, failed) → n = w.accepted.length ∧
        (failed = true ↔ ∃ step ∈ rounds, Writing.Failed step) ∧
        (failed = false → w.accepted = p)) ∧
      (w.returned = none → w.accepted.length < p.length) ∧
      (rounds.filter fun step => (step.before.took step.label).length > 0).length ≤ p.length := by
  have kept := kept_of_reachable history.reachable
  refine ⟨⟨kept.begins, kept.written⟩, ?_, ?_, ?_,
    (productive_le history).trans kept.begins.length_le⟩
  · intro step member
    obtain ⟨reached, taken⟩ := history.taken member
    obtain ⟨running, same⟩ := of_step taken
    obtain ⟨whole, -⟩ := (kept_of_reachable reached).running running
    have remains : p.drop step.before.accepted.length = step.before.remaining := by
      rw [← whole, List.drop_left]
    rw [remains, same]
    refine ⟨List.take_prefix _ _, Writing.accepted_round _ _, ?_⟩
    unfold Writing.took
    split
    · exact List.nil_prefix
    · exact List.take_prefix _ _
  · intro n failed returned
    obtain ⟨count, whole⟩ := kept.outcome n failed returned
    refine ⟨count, ?_, whole⟩
    rw [← failed_iff history]
    constructor
    · rintro rfl
      exact ⟨n, returned⟩
    · rintro ⟨m, other⟩
      exact (Prod.mk.inj (Option.some.inj (returned.symm.trans other))).2
  · intro running
    obtain ⟨whole, some_⟩ := kept.running running
    rw [← whole, List.length_append]
    omega

/-- A round that finds two tokens for the session. -/
def Round.two (inner : Inner) : Round :=
  ⟨newBandwidthLimiter 100 100, .full 2, none, none, inner⟩

/-- Three bytes in a round without tokens, a round of which the inner writer takes one byte of two,
and one of which it takes two. -/
theorem write_exact_short :
    ∃ w : Writing, w.returned = some (3, false) ∧ w.accepted = [1, 2, 3] := by
  have started : (writing [1, 2, 3]).start (Writing.next ⟨[1, 2, 3], 0, [], none⟩) := rfl
  have ran : ((writing [1, 2, 3]).trace [] (Writing.next ⟨[1, 2, 3], 0, [], none⟩)
      [⟨newBandwidthLimiter 100 100, .full 0, none, none, .upTo 9⟩, .two (.upTo 1),
        .two (.upTo 9)]).any (fun run => run.2.returned == some (3, false)) = true := by
    decide
  obtain ⟨steps, final, history, passed⟩ := exists_history_of_trace started ran
  have returned : final.returned = some (3, false) := eq_of_beq passed
  obtain ⟨-, -, outcome, -⟩ := write_exact [1, 2, 3] steps final history
  exact ⟨final, returned, (outcome 3 false returned).2.2 rfl⟩

end SovaDesk.Ratelimit
