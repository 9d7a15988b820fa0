/-
This file is a small library for streams that arrive in pieces.

A reader keeps what it has not used yet in a buffer, appends what arrives and takes
complete units off the front, one after the other, until the buffer holds no more of
them; then it drops what it is sure it will never need and waits. Two laws make its
output a function of the stream alone: a unit that is complete stays the same unit
when more bytes follow it, and what is dropped changes nothing about what comes next.
Under them every way of cutting a stream into pieces gives the items of the whole.

The items are found by marks, which are patterns looked for at every position of the
buffer. A mark is local when a bounded number of symbols decides whether it is there.
-/

import Mathlib.Algebra.Order.Group.Nat
import Mathlib.Data.List.Infix

namespace Chunks

/-! ### Marks -/

section marks

variable {Symbol : Type}

/-- The first position of a list at which a mark stands. -/
def indexWhere (here : List Symbol → Bool) (symbols : List Symbol) : Option Nat :=
  symbols.tails.findIdx? here

theorem indexWhere_eq_some_iff (here : List Symbol → Bool) (symbols : List Symbol)
    (position : Nat) :
    indexWhere here symbols = some position ↔
      position ≤ symbols.length ∧ here (symbols.drop position) = true ∧
        ∀ earlier < position, here (symbols.drop earlier) = false := by
  rw [indexWhere, List.findIdx?_eq_some_iff_getElem]
  simp only [List.length_tails, List.getElem_tails, Bool.not_eq_true, Nat.lt_succ_iff,
    exists_prop]

theorem indexWhere_eq_none_iff (here : List Symbol → Bool) (symbols : List Symbol) :
    indexWhere here symbols = none ↔
      ∀ position ≤ symbols.length, here (symbols.drop position) = false := by
  rw [indexWhere, List.findIdx?_eq_none_iff]
  constructor
  · intro absent position bound
    exact absent _ ((List.mem_tails _ _).mpr (List.drop_suffix position symbols))
  · intro absent suffix member
    obtain ⟨skipped, rfl⟩ := (List.mem_tails _ _).mp member
    have found := absent skipped.length (by rw [List.length_append]; omega)
    rwa [List.drop_left] at found

/-- What stands before the first mark plays no part in where it is. -/
theorem indexWhere_drop (here : List Symbol → Bool) (symbols : List Symbol)
    (position skipped : Nat) (found : indexWhere here symbols = some position)
    (before : skipped ≤ position) :
    indexWhere here (symbols.drop skipped) = some (position - skipped) := by
  obtain ⟨bound, stands, none⟩ := (indexWhere_eq_some_iff here symbols position).mp found
  rw [indexWhere_eq_some_iff, List.length_drop, List.drop_drop, Nat.add_sub_of_le before]
  refine ⟨by omega, stands, fun earlier early => ?_⟩
  rw [List.drop_drop]
  exact none _ (by omega)

/-- A mark that stands nowhere in the skipped symbols is found in the rest. -/
theorem indexWhere_append_of_skipped (here : List Symbol → Bool) (skipped rest : List Symbol)
    (absent : ∀ position < skipped.length, here (skipped.drop position ++ rest) = false) :
    indexWhere here (skipped ++ rest) =
      (indexWhere here rest).map (skipped.length + ·) := by
  cases found : indexWhere here rest with
  | none =>
    rw [Option.map_none, indexWhere_eq_none_iff]
    intro position bound
    by_cases early : position < skipped.length
    · rw [List.drop_append_of_le_length early.le]
      exact absent position early
    · rw [List.drop_append, List.drop_eq_nil_of_le (Nat.le_of_not_lt early), List.nil_append]
      refine (indexWhere_eq_none_iff here rest).mp found _ ?_
      rw [List.length_append] at bound
      omega
  | some position =>
    obtain ⟨bound, stands, before⟩ := (indexWhere_eq_some_iff here rest position).mp found
    rw [Option.map_some, indexWhere_eq_some_iff]
    refine ⟨by rw [List.length_append]; omega, ?_, fun earlier early => ?_⟩
    · rw [List.drop_append, List.drop_eq_nil_of_le (by omega), List.nil_append,
        Nat.add_sub_cancel_left]
      exact stands
    · by_cases inSkipped : earlier < skipped.length
      · rw [List.drop_append_of_le_length inSkipped.le]
        exact absent earlier inSkipped
      · rw [List.drop_append, List.drop_eq_nil_of_le (Nat.le_of_not_lt inSkipped),
          List.nil_append]
        exact before _ (by omega)

/-- A mark that a bounded number of symbols decides: it needs the least number of them to
stand, and the most of them settle whether it does; the two differ by at most one. -/
structure Local (here : List Symbol → Bool) (least most : Nat) : Prop where
  needs : ∀ symbols, here symbols = true → least ≤ symbols.length
  grows : ∀ symbols more, here symbols = true → here (symbols ++ more) = true
  settled : ∀ symbols more, most ≤ symbols.length → here (symbols ++ more) = true →
    here symbols = true
  narrow : most ≤ least + 1

namespace Local

variable {here : List Symbol → Bool} {least most : Nat} (isLocal : Local here least most)

include isLocal

/-- The first mark of a list stays the first when more symbols follow. -/
theorem indexWhere_append (symbols more : List Symbol) (position : Nat)
    (found : indexWhere here symbols = some position) :
    indexWhere here (symbols ++ more) = some position := by
  obtain ⟨bound, stands, before⟩ := (indexWhere_eq_some_iff here symbols position).mp found
  have room := isLocal.needs _ stands
  rw [List.length_drop] at room
  rw [indexWhere_eq_some_iff]
  refine ⟨by rw [List.length_append]; omega, ?_, fun earlier early => ?_⟩
  · rw [List.drop_append_of_le_length bound]
    exact isLocal.grows _ _ stands
  · rw [List.drop_append_of_le_length (by omega)]
    refine Bool.eq_false_iff.mpr fun stands => ?_
    have narrow := isLocal.narrow
    have stood := isLocal.settled _ _ (by rw [List.length_drop]; omega) stands
    exact Bool.false_ne_true ((before earlier early).symm.trans stood)

/-- A mark within the bounds of a list that does not hold it is not there either when more
symbols follow. -/
theorem absent_append (symbols more : List Symbol) (absent : indexWhere here symbols = none)
    (position : Nat) (bound : position + most ≤ symbols.length) :
    here (symbols.drop position ++ more) = false := by
  refine Bool.eq_false_iff.mpr fun stands => ?_
  have stood := isLocal.settled _ _ (by rw [List.length_drop]; omega) stands
  have never := (indexWhere_eq_none_iff here symbols).mp absent position (by omega)
  exact Bool.false_ne_true (never.symm.trans stood)

/-- The first mark of a list is found at the front of what remains from it on. -/
theorem indexWhere_drop_append (symbols more : List Symbol) (position : Nat)
    (found : indexWhere here symbols = some position) :
    indexWhere here (symbols.drop position ++ more) = some 0 := by
  obtain ⟨_, stands, _⟩ := (indexWhere_eq_some_iff here symbols position).mp found
  rw [indexWhere_eq_some_iff]
  exact ⟨Nat.zero_le _, isLocal.grows _ _ stands, fun earlier early => absurd early (by omega)⟩

/-- Enough symbols settle whether the mark stands. -/
theorem append_eq (symbols more : List Symbol) (long : most ≤ symbols.length) :
    here (symbols ++ more) = here symbols :=
  Bool.eq_iff_iff.mpr ⟨isLocal.settled symbols more long, isLocal.grows symbols more⟩

end Local

/-- A fixed word, looked for at the front. -/
theorem local_isPrefixOf [BEq Symbol] [LawfulBEq Symbol] (word : List Symbol) :
    Local (word.isPrefixOf ·) word.length word.length where
  needs _ stands := (List.isPrefixOf_iff_prefix.mp stands).length_le
  grows symbols more stands := List.isPrefixOf_iff_prefix.mpr
    ((List.isPrefixOf_iff_prefix.mp stands).trans (List.prefix_append symbols more))
  settled symbols more long stands := List.isPrefixOf_iff_prefix.mpr
    (List.prefix_of_prefix_length_le (List.isPrefixOf_iff_prefix.mp stands)
      (List.prefix_append symbols more) long)
  narrow := Nat.le_succ _

/-- One of two marks. -/
theorem Local.or {here there : List Symbol → Bool} {least most least' most' : Nat}
    (isLocal : Local here least most) (isLocal' : Local there least' most')
    (narrow : max most most' ≤ min least least' + 1) :
    Local (fun symbols => here symbols || there symbols) (min least least')
      (max most most') where
  needs symbols stands := by
    rcases Bool.or_eq_true_iff.mp stands with stands | stands
    · exact le_trans (Nat.min_le_left _ _) (isLocal.needs symbols stands)
    · exact le_trans (Nat.min_le_right _ _) (isLocal'.needs symbols stands)
  grows symbols more stands := by
    rcases Bool.or_eq_true_iff.mp stands with stands | stands
    · exact Bool.or_eq_true_iff.mpr (.inl (isLocal.grows symbols more stands))
    · exact Bool.or_eq_true_iff.mpr (.inr (isLocal'.grows symbols more stands))
  settled symbols more long stands := by
    rwa [isLocal.append_eq symbols more (le_trans (Nat.le_max_left _ _) long),
      isLocal'.append_eq symbols more (le_trans (Nat.le_max_right _ _) long)] at stands
  narrow := narrow

end marks

/-! ### Splitters -/

/-- A reader that splits a stream into items. A step takes something off the front of the
buffer, if it can; what a stuck reader keeps of its buffer, what it gives out at the end of the
stream and how much it buffers at most are its own. -/
structure Splitter (Symbol State Item : Type) where
  /-- One step: the items it gives out, the new state and the rest of the buffer. -/
  next : State → List Symbol → Option (List Item × State × List Symbol)
  /-- What a stuck reader keeps of its buffer. -/
  keep : State → List Symbol → List Symbol
  /-- What the reader gives out when the stream ends. -/
  finish : State → List Item
  /-- A buffer longer than this is thrown away after a read. -/
  limit : Option Nat
  shortens : ∀ state buffer items after rest,
    next state buffer = some (items, after, rest) → rest.length < buffer.length
  keeps_le : ∀ state buffer, (keep state buffer).length ≤ buffer.length

namespace Splitter

variable {Symbol State Item : Type} (splitter : Splitter Symbol State Item)

/-- Take steps until the reader is stuck, within a bound on the number of steps. -/
def drainWithin : Nat → State → List Symbol → List Item × State × List Symbol
  | 0, state, buffer => ([], state, buffer)
  | bound + 1, state, buffer =>
    match splitter.next state buffer with
    | none => ([], state, buffer)
    | some (items, after, rest) =>
      let drained := drainWithin bound after rest
      (items ++ drained.1, drained.2)

/-- Take steps until the reader is stuck. Every step shortens the buffer. -/
def drain (state : State) (buffer : List Symbol) : List Item × State × List Symbol :=
  splitter.drainWithin buffer.length state buffer

/-- The buffer after a read: nothing when it has grown over the limit. -/
def guard (buffer : List Symbol) : List Symbol :=
  match splitter.limit with
  | none => buffer
  | some limit => if limit < buffer.length then [] else buffer

/-- Read a stream piece by piece from a state and a buffer: what the reader gives out. At the
end of the stream it drains its buffer once more and finishes. -/
def readFrom : State → List Symbol → List (List Symbol) → List Item
  | state, buffer, [] =>
    let drained := splitter.drain state buffer
    drained.1 ++ splitter.finish drained.2.1
  | state, buffer, read :: reads =>
    let drained := splitter.drain state (buffer ++ read)
    drained.1 ++
      readFrom drained.2.1 (splitter.guard (splitter.keep drained.2.1 drained.2.2)) reads

/-- The state the reader is in at the end of the stream. -/
def stateFrom : State → List Symbol → List (List Symbol) → State
  | state, buffer, [] => (splitter.drain state buffer).2.1
  | state, buffer, read :: reads =>
    let drained := splitter.drain state (buffer ++ read)
    stateFrom drained.2.1 (splitter.guard (splitter.keep drained.2.1 drained.2.2)) reads

/-! ### Draining -/

theorem drainWithin_of_stuck (bound : Nat) (state : State) (buffer : List Symbol)
    (stuck : splitter.next state buffer = none) :
    splitter.drainWithin bound state buffer = ([], state, buffer) := by
  cases bound with
  | zero => rfl
  | succ bound => rw [drainWithin, stuck]

/-- A bound that covers the buffer is as good as any other. -/
theorem drainWithin_eq_drain (bound : Nat) (state : State) (buffer : List Symbol)
    (covers : buffer.length ≤ bound) :
    splitter.drainWithin bound state buffer = splitter.drain state buffer := by
  rw [drain]
  generalize same : buffer.length = needed at covers ⊢
  induction needed using Nat.strong_induction_on generalizing bound state buffer with
  | _ needed inductionHypothesis =>
    cases step : splitter.next state buffer with
    | none => rw [drainWithin_of_stuck _ _ _ _ step, drainWithin_of_stuck _ _ _ _ step]
    | some taken =>
      obtain ⟨items, after, rest⟩ := taken
      have shorter := splitter.shortens state buffer items after rest step
      obtain ⟨bound, rfl⟩ : ∃ less, bound = less + 1 := ⟨bound - 1, by omega⟩
      obtain ⟨needed, rfl⟩ : ∃ less, needed = less + 1 := ⟨needed - 1, by omega⟩
      have first := inductionHypothesis rest.length (by omega) bound after rest rfl (by omega)
      have second := inductionHypothesis rest.length (by omega) needed after rest rfl (by omega)
      simp only [drainWithin, step, first, second]

theorem drain_of_stuck (state : State) (buffer : List Symbol)
    (stuck : splitter.next state buffer = none) :
    splitter.drain state buffer = ([], state, buffer) :=
  splitter.drainWithin_of_stuck _ state buffer stuck

theorem drain_of_step (state : State) (buffer : List Symbol) (items : List Item) (after : State)
    (rest : List Symbol) (step : splitter.next state buffer = some (items, after, rest)) :
    splitter.drain state buffer =
      (items ++ (splitter.drain after rest).1, (splitter.drain after rest).2) := by
  have shorter := splitter.shortens state buffer items after rest step
  obtain ⟨less, same⟩ : ∃ less, buffer.length = less + 1 := ⟨buffer.length - 1, by omega⟩
  rw [drain, same, drainWithin, step]
  simp only [splitter.drainWithin_eq_drain less after rest (by omega)]

/-- A property of a state and a buffer that holds when the reader is stuck, and before a step
when it holds after it. -/
theorem drain_induction {motive : State → List Symbol → Prop}
    (stuck : ∀ state buffer, splitter.next state buffer = none → motive state buffer)
    (step : ∀ state buffer items after rest,
      splitter.next state buffer = some (items, after, rest) → motive after rest →
        motive state buffer)
    (state : State) (buffer : List Symbol) : motive state buffer := by
  generalize same : buffer.length = size
  induction size using Nat.strong_induction_on generalizing state buffer with
  | _ size inductionHypothesis =>
    cases taken : splitter.next state buffer with
    | none => exact stuck state buffer taken
    | some result =>
      obtain ⟨items, after, rest⟩ := result
      have shorter := splitter.shortens state buffer items after rest taken
      exact step state buffer items after rest taken
        (inductionHypothesis rest.length (by omega) after rest rfl)

/-- A drained reader is stuck. -/
theorem next_drain (state : State) (buffer : List Symbol) :
    splitter.next (splitter.drain state buffer).2.1 (splitter.drain state buffer).2.2 = none := by
  induction state, buffer using splitter.drain_induction with
  | stuck state buffer isStuck => rw [splitter.drain_of_stuck state buffer isStuck]; exact isStuck
  | step state buffer items after rest taken inductionHypothesis =>
    rw [splitter.drain_of_step state buffer items after rest taken]
    exact inductionHypothesis

theorem drain_length_le (state : State) (buffer : List Symbol) :
    (splitter.drain state buffer).2.2.length ≤ buffer.length := by
  induction state, buffer using splitter.drain_induction with
  | stuck state buffer isStuck => rw [splitter.drain_of_stuck state buffer isStuck]
  | step state buffer items after rest taken inductionHypothesis =>
    have shorter := splitter.shortens state buffer items after rest taken
    rw [splitter.drain_of_step state buffer items after rest taken]
    exact le_trans inductionHypothesis shorter.le

/-! ### The laws -/

/-- A step stays the same step when more symbols follow. -/
def Stable : Prop :=
  ∀ state buffer items after rest more, splitter.next state buffer = some (items, after, rest) →
    splitter.next state (buffer ++ more) = some (items, after, rest ++ more)

/-- What a stuck reader throws away changes nothing about the next step, when these symbols
follow. -/
def Keeps (state : State) (buffer more : List Symbol) : Prop :=
  splitter.next state (splitter.keep state buffer ++ more) = splitter.next state (buffer ++ more)

/-- What a stuck reader throws away never changes anything about the next step. -/
def Keeping : Prop :=
  ∀ state buffer more, splitter.next state buffer = none → splitter.Keeps state buffer more

/-- What a reader gives out for a stream, and the state it ends in. -/
def output (state : State) (stream : List Symbol) : List Item × State :=
  ((splitter.drain state stream).1, (splitter.drain state stream).2.1)

/-- Two buffers with the same next step give the same output. -/
theorem output_congr (state : State) (buffer other : List Symbol)
    (same : splitter.next state buffer = splitter.next state other) :
    splitter.output state buffer = splitter.output state other := by
  unfold output
  cases step : splitter.next state other with
  | none =>
    rw [splitter.drain_of_stuck state other step,
      splitter.drain_of_stuck state buffer (same.trans step)]
  | some taken =>
    obtain ⟨items, after, rest⟩ := taken
    rw [splitter.drain_of_step state other items after rest step,
      splitter.drain_of_step state buffer items after rest (same.trans step)]

/-- The output of a stream is that of its front, followed by what the leftover of the front
gives out with the rest of the stream. -/
theorem output_append (stable : splitter.Stable) (state : State) (front more : List Symbol) :
    splitter.output state (front ++ more) =
      let drained := splitter.drain state front
      let later := splitter.output drained.2.1 (drained.2.2 ++ more)
      (drained.1 ++ later.1, later.2) := by
  induction state, front using splitter.drain_induction with
  | stuck state front isStuck =>
    rw [splitter.drain_of_stuck state front isStuck]
    rfl
  | step state front items after rest taken inductionHypothesis =>
    have longer := stable state front items after rest more taken
    unfold output at inductionHypothesis ⊢
    rw [splitter.drain_of_step state _ items after _ longer,
      splitter.drain_of_step state front items after rest taken]
    simp only [Prod.mk.injEq] at inductionHypothesis ⊢
    rw [inductionHypothesis.1, inductionHypothesis.2, List.append_assoc]
    exact ⟨rfl, rfl⟩

/-- The reader never has to throw its buffer away on a stream of this length. -/
def Roomy (length : Nat) : Prop :=
  ∀ limit ∈ splitter.limit, length ≤ limit

theorem guard_of_roomy (length : Nat) (roomy : splitter.Roomy length) (buffer : List Symbol)
    (short : buffer.length ≤ length) : splitter.guard buffer = buffer := by
  unfold guard
  split
  · rfl
  · next limit known => exact if_neg (by have := roomy limit known; omega)

/-- The reader never throws its buffer away on these pieces. -/
def Fits : State → List Symbol → List (List Symbol) → Prop
  | _, _, [] => True
  | state, buffer, read :: reads =>
    let drained := splitter.drain state (buffer ++ read)
    let kept := splitter.keep drained.2.1 drained.2.2
    splitter.guard kept = kept ∧ Fits drained.2.1 kept reads

theorem fits_of_roomy (state : State) (buffer : List Symbol) (reads : List (List Symbol))
    (roomy : splitter.Roomy (buffer ++ reads.flatten).length) :
    splitter.Fits state buffer reads := by
  induction reads generalizing state buffer with
  | nil => trivial
  | cons read reads inductionHypothesis =>
    have shorter := splitter.drain_length_le state (buffer ++ read)
    have kept := splitter.keeps_le (splitter.drain state (buffer ++ read)).2.1
      (splitter.drain state (buffer ++ read)).2.2
    rw [List.flatten_cons, List.length_append, List.length_append] at roomy
    rw [List.length_append] at shorter
    refine ⟨splitter.guard_of_roomy _ roomy _ (by omega), inductionHypothesis _ _ ?_⟩
    intro limit known
    have room := roomy limit known
    rw [List.length_append]
    omega

/-- A reader that keeps what it needs, and never throws its buffer away, gives out the same items
however its stream is cut. -/
theorem readFrom_eq_of_fits (stable : splitter.Stable) (keeping : splitter.Keeping) (state : State)
    (buffer : List Symbol) (reads : List (List Symbol)) (fits : splitter.Fits state buffer reads) :
    splitter.readFrom state buffer reads =
      (splitter.output state (buffer ++ reads.flatten)).1 ++
        splitter.finish (splitter.output state (buffer ++ reads.flatten)).2 := by
  induction reads generalizing state buffer with
  | nil => rw [List.flatten_nil, List.append_nil]; rfl
  | cons read reads inductionHypothesis =>
    have stuck := splitter.next_drain state (buffer ++ read)
    obtain ⟨small, later⟩ := fits
    rw [List.flatten_cons, ← List.append_assoc, splitter.output_append stable]
    simp only [readFrom]
    generalize splitter.drain state (buffer ++ read) = drained at stuck small later ⊢
    rw [small, inductionHypothesis _ _ later,
      splitter.output_congr _ _ _ (keeping drained.2.1 drained.2.2 reads.flatten stuck),
      List.append_assoc]

/-- A reader that keeps what it needs gives out the same items however its stream is cut. -/
theorem readFrom_eq (stable : splitter.Stable) (keeping : splitter.Keeping) (state : State)
    (buffer : List Symbol) (reads : List (List Symbol))
    (roomy : splitter.Roomy (buffer ++ reads.flatten).length) :
    splitter.readFrom state buffer reads =
      (splitter.output state (buffer ++ reads.flatten)).1 ++
        splitter.finish (splitter.output state (buffer ++ reads.flatten)).2 :=
  splitter.readFrom_eq_of_fits stable keeping state buffer reads
    (splitter.fits_of_roomy state buffer reads roomy)

/-- It also ends in the same state. -/
theorem stateFrom_eq (stable : splitter.Stable) (keeping : splitter.Keeping) (state : State)
    (buffer : List Symbol) (reads : List (List Symbol))
    (roomy : splitter.Roomy (buffer ++ reads.flatten).length) :
    splitter.stateFrom state buffer reads =
      (splitter.output state (buffer ++ reads.flatten)).2 := by
  have fits := splitter.fits_of_roomy state buffer reads roomy
  clear roomy
  induction reads generalizing state buffer with
  | nil => rw [List.flatten_nil, List.append_nil]; rfl
  | cons read reads inductionHypothesis =>
    have stuck := splitter.next_drain state (buffer ++ read)
    obtain ⟨small, later⟩ := fits
    rw [List.flatten_cons, ← List.append_assoc, splitter.output_append stable]
    simp only [stateFrom]
    generalize splitter.drain state (buffer ++ read) = drained at stuck small later ⊢
    rw [small, inductionHypothesis _ _ later,
      splitter.output_congr _ _ _ (keeping drained.2.1 drained.2.2 reads.flatten stuck)]

/-! ### Splitters that look for a mark -/

/-- How a reader takes one unit off a buffer that begins with its mark: nothing while the unit
is not complete. -/
structure Taking (Symbol State Item : Type) where
  take : State → List Symbol → Option (List Item × State × List Symbol)
  shortens : ∀ state buffer items after rest,
    take state buffer = some (items, after, rest) → rest.length < buffer.length
  stable : ∀ state buffer items after rest more, take state buffer = some (items, after, rest) →
    take state (buffer ++ more) = some (items, after, rest ++ more)

variable (here : List Symbol → Bool) (taking : Taking Symbol State Item)

/-- The reader that skips to the first mark and takes a unit there. When it is stuck it keeps
its buffer from the mark on; without a mark it keeps the end of the buffer, from a position of
its own. -/
def marked (dropped : List Symbol → Nat) (finish : State → List Item) (limit : Option Nat) :
    Splitter Symbol State Item where
  next state buffer :=
    (indexWhere here buffer).bind fun start => taking.take state (buffer.drop start)
  keep _ buffer := buffer.drop ((indexWhere here buffer).getD (dropped buffer))
  finish := finish
  limit := limit
  shortens := by
    intro state buffer items after rest taken
    obtain ⟨start, -, taken⟩ := Option.bind_eq_some_iff.mp taken
    have shorter := taking.shortens _ _ _ _ _ taken
    rw [List.length_drop] at shorter
    omega
  keeps_le := by
    intro _ buffer
    rw [List.length_drop]
    exact Nat.sub_le _ _

variable {here} {least most : Nat} (isLocal : Local here least most)
  (dropped : List Symbol → Nat) (finish : State → List Item) (limit : Option Nat)

include isLocal

theorem marked_stable : (marked here taking dropped finish limit).Stable := by
  intro state buffer items after rest more taken
  obtain ⟨start, found, taken⟩ := Option.bind_eq_some_iff.mp taken
  have bound := ((indexWhere_eq_some_iff here buffer start).mp found).1
  refine Option.bind_eq_some_iff.mpr
    ⟨start, isLocal.indexWhere_append buffer more start found, ?_⟩
  rw [List.drop_append_of_le_length bound]
  exact taking.stable _ _ _ _ _ more taken

/-- A stuck reader that has found a mark keeps what it needs. -/
theorem marked_keeps_of_found (state : State) (buffer more : List Symbol) (start : Nat)
    (found : indexWhere here buffer = some start) :
    (marked here taking dropped finish limit).Keeps state buffer more := by
  have bound := ((indexWhere_eq_some_iff here buffer start).mp found).1
  simp only [Keeps, marked, found, Option.getD_some,
    isLocal.indexWhere_append buffer more start found,
    isLocal.indexWhere_drop_append buffer more start found, Option.bind_some, List.drop_zero,
    List.drop_append_of_le_length bound]

/-- A stuck reader without a mark keeps what it needs when no mark could still be completed at
a position it drops. -/
theorem marked_keeps_of_absent (state : State) (buffer more : List Symbol)
    (absent : indexWhere here buffer = none) (within : dropped buffer ≤ buffer.length)
    (decided : ∀ position < dropped buffer, position + most ≤ buffer.length) :
    (marked here taking dropped finish limit).Keeps state buffer more := by
  have length : (buffer.take (dropped buffer)).length = dropped buffer := by
    rw [List.length_take, Nat.min_eq_left within]
  have whole : buffer.take (dropped buffer) ++ (buffer.drop (dropped buffer) ++ more) =
      buffer ++ more := by
    rw [← List.append_assoc, List.take_append_drop]
  have skipped : indexWhere here (buffer ++ more) =
      (indexWhere here (buffer.drop (dropped buffer) ++ more)).map (dropped buffer + ·) := by
    rw [← whole, indexWhere_append_of_skipped, length]
    intro position early
    rw [length] at early
    rw [← List.append_assoc, ← List.drop_append_of_le_length (by rw [length]; omega),
      List.take_append_drop]
    exact isLocal.absent_append buffer more absent position (decided position early)
  simp only [Keeps, marked, absent, Option.getD_none, skipped, Option.bind_map]
  refine congrArg _ (funext fun start => ?_)
  rw [Function.comp_apply, ← List.drop_drop, List.drop_append_of_le_length within]

/-- A reader that keeps enough of a buffer without a mark keeps what it needs. -/
theorem marked_keeping
    (within : ∀ buffer, dropped buffer ≤ buffer.length)
    (decided : ∀ buffer, ∀ position < dropped buffer, position + most ≤ buffer.length) :
    (marked here taking dropped finish limit).Keeping := by
  intro state buffer more _
  cases found : indexWhere here buffer with
  | none =>
    exact marked_keeps_of_absent taking isLocal dropped finish limit state buffer more found
      (within buffer) (decided buffer)
  | some start =>
    exact marked_keeps_of_found taking isLocal dropped finish limit state buffer more start found

end Splitter

end Chunks
