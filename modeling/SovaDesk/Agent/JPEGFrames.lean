/-
This file models how the agent splits a stream of JPEG images into frames, and says
when the frames do not depend on how the pipe delivers the stream.

A frame is what stands between a start marker and the next end marker. A buffer that
holds no start marker is thrown away, and with it a last byte that was the first half
of one: when a read ends between the two bytes of the start marker of a frame, that
frame is lost, and what the reader makes of the stream afterwards is never as long as
what the stream held. No other cut of the stream changes anything. The other readers
of the agent keep what they need, so the four of them agree on how a stream splits
exactly when no read ends inside the start marker of a JPEG frame.
-/

import SovaDesk.Agent.CodecFraming

namespace SovaDesk.Agent

open Chunks

/-! ### The reader -/

/-- The marker at the start of an image. -/
def jpegSOI : Bytes := [0xFF, 0xD8]

/-- The marker at the end of an image. -/
def jpegEOI : Bytes := [0xFF, 0xD9]

/-- A step at a buffer that begins with a start marker: the frame is complete once an end marker
follows. -/
def jpegTake (buf : Bytes) : Option (List Bytes × Unit × Bytes) :=
  (indexWhere (jpegEOI.isPrefixOf ·) (buf.drop 2)).map fun stop =>
    ([buf.take (2 + stop + 2)], (), buf.drop (2 + stop + 2))

/-- A complete frame ends within the buffer. -/
theorem jpegEOI_bound (buf : Bytes) (stop : Nat)
    (found : indexWhere (jpegEOI.isPrefixOf ·) (buf.drop 2) = some stop) :
    2 + stop + 2 ≤ buf.length := by
  obtain ⟨bound, stands, -⟩ := (indexWhere_eq_some_iff _ _ _).mp found
  have room := (local_isPrefixOf jpegEOI).needs _ stands
  simp only [jpegEOI, List.length_cons, List.length_nil, List.length_drop] at room
  omega

/-- The steps of the JPEG reader at a start marker. -/
def jpegTaking : Splitter.Taking UInt8 Unit Bytes where
  take _ := jpegTake
  shortens := by
    intro _ buf frames after rest taken
    obtain ⟨stop, found, taken⟩ := Option.map_eq_some_iff.mp taken
    have bound := jpegEOI_bound buf stop found
    simp only [Prod.mk.injEq] at taken
    rw [← taken.2.2, List.length_drop]
    omega
  stable := by
    intro _ buf frames after rest more taken
    obtain ⟨stop, found, taken⟩ := Option.map_eq_some_iff.mp taken
    have bound := jpegEOI_bound buf stop found
    obtain ⟨rfl, rest⟩ := Prod.mk.inj taken
    obtain ⟨rfl, rfl⟩ := Prod.mk.inj rest
    unfold jpegTake
    rw [List.drop_append_of_le_length (by omega),
      (local_isPrefixOf jpegEOI).indexWhere_append _ more stop found, Option.map_some,
      List.take_append_of_le_length bound, List.drop_append_of_le_length bound]

/-- The JPEG reader. A buffer without a start marker is thrown away. -/
def jpegSplitter : Splitter UInt8 Unit Bytes :=
  .marked (jpegSOI.isPrefixOf ·) jpegTaking List.length (fun _ => []) (some (8 * 1024 * 1024))

/-- The frames the JPEG reader gives out when its reads deliver these bytes. -/
def readJPEGFrames (reads : List Bytes) : List Bytes :=
  jpegSplitter.readFrom () [] reads

theorem jpegSplitter_stable : jpegSplitter.Stable :=
  Splitter.marked_stable jpegTaking (local_isPrefixOf jpegSOI) _ _ _

/-! ### Where the frames of a stream start -/

/-- Where the first frame of a stream starts, and where it ends. -/
def frameBounds (stream : Bytes) : Option (Nat × Nat) :=
  (indexWhere (jpegSOI.isPrefixOf ·) stream).bind fun start =>
    (indexWhere (jpegEOI.isPrefixOf ·) (stream.drop (start + 2))).map fun stop =>
      (start, start + 2 + stop + 2)

/-- The positions at which the frames of a stream start, within a bound on their number. -/
def frameStartsWithin : Nat → Bytes → List Nat
  | 0, _ => []
  | bound + 1, stream =>
    match frameBounds stream with
    | none => []
    | some (start, stop) =>
      start :: (frameStartsWithin bound (stream.drop stop)).map (stop + ·)

/-- The positions at which the frames of a stream start. -/
def frameStarts (stream : Bytes) : List Nat :=
  frameStartsWithin stream.length stream

/-- A position of a stream lies between the two bytes of the start marker of a frame. -/
def Straddles (stream : Bytes) (position : Nat) : Prop :=
  ∃ start ∈ frameStarts stream, start + 1 = position

variable (stream : Bytes)

/-- The frame of the bounds lies within the stream. -/
theorem frameBounds_bound (start stop : Nat) (bounds : frameBounds stream = some (start, stop)) :
    start + 4 ≤ stop ∧ stop ≤ stream.length := by
  obtain ⟨first, found, bounds⟩ := Option.bind_eq_some_iff.mp bounds
  obtain ⟨length, ended, same⟩ := Option.map_eq_some_iff.mp bounds
  simp only [Prod.mk.injEq] at same
  rw [← List.drop_drop] at ended
  have bound := jpegEOI_bound _ length ended
  have within := ((indexWhere_eq_some_iff _ _ _).mp found).1
  rw [List.length_drop] at bound
  omega

theorem frameStartsWithin_eq (bound : Nat) (stream : Bytes) (covers : stream.length ≤ bound) :
    frameStartsWithin bound stream = frameStarts stream := by
  unfold frameStarts
  generalize same : stream.length = needed at covers ⊢
  induction needed using Nat.strong_induction_on generalizing bound stream with
  | _ needed inductionHypothesis =>
    cases bounds : frameBounds stream with
    | none =>
      have stuck : ∀ bound, frameStartsWithin bound stream = [] := by
        intro bound
        cases bound with
        | zero => rfl
        | succ bound => rw [frameStartsWithin, bounds]
      rw [stuck, stuck]
    | some found =>
      obtain ⟨start, stop⟩ := found
      have within := frameBounds_bound stream start stop bounds
      obtain ⟨bound, rfl⟩ : ∃ less, bound = less + 1 := ⟨bound - 1, by omega⟩
      obtain ⟨needed, rfl⟩ : ∃ less, needed = less + 1 := ⟨needed - 1, by omega⟩
      have shorter : (stream.drop stop).length < needed + 1 := by rw [List.length_drop]; omega
      simp only [frameStartsWithin, bounds]
      rw [inductionHypothesis _ shorter bound _ rfl (by omega),
        inductionHypothesis _ shorter needed _ rfl (by omega)]

theorem not_straddles_of_none (none : frameBounds stream = none)
    (position : Nat) : ¬Straddles stream position := by
  rintro ⟨start, member, -⟩
  cases stream with
  | nil => cases member
  | cons byte stream =>
    rw [frameStarts, List.length_cons, frameStartsWithin, none] at member
    cases member

/-- The frames of a stream start where the first one does, and where those behind it do. -/
theorem straddles_iff (start stop : Nat)
    (bounds : frameBounds stream = some (start, stop)) (position : Nat) :
    Straddles stream position ↔
      position = start + 1 ∨
        ∃ beyond, position = stop + beyond ∧ Straddles (stream.drop stop) beyond := by
  have within := frameBounds_bound stream start stop bounds
  obtain ⟨less, same⟩ : ∃ less, stream.length = less + 1 := ⟨stream.length - 1, by omega⟩
  have starts : frameStarts stream =
      start :: (frameStarts (stream.drop stop)).map (stop + ·) := by
    rw [frameStarts, same, frameStartsWithin, bounds]
    simp only
    rw [frameStartsWithin_eq less _ (by rw [List.length_drop]; omega)]
  unfold Straddles
  rw [starts]
  constructor
  · rintro ⟨first, member, rfl⟩
    rcases List.mem_cons.mp member with rfl | member
    · exact .inl rfl
    · obtain ⟨later, known, rfl⟩ := List.mem_map.mp member
      exact .inr ⟨later + 1, by omega, later, known, rfl⟩
  · rintro (rfl | ⟨beyond, rfl, later, member, rfl⟩)
    · exact ⟨start, List.mem_cons_self, rfl⟩
    · exact ⟨stop + later, List.mem_cons_of_mem _ (List.mem_map_of_mem member), by omega⟩

/-! ### A stream in two parts -/

/-- The first frame of the front of a stream is the first frame of the stream. -/
theorem frameBounds_append (front more : Bytes) (start stop : Nat)
    (bounds : frameBounds front = some (start, stop)) :
    frameBounds (front ++ more) = some (start, stop) := by
  have within := frameBounds_bound front start stop bounds
  obtain ⟨first, found, bounds⟩ := Option.bind_eq_some_iff.mp bounds
  obtain ⟨length, ended, same⟩ := Option.map_eq_some_iff.mp bounds
  obtain ⟨rfl, rfl⟩ := Prod.mk.inj same
  refine Option.bind_eq_some_iff.mpr
    ⟨first, (local_isPrefixOf jpegSOI).indexWhere_append front more first found, ?_⟩
  rw [List.drop_append_of_le_length (by omega),
    (local_isPrefixOf jpegEOI).indexWhere_append _ more length ended, Option.map_some]

/-- A step of the reader is the first frame of its buffer. -/
theorem jpegSplitter_next (state : Unit) (buf : Bytes) :
    jpegSplitter.next state buf = (frameBounds buf).map fun bounds =>
      ([(buf.drop bounds.1).take (bounds.2 - bounds.1)], (), buf.drop bounds.2) := by
  simp only [jpegSplitter, Splitter.marked, jpegTaking, jpegTake, frameBounds, Option.map_bind,
    Option.map_map, List.drop_drop, Function.comp_def]
  refine congrArg _ (funext fun start => ?_)
  refine congrArg (Option.map · _) (funext fun stop => ?_)
  have shorter : start + 2 + stop + 2 - start = 2 + stop + 2 := by omega
  have further : start + (2 + stop + 2) = start + 2 + stop + 2 := by omega
  rw [shorter, further]

/-- A position in what follows the front of a stream lies inside a start marker as it does behind
what the reader leaves of the front. -/
theorem straddles_drain (front more : Bytes) (beyond : Nat) :
    Straddles (front ++ more) (front.length + beyond) ↔
      Straddles ((jpegSplitter.drain () front).2.2 ++ more)
        ((jpegSplitter.drain () front).2.2.length + beyond) := by
  generalize same : () = state
  induction state, front using jpegSplitter.drain_induction with
  | stuck state front isStuck => rw [jpegSplitter.drain_of_stuck state front isStuck]
  | step state front frames after rest taken inductionHypothesis =>
    rw [jpegSplitter.drain_of_step state front frames after rest taken,
      ← inductionHypothesis same]
    rw [jpegSplitter_next] at taken
    obtain ⟨⟨start, stop⟩, bounds, same⟩ := Option.map_eq_some_iff.mp taken
    obtain rfl := (Prod.mk.inj (Prod.mk.inj same).2).2
    have within := frameBounds_bound front start stop bounds
    rw [straddles_iff _ start stop (frameBounds_append front more start stop bounds),
      List.drop_append_of_le_length within.2, List.length_drop]
    constructor
    · rintro (here | ⟨later, position, straddles⟩)
      · omega
      · have same : later = front.length - stop + beyond := by omega
        exact same ▸ straddles
    · intro straddles
      exact .inr ⟨_, by omega, straddles⟩

/-! ### What a stuck reader throws away -/

/-- Bytes of a stream are skipped when the first start marker stands behind them, if at all. -/
def Skips (stream : Bytes) (skipped : Nat) : Prop :=
  indexWhere (jpegSOI.isPrefixOf ·) stream =
    (indexWhere (jpegSOI.isPrefixOf ·) (stream.drop skipped)).map (skipped + ·)

theorem frameBounds_of_skips (skipped : Nat) (skips : Skips stream skipped) :
    frameBounds stream = (frameBounds (stream.drop skipped)).map fun bounds =>
      (skipped + bounds.1, skipped + bounds.2) := by
  unfold frameBounds
  rw [skips, Option.bind_map, Option.map_bind]
  refine congrArg _ (funext fun start => ?_)
  rw [Function.comp_apply, Function.comp_apply, Option.map_map, List.drop_drop]
  simp only [Function.comp_def, Nat.add_assoc]

theorem straddles_of_skips (skipped : Nat) (skips : Skips stream skipped) (position : Nat) :
    Straddles stream (skipped + position) ↔ Straddles (stream.drop skipped) position := by
  have moved := frameBounds_of_skips stream skipped skips
  cases bounds : frameBounds (stream.drop skipped) with
  | none =>
    rw [bounds, Option.map_none] at moved
    exact iff_of_false (not_straddles_of_none _ moved _) (not_straddles_of_none _ bounds _)
  | some found =>
    obtain ⟨start, stop⟩ := found
    rw [bounds, Option.map_some] at moved
    rw [straddles_iff _ _ _ moved, straddles_iff _ _ _ bounds, List.drop_drop]
    simp only [Nat.add_assoc, Nat.add_left_cancel_iff]

theorem next_of_skips (skipped : Nat) (skips : Skips stream skipped) :
    jpegSplitter.next () stream = jpegSplitter.next () (stream.drop skipped) := by
  rw [jpegSplitter_next, jpegSplitter_next, frameBounds_of_skips stream skipped skips,
    Option.map_map]
  refine congrArg (Option.map · _) (funext fun bounds => ?_)
  simp only [Function.comp_apply, List.drop_drop, Nat.add_sub_add_left]

/-- How many bytes of its buffer a stuck reader throws away. -/
def thrownAway (buf : Bytes) : Nat :=
  (indexWhere (jpegSOI.isPrefixOf ·) buf).getD buf.length

theorem thrownAway_le (buf : Bytes) : thrownAway buf ≤ buf.length := by
  unfold thrownAway
  cases found : indexWhere (jpegSOI.isPrefixOf ·) buf with
  | none => exact le_rfl
  | some start => exact ((indexWhere_eq_some_iff _ _ _).mp found).1

theorem jpegSplitter_keep (state : Unit) (buf : Bytes) :
    jpegSplitter.keep state buf = buf.drop (thrownAway buf) := rfl

theorem startsPair_iff (first second : UInt8) (buf : Bytes) :
    [first, second].isPrefixOf buf = true ↔ buf[0]? = some first ∧ buf[1]? = some second := by
  rcases buf with _ | ⟨head, _ | ⟨next, rest⟩⟩
  · simp [List.isPrefixOf]
  · simp [List.isPrefixOf]
  · simp only [List.isPrefixOf, Bool.and_true, Bool.and_eq_true, beq_iff_eq,
      List.getElem?_cons_zero, List.getElem?_cons_succ, Option.some.injEq]
    exact and_congr eq_comm eq_comm

/-- A stuck reader throws away nothing of the first start marker, unless its buffer holds no
start marker, ends with the first half of one, and the second half follows. -/
theorem skips_or_severed (buf more : Bytes) :
    Skips (buf ++ more) (thrownAway buf) ∨
      indexWhere (jpegSOI.isPrefixOf ·) buf = none ∧
        ∃ front tail, buf = front ++ [0xFF] ∧ more = 0xD8 :: tail := by
  have isLocal := local_isPrefixOf jpegSOI
  unfold thrownAway Skips
  cases found : indexWhere (jpegSOI.isPrefixOf ·) buf with
  | some start =>
    have bound := ((indexWhere_eq_some_iff _ _ _).mp found).1
    rw [Option.getD_some, isLocal.indexWhere_append buf more start found,
      List.drop_append_of_le_length bound, isLocal.indexWhere_drop_append buf more start found]
    exact .inl rfl
  | none =>
    rw [Option.getD_none, List.drop_left]
    by_cases severed : ∃ front tail, buf = front ++ [0xFF] ∧ more = 0xD8 :: tail
    · exact .inr ⟨rfl, severed⟩
    · refine .inl (indexWhere_append_of_skipped _ _ _ fun position early => ?_)
      by_cases inside : position + 2 ≤ buf.length
      · exact isLocal.absent_append buf more found position inside
      · refine Bool.eq_false_iff.mpr fun stands => severed ?_
        obtain rfl | ⟨front, last, rfl⟩ := List.eq_nil_or_concat' buf
        · cases early
        · have final : position = front.length := by
            simp only [List.length_append, List.length_singleton] at early inside
            omega
          rw [final, List.drop_left, List.singleton_append, jpegSOI, startsPair_iff] at stands
          obtain ⟨first, second⟩ := stands
          rw [List.getElem?_cons_zero, Option.some.injEq] at first
          rw [List.getElem?_cons_succ] at second
          cases more with
          | nil => cases second
          | cons head tail =>
            rw [List.getElem?_cons_zero, Option.some.injEq] at second
            exact ⟨front, tail, by rw [first], by rw [second]⟩

/-! ### A severed start marker -/

/-- How many bytes the frames of a stream have together. -/
def emitted (stream : Bytes) : Nat :=
  (jpegSplitter.drain () stream).1.flatten.length

theorem emitted_of_some (start stop : Nat) (bounds : frameBounds stream = some (start, stop)) :
    emitted stream = (stop - start) + emitted (stream.drop stop) := by
  have within := frameBounds_bound stream start stop bounds
  rw [emitted, jpegSplitter.drain_of_step () stream _ () _
    (by rw [jpegSplitter_next, bounds, Option.map_some]), List.flatten_append,
    List.flatten_singleton, List.length_append, List.length_take, List.length_drop,
    Nat.min_eq_left (by omega)]
  rfl

theorem emitted_of_skips (skipped : Nat) (skips : Skips stream skipped) :
    emitted (stream.drop skipped) = emitted stream := by
  have same := jpegSplitter.output_congr () _ _ (next_of_skips stream skipped skips)
  exact congrArg (fun output => output.1.flatten.length) same.symm

/-- Bytes before the first start marker are skipped. -/
theorem skips_of_absent (skipped : Nat) (within : skipped ≤ stream.length)
    (absent : ∀ position < skipped, jpegSOI.isPrefixOf (stream.drop position) = false) :
    Skips stream skipped := by
  have length : (stream.take skipped).length = skipped := by
    rw [List.length_take, Nat.min_eq_left within]
  unfold Skips
  conv_lhs => rw [← List.take_append_drop skipped stream]
  rw [indexWhere_append_of_skipped, length]
  intro position early
  rw [length] at early
  rw [← List.drop_append_of_le_length (by omega), List.take_append_drop]
  exact absent position early

/-- A start marker that begins no later than an end marker is over when that begins. -/
theorem soi_before_eoi (tail : Bytes) (start stop : Nat)
    (starts : jpegSOI.isPrefixOf (tail.drop start) = true)
    (ends : jpegEOI.isPrefixOf (tail.drop stop) = true) (early : start ≤ stop + 1) :
    start + 2 ≤ stop := by
  rw [jpegSOI, startsPair_iff, List.getElem?_drop, List.getElem?_drop] at starts
  rw [jpegEOI, startsPair_iff, List.getElem?_drop, List.getElem?_drop] at ends
  by_contra late
  have place : start + 1 = stop ∨ start = stop ∨ start = stop + 1 := by omega
  rcases place with rfl | rfl | rfl
  · exact absurd (starts.2.symm.trans ends.1) (by decide)
  · exact absurd (starts.2.symm.trans ends.2) (by decide)
  · exact absurd (starts.1.symm.trans ends.2) (by decide)

/-- The first frame of a stream that begins with a start marker ends with the first end marker
behind that. -/
theorem frameBounds_at_start (tail : Bytes) :
    frameBounds (0xFF :: 0xD8 :: tail) =
      (indexWhere (jpegEOI.isPrefixOf ·) tail).map fun stop => (0, 0 + 2 + stop + 2) := by
  have front : indexWhere (jpegSOI.isPrefixOf ·) (0xFF :: 0xD8 :: tail) = some 0 :=
    (indexWhere_eq_some_iff _ _ _).mpr
      ⟨Nat.zero_le _, rfl, fun position early => absurd early (Nat.not_lt_zero position)⟩
  rw [frameBounds, front, Option.bind_some, Nat.zero_add, List.drop_succ_cons,
    List.drop_succ_cons, List.drop_zero]

/-- Without the first half of its start marker, the frame at the front of a stream is lost or
cut short, and what follows it stays as it is. -/
theorem emitted_severed (tail : Bytes) (stop : Nat)
    (ended : indexWhere (jpegEOI.isPrefixOf ·) tail = some stop) :
    emitted (0xD8 :: tail) < emitted (0xFF :: 0xD8 :: tail) := by
  have whole : frameBounds (0xFF :: 0xD8 :: tail) = some (0, 0 + 2 + stop + 2) := by
    rw [frameBounds_at_start, ended, Option.map_some]
  have rest : (0xFF :: 0xD8 :: tail).drop (0 + 2 + stop + 2) = tail.drop (stop + 2) := by
    rw [show 0 + 2 + stop + 2 = stop + 2 + 1 + 1 by omega, List.drop_succ_cons,
      List.drop_succ_cons]
  rw [emitted_of_some _ _ _ whole, rest]
  have behind : (0xD8 :: tail).drop (stop + 3) = tail.drop (stop + 2) := List.drop_succ_cons
  have within := frameBounds_bound _ _ _ whole
  simp only [List.length_cons] at within
  by_cases found : ∃ start < stop + 3, jpegSOI.isPrefixOf ((0xD8 :: tail).drop start) = true
  · obtain ⟨early, bound, stands⟩ := found
    obtain ⟨start, first⟩ :
        ∃ start, indexWhere (jpegSOI.isPrefixOf ·) (0xD8 :: tail) = some start :=
      Option.ne_none_iff_exists'.mp fun absent => Bool.false_ne_true
        (((indexWhere_eq_none_iff _ _).mp absent early
          (by rw [List.length_cons]; omega)).symm.trans stands)
    obtain ⟨-, starts, before⟩ := (indexWhere_eq_some_iff _ _ _).mp first
    have least : start ≤ early := by
      by_contra later
      exact Bool.false_ne_true ((before early (by omega)).symm.trans stands)
    obtain ⟨start, rfl⟩ : ∃ less, start = less + 1 := by
      refine Nat.exists_eq_succ_of_ne_zero fun zero => ?_
      rw [zero, List.drop_zero, jpegSOI, startsPair_iff, List.getElem?_cons_zero] at starts
      exact absurd starts.1 (by decide)
    rw [List.drop_succ_cons] at starts
    have ends := ((indexWhere_eq_some_iff _ _ _).mp ended).2.1
    have ahead := soi_before_eoi tail start stop starts ends (by omega)
    have inner : frameBounds (0xD8 :: tail) = some (start + 1, stop + 3) := by
      rw [frameBounds, first, Option.bind_some, show start + 1 + 2 = start + 2 + 1 by omega,
        List.drop_succ_cons, indexWhere_drop _ _ _ _ ended ahead, Option.map_some]
      have end' : start + 2 + 1 + (stop - (start + 2)) + 2 = stop + 3 := by omega
      rw [end']
    rw [emitted_of_some _ _ _ inner, behind]
    omega
  · have skips : Skips (0xD8 :: tail) (stop + 3) := by
      refine skips_of_absent _ _ (by rw [List.length_cons]; omega) fun position early => ?_
      exact Bool.eq_false_iff.mpr fun stands => found ⟨position, early, stands⟩
    rw [← emitted_of_skips _ _ skips, behind]
    omega

/-- Without an end marker a stream holds no frame, with or without the first half of its start
marker. -/
theorem frameBounds_unended (tail : Bytes)
    (unended : indexWhere (jpegEOI.isPrefixOf ·) tail = none) :
    frameBounds (0xD8 :: tail) = none := by
  refine Option.bind_eq_none_iff.mpr fun start first => Option.map_eq_none_iff.mpr ?_
  rw [show start + 2 = start + 1 + 1 by omega, List.drop_succ_cons, indexWhere_eq_none_iff]
  intro position bound
  rw [List.drop_drop]
  rw [List.length_drop] at bound
  by_cases within : start + 1 + position ≤ tail.length
  · exact (indexWhere_eq_none_iff _ _).mp unended _ within
  · rw [List.drop_eq_nil_of_le (by omega)]
    rfl

/-- Throwing away what a stuck reader does changes nothing about what follows, and nothing about
where the start markers are. -/
def Harmless (buf more : Bytes) : Prop :=
  jpegSplitter.Keeps () buf more ∧
    ∀ beyond, Straddles (buf ++ more) (buf.length + beyond) ↔
      Straddles (jpegSplitter.keep () buf ++ more)
        ((jpegSplitter.keep () buf).length + beyond)

theorem harmless_of_skips (buf more : Bytes) (skips : Skips (buf ++ more) (thrownAway buf)) :
    Harmless buf more := by
  have within := thrownAway_le buf
  have next := next_of_skips _ _ skips
  rw [List.drop_append_of_le_length within] at next
  refine ⟨next.symm, fun beyond => ?_⟩
  have moved := straddles_of_skips _ _ skips ((buf.drop (thrownAway buf)).length + beyond)
  rw [List.drop_append_of_le_length within, List.length_drop, ← Nat.add_assoc,
    Nat.add_sub_of_le within] at moved
  rw [moved, jpegSplitter_keep, List.length_drop]

/-- Either what a stuck reader throws away is harmless, or it is the first half of the start
marker of a frame; then the stream loses bytes of that frame. -/
theorem harmless_or_loses (buf more : Bytes) :
    Harmless buf more ∨
      Straddles (buf ++ more) buf.length ∧
        emitted (jpegSplitter.keep () buf ++ more) < emitted (buf ++ more) := by
  rcases skips_or_severed buf more with skips | ⟨absent, front, tail, rfl, rfl⟩
  · exact .inl (harmless_of_skips buf more skips)
  · have all : jpegSplitter.keep () (front ++ [0xFF]) = [] := by
      rw [jpegSplitter_keep, thrownAway, absent, Option.getD_none, List.drop_length]
    have skips : Skips (front ++ [0xFF] ++ 0xD8 :: tail) front.length := by
      refine skips_of_absent _ _ (by simp only [List.length_append]; omega)
        fun position early => ?_
      have within : position + 2 ≤ (front ++ [0xFF]).length := by
        rw [List.length_append, List.length_singleton]
        omega
      rw [List.drop_append_of_le_length (by omega)]
      exact (local_isPrefixOf jpegSOI).absent_append _ _ absent position within
    have behind : (front ++ [0xFF] ++ 0xD8 :: tail).drop front.length =
        0xFF :: 0xD8 :: tail := by
      rw [List.append_assoc, List.drop_left, List.singleton_append]
    have moved := frameBounds_of_skips _ _ skips
    rw [behind, frameBounds_at_start] at moved
    unfold Harmless Splitter.Keeps
    rw [all, List.nil_append]
    cases ended : indexWhere (jpegEOI.isPrefixOf ·) tail with
    | none =>
      rw [ended, Option.map_none, Option.map_none] at moved
      have rest := frameBounds_unended tail ended
      refine .inl ⟨?_, fun beyond => ?_⟩
      · rw [jpegSplitter_next, jpegSplitter_next, moved, rest, Option.map_none, Option.map_none]
      · exact iff_of_false (not_straddles_of_none _ moved _) (not_straddles_of_none _ rest _)
    | some stop =>
      rw [ended, Option.map_some, Option.map_some] at moved
      refine .inr ⟨?_, ?_⟩
      · rw [straddles_iff _ _ _ moved, List.length_append, List.length_singleton]
        exact .inl rfl
      · rw [← emitted_of_skips _ _ skips, behind]
        exact emitted_severed tail stop ended

/-! ### Whole runs -/

/-- A start marker that a stuck reader has found does not end where its buffer does. -/
theorem not_straddles_keep (buf more : Bytes) (stuck : jpegSplitter.next () buf = none) :
    ¬Straddles (jpegSplitter.keep () buf ++ more) (jpegSplitter.keep () buf).length := by
  rw [jpegSplitter_next, Option.map_eq_none_iff, frameBounds] at stuck
  rw [jpegSplitter_keep, thrownAway]
  cases found : indexWhere (jpegSOI.isPrefixOf ·) buf with
  | none =>
    rw [Option.getD_none, List.drop_length]
    rintro ⟨start, -, position⟩
    exact Nat.succ_ne_zero start position
  | some start =>
    obtain ⟨-, stands, -⟩ := (indexWhere_eq_some_iff _ _ _).mp found
    obtain ⟨tail, same⟩ := List.isPrefixOf_iff_prefix.mp stands
    have unended : indexWhere (jpegEOI.isPrefixOf ·) tail = none := by
      rw [found, Option.bind_some, Option.map_eq_none_iff, ← List.drop_drop, ← same] at stuck
      exact stuck
    rw [Option.getD_some, ← same]
    have bounds := frameBounds_at_start (tail ++ more)
    intro straddles
    cases ended : indexWhere (jpegEOI.isPrefixOf ·) (tail ++ more) with
    | none =>
      rw [ended, Option.map_none] at bounds
      exact not_straddles_of_none _ bounds _ straddles
    | some stop =>
      rw [ended, Option.map_some] at bounds
      have length : (jpegSOI ++ tail).length = tail.length + 2 := List.length_append.trans
        (Nat.add_comm _ _)
      rcases (straddles_iff _ _ _ bounds _).mp straddles with here | ⟨beyond, position, -⟩
      · omega
      · have stands := ((indexWhere_eq_some_iff _ _ _).mp ended).2.1
        have absent := (local_isPrefixOf jpegEOI).absent_append tail more unended stop
          (by rw [show jpegEOI.length = 2 from rfl]; omega)
        rw [List.drop_append_of_le_length (by omega)] at stands
        exact Bool.false_ne_true (absent.symm.trans stands)

/-- A read ends between the two bytes of the start marker of a frame, when a reader with a
buffer takes these reads. -/
def Severs (buf : Bytes) (reads : List Bytes) : Prop :=
  ∃ read before, (read :: before) <+: reads ∧
    Straddles (buf ++ reads.flatten) (buf.length + (read ++ before.flatten).length)

/-- The first read severs a start marker where the reader gets stuck, or a later one does. -/
theorem severs_cons (buf read : Bytes) (reads : List Bytes) :
    Severs buf (read :: reads) ↔
      ∃ before, before <+: reads ∧
        Straddles ((jpegSplitter.drain () (buf ++ read)).2.2 ++ reads.flatten)
          ((jpegSplitter.drain () (buf ++ read)).2.2.length + before.flatten.length) := by
  unfold Severs
  simp only [List.flatten_cons, ← List.append_assoc, ← straddles_drain, List.length_append,
    Nat.add_assoc]
  constructor
  · rintro ⟨first, before, isPrefix, straddles⟩
    obtain ⟨rfl, within⟩ := List.cons_prefix_cons.mp isPrefix
    exact ⟨before, within, straddles⟩
  · rintro ⟨before, isPrefix, straddles⟩
    exact ⟨read, before, List.cons_prefix_cons.mpr ⟨rfl, isPrefix⟩, straddles⟩

/-- Among harmless losses, the reads sever a start marker exactly when the later ones do. -/
theorem severs_cons_of_harmless (buf read : Bytes) (reads : List Bytes)
    (harmless : Harmless (jpegSplitter.drain () (buf ++ read)).2.2 reads.flatten) :
    Severs buf (read :: reads) ↔
      Severs (jpegSplitter.keep () (jpegSplitter.drain () (buf ++ read)).2.2) reads := by
  have stuck := jpegSplitter.next_drain () (buf ++ read)
  rw [severs_cons]
  generalize (jpegSplitter.drain () (buf ++ read)).2.2 = rest at harmless stuck ⊢
  simp only [harmless.2]
  constructor
  · rintro ⟨before, isPrefix, straddles⟩
    cases before with
    | nil => exact absurd straddles (not_straddles_keep rest _ stuck)
    | cons first before => exact ⟨first, before, isPrefix, straddles⟩
  · rintro ⟨first, before, isPrefix, straddles⟩
    exact ⟨first :: before, isPrefix, straddles⟩

/-- The output of a stream is what its front gives out, and what the leftover gives out. -/
theorem drain_append (front more : Bytes) :
    (jpegSplitter.drain () (front ++ more)).1 =
      (jpegSplitter.drain () front).1 ++
        (jpegSplitter.drain () ((jpegSplitter.drain () front).2.2 ++ more)).1 :=
  congrArg Prod.fst (jpegSplitter.output_append jpegSplitter_stable () front more)

/-- A run whose reads sever no start marker gives out the frames of the whole stream; a run whose
reads sever one gives out fewer bytes. -/
theorem readFrom_severed (buf : Bytes) (reads : List Bytes)
    (short : (buf ++ reads.flatten).length ≤ 8 * 1024 * 1024) :
    (¬Severs buf reads →
      jpegSplitter.readFrom () buf reads = (jpegSplitter.drain () (buf ++ reads.flatten)).1) ∧
    (Severs buf reads →
      (jpegSplitter.readFrom () buf reads).flatten.length < emitted (buf ++ reads.flatten)) := by
  induction reads generalizing buf with
  | nil =>
    refine ⟨fun _ => ?_, ?_⟩
    · rw [List.flatten_nil, List.append_nil]
      exact List.append_nil _
    · rintro ⟨read, before, isPrefix, -⟩
      cases List.prefix_nil.mp isPrefix
  | cons read reads inductionHypothesis =>
    have stuck := jpegSplitter.next_drain () (buf ++ read)
    have shorter := jpegSplitter.drain_length_le () (buf ++ read)
    have harmless := severs_cons_of_harmless buf read reads
    have severs := severs_cons buf read reads
    unfold emitted
    rw [List.flatten_cons, ← List.append_assoc] at short ⊢
    rw [drain_append]
    simp only [Splitter.readFrom, List.flatten_append, List.length_append]
    generalize jpegSplitter.drain () (buf ++ read) = drained at stuck shorter harmless severs ⊢
    obtain ⟨frames, ⟨⟩, rest⟩ := drained
    simp only at stuck shorter harmless severs ⊢
    have kept := jpegSplitter.keeps_le () rest
    simp only [List.length_append] at short shorter
    have guarded : jpegSplitter.guard (jpegSplitter.keep () rest) = jpegSplitter.keep () rest := by
      refine jpegSplitter.guard_of_roomy (8 * 1024 * 1024) ?_ _ (by omega)
      intro limit known
      exact (Option.some_inj.mp known).le
    obtain ⟨same, fewer⟩ := inductionHypothesis (jpegSplitter.keep () rest)
      (by rw [List.length_append]; omega)
    rw [guarded]
    rcases harmless_or_loses rest reads.flatten with fine | ⟨straddles, loses⟩
    · have output := jpegSplitter.output_congr () _ _ fine.1
      have equal : (jpegSplitter.drain () (jpegSplitter.keep () rest ++ reads.flatten)).1 =
          (jpegSplitter.drain () (rest ++ reads.flatten)).1 := (Prod.mk.inj output).1
      rw [harmless fine, ← equal]
      exact ⟨fun clean => congrArg (frames ++ ·) (same clean),
        fun severed => Nat.add_lt_add_left (fewer severed) _⟩
    · have severed : Severs buf (read :: reads) := severs.mpr
        ⟨[], List.nil_prefix, straddles⟩
      refine ⟨fun clean => absurd severed clean, fun _ => Nat.add_lt_add_left ?_ _⟩
      refine lt_of_le_of_lt ?_ loses
      by_cases later : Severs (jpegSplitter.keep () rest) reads
      · exact (fewer later).le
      · rw [same later, emitted]

/-! ### How a stream splits -/

/-- No read ends between the two bytes of the start marker of a frame of the stream. -/
def MarkersWhole (reads : List Bytes) : Prop :=
  ∀ before ∈ reads.inits, ∀ start ∈ frameStarts reads.flatten,
    start + 1 ≠ before.flatten.length

instance (reads : List Bytes) : Decidable (MarkersWhole reads) :=
  inferInstanceAs (Decidable (∀ before ∈ reads.inits, ∀ start ∈ frameStarts reads.flatten, _))

theorem severs_nil_iff (reads : List Bytes) : Severs [] reads ↔ ¬MarkersWhole reads := by
  unfold Severs MarkersWhole Straddles
  simp only [List.mem_inits, List.nil_append, List.length_nil, Nat.zero_add]
  constructor
  · rintro ⟨read, before, isPrefix, start, member, position⟩ whole
    exact whole _ isPrefix start member position
  · intro broken
    by_contra clean
    refine broken fun before isPrefix start member position => ?_
    cases before with
    | nil => exact Nat.succ_ne_zero start position
    | cons read before => exact clean ⟨read, before, isPrefix, start, member, position⟩

/-- A stream that arrives in one piece is not cut at all. -/
theorem markersWhole_singleton : MarkersWhole [stream] := by
  have stuck := jpegSplitter.next_drain () ([] ++ stream)
  rw [← not_not (a := MarkersWhole [stream]), ← severs_nil_iff, severs_cons]
  rintro ⟨before, isPrefix, straddles⟩
  rw [List.prefix_nil.mp isPrefix, List.flatten_nil, List.append_nil] at straddles
  rw [jpegSplitter_next, Option.map_eq_none_iff] at stuck
  exact not_straddles_of_none _ stuck _ straddles

theorem readJPEGFrames_whole_iff (reads : List Bytes)
    (short : reads.flatten.length ≤ 8 * 1024 * 1024) :
    readJPEGFrames reads = readJPEGFrames [reads.flatten] ↔ MarkersWhole reads := by
  have whole : readJPEGFrames [reads.flatten] = (jpegSplitter.drain () reads.flatten).1 := by
    have clean := not_not.mpr (markersWhole_singleton reads.flatten)
    rw [← severs_nil_iff] at clean
    have same := (readFrom_severed [] [reads.flatten]
      (by rwa [List.nil_append, List.flatten_singleton])).1 clean
    rwa [List.nil_append, List.flatten_singleton] at same
  obtain ⟨same, fewer⟩ := readFrom_severed [] reads (by rwa [List.nil_append])
  rw [List.nil_append] at same fewer
  constructor
  · intro equal
    by_contra broken
    have lost := fewer ((severs_nil_iff reads).mpr broken)
    rw [emitted, ← whole, ← equal] at lost
    exact lt_irrefl _ lost
  · intro clean
    rw [whole]
    exact same fun severed => (severs_nil_iff reads).mp severed clean

/-- The four readers give out what they give out when the whole stream arrives in one piece. -/
def SplitAsWhole (reads : List Bytes) : Prop :=
  readJPEGFrames reads = readJPEGFrames [reads.flatten] ∧
    readWebPFrames reads = readWebPFrames [reads.flatten] ∧
    readAnnexBFrames reads = readAnnexBFrames [reads.flatten] ∧
    ∀ codec, readIVFFrames codec reads = readIVFFrames codec [reads.flatten]

/-- However a stream of at most 8 MiB is cut into reads, the readers split it as they split the
whole, exactly when no read ends inside the start marker of a JPEG frame. -/
theorem splitAsWhole_iff (reads : List Bytes) (short : reads.flatten.length ≤ 8 * 1024 * 1024) :
    SplitAsWhole reads ↔ MarkersWhole reads := by
  constructor
  · rintro ⟨jpeg, -⟩
    exact (readJPEGFrames_whole_iff reads short).mp jpeg
  · intro markers
    exact ⟨(readJPEGFrames_whole_iff reads short).mpr markers,
      readWebPFrames_whole reads (le_trans short (by decide)),
      readAnnexBFrames_whole reads (le_trans short (by decide)),
      fun codec => readIVFFrames_whole codec reads⟩

/-- A frame whose end marker arrives in two reads. -/
theorem splitAsWhole_frame :
    [[0xFF, 0xD8, 0x00, 0xFF], [0xD9]].flatten.length ≤ 8 * 1024 * 1024 ∧
      SplitAsWhole [[0xFF, 0xD8, 0x00, 0xFF], [0xD9]] :=
  ⟨by decide, (splitAsWhole_iff _ (by decide)).mpr (by decide)⟩

/-- A frame whose start marker arrives in two reads is lost. -/
theorem startMarker_severed :
    readJPEGFrames [[0xFF], [0xD8, 0x00, 0xFF, 0xD9]] = [] ∧
      readJPEGFrames [[0xFF, 0xD8, 0x00, 0xFF, 0xD9]] = [[0xFF, 0xD8, 0x00, 0xFF, 0xD9]] ∧
      ¬SplitAsWhole [[0xFF], [0xD8, 0x00, 0xFF, 0xD9]] :=
  ⟨by decide, by decide, fun whole => absurd whole.1 (by decide)⟩

end SovaDesk.Agent
