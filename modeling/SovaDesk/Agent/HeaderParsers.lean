/-
This file settles whether the parsers of image and video headers stay inside their input.

Every access is checked here: a parser that indexes or slices behind the end of its input gives
nothing, where the program would stop. All of them stay inside, except the walk over the units of an
AV1 frame: it steps over an extension header without looking whether there is one, and slices the
frame from behind its end when the unit has a size as well.
-/

import Mathlib.Logic.Relation
import SovaDesk.Agent.CodecFraming

namespace SovaDesk.Agent.HeaderParsers

open Chunks Wire

/-! ### Images -/

/-- The bytes from one position up to another; nothing when the slice is out of range. -/
def slice (data : Bytes) (first last : Nat) : Option Bytes :=
  if first ≤ last ∧ last ≤ data.length then some ((data.drop first).take (last - first)) else none

/-- The number of two bytes, the lower one first. -/
def word (low high : UInt8) : Nat := low.toNat ||| high.toNat <<< 8

def lossyForm : Bytes := [0x56, 0x50, 0x38, 0x20]
def losslessForm : Bytes := [0x56, 0x50, 0x38, 0x4C]
def extendedForm : Bytes := [0x56, 0x50, 0x38, 0x58]

/-- Width and height of the three forms of a WebP file, in this order: lossy, lossless, extended. -/
def webpDimensions (data : Bytes) : Option (Nat × Nat) := do
  if data.length < 30 then return (0, 0)
  if (← slice data 0 4) ≠ riff then return (0, 0)
  if (← slice data 8 12) ≠ webpForm then return (0, 0)
  let form ← slice data 12 16
  if form = lossyForm then
    if data.length < 30 then return (0, 0)
    let width := word (← data[26]?) (← data[27]?)
    let height := word (← data[28]?) (← data[29]?)
    return (width &&& 0x3FFF, height &&& 0x3FFF)
  if form = losslessForm then
    if data.length < 25 then return (0, 0)
    if (← data[20]?) ≠ 0x2F then return (0, 0)
    let low := word (← data[21]?) (← data[22]?)
    let bits := low ||| (← data[23]?).toNat <<< 16 ||| (← data[24]?).toNat <<< 24
    return ((bits &&& 0x3FFF) + 1, (bits >>> 14 &&& 0x3FFF) + 1)
  if form = extendedForm then
    if data.length < 30 then return (0, 0)
    let width := word (← data[24]?) (← data[25]?) ||| (← data[26]?).toNat <<< 16
    let height := word (← data[27]?) (← data[28]?) ||| (← data[29]?).toNat <<< 16
    return (width + 1, height + 1)
  return (0, 0)

/-- The start, the end and the restarts of an image have no length field. -/
def hasNoLength (marker : UInt8) : Bool :=
  marker = 0xD8 || marker = 0xD9 || (0xD0 ≤ marker && marker ≤ 0xD7)

/-- The start of a frame, of any kind: the three other markers of its range are left out. -/
def startsFrame (marker : UInt8) : Bool :=
  0xC0 ≤ marker && marker ≤ 0xCF && marker ≠ 0xC4 && marker ≠ 0xC8 && marker ≠ 0xCC

/-- The loop of `jpegDimensions` from a position on. -/
def jpegDimensionsFrom (data : Bytes) (i : Nat) : Option (Nat × Nat) :=
  if i + 8 < data.length then do
    if (← data[i]?) ≠ 0xFF then return (0, 0)
    let marker ← data[i + 1]?
    if hasNoLength marker then jpegDimensionsFrom data (i + 2)
    else
      let segLen := word (← data[i + 3]?) (← data[i + 2]?)
      if startsFrame marker then
        if i + 9 < data.length then
          let height := word (← data[i + 6]?) (← data[i + 5]?)
          let width := word (← data[i + 8]?) (← data[i + 7]?)
          return (width, height)
        else return (0, 0)
      else jpegDimensionsFrom data (i + 2 + segLen)
  else return (0, 0)
termination_by data.length - i

/-- Width and height of the first frame of a JPEG image. -/
def jpegDimensions (data : Bytes) : Option (Nat × Nat) := do
  if data.length < 4 then return (0, 0)
  if (← data[0]?) ≠ 0xFF then return (0, 0)
  if (← data[1]?) ≠ 0xD8 then return (0, 0)
  jpegDimensionsFrom data 2

/-! ### Inside the input -/

theorem isSome_byte {data : Bytes} {i : Nat} (inside : i < data.length) :
    (data[i]?).isSome = true := by
  rw [List.getElem?_eq_getElem inside, Option.isSome_some]

theorem isSome_slice {data : Bytes} {first last : Nat} (ordered : first ≤ last)
    (inside : last ≤ data.length) : (slice data first last).isSome = true := by
  rw [slice, if_pos ⟨ordered, inside⟩, Option.isSome_some]

/-- A step that succeeds is followed by the rest. -/
theorem isSome_bind {Value Result : Type} {step : Option Value} {rest : Value → Option Result}
    (succeeds : step.isSome = true) (follows : ∀ value, (rest value).isSome = true) :
    (step >>= rest).isSome = true := by
  obtain ⟨value, rfl⟩ := Option.isSome_iff_exists.mp succeeds
  exact follows value

theorem isSome_ite {Result : Type} {condition : Prop} [Decidable condition]
    {yes no : Option Result} (left : condition → yes.isSome = true)
    (right : ¬ condition → no.isSome = true) :
    (if condition then yes else no).isSome = true := by
  split
  · next holds => exact left holds
  · next fails => exact right fails

/-- Every access of `webpDimensions` is covered by the length that it checks first. -/
theorem isSome_webpDimensions (data : Bytes) : (webpDimensions data).isSome = true := by
  unfold webpDimensions
  refine isSome_ite (fun _ => rfl) fun short => ?_
  repeat' first
    | refine isSome_bind (isSome_slice (by omega) (by omega)) fun _ => ?_
    | refine isSome_bind (isSome_byte (by omega)) fun _ => ?_
    | refine isSome_ite (fun _ => ?_) fun _ => ?_
    | rfl

/-- The loop looks at eight bytes behind its position, and it has checked that they are there. -/
theorem isSome_jpegDimensionsFrom (data : Bytes) (i : Nat) :
    (jpegDimensionsFrom data i).isSome = true := by
  generalize same : data.length - i = left
  induction left using Nat.strong_induction_on generalizing i with
  | _ left inductionHypothesis =>
    rw [jpegDimensionsFrom]
    refine isSome_ite (fun inside => ?_) fun _ => rfl
    refine isSome_bind (isSome_byte (by omega)) fun mark => isSome_ite (fun _ => rfl) fun _ => ?_
    refine isSome_bind (isSome_byte (by omega)) fun marker => isSome_ite (fun _ => ?_) fun _ => ?_
    · exact inductionHypothesis _ (by omega) (i + 2) rfl
    · refine isSome_bind (isSome_byte (by omega)) fun low => ?_
      refine isSome_bind (isSome_byte (by omega)) fun high => ?_
      refine isSome_ite (fun _ => ?_) fun _ => ?_
      · refine isSome_ite (fun long => ?_) fun _ => rfl
        refine isSome_bind (isSome_byte (by omega)) fun _ => ?_
        refine isSome_bind (isSome_byte (by omega)) fun _ => ?_
        refine isSome_bind (isSome_byte (by omega)) fun _ => ?_
        exact isSome_bind (isSome_byte (by omega)) fun _ => rfl
      · exact inductionHypothesis _ (by omega) (i + 2 + word low high) rfl

theorem isSome_jpegDimensions (data : Bytes) : (jpegDimensions data).isSome = true := by
  unfold jpegDimensions
  refine isSome_ite (fun _ => rfl) fun short => ?_
  refine isSome_bind (isSome_byte (by omega)) fun _ => isSome_ite (fun _ => rfl) fun _ => ?_
  refine isSome_bind (isSome_byte (by omega)) fun _ => isSome_ite (fun _ => rfl) fun _ => ?_
  exact isSome_jpegDimensionsFrom data 2

/-! ### Numbers and bits -/

/-- The loop of `readLeb128` from an index on, with the value that is read so far; no bytes are
read when the number does not end. The digits are added up, as they do not overlap. -/
def readLeb128From (bytes : Bytes) (i value : Nat) : Option (Nat × Nat) :=
  if i < bytes.length ∧ i < 8 then do
    let byte ← bytes[i]?
    let value := value + (byte &&& 0x7F).toNat * 2 ^ (7 * i)
    if byte &&& 0x80 = 0 then return (value, i + 1)
    readLeb128From bytes (i + 1) value
  else return (0, 0)
termination_by 8 - i

/-- It reads what `readLeb128` of the model reads. -/
theorem readLeb128From_eq (bytes : Bytes) (i value : Nat) (bounded : i ≤ 8) :
    readLeb128From bytes i value =
      some (((readLeb128.go (8 - i) i (bytes.drop i)).map fun number =>
        (value + number.1, number.2)).getD (0, 0)) := by
  generalize same : 8 - i = left
  induction left generalizing i value with
  | zero =>
    rw [readLeb128From, if_neg (by omega), readLeb128.go]
    rfl
  | succ left inductionHypothesis =>
    rw [readLeb128From]
    by_cases inside : i < bytes.length
    · rw [if_pos ⟨inside, by omega⟩, List.getElem?_eq_getElem inside,
        List.drop_eq_getElem_cons inside, readLeb128.go]
      show (if _ then _ else _) = _
      split
      · rfl
      · rw [inductionHypothesis (i + 1) _ (by omega) (by omega), Option.map_map]
        cases readLeb128.go left (i + 1) (bytes.drop (i + 1)) with
        | none => rfl
        | some number => simp only [Option.map_some, Function.comp_apply, Nat.add_assoc]
    · rw [if_neg fun both => inside both.1, List.drop_eq_nil_of_le (by omega), readLeb128.go]
      rfl

/-- Read a number of bits, with every access checked. -/
def readBits (reader : BitReader) : Nat → Option (Nat × BitReader)
  | 0 => some (0, reader)
  | count + 1 => do
    let (higher, reader) ← readBits reader count
    if reader.data.length ≤ reader.pos / 8 then
      return (2 * higher, { reader with pos := reader.pos + 1 })
    let byte ← reader.data[reader.pos / 8]?
    let bit := (byte >>> UInt8.ofNat (7 - reader.pos % 8)) &&& 1
    return (2 * higher + bit.toNat, { reader with pos := reader.pos + 1 })

/-- Bits behind the end are zeros, so the reader of the model reads the same. -/
theorem readBits_eq (reader : BitReader) (count : Nat) :
    readBits reader count = some (reader.read count) := by
  induction count with
  | zero => rfl
  | succ count inductionHypothesis =>
    rw [readBits, inductionHypothesis, BitReader.read]
    obtain ⟨higher, reader⟩ := reader.read count
    show (if reader.data.length ≤ reader.pos / 8 then _ else _) = _
    dsimp only
    split
    · next behind =>
      rw [List.getElem?_eq_none behind, Option.getD_none, UInt8.zero_shiftRight, UInt8.zero_and]
      rfl
    · next inside =>
      rw [List.getElem?_eq_getElem (by omega)]
      rfl

/-- `vp9IsKeyframe`, with every access checked. -/
def vp9KeyframeChecked (frame : Bytes) : Option Bool := do
  if frame.length < 1 then return false
  let (marker, reader) ← readBits ⟨frame, 0⟩ 2
  if marker ≠ 2 then return false
  let (low, reader) ← readBits reader 1
  let (high, reader) ← readBits reader 1
  let reader ← if 2 * high + low = 3 then (readBits reader 1).map (·.2) else some reader
  let (existing, reader) ← readBits reader 1
  if existing = 1 then return false
  let (frameType, _) ← readBits reader 1
  return frameType = 0

theorem vp9KeyframeChecked_eq (frame : Bytes) :
    vp9KeyframeChecked frame = some (vp9IsKeyframe frame) := by
  unfold vp9KeyframeChecked vp9IsKeyframe
  simp only [readBits_eq, Option.bind_eq_bind, Option.bind_some, Option.map_some, Option.pure_def,
    ← apply_ite some]
  -- whether the profile has a reserved bit is asked inside on the one side and outside on the other
  split_ifs <;> rfl

/-! ### The units of an AV1 frame -/

/-- Where the size of a unit stands, by its header byte and the position of the unit. -/
def sizeStart (header : UInt8) (position : Nat) : Nat :=
  if (header >>> 2) &&& 0x01 = 1 then position + 2 else position + 1

/-- The walk goes on from the unit at one position to the unit at another: the first has a size, and
is no sequence header. -/
def NextUnit (frame : Bytes) (position next : Nat) : Prop :=
  ∃ header size read, frame[position]? = some header ∧ (header >>> 1) &&& 0x01 = 1 ∧
    (header >>> 3) &&& 0x0F ≠ 1 ∧
    readLeb128 (frame.drop (sizeStart header position)) = some (size, read) ∧
    next = sizeStart header position + read + size

/-- The unit at a position is the last byte of the frame, and that byte announces an extension
header and a size. -/
def CutAt (frame : Bytes) (position : Nat) : Prop :=
  ∃ header, frame[position]? = some header ∧ frame.length = position + 1 ∧
    (header >>> 2) &&& 0x01 = 1 ∧ (header >>> 1) &&& 0x01 = 1

/-- The walk over the units of a frame comes to a unit that is cut short. -/
def CutShort (frame : Bytes) : Prop :=
  ∃ position, Relation.ReflTransGen (NextUnit frame) 0 position ∧ CutAt frame position

theorem position_lt_sizeStart (header : UInt8) (position : Nat) :
    position < sizeStart header position := by
  unfold sizeStart
  split <;> omega

/-- The walk from a unit comes to one that is cut short here or behind the next unit. -/
theorem exists_cut_iff (frame : Bytes) (position : Nat) :
    (∃ last, Relation.ReflTransGen (NextUnit frame) position last ∧ CutAt frame last) ↔
      CutAt frame position ∨ ∃ next, NextUnit frame position next ∧
        ∃ last, Relation.ReflTransGen (NextUnit frame) next last ∧ CutAt frame last := by
  constructor
  · rintro ⟨last, walk, cut⟩
    rcases Relation.ReflTransGen.cases_head walk with rfl | ⟨next, step, walk⟩
    · exact .inl cut
    · exact .inr ⟨next, step, last, walk, cut⟩
  · rintro (cut | ⟨next, step, last, walk, cut⟩)
    · exact ⟨position, .refl, cut⟩
    · exact ⟨last, .head step walk, cut⟩

/-- A unit is cut short when its size would stand behind the end of the frame. -/
theorem cutAt_iff {frame : Bytes} {position : Nat} (inside : position < frame.length) :
    CutAt frame position ↔ (frame[position] >>> 1) &&& 0x01 = 1 ∧
      frame.length < sizeStart frame[position] position := by
  unfold CutAt sizeStart
  rw [List.getElem?_eq_getElem inside]
  constructor
  · rintro ⟨header, same, last, extension, sized⟩
    obtain rfl := Option.some.inj same
    exact ⟨sized, by rw [if_pos extension]; omega⟩
  · rintro ⟨sized, behind⟩
    split at behind
    · next extension => exact ⟨_, rfl, by omega, extension, sized⟩
    · omega

theorem nextUnit_iff {frame : Bytes} {position next : Nat} (inside : position < frame.length) :
    NextUnit frame position next ↔ (frame[position] >>> 1) &&& 0x01 = 1 ∧
      (frame[position] >>> 3) &&& 0x0F ≠ 1 ∧ ∃ size read,
        readLeb128 (frame.drop (sizeStart frame[position] position)) = some (size, read) ∧
        next = sizeStart frame[position] position + read + size := by
  unfold NextUnit
  rw [List.getElem?_eq_getElem inside]
  constructor
  · rintro ⟨header, size, read, same, sized, other, number, rfl⟩
    obtain rfl := Option.some.inj same
    exact ⟨sized, other, size, read, number, rfl⟩
  · rintro ⟨sized, other, size, read, number, rfl⟩
    exact ⟨_, size, read, rfl, sized, other, number, rfl⟩

/-- The walk from a position on slices the frame behind its end exactly when it comes to a unit that
is cut short. -/
theorem av1IsKeyframeFrom_eq_none_iff (frame : Bytes) (position : Nat) :
    av1IsKeyframeFrom frame position = none ↔
      ∃ last, Relation.ReflTransGen (NextUnit frame) position last ∧ CutAt frame last := by
  generalize same : frame.length - position = left
  induction left using Nat.strong_induction_on generalizing position with
  | _ left inductionHypothesis =>
    rw [exists_cut_iff, av1IsKeyframeFrom]
    by_cases inside : position < frame.length
    · simp only [dif_pos inside, cutAt_iff inside, nextUnit_iff inside]
      have forward := position_lt_sizeStart frame[position] position
      rw [← sizeStart]
      split
      · next sized =>
        split
        · next behind => exact iff_of_true rfl (.inl ⟨sized, behind⟩)
        · next within =>
          rw [or_iff_right fun cut => within cut.2]
          cases number : readLeb128 (frame.drop (sizeStart frame[position] position)) with
          | none =>
            refine iff_of_false (Option.some_ne_none _) ?_
            rintro ⟨next, ⟨_, _, size, read, found, _⟩, _⟩
            exact Option.some_ne_none _ found.symm
          | some found =>
            obtain ⟨size, read⟩ := found
            dsimp only
            split
            · next sequence =>
              refine iff_of_false (Option.some_ne_none _) ?_
              rintro ⟨next, ⟨_, other, _⟩, _⟩
              exact other sequence
            · next other =>
              rw [inductionHypothesis _ (by omega) _ rfl]
              constructor
              · intro later
                exact ⟨_, ⟨sized, other, size, read, rfl, rfl⟩, later⟩
              · rintro ⟨next, ⟨_, _, size', read', found, rfl⟩, later⟩
                obtain ⟨rfl, rfl⟩ := Prod.mk.inj (Option.some.inj found)
                exact later
      · next unsized =>
        refine iff_of_false (Option.some_ne_none _) ?_
        rintro (cut | ⟨next, step, _⟩)
        · exact unsized cut.1
        · exact unsized step.1
    · rw [dif_neg inside]
      have none : frame[position]? = none := List.getElem?_eq_none (by omega)
      refine iff_of_false (Option.some_ne_none _) ?_
      rintro (⟨header, found, _⟩ | ⟨next, ⟨header, _, _, found, _⟩, _⟩)
      · exact Option.some_ne_none header (found.symm.trans none)
      · exact Option.some_ne_none header (found.symm.trans none)

/-! ### The frames of a container -/

/-- A frame of what follows the header of a container: a size that is not too large, eight bytes
that are passed over and as many bytes as the size says. -/
inductive FrameIn : Bytes → Bytes → Prop
  | first {buf : Bytes} (headed : 12 ≤ buf.length)
      (small : ofLittleEndian (buf.take 4) ≤ 32 * 1024 * 1024)
      (whole : 12 + ofLittleEndian (buf.take 4) ≤ buf.length) :
      FrameIn buf ((buf.drop 12).take (ofLittleEndian (buf.take 4)))
  | later {buf frame : Bytes} (headed : 12 ≤ buf.length)
      (small : ofLittleEndian (buf.take 4) ≤ 32 * 1024 * 1024)
      (whole : 12 + ofLittleEndian (buf.take 4) ≤ buf.length)
      (behind : FrameIn (buf.drop (12 + ofLittleEndian (buf.take 4))) frame) : FrameIn buf frame

/-- A complete frame of an IVF stream. -/
def IVFFrame (stream frame : Bytes) : Prop :=
  32 ≤ stream.length ∧ stream.take 4 = dkif ∧ FrameIn (stream.drop 32) frame

/-- Reading the frames ends the program exactly when the parser of the codec fails on one. -/
theorem drain_frames_panicked_iff (codec : Codec) (buf : Bytes) :
    ((ivfSplitter codec).drain .frames buf).2.1 = .panicked ↔
      ∃ frame, FrameIn buf frame ∧ isVideoKeyframe codec frame = none := by
  generalize same : buf.length = length
  induction length using Nat.strong_induction_on generalizing buf with
  | _ length inductionHypothesis =>
    by_cases complete : 12 ≤ buf.length ∧ ofLittleEndian (buf.take 4) ≤ 32 * 1024 * 1024 ∧
        12 + ofLittleEndian (buf.take 4) ≤ buf.length
    · obtain ⟨headed, small, whole⟩ := complete
      cases key : isVideoKeyframe codec ((buf.drop 12).take (ofLittleEndian (buf.take 4))) with
      | none =>
        refine iff_of_true ?_ ⟨_, .first headed small whole, key⟩
        have step : (ivfSplitter codec).next .frames buf =
            some ([], .panicked, buf.drop (12 + ofLittleEndian (buf.take 4))) := by
          show ivfNext codec .frames buf = _
          simp only [ivfNext, if_neg (Nat.not_lt.mpr headed), if_neg (Nat.not_lt.mpr small),
            if_neg (Nat.not_lt.mpr whole), key]
        rw [Splitter.drain_of_step _ _ _ _ _ _ step, Splitter.drain_of_stuck _ _ _ rfl]
      | some keyframe =>
        have step : (ivfSplitter codec).next .frames buf =
            some ([((buf.drop 12).take (ofLittleEndian (buf.take 4)), keyframe)], .frames,
              buf.drop (12 + ofLittleEndian (buf.take 4))) := by
          show ivfNext codec .frames buf = _
          simp only [ivfNext, if_neg (Nat.not_lt.mpr headed), if_neg (Nat.not_lt.mpr small),
            if_neg (Nat.not_lt.mpr whole), key]
        rw [Splitter.drain_of_step _ _ _ _ _ _ step,
          inductionHypothesis _ (by rw [List.length_drop]; omega) _ rfl]
        constructor
        · rintro ⟨frame, behind, fails⟩
          exact ⟨frame, .later headed small whole behind, fails⟩
        · rintro ⟨frame, inside, fails⟩
          cases inside with
          | first => exact absurd (key.symm.trans fails) (Option.some_ne_none _)
          | later _ _ _ behind => exact ⟨frame, behind, fails⟩
    · refine iff_of_false ?_ ?_
      · have step : (ivfSplitter codec).next .frames buf = none ∨
            (ivfSplitter codec).next .frames buf = some ([], .returned, buf.drop 12) := by
          show ivfNext codec .frames buf = none ∨ ivfNext codec .frames buf = _
          unfold ivfNext
          grind
        rcases step with stuck | step
        · rw [Splitter.drain_of_stuck _ _ _ stuck]
          exact IVFPhase.noConfusion
        · rw [Splitter.drain_of_step _ _ _ _ _ _ step, Splitter.drain_of_stuck _ _ _ rfl]
          exact IVFPhase.noConfusion
      · rintro ⟨frame, inside, _⟩
        cases inside with
        | first headed small whole => exact complete ⟨headed, small, whole⟩
        | later headed small whole => exact complete ⟨headed, small, whole⟩

/-- However the stream is cut, the reader ends the program exactly when the parser of the codec
fails on a complete frame of it. -/
theorem readIVFFrames_panicked_iff (codec : Codec) (reads : List Bytes) :
    (ivfSplitter codec).stateFrom .header [] reads = .panicked ↔
      ∃ frame, IVFFrame reads.flatten frame ∧ isVideoKeyframe codec frame = none := by
  rw [Splitter.stateFrom_eq _ (ivfSplitter_stable codec) (ivfSplitter_keeping codec) _ _ _
    (fun _ known => absurd known.symm (Option.some_ne_none _)), List.nil_append]
  generalize reads.flatten = stream
  unfold Splitter.output
  by_cases headed : 32 ≤ stream.length ∧ stream.take 4 = dkif
  · have step : (ivfSplitter codec).next .header stream = some ([], .frames, stream.drop 32) := by
      show ivfNext codec .header stream = _
      simp only [ivfNext, if_neg (Nat.not_lt.mpr headed.1), ne_eq, headed.2, not_true_eq_false,
        if_false]
    rw [Splitter.drain_of_step _ _ _ _ _ _ step, drain_frames_panicked_iff]
    exact exists_congr fun frame => and_congr_left fun _ =>
      ⟨fun inside => ⟨headed.1, headed.2, inside⟩, fun inside => inside.2.2⟩
  · refine iff_of_false ?_ (by rintro ⟨_, inside, _⟩; exact headed ⟨inside.1, inside.2.1⟩)
    have step : (ivfSplitter codec).next .header stream = none ∨
        (ivfSplitter codec).next .header stream = some ([], .returned, stream.drop 32) := by
      show ivfNext codec .header stream = none ∨ ivfNext codec .header stream = _
      unfold ivfNext
      grind
    rcases step with stuck | step
    · rw [Splitter.drain_of_stuck _ _ _ stuck]
      exact IVFPhase.noConfusion
    · rw [Splitter.drain_of_step _ _ _ _ _ _ step, Splitter.drain_of_stuck _ _ _ rfl]
      exact IVFPhase.noConfusion

/-! ### The property -/

/-- No parser leaves these bytes, and reading a stream never ends the program. -/
structure Survives (bytes : Bytes) (reads : List Bytes) : Prop where
  av1 : (av1IsKeyframeFrom bytes 0).isSome = true
  vp9 : (vp9KeyframeChecked bytes).isSome = true
  number : (readLeb128From bytes 0 0).isSome = true
  jpeg : (jpegDimensions bytes).isSome = true
  webp : (webpDimensions bytes).isSome = true
  stream : ∀ codec, codec = .av1 ∨ codec = .vp9 →
    (ivfSplitter codec).stateFrom .header [] reads ≠ .panicked

/-- The parsers survive exactly when no unit of an AV1 frame is cut short, neither in the bytes nor
in a complete frame of the stream. -/
theorem survives_iff (bytes : Bytes) (reads : List Bytes) :
    Survives bytes reads ↔
      ¬ CutShort bytes ∧ ∀ frame, IVFFrame reads.flatten frame → ¬ CutShort frame := by
  have av1Cut : ∀ frame, isVideoKeyframe .av1 frame = none ↔ CutShort frame :=
    fun frame => av1IsKeyframeFrom_eq_none_iff frame 0
  constructor
  · intro survives
    refine ⟨fun cut => ?_, fun frame inside cut => ?_⟩
    · have none := (av1Cut bytes).mpr cut
      exact Option.some_ne_none _ ((Option.eq_some_of_isSome survives.av1).symm.trans none)
    · exact survives.stream .av1 (.inl rfl)
        ((readIVFFrames_panicked_iff .av1 reads).mpr ⟨frame, inside, (av1Cut frame).mpr cut⟩)
  · rintro ⟨uncut, uncutFrames⟩
    refine ⟨?_, ?_, ?_, isSome_jpegDimensions bytes, isSome_webpDimensions bytes, ?_⟩
    · exact Option.isSome_iff_ne_none.mpr (mt (av1Cut bytes).mp uncut)
    · rw [vp9KeyframeChecked_eq, Option.isSome_some]
    · rw [readLeb128From_eq bytes 0 0 (Nat.zero_le 8), Option.isSome_some]
    · rintro codec (rfl | rfl) panicked
      · obtain ⟨frame, inside, fails⟩ := (readIVFFrames_panicked_iff .av1 reads).mp panicked
        exact uncutFrames frame inside ((av1Cut frame).mp fails)
      · obtain ⟨frame, _, fails⟩ := (readIVFFrames_panicked_iff .vp9 reads).mp panicked
        exact Option.some_ne_none _ fails

/-- The byte of a temporal delimiter with both flags, alone in its frame, ends the program. -/
theorem not_survives : ¬ ∀ bytes reads, Survives bytes reads := by
  intro survives
  have fails : av1IsKeyframeFrom [0x16] 0 = none :=
    (av1IsKeyframeFrom_eq_none_iff _ 0).mpr
      ⟨0, .refl, 0x16, rfl, rfl, by decide, by decide⟩
  exact Option.some_ne_none _ ((Option.eq_some_of_isSome (survives [0x16] []).av1).symm.trans fails)

end SovaDesk.Agent.HeaderParsers
