/-
This file models how the agent splits what its encoder writes to a pipe: still images
as WebP files, H.264 in Annex-B form, VP9 and AV1 in an IVF container.

Each reader keeps a buffer, appends what a read of the pipe delivers and takes complete
frames off the front. A read delivers any number of bytes; the stream ends with a read
that delivers none. Sizes are 64-bit integers, as on the machines the agent is built
for, and the context that can stop a reader early is left out.

The three readers differ in what they look for and in how they pick up the stream
again when it is not what they expect, and each of them keeps what it may still need:
cutting the stream differently changes nothing about the frames.
-/

import SovaDesk.Lib.Chunks
import SovaDesk.Lib.Wire

namespace SovaDesk.Agent

open Chunks Wire

/-- What travels through a pipe. -/
abbrev Bytes := List UInt8

/-- The codecs the agent can encode the desktop with. -/
inductive Codec
  | mjpeg
  | webp
  | h264
  | vp9
  | av1
  deriving DecidableEq, Repr

/-! ### WebP -/

/-- The first bytes of a RIFF container. -/
def riff : Bytes := [0x52, 0x49, 0x46, 0x46]

/-- The form of a RIFF container that holds a WebP image. -/
def webpForm : Bytes := [0x57, 0x45, 0x42, 0x50]

/-- A step at a buffer that begins with a container: a complete file is a frame; what is not a
WebP file, or is too large for one, is skipped past its first word. -/
def webpTake (buf : Bytes) : Option (List Bytes × Unit × Bytes) :=
  if buf.length < 12 then
    none
  else if (buf.drop 8).take 4 ≠ webpForm then
    some ([], (), buf.drop 4)
  else
    let payloadSize := ofLittleEndian ((buf.drop 4).take 4)
    let total := 8 + payloadSize
    if total ≤ 0 ∨ 32 * 1024 * 1024 < total then
      some ([], (), buf.drop 4)
    else if buf.length < total then
      none
    else
      some ([buf.take total], (), buf.drop total)

/-- The steps of the WebP reader at a container. -/
def webpTaking : Splitter.Taking UInt8 Unit Bytes where
  take _ := webpTake
  shortens := by
    intro _ buf frames after rest taken
    unfold webpTake at taken
    grind
  stable := by
    intro _ buf frames after rest more taken
    unfold webpTake at taken ⊢
    grind

/-- The WebP reader. A long buffer without a container keeps its last four bytes, which may be
the beginning of one. -/
def webpSplitter : Splitter UInt8 Unit Bytes :=
  .marked (riff.isPrefixOf ·) webpTaking
    (fun buf => if 12 < buf.length then buf.length - 4 else 0) (fun _ => [])
    (some (48 * 1024 * 1024))

/-- The frames the WebP reader gives out when its reads deliver these bytes. -/
def readWebPFrames (reads : List Bytes) : List Bytes :=
  webpSplitter.readFrom () [] reads

/-! ### H.264 Annex-B -/

/-- A start code at the front: three bytes or four. -/
def startsCode (buf : Bytes) : Bool :=
  [0, 0, 1].isPrefixOf buf || [0, 0, 0, 1].isPrefixOf buf

/-- The length of the start code at the front. -/
def startCodeLen (buf : Bytes) : Nat :=
  if [0, 1].isPrefixOf (buf.drop 2) then 4 else 3

/-- The NAL units of the current access unit. -/
structure AccessUnit where
  au : Bytes
  hasVCL : Bool
  isKey : Bool
  deriving DecidableEq, Repr

/-- No NAL units yet. -/
def AccessUnit.empty : AccessUnit := { au := [], hasVCL := false, isKey := false }

/-- The access unit that ends here, if it holds a picture. -/
def AccessUnit.flushed (unit : AccessUnit) : List (Bytes × Bool) :=
  if 0 < unit.au.length ∧ unit.hasVCL = true then [(unit.au, unit.isKey)] else []

/-- Add a NAL unit of a type to the current access unit: the access unit that ends before it, if
one does, and the current one afterwards. -/
def AccessUnit.add (unit : AccessUnit) (nalType : UInt8) (nal : Bytes) :
    List (Bytes × Bool) × AccessUnit :=
  let out := if unit.hasVCL then unit.flushed else []
  let current := if unit.hasVCL then .empty else unit
  if nalType = 1 then
    (out, { current with au := current.au ++ nal, hasVCL := true })
  else if nalType = 5 then
    (out, { au := current.au ++ nal, hasVCL := true, isKey := true })
  else if nalType = 7 ∨ nalType = 8 ∨ nalType = 6 then
    (out, { current with
      au := current.au ++ nal, isKey := if nalType = 7 then true else current.isKey })
  else
    ([], { unit with au := unit.au ++ nal })

/-- A step at a buffer that begins with a start code: the NAL unit is complete once the next
start code is visible. -/
def annexBTake (unit : AccessUnit) (buf : Bytes) :
    Option (List (Bytes × Bool) × AccessUnit × Bytes) :=
  let scLen := startCodeLen buf
  (indexWhere startsCode (buf.drop scLen)).map fun next =>
    let nal := buf.take (scLen + next)
    let nalType := if 0 < next then (nal.drop scLen).headD 0 &&& 0x1F else 0
    let added := unit.add nalType nal
    (added.1, added.2, buf.drop (scLen + next))

theorem local_startsCode : Local startsCode 3 4 :=
  (local_isPrefixOf [0, 0, 1]).or (local_isPrefixOf [0, 0, 0, 1]) (by decide)

theorem startCodeLen_append (buf more : Bytes) (long : 4 ≤ buf.length) :
    startCodeLen (buf ++ more) = startCodeLen buf := by
  unfold startCodeLen
  rw [List.drop_append_of_le_length (by omega),
    (local_isPrefixOf [0, 1]).append_eq (buf.drop 2) more (by
      simp only [List.length_cons, List.length_nil, List.length_drop]; omega)]

theorem three_le_startCodeLen (buf : Bytes) : 3 ≤ startCodeLen buf := by
  unfold startCodeLen
  split <;> decide

/-- A complete NAL unit is followed by a start code. -/
theorem annexBTake_bound (buf : Bytes) (next : Nat)
    (found : indexWhere startsCode (buf.drop (startCodeLen buf)) = some next) :
    startCodeLen buf + next + 3 ≤ buf.length := by
  obtain ⟨bound, stands, -⟩ := (indexWhere_eq_some_iff _ _ _).mp found
  have room := local_startsCode.needs _ stands
  simp only [List.length_drop] at room
  omega

/-- The steps of the Annex-B reader at a start code. -/
def annexBTaking : Splitter.Taking UInt8 AccessUnit (Bytes × Bool) where
  take := annexBTake
  shortens := by
    intro unit buf frames after rest taken
    obtain ⟨next, found, taken⟩ := Option.map_eq_some_iff.mp taken
    have bound := annexBTake_bound buf next found
    have code := three_le_startCodeLen buf
    simp only [Prod.mk.injEq] at taken
    rw [← taken.2.2, List.length_drop]
    omega
  stable := by
    intro unit buf frames after rest more taken
    obtain ⟨next, found, taken⟩ := Option.map_eq_some_iff.mp taken
    have bound := annexBTake_bound buf next found
    have code := three_le_startCodeLen buf
    have same : startCodeLen (buf ++ more) = startCodeLen buf :=
      startCodeLen_append buf more (by omega)
    simp only [Prod.mk.injEq] at taken
    obtain ⟨rfl, rfl, rfl⟩ := taken
    unfold annexBTake
    simp only [same]
    rw [List.drop_append_of_le_length (by omega),
      local_startsCode.indexWhere_append _ more next found, Option.map_some,
      List.take_append_of_le_length (by omega), List.drop_append_of_le_length (by omega)]

/-- The Annex-B reader. A buffer without a start code is kept whole, and the current access unit
is given out when the stream ends. -/
def annexBSplitter : Splitter UInt8 AccessUnit (Bytes × Bool) :=
  .marked startsCode annexBTaking (fun _ => 0) AccessUnit.flushed (some (32 * 1024 * 1024))

/-- The access units the Annex-B reader gives out when its reads deliver these bytes, each with
its keyframe flag. -/
def readAnnexBFrames (reads : List Bytes) : List (Bytes × Bool) :=
  annexBSplitter.readFrom .empty [] reads

/-! ### Keyframes of VP9 and AV1 -/

/-- Reads bits of a frame, the highest bit of a byte first; there are zeros behind its end. -/
structure BitReader where
  data : Bytes
  pos : Nat
  deriving DecidableEq, Repr

/-- Read a number of bits. -/
def BitReader.read (reader : BitReader) : Nat → Nat × BitReader
  | 0 => (0, reader)
  | count + 1 =>
    let (higher, reader) := reader.read count
    let byte := (reader.data[reader.pos / 8]?).getD 0
    let bit := (byte >>> UInt8.ofNat (7 - reader.pos % 8)) &&& 1
    (2 * higher + bit.toNat, { reader with pos := reader.pos + 1 })

/-- Whether the header of a VP9 frame says that it is a key frame. -/
def vp9IsKeyframe (frame : Bytes) : Bool :=
  if frame.length < 1 then
    false
  else
    let (marker, reader) := BitReader.read ⟨frame, 0⟩ 2
    if marker ≠ 2 then
      false
    else
      let (low, reader) := reader.read 1
      let (high, reader) := reader.read 1
      -- a third profile has one reserved bit more
      let reader := if 2 * high + low = 3 then (reader.read 1).2 else reader
      let (existing, reader) := reader.read 1
      if existing = 1 then
        false
      else
        (reader.read 1).1 = 0

/-- The number in base 128 at the front, least significant digits first, and how many bytes it
takes; nothing when eight bytes do not end it. -/
def readLeb128 (bytes : Bytes) : Option (Nat × Nat) :=
  go 8 0 bytes
where
  /-- Read on, with a number of bytes left to read and one of bytes read. -/
  go : Nat → Nat → Bytes → Option (Nat × Nat)
    | 0, _, _ => none
    | _ + 1, _, [] => none
    | left + 1, read, byte :: bytes =>
      let value := (byte &&& 0x7F).toNat * 2 ^ (7 * read)
      if byte &&& 0x80 = 0 then
        some (value, read + 1)
      else
        (go left (read + 1) bytes).map fun (higher, length) => (value + higher, length)

/-- Whether a unit of an AV1 frame from a position on is a sequence header; nothing when the
reader slices the frame beyond its end, which ends the program. -/
def av1IsKeyframeFrom (frame : Bytes) (position : Nat) : Option Bool :=
  if inside : position < frame.length then
    let header := frame[position]
    let obuType := (header >>> 3) &&& 0x0F
    let extFlag := (header >>> 2) &&& 0x01
    let hasSize := (header >>> 1) &&& 0x01
    let start := if extFlag = 1 then position + 2 else position + 1
    if hasSize = 1 then
      if frame.length < start then
        none
      else
        match readLeb128 (frame.drop start) with
        | none => some false
        | some (size, read) =>
          if obuType = 1 then some true else av1IsKeyframeFrom frame (start + read + size)
    else
      -- the unit has the rest of the frame, so there is nothing behind it
      some (obuType = 1)
  else
    some false
termination_by frame.length - position
decreasing_by
  grind

/-- Whether a frame is a key frame, as its codec says it. -/
def isVideoKeyframe : Codec → Bytes → Option Bool
  | .vp9, frame => some (vp9IsKeyframe frame)
  | .av1, frame => av1IsKeyframeFrom frame 0
  | _, _ => some false

/-! ### IVF -/

/-- The signature of an IVF file. -/
def dkif : Bytes := [0x44, 0x4B, 0x49, 0x46]

/-- Where the IVF reader is: before the file header, among the frames, or gone, since it has
returned or since reading a frame has ended the program. -/
inductive IVFPhase
  | header
  | frames
  | returned
  | panicked
  deriving DecidableEq, Repr

/-- A step of the IVF reader at its buffer. -/
def ivfNext (codec : Codec) (phase : IVFPhase) (buf : Bytes) :
    Option (List (Bytes × Bool) × IVFPhase × Bytes) :=
  match phase with
  | .header =>
    if buf.length < 32 then
      none
    else if buf.take 4 ≠ dkif then
      some ([], .returned, buf.drop 32)
    else
      some ([], .frames, buf.drop 32)
  | .frames =>
    if buf.length < 12 then
      none
    else
      let size := ofLittleEndian (buf.take 4)
      if 32 * 1024 * 1024 < size then
        some ([], .returned, buf.drop 12)
      else if buf.length < 12 + size then
        none
      else
        let frame := (buf.drop 12).take size
        match isVideoKeyframe codec frame with
        | none => some ([], .panicked, buf.drop (12 + size))
        | some key => some ([(frame, key)], .frames, buf.drop (12 + size))
  | .returned => none
  | .panicked => none

/-- The IVF reader. It keeps whatever it has not used, however much that is. -/
def ivfSplitter (codec : Codec) : Splitter UInt8 IVFPhase (Bytes × Bool) where
  next := ivfNext codec
  keep _ buf := buf
  finish _ := []
  limit := none
  shortens := by
    intro phase buf frames after rest taken
    unfold ivfNext at taken
    grind
  keeps_le _ _ := le_rfl

/-- The frames the IVF reader gives out when its reads deliver these bytes, each with its
keyframe flag. -/
def readIVFFrames (codec : Codec) (reads : List Bytes) : List (Bytes × Bool) :=
  (ivfSplitter codec).readFrom .header [] reads

/-! ### The frames do not depend on the reads -/

theorem webpSplitter_stable : webpSplitter.Stable :=
  Splitter.marked_stable webpTaking (local_isPrefixOf riff) _ _ _

theorem webpSplitter_keeping : webpSplitter.Keeping := by
  refine Splitter.marked_keeping webpTaking (local_isPrefixOf riff) _ _ _ (fun buf => ?_)
    (fun buf position early => ?_)
  · grind
  · have word : riff.length = 4 := rfl
    grind

theorem annexBSplitter_stable : annexBSplitter.Stable :=
  Splitter.marked_stable annexBTaking local_startsCode _ _ _

theorem annexBSplitter_keeping : annexBSplitter.Keeping :=
  Splitter.marked_keeping annexBTaking local_startsCode _ _ _ (fun _ => Nat.zero_le _)
    (fun _ position early => absurd early (Nat.not_lt_zero position))

theorem ivfSplitter_stable (codec : Codec) : (ivfSplitter codec).Stable := by
  intro phase buf frames after rest more taken
  simp only [ivfSplitter] at taken ⊢
  unfold ivfNext at taken ⊢
  cases phase with
  | header =>
    grind
  | frames =>
    grind
  | returned => cases taken
  | panicked => cases taken

theorem ivfSplitter_keeping (codec : Codec) : (ivfSplitter codec).Keeping :=
  fun _ _ _ _ => rfl

/-- A reader that keeps what it needs gives out the frames of the whole stream, however the
stream is cut, as long as its buffer cannot grow over its limit. -/
theorem readFrom_eq_whole {State Frame : Type} (splitter : Splitter UInt8 State Frame)
    (stable : splitter.Stable) (keeping : splitter.Keeping) (state : State) (reads : List Bytes)
    (roomy : splitter.Roomy reads.flatten.length) :
    splitter.readFrom state [] reads = splitter.readFrom state [] [reads.flatten] := by
  rw [splitter.readFrom_eq stable keeping state [] reads roomy,
    splitter.readFrom_eq stable keeping state [] [reads.flatten] (by simpa using roomy)]
  simp only [List.nil_append, List.flatten_singleton]

theorem readWebPFrames_whole (reads : List Bytes)
    (short : reads.flatten.length ≤ 48 * 1024 * 1024) :
    readWebPFrames reads = readWebPFrames [reads.flatten] := by
  refine readFrom_eq_whole _ webpSplitter_stable webpSplitter_keeping () reads ?_
  intro limit known
  obtain rfl := Option.some_inj.mp known
  exact short

theorem readAnnexBFrames_whole (reads : List Bytes)
    (short : reads.flatten.length ≤ 32 * 1024 * 1024) :
    readAnnexBFrames reads = readAnnexBFrames [reads.flatten] := by
  refine readFrom_eq_whole _ annexBSplitter_stable annexBSplitter_keeping .empty reads ?_
  intro limit known
  obtain rfl := Option.some_inj.mp known
  exact short

theorem readIVFFrames_whole (codec : Codec) (reads : List Bytes) :
    readIVFFrames codec reads = readIVFFrames codec [reads.flatten] := by
  refine readFrom_eq_whole _ (ivfSplitter_stable codec) (ivfSplitter_keeping codec) .header
    reads ?_
  intro limit known
  cases known

end SovaDesk.Agent
