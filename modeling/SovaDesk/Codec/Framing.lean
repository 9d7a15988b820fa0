/-
This file models the framing of the control channel: the variable-length header and
the raw frames of a TCP connection.

A connection is the bytes that arrive on it before the peer closes it; a read that
wants more bytes than there are fails the way a full read of a closed connection
fails. Read deadlines are left out: a deadline that passes ends the read with an
error and delivers nothing. The header packs its own length into the low two bits of
its first byte, so its classes are the widths of a little-endian number; the number is
four times the payload's length plus the class, and the round trips are read off that.
-/

import SovaDesk.Lib.Wire
import Mathlib.Tactic.IntervalCases

namespace SovaDesk.Codec

open Wire

/-- The largest payload of a frame. -/
def maxFrameSize : Nat := 64 * 1024

/-! ### The header -/

/-- The variable-length header of a payload of a size. -/
def encodeHeader (payloadLen : Nat) : List UInt8 :=
  if payloadLen ≤ 0x3F then
    [UInt8.ofNat (payloadLen <<< 2)]
  else if payloadLen ≤ 0x3FFF then
    let val : UInt16 := UInt16.ofNat (payloadLen <<< 2) ||| 0x01
    [val.toUInt8, (val >>> 8).toUInt8]
  else if payloadLen ≤ 0x3FFFFF then
    let val : UInt32 := UInt32.ofNat (payloadLen <<< 2) ||| 0x02
    [val.toUInt8, (val >>> 8).toUInt8, (val >>> 16).toUInt8]
  else
    let val : UInt32 := UInt32.ofNat (payloadLen <<< 2) ||| 0x03
    [val.toUInt8, (val >>> 8).toUInt8, (val >>> 16).toUInt8, (val >>> 24).toUInt8]

/-- The two ways a full read ends short: nothing arrived, or some of the bytes did. -/
inductive StreamError
  | eof
  | unexpectedEOF
  deriving DecidableEq, Repr

/-- The errors of the readers: a short read passed on, a short read under the text that wraps it,
and a text of the codec itself. -/
inductive ReadError
  | stream (cause : StreamError)
  | wrapped (text : String) (cause : StreamError)
  | text (text : String)
  deriving DecidableEq, Repr

/-- Read a number of bytes, all of them or none. -/
def readFull (count : Nat) (stream : List UInt8) : Except StreamError (List UInt8 × List UInt8) :=
  if count ≤ stream.length then
    .ok (stream.take count, stream.drop count)
  else if stream.isEmpty then
    .error .eof
  else
    .error .unexpectedEOF

/-- The byte of a read buffer at an offset. -/
def byteAt (buffer : List UInt8) (offset : Nat) : UInt8 := buffer.getD offset 0

/-- Read the header of a frame: the lengths of the header and of the payload. -/
def readHeader (stream : List UInt8) : Except ReadError ((Nat × Nat) × List UInt8) := do
  let (first, stream) ← (readFull 1 stream).mapError (.wrapped "codec: read first byte")
  let headLen := (byteAt first 0 &&& 0x03).toNat + 1
  match headLen with
  | 1 =>
    let n := (byteAt first 0).toUInt32
    return ((headLen, (n >>> 2).toNat), stream)
  | 2 =>
    let (second, stream) ← (readFull 1 stream).mapError (.wrapped "codec: read header byte 2")
    let n := (byteAt first 0).toUInt32 ||| (byteAt second 0).toUInt32 <<< 8
    return ((headLen, (n >>> 2).toNat), stream)
  | 3 =>
    let (rest, stream) ← (readFull 2 stream).mapError (.wrapped "codec: read header bytes 2-3")
    let n := (byteAt first 0).toUInt32 ||| (byteAt rest 0).toUInt32 <<< 8 |||
      (byteAt rest 1).toUInt32 <<< 16
    return ((headLen, (n >>> 2).toNat), stream)
  | _ =>
    let (rest, stream) ← (readFull 3 stream).mapError (.wrapped "codec: read header bytes 2-4")
    let n := (byteAt first 0).toUInt32 ||| (byteAt rest 0).toUInt32 <<< 8 |||
      (byteAt rest 1).toUInt32 <<< 16 ||| (byteAt rest 2).toUInt32 <<< 24
    return ((headLen, (n >>> 2).toNat), stream)

/-! ### Frames -/

/-- The bytes written for a payload, or the text of the refusal. -/
def writeRawBytes (data : List UInt8) : Except String (List UInt8) :=
  if data.length > maxFrameSize then
    .error s!"codec: data too large ({data.length} > {maxFrameSize})"
  else
    .ok (encodeHeader data.length ++ data)

/-- Read one frame and return its payload. -/
def readRawBytes (stream : List UInt8) : Except ReadError (List UInt8 × List UInt8) := do
  let ((_, payloadLen), stream) ← readHeader stream
  if payloadLen = 0 then
    throw (.text "codec: zero-length payload")
  if payloadLen > maxFrameSize then
    throw (.text s!"codec: payload too large ({payloadLen} > {maxFrameSize})")
  (readFull payloadLen stream).mapError .stream

example : readMany readRawBytes 2 [0x08, 7, 9, 0x04, 5] = .ok ([[7, 9], [5]], []) := by decide

/-! ### The header as a number

The classes of the header are the widths of a little-endian number. -/

/-- The least number of bytes whose upper bits hold a length. -/
def headerLength (payloadLen : Nat) : Nat :=
  if payloadLen ≤ 0x3F then 1
  else if payloadLen ≤ 0x3FFF then 2
  else if payloadLen ≤ 0x3FFFFF then 3
  else 4

/-- The number a header is: the length above the two bits of the class. -/
def headerNumber (payloadLen : Nat) : Nat := 4 * payloadLen + (headerLength payloadLen - 1)

theorem headerNumber_mod (payloadLen : Nat) :
    headerNumber payloadLen % 4 + 1 = headerLength payloadLen := by
  unfold headerNumber headerLength
  grind

theorem headerNumber_div (payloadLen : Nat) : headerNumber payloadLen / 4 = payloadLen := by
  unfold headerNumber headerLength
  grind

variable {payloadLen : Nat}

theorem headerNumber_lt (small : payloadLen < 2 ^ 30) :
    headerNumber payloadLen < 256 ^ headerLength payloadLen := by
  unfold headerNumber headerLength
  split_ifs <;> omega

/-- No width below the one chosen holds the length. -/
theorem headerLength_le {width : Nat} (wide : 0 < width)
    (holds : 4 * payloadLen < 256 ^ width) : headerLength payloadLen ≤ width := by
  by_contra narrower
  have atMost : width ≤ 3 := by
    unfold headerLength at narrower
    grind
  unfold headerLength at narrower
  interval_cases width <;> grind

theorem shiftLeft_or {low : Nat} (number : Nat) (small : low < 4) :
    number <<< 2 ||| low = 4 * number + low := by
  rw [← Nat.shiftLeft_add_eq_or_of_lt small, Nat.shiftLeft_eq]
  omega

theorem bytes_of_uint16 (val : UInt16) :
    [val.toUInt8, (val >>> 8).toUInt8] = littleEndian 2 val.toNat := by
  have second : (val >>> 8).toUInt8 = UInt8.ofNat (val.toNat / 256) :=
    UInt8.toNat_inj.mp (by simp [Nat.shiftRight_eq_div_pow])
  rw [second]
  rfl

theorem bytes_of_uint32 (val : UInt32) :
    [val.toUInt8, (val >>> 8).toUInt8, (val >>> 16).toUInt8, (val >>> 24).toUInt8] =
      littleEndian 4 val.toNat := by
  have second : (val >>> 8).toUInt8 = UInt8.ofNat (val.toNat / 256) :=
    UInt8.toNat_inj.mp (by simp [Nat.shiftRight_eq_div_pow])
  have third : (val >>> 16).toUInt8 = UInt8.ofNat (val.toNat / 256 / 256) :=
    UInt8.toNat_inj.mp (by simp [Nat.shiftRight_eq_div_pow]; omega)
  have fourth : (val >>> 24).toUInt8 = UInt8.ofNat (val.toNat / 256 / 256 / 256) :=
    UInt8.toNat_inj.mp (by simp [Nat.shiftRight_eq_div_pow]; omega)
  rw [second, third, fourth]
  rfl

theorem toNat_uint16_or {low : UInt16} (small : payloadLen ≤ 0x3FFF) (inTwoBits : low.toNat < 4) :
    (UInt16.ofNat (payloadLen <<< 2) ||| low).toNat = 4 * payloadLen + low.toNat := by
  have below : payloadLen <<< 2 < 2 ^ 16 := by
    rw [Nat.shiftLeft_eq]
    omega
  rw [UInt16.toNat_or, UInt16.toNat_ofNat', Nat.mod_eq_of_lt below, shiftLeft_or _ inTwoBits]

theorem toNat_uint32_or {low : UInt32} (small : payloadLen < 2 ^ 30) (inTwoBits : low.toNat < 4) :
    (UInt32.ofNat (payloadLen <<< 2) ||| low).toNat = 4 * payloadLen + low.toNat := by
  have below : payloadLen <<< 2 < 2 ^ 32 := by
    rw [Nat.shiftLeft_eq]
    omega
  rw [UInt32.toNat_or, UInt32.toNat_ofNat', Nat.mod_eq_of_lt below, shiftLeft_or _ inTwoBits]

/-- The header is the little-endian number of its class. -/
theorem encodeHeader_eq (small : payloadLen < 2 ^ 30) :
    encodeHeader payloadLen = littleEndian (headerLength payloadLen) (headerNumber payloadLen) := by
  unfold encodeHeader headerNumber headerLength
  split_ifs with one two three
  · rw [Nat.shiftLeft_eq, Nat.mul_comm]
    rfl
  · exact (bytes_of_uint16 _).trans
      (congrArg (littleEndian 2) (toNat_uint16_or two (by decide)))
  · exact (congrArg (List.take 3) (bytes_of_uint32 _)).trans
      (congrArg (littleEndian 3) (toNat_uint32_or small (by decide)))
  · exact (bytes_of_uint32 _).trans
      (congrArg (littleEndian 4) (toNat_uint32_or small (by decide)))

theorem toNat_or_shifted {low shift : UInt32} (position : Nat)
    (placed : shift.toNat = 8 * position) (inside : position < 4)
    (below : low.toNat < 256 ^ position) (byte : UInt8) :
    (low ||| byte.toUInt32 <<< shift).toNat = low.toNat + 256 ^ position * byte.toNat := by
  have width : 256 ^ position = 2 ^ (8 * position) := (pow_mul 2 8 position).symm
  have byteBound := byte.toNat_lt
  have shifted : byte.toNat <<< (8 * position) < 2 ^ 32 := by
    rw [Nat.shiftLeft_eq]
    calc byte.toNat * 2 ^ (8 * position) < 2 ^ 8 * 2 ^ (8 * position) :=
          Nat.mul_lt_mul_of_pos_right byteBound (Nat.two_pow_pos _)
      _ = 2 ^ (8 + 8 * position) := (pow_add 2 8 _).symm
      _ ≤ 2 ^ 32 := Nat.pow_le_pow_right Nat.two_pos (by omega)
  rw [UInt32.toNat_or, UInt32.toNat_shiftLeft, UInt8.toNat_toUInt32, placed,
    Nat.mod_eq_of_lt (by omega : 8 * position < 32), Nat.mod_eq_of_lt shifted, Nat.or_comm,
    ← Nat.shiftLeft_add_eq_or_of_lt (width ▸ below), Nat.shiftLeft_eq, width, Nat.add_comm,
    Nat.mul_comm]

/-! ### Reading a header -/

theorem readFull_append (front rest : List UInt8) :
    readFull front.length (front ++ rest) = .ok (front, rest) := by
  rw [readFull, if_pos (by rw [List.length_append]; omega), List.take_left, List.drop_left]

theorem readFull_short {count : Nat} {stream : List UInt8} (short : stream.length < count) :
    ∃ cause, readFull count stream = .error cause := by
  rw [readFull, if_neg (by omega)]
  split_ifs <;> exact ⟨_, rfl⟩

theorem toNat_and_three (byte : UInt8) : (byte &&& 0x03).toNat = byte.toNat % 4 := by
  rw [UInt8.toNat_and]
  exact Nat.and_two_pow_sub_one_eq_mod byte.toNat 2

theorem toNat_shiftRight_two (number : UInt32) : (number >>> 2).toNat = number.toNat / 4 := by
  rw [UInt32.toNat_shiftRight]
  exact Nat.shiftRight_eq_div_pow _ 2

theorem toNat_of_two (first second : UInt8) :
    (first.toUInt32 ||| second.toUInt32 <<< 8).toNat = ofLittleEndian [first, second] := by
  have firstBound := first.toNat_lt
  rw [toNat_or_shifted 1 rfl (by decide)
    (by rw [UInt8.toNat_toUInt32]; omega), UInt8.toNat_toUInt32]
  simp only [ofLittleEndian]
  omega

theorem toNat_of_three (first second third : UInt8) :
    (first.toUInt32 ||| second.toUInt32 <<< 8 ||| third.toUInt32 <<< 16).toNat =
      ofLittleEndian [first, second, third] := by
  have below := ofLittleEndian_lt [first, second]
  rw [toNat_or_shifted 2 rfl (by decide)
    (by rw [toNat_of_two]; exact below), toNat_of_two]
  simp only [ofLittleEndian]
  omega

theorem toNat_of_four (first second third fourth : UInt8) :
    (first.toUInt32 ||| second.toUInt32 <<< 8 ||| third.toUInt32 <<< 16 |||
      fourth.toUInt32 <<< 24).toNat = ofLittleEndian [first, second, third, fourth] := by
  have below := ofLittleEndian_lt [first, second, third]
  rw [toNat_or_shifted 3 rfl (by decide)
    (by rw [toNat_of_three]; exact below), toNat_of_three]
  simp only [ofLittleEndian]
  omega

/-- The bytes are a header: as many as the class in the two lowest bits says. -/
def IsHeader (header : List UInt8) : Prop := ofLittleEndian header % 4 + 1 = header.length

theorem isHeader_cons {first : UInt8} {rest : List UInt8} :
    IsHeader (first :: rest) ↔ (first &&& 0x03).toNat = rest.length := by
  rw [IsHeader, ofLittleEndian, List.length_cons, toNat_and_three]
  omega

variable {header : List UInt8}

/-- A header is read whole and its number is split into class and length. -/
theorem readHeader_append (isHeader : IsHeader header) (rest : List UInt8) :
    readHeader (header ++ rest) =
      .ok ((header.length, ofLittleEndian header / 4), rest) := by
  match header, isHeader with
  | [], isHeader => exact absurd isHeader (Nat.succ_ne_zero _)
  | first :: others, isHeader =>
    have classed : (byteAt [first] 0 &&& 0x03).toNat = others.length := isHeader_cons.mp isHeader
    have start : readFull 1 (first :: others ++ rest) = .ok ([first], others ++ rest) :=
      readFull_append [first] (others ++ rest)
    have more := readFull_append others rest
    rw [readHeader, start]
    simp only [Except.mapError, Bind.bind, Except.bind, classed]
    match others, isHeader, more with
    | [], _, _ =>
      have number := toNat_shiftRight_two first.toUInt32
      rw [UInt8.toNat_toUInt32] at number
      exact congrArg (fun length => Except.ok ((1, length), rest)) number
    | [second], _, more =>
      have number := toNat_shiftRight_two (first.toUInt32 ||| second.toUInt32 <<< 8)
      rw [toNat_of_two] at number
      simp only [List.length_cons, List.length_nil, Nat.reduceAdd] at more ⊢
      rw [more]
      exact congrArg (fun length => Except.ok ((2, length), rest)) number
    | [second, third], _, more =>
      have number := toNat_shiftRight_two
        (first.toUInt32 ||| second.toUInt32 <<< 8 ||| third.toUInt32 <<< 16)
      rw [toNat_of_three] at number
      simp only [List.length_cons, List.length_nil, Nat.reduceAdd] at more ⊢
      rw [more]
      exact congrArg (fun length => Except.ok ((3, length), rest)) number
    | [second, third, fourth], _, more =>
      have number := toNat_shiftRight_two (first.toUInt32 ||| second.toUInt32 <<< 8 |||
        third.toUInt32 <<< 16 ||| fourth.toUInt32 <<< 24)
      rw [toNat_of_four] at number
      simp only [List.length_cons, List.length_nil, Nat.reduceAdd] at more ⊢
      rw [more]
      exact congrArg (fun length => Except.ok ((4, length), rest)) number
    | _ :: _ :: _ :: _ :: _, isHeader, _ =>
      rw [IsHeader, List.length_cons, List.length_cons, List.length_cons, List.length_cons,
        List.length_cons] at isHeader
      omega

theorem readHeader_short {first : UInt8} {tail : List UInt8}
    (short : tail.length < (first &&& 0x03).toNat) :
    ∃ failure, readHeader (first :: tail) = .error failure := by
  have start : readFull 1 (first :: tail) = .ok ([first], tail) := readFull_append [first] tail
  obtain ⟨cause, refused⟩ := readFull_short short
  have least : (first &&& 0x03).toNat < 4 := by
    rw [toNat_and_three]
    omega
  have classed : (byteAt [first] 0 &&& 0x03).toNat = (first &&& 0x03).toNat := rfl
  rw [readHeader, start]
  simp only [Except.mapError, Bind.bind, Except.bind, classed]
  generalize (first &&& 0x03).toNat = more at short refused least
  match more, least, refused with
  | 0, _, _ => exact absurd short (Nat.not_lt_zero _)
  | 1, _, refused => exact ⟨.wrapped "codec: read header byte 2" cause, by rw [refused]; rfl⟩
  | 2, _, refused => exact ⟨.wrapped "codec: read header bytes 2-3" cause, by rw [refused]; rfl⟩
  | 3, _, refused => exact ⟨.wrapped "codec: read header bytes 2-4" cause, by rw [refused]; rfl⟩

/-- What a reader takes for a header is one. -/
theorem exists_header_of_readHeader {stream rest : List UInt8} {headLen : Nat}
    (read : readHeader stream = .ok ((headLen, payloadLen), rest)) :
    ∃ header, IsHeader header ∧ stream = header ++ rest ∧ headLen = header.length ∧
      payloadLen = ofLittleEndian header / 4 := by
  cases stream with
  | nil =>
    have refused : readHeader [] = .error (.wrapped "codec: read first byte" .eof) := rfl
    rw [refused] at read
    exact (nomatch read)
  | cons first tail =>
    by_cases short : tail.length < (first &&& 0x03).toNat
    · obtain ⟨failure, refused⟩ := readHeader_short short
      rw [refused] at read
      exact (nomatch read)
    · have isHeader : IsHeader (first :: tail.take (first &&& 0x03).toNat) :=
        isHeader_cons.mpr (by rw [List.length_take]; omega)
      have whole := readHeader_append isHeader (tail.drop (first &&& 0x03).toNat)
      rw [List.cons_append, List.take_append_drop, read] at whole
      injection whole with same
      injection same with numbers left
      injection numbers with sameLength samePayload
      exact ⟨_, isHeader, by rw [left, List.cons_append, List.take_append_drop], sameLength,
        samePayload⟩

/-! ### The round trips -/

theorem isHeader_encodeHeader (small : payloadLen < 2 ^ 30) :
    IsHeader (encodeHeader payloadLen) := by
  rw [IsHeader, encodeHeader_eq small, length_littleEndian,
    ofLittleEndian_littleEndian (headerNumber_lt small), headerNumber_mod]

theorem length_encodeHeader (small : payloadLen < 2 ^ 30) :
    (encodeHeader payloadLen).length = headerLength payloadLen := by
  rw [encodeHeader_eq small, length_littleEndian]

/-- A header written is read back as the length it was written for. -/
theorem readHeader_encodeHeader (small : payloadLen < 2 ^ 30) (rest : List UInt8) :
    readHeader (encodeHeader payloadLen ++ rest) =
      .ok (((encodeHeader payloadLen).length, payloadLen), rest) := by
  rw [readHeader_append (isHeader_encodeHeader small), encodeHeader_eq small,
    ofLittleEndian_littleEndian (headerNumber_lt small), headerNumber_div]

/-- A header is long enough for the length it holds, and holds less than the widest one. -/
theorem IsHeader.bounds (isHeader : IsHeader header) :
    4 * (ofLittleEndian header / 4) < 256 ^ header.length ∧ 0 < header.length ∧
      ofLittleEndian header / 4 < 2 ^ 30 := by
  have below := ofLittleEndian_lt header
  have counted : ofLittleEndian header % 4 + 1 = header.length := isHeader
  have widest : 256 ^ header.length ≤ 256 ^ 4 := Nat.pow_le_pow_right (by decide) (by omega)
  exact ⟨by omega, by omega, by omega⟩

/-- No header that is read as a length is shorter than the one written for it. -/
theorem length_encodeHeader_le (isHeader : IsHeader header) :
    (encodeHeader (ofLittleEndian header / 4)).length ≤ header.length := by
  obtain ⟨holds, wide, small⟩ := isHeader.bounds
  rw [length_encodeHeader small]
  exact headerLength_le wide holds

-- The reader takes a header of a wider class than the length needs; the writer never makes one.
example : readHeader [0x01, 0x00] = .ok ((2, 0), []) := by decide

/-- A header that is no longer than it has to be is the one written for its length. -/
theorem encodeHeader_of_isHeader (isHeader : IsHeader header)
    (shortest : header.length = (encodeHeader (ofLittleEndian header / 4)).length) :
    header = encodeHeader (ofLittleEndian header / 4) := by
  have small := isHeader.bounds.2.2
  have counted : ofLittleEndian header % 4 + 1 = header.length := isHeader
  rw [length_encodeHeader small] at shortest
  have number : headerNumber (ofLittleEndian header / 4) = ofLittleEndian header := by
    rw [headerNumber, ← shortest]
    omega
  rw [encodeHeader_eq small, number, ← shortest, littleEndian_ofLittleEndian]

/-- The bytes of one frame. -/
def frame (data : List UInt8) : List UInt8 := encodeHeader data.length ++ data

/-- The payloads a frame carries. -/
def Framed (data : List UInt8) : Prop := 1 ≤ data.length ∧ data.length ≤ maxFrameSize

theorem writeRawBytes_of_framed {data : List UInt8} (framed : Framed data) :
    writeRawBytes data = .ok (frame data) :=
  if_neg (Nat.not_lt.mpr framed.2)

/-- The reader finds the end of every frame. -/
theorem delimits_frame {data : List UInt8} (framed : Framed data) :
    Delimits frame readRawBytes data := by
  intro rest
  have small : data.length < 2 ^ 30 := Nat.lt_of_le_of_lt framed.2 (by decide)
  have nonempty : ¬ data.length = 0 := Nat.ne_of_gt framed.1
  have fits : ¬ data.length > maxFrameSize := Nat.not_lt.mpr framed.2
  have header := readHeader_encodeHeader small (data ++ rest)
  have payload := readFull_append data rest
  rw [readRawBytes, frame, List.append_assoc, header]
  simp only [Bind.bind, Except.bind, nonempty, fits, if_false, payload]
  rfl

/-- Write a list of payloads one after the other on one connection. -/
def writeAll : List (List UInt8) → Except String (List UInt8)
  | [] => .ok []
  | payload :: payloads => do
    let written ← writeRawBytes payload
    let others ← writeAll payloads
    return written ++ others

theorem writeAll_of_framed {payloads : List (List UInt8)}
    (framed : ∀ payload ∈ payloads, Framed payload) :
    writeAll payloads = .ok (payloads.flatMap frame) := by
  induction payloads with
  | nil => rfl
  | cons payload payloads inductionHypothesis =>
    have first := writeRawBytes_of_framed (framed payload List.mem_cons_self)
    have others := inductionHypothesis fun other member =>
      framed other (List.mem_cons_of_mem _ member)
    rw [writeAll, first, others]
    rfl

/-- What is written is read back: a stream of frames as its payloads with nothing left over, and a
header as its length by bytes whose number stands in the low bits of the first; no header read as
that length is shorter, and one that is no longer is the same. -/
theorem framing_roundTrip (payloads : List (List UInt8))
    (framed : ∀ payload ∈ payloads, 1 ≤ payload.length ∧ payload.length ≤ maxFrameSize)
    (payloadLen : Nat) (small : payloadLen < 2 ^ 30) :
    (∃ stream, writeAll payloads = .ok stream ∧
      readMany readRawBytes payloads.length stream = .ok (payloads, [])) ∧
    (∀ rest, readHeader (encodeHeader payloadLen ++ rest) =
      .ok (((encodeHeader payloadLen).length, payloadLen), rest)) ∧
    (∃ first others, encodeHeader payloadLen = first :: others ∧
      (encodeHeader payloadLen).length = (first &&& 0x03).toNat + 1) ∧
    ∀ stream headLen rest, readHeader stream = .ok ((headLen, payloadLen), rest) →
      (encodeHeader payloadLen).length ≤ headLen ∧
      (headLen = (encodeHeader payloadLen).length → stream = encodeHeader payloadLen ++ rest) := by
  refine ⟨⟨_, writeAll_of_framed framed, ?_⟩, readHeader_encodeHeader small, ?_, ?_⟩
  · have read := readMany_flatMap payloads (fun payload member =>
      delimits_frame (framed payload member)) []
    rwa [List.append_nil] at read
  · have isHeader := isHeader_encodeHeader small
    cases written : encodeHeader payloadLen with
    | nil =>
      rw [written] at isHeader
      exact absurd isHeader (Nat.succ_ne_zero _)
    | cons first others =>
      rw [written] at isHeader
      refine ⟨first, others, rfl, ?_⟩
      rw [isHeader_cons.mp isHeader, List.length_cons]
  · intro stream headLen rest read
    obtain ⟨header, isHeader, rfl, rfl, rfl⟩ := exists_header_of_readHeader read
    refine ⟨length_encodeHeader_le isHeader, fun shortest => ?_⟩
    exact congrArg (· ++ rest) (encodeHeader_of_isHeader isHeader shortest)

theorem framing_roundTrip_boundaries :
    (∃ stream, writeAll [[7], [8, 9]] = .ok stream ∧
      readMany readRawBytes 2 stream = .ok ([[7], [8, 9]], [])) ∧
    (∀ rest, readHeader (encodeHeader 64 ++ rest) =
      .ok (((encodeHeader 64).length, 64), rest)) ∧
    (∃ first others, encodeHeader 64 = first :: others ∧
      (encodeHeader 64).length = (first &&& 0x03).toNat + 1) ∧
    ∀ stream headLen rest, readHeader stream = .ok ((headLen, 64), rest) →
      (encodeHeader 64).length ≤ headLen ∧
      (headLen = (encodeHeader 64).length → stream = encodeHeader 64 ++ rest) :=
  framing_roundTrip [[7], [8, 9]] (by decide) 64 (by decide)

end SovaDesk.Codec
