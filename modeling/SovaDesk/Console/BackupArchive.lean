/-
This file models the console's backup archives: the tape archive that a list of entries is
written to, and the files that are read back from one.

A header is a block of 512 bytes, filled field by field. A name of more than 100 bytes is
split at a slash between two of its fields. The slash is looked for by a character's
position, while the fields are limited in bytes, so a part with wide characters may exceed
its field, and what exceeds it is dropped without a word. A size of more than eleven octal
digits loses its first ones, and an entry without a name is passed over. Everything else
that is accepted is read back as it was written.

The compression is a parameter that loses nothing.
-/

import SovaDesk.Lib.Buffer
import SovaDesk.Lib.Table
import SovaDesk.Lib.Utf8
import Mathlib.Algebra.Order.Group.Nat
import Mathlib.Algebra.Ring.Int.Defs
import Mathlib.Data.List.TakeWhile

namespace SovaDesk.Console.BackupArchive

open Buffer Utf8

abbrev Bytes := List UInt8

/-! ### Writing -/

abbrev blockSize : Nat := 512

def zeros (length : Nat) : Bytes := List.replicate length 0

/-- The write of a text: as many of its characters as fit, and none of them in part. -/
def write (text : List Char) (offset length : Nat) : Write UInt8 :=
  ⟨offset, length, encode (takeWhole length text), length_encode_takeWhole_le length text⟩

/-- A whole number in octal digits. -/
def octalText (value : Int) : List Char :=
  if value < 0 then '-' :: Nat.toDigits 8 value.natAbs else Nat.toDigits 8 value.toNat

def padStart (text : List Char) (length : Nat) : List Char :=
  List.replicate (length - text.length) '0' ++ text

/-- The last characters of a text. -/
def lastOf (text : List Char) (length : Nat) : List Char := text.drop (text.length - length)

def writeOctal (value : Int) (offset length : Nat) : List (Write UInt8) :=
  [write (lastOf (padStart (octalText value) (length - 1)) (length - 1)) offset (length - 1),
    write ['\x00'] (offset + length - 1) 1]

def byteLength (text : List Char) : Nat := (encode text).length

/-- The code units a character takes in the language's texts. -/
def codeUnits (c : Char) : Nat := if c.toNat < 0x10000 then 1 else 2

/-- What stands before and after the last slash that is at the position 155 or before it. -/
def lastSlash : Nat → List Char → Option (List Char × List Char)
  | _, [] => none
  | position, c :: rest =>
    if 155 < position then none
    else match lastSlash (position + codeUnits c) rest with
      | some (before, after) => some (c :: before, after)
      | none => if c = '/' then some ([], rest) else none

/-- The prefix and the file name that a name is split into. -/
def splitName (name : List Char) : List Char × List Char :=
  if 100 < byteLength name then
    match lastSlash 0 name with
    | some (c :: before, after) => (c :: before, after)
    | _ => ([], name)
  else ([], name)

/-- The fields of a header, in the order they are written. -/
def headerWrites (initial filename : List Char) (size : Nat) (mode mtime : Int) :
    List (Write UInt8) :=
  [write filename 0 100] ++ writeOctal (mode % 4096) 100 8 ++ writeOctal 0 108 8 ++
    writeOctal 0 116 8 ++ writeOctal size 124 12 ++ writeOctal mtime 136 12 ++
    [write (List.replicate 8 ' ') 148 8, write ['0'] 156 1,
      write ['u', 's', 't', 'a', 'r', '\x00'] 257 6, write ['0', '0'] 263 2] ++
    if initial = [] then [] else [write initial 345 155]

def checksumWrites (header : Bytes) : List (Write UInt8) :=
  let sum := (header.map UInt8.toNat).sum
  [write (lastOf (padStart (octalText sum) 6) 6) 148 6, write ['\x00'] 154 1, write [' '] 155 1]

def buildHeader (name : List Char) (size : Nat) (mode mtime : Int) : Except String Bytes :=
  let (initial, filename) := splitName name
  if 100 < byteLength filename then .error ("Archive entry name too long: " ++ String.ofList name)
  else
    let header := runAll (headerWrites initial filename size mode mtime) (zeros blockSize)
    .ok (runAll (checksumWrites header) header)

def padToBlock (size : Int) : Int :=
  let rem := size.tmod blockSize
  if rem = 0 then 0 else blockSize - rem

/-- What an entry holds: bytes, a text or nothing. -/
inductive Data where
  | buffer (bytes : Bytes)
  | text (chars : List Char)
  | missing

def Data.bytes : Data → Bytes
  | .buffer bytes => bytes
  | .text chars => encode chars
  | .missing => []

/-- An entry to archive. A mode or a time of zero counts as missing. -/
structure Entry where
  name : List Char
  data : Data
  mode : Int
  mtime : Int

/-- The name an entry goes by in the archive: with slashes only, and none in front. -/
def archiveName (name : List Char) : List Char :=
  (name.map fun c => if c = '\\' then '/' else c).dropWhile (· = '/')

def createTar (now : Int) : List Entry → Except String Bytes
  | [] => .ok (zeros (blockSize * 2))
  | entry :: rest =>
    if entry.name = [] then createTar now rest
    else do
      let data := entry.data.bytes
      let header ← buildHeader (archiveName entry.name) data.length
        (if entry.mode = 0 then 0o644 else entry.mode)
          (if entry.mtime = 0 then now else entry.mtime)
      let more ← createTar now rest
      return header ++ data ++ zeros (padToBlock data.length).toNat ++ more

/-- A compression that loses nothing. -/
structure Gzip where
  zip : Bytes → Bytes
  unzip : Bytes → Option Bytes
  unzip_zip : ∀ bytes, unzip (zip bytes) = some bytes

def createTarGz (gzip : Gzip) (now : Int) (entries : List Entry) : Except String Bytes :=
  (createTar now entries).map gzip.zip

/-! ### Reading -/

/-- A place in a buffer, counted from its end if it is negative. -/
def relative (length : Nat) (index : Int) : Nat :=
  if index < 0 then (length + index).toNat else index.toNat

def slice (bytes : Bytes) (start stop : Int) : Bytes :=
  field bytes (relative bytes.length start) (relative bytes.length stop)

def ascii (bytes : Bytes) : List Char := bytes.map fun byte => Char.ofNat (byte.toNat % 128)

def isOctal (c : Char) : Bool := '0' ≤ c && c ≤ '7'

/-- The number in front of a text, in octal digits, if there is one. -/
def parseIntOctal (text : List Char) : Option Int :=
  match text.dropWhile fun c => '\t' ≤ c && c ≤ '\r' with
  | '-' :: rest => (digits rest).map fun value => -value
  | '+' :: rest => digits rest
  | rest => digits rest
where
  digits (text : List Char) : Option Int :=
    let front := text.takeWhile isOctal
    if front = [] then none else some (Int.ofNat (Nat.ofDigitChars 8 front 0))

def parseOctal (buffer : Bytes) (offset length : Nat) : Int :=
  let str := (ascii (slice buffer offset (offset + length))).filter fun c => c ≠ '\x00' ∧ c ≠ ' '
  if str = [] then 0 else (parseIntOctal str).getD 0

def isLineTerminator (c : Char) : Bool := [0x0A, 0x0D, 0x2028, 0x2029].contains c.toNat

/-- A text up to the first null after which its line is its last. -/
def cutNull : List Char → List Char
  | [] => []
  | c :: rest => if c = '\x00' ∧ rest.all (! isLineTerminator ·) then [] else c :: cutNull rest

abbrev Files := Table (List Char) Bytes

/-- The entries from an offset on. The offset is a number of its own, as the sizes that move it
come from the archive. -/
def extractTar (tar : Bytes) : Nat → Int → Files → Option Files
  | 0, _, _ => none
  | fuel + 1, offset, files =>
    if tar.length < offset + blockSize then some files
    else
      let header := slice tar offset (offset + blockSize)
      if header.all (· == 0) then some files
      else
        let filename := cutNull (decode (slice header 0 100))
        let initial := cutNull (decode (slice header 345 500))
        let name := if initial = [] then filename else initial ++ '/' :: filename
        let size := parseOctal header 124 12
        let typeflag := ascii (slice header 156 157)
        let data := slice tar (offset + blockSize) (offset + blockSize + size)
        extractTar tar fuel (offset + blockSize + (size + padToBlock size))
          (if typeflag = ['0'] ∨ typeflag = ['\x00'] ∨ typeflag = [] then files.insert name data
            else files)

/-- The files of an archive, if it can be decompressed and the fuel is enough. -/
def extractTarGz (gzip : Gzip) (fuel : Nat) (archive : Bytes) : Option Files := do
  let tar ← gzip.unzip archive
  extractTar tar fuel 0 ∅

/-! ### Names -/

variable {name : List Char}

theorem eq_append_of_lastSlash {position : Nat} {before after : List Char}
    (found : lastSlash position name = some (before, after)) : name = before ++ '/' :: after := by
  induction name generalizing position before with
  | nil => exact (Option.some_ne_none _ found.symm).elim
  | cons c rest inductionHypothesis =>
    rw [lastSlash] at found
    split at found
    · exact (Option.some_ne_none _ found.symm).elim
    · split at found
      · next later =>
        cases found
        rw [inductionHypothesis later, List.cons_append]
      · split at found
        · next slash =>
          cases found
          rw [slash, List.nil_append]
        · exact (Option.some_ne_none _ found.symm).elim

/-- A name is left whole, or split at a slash after its first character. -/
theorem splitName_cases (name : List Char) :
    splitName name = ([], name) ∨
      ∃ initial filename, splitName name = (initial, filename) ∧ initial ≠ [] ∧
        name = initial ++ '/' :: filename := by
  unfold splitName
  split
  · split
    · next c before after found =>
      exact Or.inr ⟨c :: before, after, rfl, List.cons_ne_nil c before,
        eq_append_of_lastSlash found⟩
    · exact Or.inl rfl
  · exact Or.inl rfl

/-- The name that is read back. -/
def storedName (name : List Char) : List Char :=
  if (splitName name).1 = [] then (splitName name).2
  else takeWhole 155 (splitName name).1 ++ '/' :: (splitName name).2

theorem storedName_eq_self (fits : byteLength (splitName name).1 ≤ 155) :
    storedName name = name := by
  unfold storedName
  rcases splitName_cases name with whole | ⟨initial, filename, split, nonempty, same⟩
  · rw [whole, if_pos rfl]
  · rw [split] at fits ⊢
    rw [if_neg nonempty, takeWhole_eq_self fits, ← same]

theorem length_storedName_lt (wide : 155 < byteLength (splitName name).1) :
    (storedName name).length < name.length := by
  unfold storedName
  rcases splitName_cases name with whole | ⟨initial, filename, split, nonempty, same⟩
  · rw [whole] at wide
    exact absurd wide (Nat.not_lt_zero _)
  · rw [split] at wide ⊢
    have shorter := length_takeWhole_lt wide
    conv_rhs => rw [same]
    dsimp only at shorter ⊢
    rw [if_neg nonempty, List.length_append, List.length_append]
    omega

theorem storedName_ne_nil (nonempty : name ≠ []) : storedName name ≠ [] := by
  unfold storedName
  rcases splitName_cases name with whole | ⟨initial, filename, split, some, same⟩
  · rwa [whole, if_pos rfl]
  · rw [split, if_neg some]
    exact List.append_ne_nil_of_right_ne_nil _ (List.cons_ne_nil '/' filename)

/-! ### Octal digits -/

theorem isOctal_digitChar {digit : Nat} (small : digit < 8) : isOctal digit.digitChar := by
  have all : ∀ digit < 8, isOctal digit.digitChar := by decide
  exact all digit small

theorem isOctal_of_mem_toDigits {value : Nat} {c : Char} (member : c ∈ Nat.toDigits 8 value) :
    isOctal c := by
  induction value using Nat.strong_induction_on with
  | _ value inductionHypothesis =>
    rw [Nat.toDigits_eq_if (by decide)] at member
    split at member
    · next small =>
      rw [List.mem_singleton.mp member]
      exact isOctal_digitChar small
    · rcases List.mem_append.mp member with front | last
      · exact inductionHypothesis (value / 8) (by omega) front
      · rw [List.mem_singleton.mp last]
        exact isOctal_digitChar (Nat.mod_lt value (by decide))

theorem toNat_of_isOctal {c : Char} (octal : isOctal c) : 48 ≤ c.toNat ∧ c.toNat ≤ 55 := by
  obtain ⟨low, high⟩ := (Bool.and_eq_true _ _).mp octal
  exact ⟨Char.le_def.mp (of_decide_eq_true low), Char.le_def.mp (of_decide_eq_true high)⟩

/-- The text that the size of an entry is written as. -/
def sizeText (size : Nat) : List Char := lastOf (padStart (octalText size) 11) 11

variable {size : Nat}

theorem sizeText_eq (small : size < 8 ^ 11) :
    sizeText size =
      List.replicate (11 - (Nat.toDigits 8 size).length) '0' ++ Nat.toDigits 8 size := by
  have digits := (Nat.length_toDigits_le_iff (by decide : 1 < 8) (by decide : 0 < 11)).mpr small
  have text : octalText size = Nat.toDigits 8 size := if_neg (by omega)
  rw [sizeText, lastOf, padStart, text, List.length_append, List.length_replicate,
    show 11 - (Nat.toDigits 8 size).length + (Nat.toDigits 8 size).length - 11 = 0 by omega,
    List.drop_zero]

theorem length_sizeText (small : size < 8 ^ 11) : (sizeText size).length = 11 := by
  have digits := (Nat.length_toDigits_le_iff (by decide : 1 < 8) (by decide : 0 < 11)).mpr small
  rw [sizeText_eq small, List.length_append, List.length_replicate]
  omega

theorem isOctal_of_mem_sizeText (small : size < 8 ^ 11) {c : Char}
    (member : c ∈ sizeText size) : isOctal c := by
  rw [sizeText_eq small] at member
  rcases List.mem_append.mp member with padding | digit
  · rw [List.eq_of_mem_replicate padding]
    rfl
  · exact isOctal_of_mem_toDigits digit

theorem ofDigitChars_sizeText (small : size < 8 ^ 11) :
    Nat.ofDigitChars 8 (sizeText size) 0 = size := by
  rw [sizeText_eq small, Nat.ofDigitChars_append, Nat.ofDigitChars_replicate_zero, Nat.mul_zero,
    Nat.ofDigitChars_toDigits (by decide) (by decide)]

variable {text : List Char}

theorem parseIntOctal_of_octal (nonempty : text ≠ []) (octal : ∀ c ∈ text, isOctal c) :
    parseIntOctal text = some (Int.ofNat (Nat.ofDigitChars 8 text 0)) := by
  obtain ⟨c, rest, rfl⟩ := List.exists_cons_of_ne_nil nonempty
  have bounds := toNat_of_isOctal (octal c List.mem_cons_self)
  have kept : (c :: rest).dropWhile (fun c => '\t' ≤ c && c ≤ '\r') = c :: rest := by
    refine List.dropWhile_cons_of_neg fun space => ?_
    obtain ⟨-, high⟩ := (Bool.and_eq_true _ _).mp space
    have high : c.toNat ≤ 13 := Char.le_def.mp (of_decide_eq_true high)
    omega
  have front : parseIntOctal.digits (c :: rest) =
      some (Int.ofNat (Nat.ofDigitChars 8 (c :: rest) 0)) := by
    rw [parseIntOctal.digits, List.takeWhile_eq_self_iff.mpr octal]
    exact if_neg (List.cons_ne_nil c rest)
  unfold parseIntOctal
  rw [kept]
  split
  · next same =>
    cases same
    exact absurd bounds (by decide)
  · next same =>
    cases same
    exact absurd bounds (by decide)
  · exact front

/-! ### Fields -/

theorem ascii_encode (narrow : ∀ c ∈ text, c.toNat < 128) :
    ascii (encode text) = text := by
  induction text with
  | nil => rfl
  | cons c rest inductionHypothesis =>
    have small := narrow c List.mem_cons_self
    have byte : (UInt8.ofNat c.toNat).toNat = c.toNat := by
      rw [UInt8.toNat_ofNat', Nat.mod_eq_of_lt (by omega)]
    have rest := inductionHypothesis fun other member =>
      narrow other (List.mem_cons_of_mem c member)
    have first : encodeChar c = [UInt8.ofNat c.toNat] := if_pos small
    unfold ascii at rest ⊢
    rw [encode_cons, first, List.map_append, rest, List.map_singleton, byte,
      Nat.mod_eq_of_lt small, Char.ofNat_toNat, List.singleton_append]

theorem length_encode_of_narrow (narrow : ∀ c ∈ text, c.toNat < 128) :
    (encode text).length = text.length := by
  have same := congrArg List.length (ascii_encode narrow)
  rwa [ascii, List.length_map] at same

theorem decode_zeros (length : Nat) : decode (zeros length) = List.replicate length '\x00' := by
  induction length with
  | zero => rfl
  | succ length inductionHypothesis =>
    rw [List.replicate_succ, ← inductionHypothesis]
    exact decode_encodeChar '\x00' (zeros length)

theorem cutNull_append_replicate (clean : '\x00' ∉ text) (length : Nat) :
    cutNull (text ++ List.replicate length '\x00') = text := by
  induction text with
  | nil =>
    cases length with
    | zero => rfl
    | succ length =>
      refine if_pos ⟨rfl, List.all_eq_true.mpr fun c member => ?_⟩
      rw [List.eq_of_mem_replicate member]
      rfl
  | cons c rest inductionHypothesis =>
    rw [List.cons_append, cutNull, if_neg fun cut : c = '\x00' ∧ _ =>
      clean (cut.1 ▸ List.mem_cons_self),
      inductionHypothesis fun member => clean (List.mem_cons_of_mem c member)]

/-- A text in a field, with zeros behind it, is read back. -/
theorem cutNull_decode (clean : '\x00' ∉ text) (length : Nat) :
    cutNull (decode (encode text ++ zeros length)) = text := by
  rw [decode_encode_append, decode_zeros, cutNull_append_replicate clean]

theorem slice_natCast (bytes : Bytes) (start stop : Nat) :
    slice bytes start stop = field bytes start stop := by
  have same (index : Nat) : relative bytes.length (index : Int) = index :=
    if_neg (Int.not_lt.mpr (Int.natCast_nonneg index))
  rw [slice, same, same]

/-! ### Headers -/

/-- What is read from a header. -/
structure Header (header : Bytes) (name : List Char) (size : Nat) : Prop where
  length : header.length = blockSize
  filename : cutNull (decode (slice header 0 100)) = (splitName name).2
  initial : cutNull (decode (slice header 345 500)) = takeWhole 155 (splitName name).1
  size : size < 8 ^ 11 → parseOctal header 124 12 = size
  typeflag : slice header 156 157 = [48]

/-- The places of a header's fields. -/
def layout (long : Bool) : List (Nat × Nat) :=
  [(0, 100), (100, 7), (107, 1), (108, 7), (115, 1), (116, 7), (123, 1), (124, 11), (135, 1),
    (136, 11), (147, 1), (148, 8), (156, 1), (257, 6), (263, 2)] ++
      if long then [(345, 155)] else []

theorem span_headerWrites (initial filename : List Char) (size : Nat) (mode mtime : Int) :
    (headerWrites initial filename size mode mtime).map Write.span =
      layout (decide (initial ≠ [])) := by
  by_cases short : initial = []
  · rw [headerWrites, if_pos short, layout, decide_eq_false (not_not_intro short)]
    rfl
  · rw [headerWrites, if_neg short, layout, decide_eq_true short]
    rfl

theorem inside_headerWrites {initial filename : List Char} {mode mtime : Int} :
    ((headerWrites initial filename size mode mtime).map Write.span).all
      (inside (zeros blockSize).length) := by
  rw [span_headerWrites, zeros, List.length_replicate]
  cases decide (initial ≠ []) <;> rfl

variable {header : Bytes}

theorem field_checksumWrites {start stop : Nat} (length : header.length = blockSize)
    (away : stop ≤ 148 ∨ 156 ≤ start) :
    field (runAll (checksumWrites header) header) start stop = field header start stop := by
  have spans : (checksumWrites header).map Write.span = [(148, 6), (154, 1), (155, 1)] := rfl
  refine field_runAll_of_apart ?_ ?_
  · rw [spans, length]
    rfl
  · rw [spans]
    refine List.all_eq_true.mpr fun span member => ?_
    have inside : 148 ≤ span.1 ∧ span.1 + span.2 ≤ 156 := by
      simp only [List.mem_cons, List.not_mem_nil, or_false] at member
      rcases member with rfl | rfl | rfl <;> decide
    rw [apart, Bool.or_eq_true, decide_eq_true_iff, decide_eq_true_iff]
    omega

/-- A field of a header: the text that one write puts there, with zeros behind. -/
theorem field_header {initial filename : List Char} {mode mtime : Int}
    (filled : runAll (headerWrites initial filename size mode mtime) (zeros blockSize) = header)
    (index offset room : Nat)
    (found : (headerWrites initial filename size mode mtime)[index]? =
      some (write text offset room))
    (away : ∀ long, ((layout long).eraseIdx index).all (apart offset (offset + room)))
    (inside : offset + room ≤ blockSize) (checksum : offset + room ≤ 148 ∨ 156 ≤ offset) :
    field (runAll (checksumWrites header) header) offset (offset + room) =
      encode (takeWhole room text) ++ zeros (room - (encode (takeWhole room text)).length) := by
  have length : header.length = blockSize := by
    rw [← filled]
    exact (length_runAll inside_headerWrites).trans List.length_replicate
  have held := @field_runAll_getElem _ (zeros blockSize) (write text offset room)
    (headerWrites initial filename size mode mtime) index found inside_headerWrites
    (by rw [span_headerWrites]; exact away _)
  rw [filled] at held
  refine (field_checksumWrites length checksum).trans (held.trans ?_)
  show encode (takeWhole room text) ++
    field (zeros blockSize) (offset + (encode (takeWhole room text)).length) (offset + room) = _
  rw [zeros, field_replicate 0 inside, Nat.add_sub_add_left, zeros]

/-- A size in its field, with a null behind it, is read back. -/
theorem parseOctal_of_field (small : size < 8 ^ 11)
    (held : field header 124 136 = encode (sizeText size) ++ [0]) :
    parseOctal header 124 12 = size := by
  have octal {c : Char} (member : c ∈ sizeText size) := isOctal_of_mem_sizeText small member
  have nonempty : sizeText size ≠ [] := by
    rw [← List.length_pos_iff, length_sizeText small]
    decide
  have read : ascii (encode (sizeText size) ++ [0]) = sizeText size ++ ['\x00'] := by
    have digits := ascii_encode fun c member =>
      (toNat_of_isOctal (octal member)).2.trans_lt (by decide)
    unfold ascii at digits ⊢
    rw [List.map_append, digits]
    rfl
  have kept : (sizeText size ++ ['\x00']).filter (fun c => c ≠ '\x00' ∧ c ≠ ' ') =
      sizeText size := by
    rw [List.filter_append, List.filter_eq_self.mpr fun c member => ?_]
    · exact List.append_nil _
    · have bounds := toNat_of_isOctal (octal member)
      refine decide_eq_true ⟨fun null => ?_, fun space => ?_⟩
      · rw [null] at bounds
        exact absurd bounds (by decide)
      · rw [space] at bounds
        exact absurd bounds (by decide)
  have slice : slice header (124 : Nat) ((124 : Nat) + (12 : Nat) : Int) =
      encode (sizeText size) ++ [0] := (slice_natCast header 124 136).trans held
  rw [parseOctal, slice, read, kept, if_neg nonempty,
    parseIntOctal_of_octal nonempty fun c member => octal member, ofDigitChars_sizeText small,
    Option.getD_some, Int.ofNat_eq_natCast]

theorem buildHeader_spec {mode mtime : Int}
    (clean : '\x00' ∉ name) (built : buildHeader name size mode mtime = .ok header) :
    Header header name size := by
  have cleanInitial : '\x00' ∉ (splitName name).1 := by
    rcases splitName_cases name with whole | ⟨initial, filename, split, -, same⟩
    · rw [whole]
      exact List.not_mem_nil
    · rw [split]
      exact fun member => clean (same ▸ List.mem_append_left _ member)
  have cleanFilename : '\x00' ∉ (splitName name).2 := by
    rcases splitName_cases name with whole | ⟨initial, filename, split, -, same⟩
    · rwa [whole]
    · rw [split]
      exact fun member => clean (same ▸ List.mem_append_right _ (List.mem_cons_of_mem '/' member))
  obtain ⟨initial, filename, split⟩ : ∃ initial filename, splitName name = (initial, filename) :=
    ⟨_, _, rfl⟩
  rw [buildHeader, split] at built
  rw [split] at cleanInitial cleanFilename
  dsimp only at built cleanInitial cleanFilename
  split at built
  · cases built
  · next short =>
    obtain rfl := Except.ok.inj built
    have length :
        (runAll (headerWrites initial filename size mode mtime) (zeros blockSize)).length =
        blockSize := (length_runAll inside_headerWrites).trans List.length_replicate
    generalize filled : runAll (headerWrites initial filename size mode mtime) (zeros blockSize) =
      header at length
    refine ⟨?_, ?_, ?_, fun small => ?_, ?_⟩
    · rw [length_runAll (by rw [length]; rfl), length]
    · have whole : takeWhole 100 filename = filename := takeWhole_eq_self (Nat.not_lt.mp short)
      have held := field_header filled 0 0 100 rfl (by decide) (by decide) (by decide)
      rw [whole] at held
      rw [split, show slice _ 0 100 = _ from (slice_natCast _ 0 100).trans held,
        cutNull_decode cleanFilename]
    · rw [split]
      by_cases empty : initial = []
      · subst empty
        have held : field (runAll (checksumWrites header) header) 345 500 = zeros 155 := by
          rw [field_checksumWrites length (by decide), ← filled, field_runAll_of_apart
            inside_headerWrites (by rw [span_headerWrites]; rfl), zeros,
            field_replicate 0 (by decide)]
          rfl
        rw [show slice _ 345 500 = _ from (slice_natCast _ 345 500).trans held]
        exact cutNull_decode List.not_mem_nil 155
      · have found : (headerWrites initial filename size mode mtime)[15]? =
            some (write initial 345 155) := by
          rw [headerWrites, if_neg empty]
          rfl
        have held := field_header filled 15 345 155 found (by decide) (by decide) (by decide)
        rw [show slice _ 345 500 = _ from (slice_natCast _ 345 500).trans held]
        exact cutNull_decode (fun member => cleanInitial (takeWhole_subset member)) _
    · have narrow (c : Char) (member : c ∈ sizeText size) : c.toNat < 128 :=
        (toNat_of_isOctal (isOctal_of_mem_sizeText small member)).2.trans_lt (by decide)
      have digits := (length_encode_of_narrow narrow).trans (length_sizeText small)
      have held : field _ 124 135 = encode (takeWhole 11 (sizeText size)) ++ zeros _ :=
        field_header filled 7 124 11 rfl (by decide) (by decide) (by decide)
      have null : field (runAll (checksumWrites header) header) 135 136 = [0] :=
        field_header filled 8 135 1 rfl (by decide) (by decide) (by decide)
      rw [takeWhole_eq_self digits.le, digits] at held
      refine parseOctal_of_field small ?_
      rw [← field_append _ (by decide : 124 ≤ 135) (by decide : 135 ≤ 136), held, null]
      exact congrArg (· ++ [0]) (List.append_nil _)
    · have held := field_header filled 12 156 1 rfl (by decide) (by decide) (by decide)
      exact (slice_natCast _ 156 157).trans held

/-- A header is built if the file name fits its field. -/
theorem exists_buildHeader_iff {mode mtime : Int} :
    (∃ header, buildHeader name size mode mtime = .ok header) ↔
      byteLength (splitName name).2 ≤ 100 := by
  obtain ⟨initial, filename, split⟩ : ∃ initial filename, splitName name = (initial, filename) :=
    ⟨_, _, rfl⟩
  rw [buildHeader, split]
  dsimp only
  by_cases long : 100 < byteLength filename
  · rw [if_pos long]
    refine ⟨fun built => ?_, fun short => absurd long (Nat.not_lt.mpr short)⟩
    obtain ⟨header, built⟩ := built
    cases built
  · rw [if_neg long]
    exact ⟨fun _ => Nat.not_lt.mp long, fun _ => ⟨_, rfl⟩⟩

/-! ### Archives -/

/-- The padding of a payload, as a number of bytes. -/
theorem padToBlock_natCast (size : Nat) : padToBlock size = ((padToBlock size).toNat : Int) := by
  have nonnegative : 0 ≤ padToBlock size := by
    have below := Int.tmod_lt_of_pos (size : Int) (show (0 : Int) < blockSize by decide)
    unfold padToBlock
    dsimp only
    split
    · exact le_refl 0
    · exact Int.sub_nonneg_of_le below.le
  exact (Int.toNat_of_nonneg nonnegative).symm

variable {now : Int} {tar : Bytes} {entry : Entry}

theorem createTar_cons {rest : List Entry}
    (named : entry.name ≠ []) (created : createTar now (entry :: rest) = .ok tar) :
    ∃ mode mtime header more, buildHeader (archiveName entry.name) entry.data.bytes.length mode
        mtime = .ok header ∧ createTar now rest = .ok more ∧
      tar = header ++ entry.data.bytes ++ zeros (padToBlock entry.data.bytes.length).toNat ++
        more := by
  rw [createTar, if_neg named] at created
  dsimp only at created
  generalize (if entry.mode = 0 then (0o644 : Int) else entry.mode) = mode at created
  generalize (if entry.mtime = 0 then now else entry.mtime) = mtime at created
  cases built : buildHeader (archiveName entry.name) entry.data.bytes.length mode mtime with
  | error message =>
    rw [built] at created
    cases created
  | ok header =>
    cases others : createTar now rest with
    | error message =>
      rw [built, others] at created
      cases created
    | ok more =>
      rw [built, others] at created
      exact ⟨mode, mtime, header, more, built, rfl, (Except.ok.inj created).symm⟩

theorem extractTar_entry {data : Bytes} (read : Header header name data.length)
    (small : data.length < 8 ^ 11) (before rest : Bytes) (fuel : Nat) (files : Files) :
    extractTar (before ++ (header ++ data ++ zeros (padToBlock data.length).toNat ++ rest))
      (fuel + 1)
        before.length files =
      extractTar (before ++ (header ++ data ++ zeros (padToBlock data.length).toNat ++ rest)) fuel
        (before ++ (header ++ data ++ zeros (padToBlock data.length).toNat)).length
        (files.insert (storedName name) data) := by
  have headerLength := read.length
  generalize whole : before ++ (header ++ data ++ zeros (padToBlock data.length).toNat ++ rest) =
    tar
  have room : ¬ (tar.length : Int) < before.length + blockSize := by
    rw [← whole, List.length_append, List.length_append, List.length_append, List.length_append,
      headerLength]
    omega
  have first : slice tar before.length (before.length + blockSize) = header := by
    refine (slice_natCast tar before.length (before.length + blockSize)).trans ?_
    have middle := field_middle before header
      (data ++ zeros (padToBlock data.length).toNat ++ rest) 0
      blockSize headerLength.ge
    rw [Nat.add_zero] at middle
    rw [← whole, List.append_assoc header, List.append_assoc header, ← List.append_assoc before,
      middle,
      field, List.drop_zero, ← headerLength, List.take_length]
  have second : slice tar (before.length + blockSize) (before.length + blockSize + data.length) =
      data := by
    refine (slice_natCast tar (before.length + blockSize)
      (before.length + blockSize + data.length)).trans ?_
    have middle := field_middle (before ++ header) data
      (zeros (padToBlock data.length).toNat ++ rest) 0 data.length (le_refl _)
    rw [Nat.add_zero, List.length_append, headerLength] at middle
    rw [← whole, List.append_assoc header, List.append_assoc header, ← List.append_assoc before,
      List.append_assoc data, ← List.append_assoc (before ++ header), middle, field, List.drop_zero,
      List.take_length]
  have filled : header.all (· == 0) = false := by
    refine Bool.eq_false_iff.mpr fun all => ?_
    have flag : (48 : UInt8) ∈ slice header 156 157 := by
      rw [read.typeflag]
      exact List.mem_singleton_self 48
    have member : (48 : UInt8) ∈ header := List.mem_of_mem_take (List.mem_of_mem_drop flag)
    exact absurd (List.all_eq_true.mp all 48 member) (by decide)
  have next : (before.length : Int) + blockSize + (data.length + padToBlock data.length) =
      (before ++ (header ++ data ++ zeros (padToBlock data.length).toNat)).length := by
    rw [padToBlock_natCast, List.length_append, List.length_append, List.length_append,
      headerLength,
      zeros, List.length_replicate]
    push_cast
    omega
  have flag : ascii (slice header 156 157) = ['0'] := by
    rw [read.typeflag]
    rfl
  have name : (if cutNull (decode (slice header 345 500)) = [] then
      cutNull (decode (slice header 0 100)) else cutNull (decode (slice header 345 500)) ++
        '/' :: cutNull (decode (slice header 0 100))) = storedName name := by
    rw [read.filename, read.initial, storedName]
    by_cases empty : (splitName name).1 = []
    · rw [empty]
      rfl
    · rw [if_neg empty, if_neg (takeWhole_ne_nil (by decide) empty)]
  rw [extractTar, if_neg room]
  dsimp only
  rw [first, filled, if_neg Bool.false_ne_true, name, flag, if_pos (Or.inl rfl), read.size small,
    second, next]

/-- What one entry adds to the files that are read back. -/
def store (files : Files) (entry : Entry) : Files :=
  if entry.name = [] then files
  else files.insert (storedName (archiveName entry.name)) entry.data.bytes

theorem extractTar_succ {fuel : Nat} {offset : Int} {files found : Files}
    (extracted : extractTar tar fuel offset files = some found) :
    extractTar tar (fuel + 1) offset files = some found := by
  induction fuel generalizing offset files with
  | zero => exact (Option.some_ne_none _ extracted.symm).elim
  | succ fuel inductionHypothesis =>
    rw [extractTar] at extracted ⊢
    split
    · next short => rwa [if_pos short] at extracted
    · next long =>
      rw [if_neg long] at extracted
      dsimp only at extracted ⊢
      split
      · next zero => rwa [if_pos zero] at extracted
      · next filled =>
        rw [if_neg filled] at extracted
        exact inductionHypothesis extracted

/-- More fuel reads the same files. -/
theorem extractTar_mono {fuel : Nat} {offset : Int} {files found : Files}
    (extracted : extractTar tar fuel offset files = some found) (extra : Nat) :
    extractTar tar (fuel + extra) offset files = some found := by
  induction extra with
  | zero => exact extracted
  | succ extra inductionHypothesis => exact extractTar_succ inductionHypothesis

variable {entries : List Entry}

/-- An archive is read back entry by entry, up to the end that it was given. -/
theorem extractTar_createTar (clean : ∀ entry ∈ entries, '\x00' ∉ archiveName entry.name)
    (small : ∀ entry ∈ entries, entry.data.bytes.length < 8 ^ 11) (before : Bytes)
    (created : createTar now entries = .ok tar) (files : Files) :
    extractTar (before ++ tar) (entries.length + 1) before.length files =
      some (entries.foldl store files) := by
  induction entries generalizing before tar files with
  | nil =>
    cases created
    have room : ¬ ((before ++ zeros (blockSize * 2)).length : Int) < before.length + blockSize := by
      rw [List.length_append, zeros, List.length_replicate]
      omega
    have block : slice (before ++ zeros (blockSize * 2)) before.length
        (before.length + blockSize) = zeros blockSize := by
      refine (slice_natCast _ before.length (before.length + blockSize)).trans ?_
      rw [field, List.take_length_add_append, List.drop_left, zeros, List.take_replicate]
      rfl
    have zero : (zeros blockSize).all (· == 0) := List.all_eq_true.mpr fun byte member => by
      rw [List.eq_of_mem_replicate member]
      rfl
    rw [List.length_nil, extractTar, if_neg room]
    dsimp only
    rw [block, if_pos zero]
    rfl
  | cons entry rest inductionHypothesis =>
    have cleanRest := fun other (member : other ∈ rest) =>
      clean other (List.mem_cons_of_mem entry member)
    have smallRest := fun other (member : other ∈ rest) =>
      small other (List.mem_cons_of_mem entry member)
    rw [List.foldl_cons]
    by_cases empty : entry.name = []
    · rw [createTar, if_pos empty] at created
      have read := inductionHypothesis cleanRest smallRest before created files
      rw [store, if_pos empty]
      exact extractTar_succ read
    · obtain ⟨mode, mtime, header, more, built, others, rfl⟩ := createTar_cons empty created
      have read := buildHeader_spec (clean entry List.mem_cons_self) built
      have step := extractTar_entry read (small entry List.mem_cons_self) before more
        (rest.length + 1) files
      have tail := inductionHypothesis cleanRest smallRest
        (before ++ (header ++ entry.data.bytes ++
          zeros (padToBlock entry.data.bytes.length).toNat)) others
        (files.insert (storedName (archiveName entry.name)) entry.data.bytes)
      rw [List.append_assoc before] at tail
      rw [store, if_neg empty, List.length_cons]
      exact step.trans tail

/-! ### Round trips -/

/-- Names that the format is meant for: distinct, without nulls and backslashes, and with no slash
in front. -/
structure WellFormed (entries : List Entry) : Prop where
  distinct : (entries.map Entry.name).Nodup
  clean : ∀ entry ∈ entries, '\x00' ∉ entry.name
  forward : ∀ entry ∈ entries, '\\' ∉ entry.name
  relative : ∀ entry ∈ entries, entry.name.head? ≠ some '/'

theorem archiveName_eq_self (forward : '\\' ∉ name)
    (relative : name.head? ≠ some '/') : archiveName name = name := by
  have same : name.map (fun c => if c = '\\' then '/' else c) = name := by
    refine (List.map_congr_left fun c member => if_neg fun backslash : c = '\\' => ?_).trans
      (List.map_id' name)
    exact forward (backslash ▸ member)
  rw [archiveName, same]
  cases name with
  | nil => rfl
  | cons c rest =>
    refine List.dropWhile_cons_of_neg fun slash => relative ?_
    rw [List.head?_cons, of_decide_eq_true slash]

theorem WellFormed.archiveName (wellFormed : WellFormed entries)
    (member : entry ∈ entries) : BackupArchive.archiveName entry.name = entry.name :=
  archiveName_eq_self (wellFormed.forward entry member) (wellFormed.relative entry member)

theorem WellFormed.tail {rest : List Entry} (wellFormed : WellFormed (entry :: rest)) :
    WellFormed rest where
  distinct := (List.nodup_cons.mp wellFormed.distinct).2
  clean other member := wellFormed.clean other (List.mem_cons_of_mem entry member)
  forward other member := wellFormed.forward other (List.mem_cons_of_mem entry member)
  relative other member := wellFormed.relative other (List.mem_cons_of_mem entry member)

/-- What is read back from an archive that was created is each entry's data under its name. -/
def RoundTrips (gzip : Gzip) (now : Int) (entries : List Entry) : Prop :=
  ∀ archive, createTarGz gzip now entries = .ok archive →
    ∃ fuel files, extractTarGz gzip fuel archive = some files ∧
      ∀ name data, files.lookup name = some data ↔
        ∃ entry ∈ entries, entry.name = name ∧ entry.data.bytes = data

/-- A name whose part behind the split exceeds its field. -/
def Refused (entry : Entry) : Prop :=
  entry.name ≠ [] ∧ 100 < byteLength (splitName entry.name).2

/-- A name that its fields hold. -/
def Named (entry : Entry) : Prop :=
  entry.name ≠ [] ∧ byteLength (splitName entry.name).1 ≤ 155

theorem exists_createTar_iff (wellFormed : WellFormed entries) :
    (∃ tar, createTar now entries = .ok tar) ↔ ∀ entry ∈ entries, ¬ Refused entry := by
  induction entries with
  | nil => exact ⟨fun _ _ member => absurd member List.not_mem_nil, fun _ => ⟨_, rfl⟩⟩
  | cons entry rest inductionHypothesis =>
    have rest := inductionHypothesis wellFormed.tail
    rw [List.forall_mem_cons, ← rest]
    by_cases empty : entry.name = []
    · rw [createTar, if_pos empty]
      exact ⟨fun created => ⟨fun refused => refused.1 empty, created⟩, And.right⟩
    · have name := wellFormed.archiveName List.mem_cons_self
      constructor
      · rintro ⟨tar, created⟩
        obtain ⟨mode, mtime, header, more, built, others, -⟩ := createTar_cons empty created
        have short := exists_buildHeader_iff.mp ⟨header, built⟩
        rw [name] at short
        exact ⟨fun refused => absurd refused.2 (Nat.not_lt.mpr short), more, others⟩
      · rintro ⟨accepted, more, others⟩
        have short : byteLength (splitName (archiveName entry.name)).2 ≤ 100 := by
          rw [name]
          exact Nat.not_lt.mp fun long => accepted ⟨empty, long⟩
        obtain ⟨header, built⟩ := (@exists_buildHeader_iff _ entry.data.bytes.length
          (if entry.mode = 0 then 0o644 else entry.mode)
          (if entry.mtime = 0 then now else entry.mtime)).mpr short
        rw [createTar, if_neg empty]
        dsimp only
        rw [built, others]
        exact ⟨_, rfl⟩

variable {gzip : Gzip}

/-- What is read back from the archive of some entries. -/
theorem extractTarGz_createTarGz (wellFormed : WellFormed entries)
    (small : ∀ entry ∈ entries, entry.data.bytes.length < 8 ^ 11) {archive : Bytes}
    (created : createTarGz gzip now entries = .ok archive) :
    extractTarGz gzip (entries.length + 1) archive = some (entries.foldl store ∅) := by
  cases built : createTar now entries with
  | error message =>
    rw [createTarGz, built] at created
    cases created
  | ok tar =>
    rw [createTarGz, built] at created
    rw [extractTarGz, ← Except.ok.inj created, gzip.unzip_zip]
    have clean (entry : Entry) (member : entry ∈ entries) : '\x00' ∉ archiveName entry.name := by
      rw [wellFormed.archiveName member]
      exact wellFormed.clean entry member
    have read := extractTar_createTar clean small [] built ∅
    rw [List.nil_append, List.length_nil, Int.natCast_zero] at read
    exact Option.bind_eq_some_iff.mpr ⟨tar, rfl, read⟩

/-- Fuel does not change what is read. -/
theorem extractTarGz_unique {archive : Bytes} {fuel other : Nat} {files found : Files}
    (first : extractTarGz gzip fuel archive = some files)
    (second : extractTarGz gzip other archive = some found) : files = found := by
  obtain ⟨tar, unzipped, extracted⟩ := Option.bind_eq_some_iff.mp first
  obtain ⟨same, unzippedSame, extractedSame⟩ := Option.bind_eq_some_iff.mp second
  obtain rfl := Option.some.inj (unzipped.symm.trans unzippedSame)
  have more := extractTar_mono extracted other
  rw [Nat.add_comm, extractTar_mono extractedSame fuel] at more
  exact (Option.some.inj more).symm

theorem foldl_store_of_named (wellFormed : WellFormed entries)
    (named : ∀ entry ∈ entries, Named entry) (files : Files) :
    entries.foldl store files =
      (entries.map fun entry => (entry.name, entry.data.bytes)).foldl
        (fun filled entry => filled.insert entry.1 entry.2) files := by
  induction entries generalizing files with
  | nil => rfl
  | cons entry rest inductionHypothesis =>
    obtain ⟨nonempty, fits⟩ := named entry List.mem_cons_self
    rw [List.foldl_cons, List.map_cons, List.foldl_cons, inductionHypothesis wellFormed.tail
      fun other member => named other (List.mem_cons_of_mem entry member), store, if_neg nonempty,
      wellFormed.archiveName List.mem_cons_self, storedName_eq_self fits]

/-- A name that is read back was stored for some entry. -/
theorem exists_of_lookup_foldl_store (wellFormed : WellFormed entries)
    {files : Files} {data : Bytes}
    (found : (entries.foldl store files).lookup name = some data) :
    (∃ entry ∈ entries, entry.name ≠ [] ∧ storedName entry.name = name) ∨
      files.lookup name = some data := by
  induction entries generalizing files with
  | nil => exact Or.inr found
  | cons entry rest inductionHypothesis =>
    rcases inductionHypothesis wellFormed.tail found with ⟨other, member, stored⟩ | before
    · exact Or.inl ⟨other, List.mem_cons_of_mem entry member, stored⟩
    · rw [store] at before
      split at before
      · exact Or.inr before
      · next nonempty =>
        rcases Table.lookup_insert_iff.mp before with ⟨same, -⟩ | ⟨-, before⟩
        · rw [wellFormed.archiveName List.mem_cons_self] at same
          exact Or.inl ⟨entry, List.mem_cons_self, nonempty, same.symm⟩
        · exact Or.inr before

theorem roundTrips_of_named (wellFormed : WellFormed entries)
    (small : ∀ entry ∈ entries, entry.data.bytes.length < 8 ^ 11)
    (named : ∀ entry ∈ entries, Named entry) : RoundTrips gzip now entries := by
  intro archive created
  refine ⟨_, _, extractTarGz_createTarGz wellFormed small created, fun name data => ?_⟩
  have distinct :
      ((entries.map fun entry => (entry.name, entry.data.bytes)).map Prod.fst).Nodup := by
    rw [List.map_map]
    exact wellFormed.distinct
  rw [foldl_store_of_named wellFormed named, Table.lookup_foldl_insert_iff distinct]
  constructor
  · rintro (member | ⟨-, found⟩)
    · obtain ⟨entry, member, same⟩ := List.mem_map.mp member
      exact ⟨entry, member, (Prod.mk.inj same).1, (Prod.mk.inj same).2⟩
    · exact (Option.some_ne_none _ found.symm).elim
  · rintro ⟨entry, member, rfl, rfl⟩
    exact Or.inl (List.mem_map.mpr ⟨entry, member, rfl⟩)

/-- What is read back names every entry only if each name is held by its fields: the longest name
that is not would be missing. -/
theorem named_of_roundTrips (wellFormed : WellFormed entries)
    (small : ∀ entry ∈ entries, entry.data.bytes.length < 8 ^ 11)
    (accepted : ∀ entry ∈ entries, ¬ Refused entry) (roundTrips : RoundTrips gzip now entries) :
    ∀ entry ∈ entries, Named entry := by
  obtain ⟨tar, built⟩ := (exists_createTar_iff wellFormed).mpr accepted
  have created : createTarGz gzip now entries = .ok (gzip.zip tar) := by
    rw [createTarGz, built]
    rfl
  obtain ⟨fuel, files, extracted, exact⟩ := roundTrips _ created
  obtain rfl := extractTarGz_unique extracted (extractTarGz_createTarGz wellFormed small created)
  have stored (entry : Entry) (member : entry ∈ entries) :
      ∃ other ∈ entries, other.name ≠ [] ∧ storedName other.name = entry.name := by
    have found := (exact entry.name entry.data.bytes).mpr ⟨entry, member, rfl, rfl⟩
    rcases exists_of_lookup_foldl_store wellFormed found with stored | before
    · exact stored
    · exact (Option.some_ne_none _ before.symm).elim
  have longer (entry : Entry) (member : entry ∈ entries)
      (wide : 155 < byteLength (splitName entry.name).1) :
      ∃ other ∈ entries, 155 < byteLength (splitName other.name).1 ∧
        entry.name.length < other.name.length := by
    obtain ⟨other, otherMember, -, same⟩ := stored entry member
    by_cases fits : byteLength (splitName other.name).1 ≤ 155
    · rw [storedName_eq_self fits] at same
      exact absurd (same ▸ fits) (Nat.not_le.mpr wide)
    · have wider := Nat.not_le.mp fits
      exact ⟨other, otherMember, wider, same ▸ length_storedName_lt wider⟩
  have unbounded (entry : Entry) (member : entry ∈ entries)
      (wide : 155 < byteLength (splitName entry.name).1) (bound : Nat) :
      ∃ other ∈ entries, 155 < byteLength (splitName other.name).1 ∧ bound ≤ other.name.length := by
    induction bound with
    | zero => exact ⟨entry, member, wide, Nat.zero_le _⟩
    | succ bound inductionHypothesis =>
      obtain ⟨other, otherMember, otherWide, reached⟩ := inductionHypothesis
      obtain ⟨next, nextMember, nextWide, above⟩ := longer other otherMember otherWide
      exact ⟨next, nextMember, nextWide, reached.trans_lt above⟩
  intro entry member
  constructor
  · intro empty
    obtain ⟨other, -, nonempty, same⟩ := stored entry member
    exact storedName_ne_nil nonempty (same.trans empty)
  · refine Nat.not_lt.mp fun wide => ?_
    obtain ⟨other, otherMember, -, above⟩ := unbounded entry member wide
      ((entries.map fun entry => entry.name.length).sum + 1)
    have below := List.single_le_sum (fun _ _ => Nat.zero_le _) _
      (List.mem_map.mpr ⟨other, otherMember, rfl⟩ :
        other.name.length ∈ entries.map fun entry => entry.name.length)
    omega

/-- An archive that is accepted is read back as it was written if no entry is without a name, no
name's prefix exceeds its field and no size has more than eleven octal digits; and of entries
whose sizes have not, only if so. -/
theorem roundTrips_iff (gzip : Gzip) (now : Int) (entries : List Entry)
    (wellFormed : WellFormed entries) :
    ((∃ entry ∈ entries, Refused entry) ∨
        (∀ entry ∈ entries, Named entry ∧ entry.data.bytes.length < 8 ^ 11) →
      RoundTrips gzip now entries) ∧
    ((∀ entry ∈ entries, entry.data.bytes.length < 8 ^ 11) → RoundTrips gzip now entries →
      (∃ entry ∈ entries, Refused entry) ∨ ∀ entry ∈ entries, Named entry) := by
  constructor
  · rintro (⟨entry, member, refused⟩ | held)
    · intro archive created
      cases built : createTar now entries with
      | error message =>
        rw [createTarGz, built] at created
        cases created
      | ok tar =>
        exact absurd refused ((exists_createTar_iff wellFormed).mp ⟨tar, built⟩ entry member)
    · exact roundTrips_of_named wellFormed (fun entry member => (held entry member).2)
        fun entry member => (held entry member).1
  · intro small roundTrips
    by_cases refused : ∃ entry ∈ entries, Refused entry
    · exact Or.inl refused
    · refine Or.inr (named_of_roundTrips wellFormed small (fun entry member accepted => ?_)
      roundTrips)
      exact refused ⟨entry, member, accepted⟩

/-! ### A wide prefix -/

/-- A folder of eighty wide characters, of two bytes each, with a file in it. -/
def wideFolder : Entry where
  name := List.replicate 80 'é' ++ ['/', 'a']
  data := .text ['x']
  mode := 0
  mtime := 0

def plain : Gzip := ⟨id, some, fun _ => rfl⟩

theorem wellFormed_wideFolder : WellFormed [wideFolder] where
  distinct := List.nodup_singleton _
  clean := by decide
  forward := by decide
  relative := by decide

/-- The entry is read back under another name. -/
theorem wide_prefix_cut : WellFormed [wideFolder] ∧ ¬ RoundTrips plain 1 [wideFolder] := by
  refine ⟨wellFormed_wideFolder, fun roundTrips => ?_⟩
  have accepted : ∀ entry ∈ [wideFolder], ¬ Refused entry := by
    unfold Refused
    decide +kernel
  have wide : ¬ byteLength (splitName wideFolder.name).1 ≤ 155 := by decide +kernel
  exact wide (named_of_roundTrips wellFormed_wideFolder (by decide) accepted roundTrips wideFolder
    List.mem_cons_self).2

def notes : Entry where
  name := ['d', 'b', '/', 'n', 'o', 't', 'e', 's']
  data := .text ['x']
  mode := 0
  mtime := 0

theorem wellFormed_notes : WellFormed [notes] where
  distinct := List.nodup_singleton _
  clean := by decide
  forward := by decide
  relative := by decide

theorem roundTrips_iff_notes : RoundTrips plain 1 [notes] := by
  refine (roundTrips_iff plain 1 [notes] wellFormed_notes).1 (Or.inr ?_)
  unfold Named
  decide +kernel

end SovaDesk.Console.BackupArchive
