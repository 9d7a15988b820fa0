/-
This file is a small library of flat JSON objects, whose members are texts and whole numbers.

A writer spells a character that would end a text, or that a page would take for markup, with an
escape. A reader knows every escape, also those that no writer here uses, and the blanks between the
parts. What was written is read back.
-/

import Mathlib.Data.List.Basic

namespace FlatJson

inductive Value
  | text (chars : String)
  | number (value : Int)
  deriving DecidableEq

/-- The names of an object with their values, in the order of the text. -/
abbrev Object := List (String × Value)

/-! ### Characters -/

/-- The characters that a backslash and a letter stand for. -/
def letters : List (Char × Char) :=
  [('"', '"'), ('\\', '\\'), ('\x08', 'b'), ('\x0c', 'f'), ('\n', 'n'), ('\r', 'r'), ('\t', 't')]

def isControl (c : Char) : Bool := c.toNat < 0x20

/-- The characters that are written by their number. -/
def isNumbered (c : Char) : Bool :=
  isControl c || c = '<' || c = '>' || c = '&' || c.toNat = 0x2028 || c.toNat = 0x2029

def fourDigits (code : Nat) : List Char :=
  [(code / 4096 % 16).digitChar, (code / 256 % 16).digitChar, (code / 16 % 16).digitChar,
    (code % 16).digitChar]

def escape (c : Char) : List Char :=
  match letters.lookup c with
  | some letter => ['\\', letter]
  | none => if isNumbered c then '\\' :: 'u' :: fourDigits c.toNat else [c]

def hexValue (digit : Char) : Option Nat :=
  if '0' ≤ digit ∧ digit ≤ '9' then some (digit.toNat - 48)
  else if 'a' ≤ digit ∧ digit ≤ 'f' then some (digit.toNat - 87)
  else if 'A' ≤ digit ∧ digit ≤ 'F' then some (digit.toNat - 55)
  else none

def readFourDigits : List Char → Option (Nat × List Char)
  | a :: b :: c :: d :: rest =>
    match hexValue a, hexValue b, hexValue c, hexValue d with
    | some w, some x, some y, some z => some (((w * 16 + x) * 16 + y) * 16 + z, rest)
    | _, _, _, _ => none
  | _ => none

/-- The second half of a character that is written as two numbers. -/
def readLowHalf : List Char → Option (Nat × List Char)
  | '\\' :: 'u' :: rest =>
    (readFourDigits rest).filter fun (code, _) => 0xDC00 ≤ code && code < 0xE000
  | _ => none

/-- A half without the other half is the replacement character. -/
def readNumbered (text : List Char) : Option (Char × List Char) :=
  (readFourDigits text).map fun (code, rest) =>
    if code < 0xD800 ∨ 0xE000 ≤ code then (Char.ofNat code, rest)
    else
      match if code < 0xDC00 then readLowHalf rest else none with
      | some (low, more) =>
        (Char.ofNat (0x10000 + (code - 0xD800) * 0x400 + (low - 0xDC00)), more)
      | none => (Char.ofNat 0xFFFD, rest)

/-- A slash may be written with a backslash as well. -/
def unescape (letter : Char) : Option Char :=
  if letter = '/' then some '/'
  else (letters.find? fun pair => pair.2 = letter).map Prod.fst

def readEscape : List Char → Option (Char × List Char)
  | [] => none
  | letter :: rest =>
    if letter = 'u' then readNumbered rest else (unescape letter).map fun c => (c, rest)

/-- One character of a text. -/
def readChar : List Char → Option (Char × List Char)
  | [] => none
  | c :: rest =>
    if c = '\\' then readEscape rest else if isControl c then none else some (c, rest)

theorem hexValue_digitChar : ∀ digit < 16, hexValue digit.digitChar = some digit := by decide

theorem readFourDigits_fourDigits {code : Nat} (small : code < 65536) (rest : List Char) :
    readFourDigits (fourDigits code ++ rest) = some (code, rest) := by
  have whole : ((code / 4096 % 16 * 16 + code / 256 % 16) * 16 + code / 16 % 16) * 16 + code % 16 =
      code := by omega
  simp only [fourDigits, List.cons_append, List.nil_append, readFourDigits,
    hexValue_digitChar _ (Nat.mod_lt _ (Nat.succ_pos 15)), whole]

theorem toNat_lt_of_isNumbered {c : Char} (numbered : isNumbered c = true) :
    c.toNat < 0xD800 := by
  simp only [isNumbered, isControl, Bool.or_eq_true, decide_eq_true_eq] at numbered
  obtain ((((control | rfl) | rfl) | rfl) | line) | paragraph := numbered
  · omega
  · decide
  · decide
  · decide
  · omega
  · omega

theorem readNumbered_fourDigits {c : Char} (low : c.toNat < 0xD800) (rest : List Char) :
    readNumbered (fourDigits c.toNat ++ rest) = some (c, rest) := by
  have small : c.toNat < 65536 := by omega
  simp only [readNumbered, readFourDigits_fourDigits small, Option.map_some, if_pos (Or.inl low),
    Char.ofNat_toNat]

theorem unescape_letter :
    ∀ pair ∈ letters, pair.2 ≠ 'u' ∧ unescape pair.2 = some pair.1 := by
  decide

/-- A written character is read back. -/
theorem readChar_escape (c : Char) (rest : List Char) :
    readChar (escape c ++ rest) = some (c, rest) := by
  unfold escape
  cases found : letters.lookup c with
  | some letter =>
    have member : (c, letter) ∈ letters := by
      obtain ⟨before, after, split, _⟩ := List.lookup_eq_some_iff.mp found
      rw [split]
      exact List.mem_append_right before List.mem_cons_self
    obtain ⟨notNumbered, unescaped⟩ := unescape_letter (c, letter) member
    show readEscape (letter :: rest) = _
    rw [readEscape, if_neg notNumbered, unescaped]
    rfl
  | none =>
    by_cases numbered : isNumbered c = true
    · show readChar ((if isNumbered c then '\\' :: 'u' :: fourDigits c.toNat else [c]) ++ rest) = _
      rw [if_pos numbered]
      exact readNumbered_fourDigits (toNat_lt_of_isNumbered numbered) rest
    · have notBackslash : c ≠ '\\' := by
        rintro rfl
        exact absurd found (by decide)
      have notControl : ¬ isControl c = true := fun control =>
        numbered (by simp only [isNumbered, control, Bool.true_or])
      show readChar ((if isNumbered c then '\\' :: 'u' :: fourDigits c.toNat else [c]) ++ rest) = _
      rw [if_neg numbered]
      show (if c = '\\' then readEscape rest else if isControl c then none else some (c, rest)) = _
      rw [if_neg notBackslash, if_neg notControl]

theorem head_escape (c : Char) (rest : List Char) : (escape c ++ rest).head? ≠ some '"' := by
  intro quote
  have read := readChar_escape c rest
  cases written : escape c ++ rest with
  | nil =>
    rw [written] at quote
    exact absurd quote (Option.some_ne_none '"').symm
  | cons first more =>
    rw [written] at quote read
    obtain rfl := Option.some.inj quote
    obtain rfl : '"' = c := congrArg Prod.fst (Option.some.inj read)
    exact absurd (List.cons.inj written).1 (by decide)

/-! ### Texts -/

def writeString (s : String) : List Char := '"' :: (s.toList.flatMap escape ++ ['"'])

/-- The characters up to the quote that ends the text. -/
def readChars : Nat → List Char → Option (List Char × List Char)
  | 0, _ => none
  | fuel + 1, text =>
    if text.head? = some '"' then some ([], text.tail)
    else
      (readChar text).bind fun (c, rest) =>
        (readChars fuel rest).map fun (more, after) => (c :: more, after)

def readString : List Char → Option (String × List Char)
  | [] => none
  | c :: rest =>
    if c = '"' then
      (readChars (rest.length + 1) rest).map fun (chars, after) => (String.ofList chars, after)
    else none

theorem readChars_escape (chars : List Char) : ∀ (fuel : Nat) (rest : List Char),
    chars.length < fuel →
      readChars fuel (chars.flatMap escape ++ '"' :: rest) = some (chars, rest) := by
  induction chars with
  | nil =>
    intro fuel rest enough
    obtain ⟨fuel, rfl⟩ := Nat.exists_eq_succ_of_ne_zero (Nat.ne_zero_of_lt enough)
    rfl
  | cons c chars inductionHypothesis =>
    intro fuel rest enough
    obtain ⟨fuel, rfl⟩ := Nat.exists_eq_succ_of_ne_zero (Nat.ne_zero_of_lt enough)
    rw [List.length_cons, Nat.succ_lt_succ_iff] at enough
    rw [List.flatMap_cons, List.append_assoc, readChars, if_neg (head_escape c _),
      readChar_escape, Option.bind_some]
    show Option.map _ (readChars fuel _) = _
    rw [inductionHypothesis fuel rest enough]
    rfl

theorem length_le_flatMap_escape (chars : List Char) :
    chars.length ≤ (chars.flatMap escape).length := by
  induction chars with
  | nil => exact Nat.le_refl 0
  | cons c chars inductionHypothesis =>
    have nonempty : escape c ≠ [] := by
      intro empty
      have read := readChar_escape c []
      rw [empty] at read
      exact absurd read (Option.some_ne_none _).symm
    have positive := List.length_pos_iff.mpr nonempty
    rw [List.flatMap_cons, List.length_append, List.length_cons]
    omega

theorem readString_writeString (s : String) (rest : List Char) :
    readString (writeString s ++ rest) = some (s, rest) := by
  have enough : s.toList.length <
      (s.toList.flatMap escape ++ '"' :: rest).length + 1 := by
    have written := length_le_flatMap_escape s.toList
    rw [List.length_append]
    omega
  rw [writeString, List.cons_append, List.append_assoc, List.singleton_append, readString,
    if_pos rfl, readChars_escape _ _ rest enough, Option.map_some]
  show some (String.ofList s.toList, rest) = _
  rw [String.ofList_toList]

/-! ### Numbers -/

def writeNumber (value : Int) : List Char :=
  match value with
  | .ofNat n => Nat.toDigits 10 n
  | .negSucc n => '-' :: Nat.toDigits 10 (n + 1)

/-- The whole number in front; it has no zeros in front of it, no point and no exponent. -/
def readDigits (text : List Char) : Option (Nat × List Char) :=
  let digits := text.takeWhile Char.isDigit
  let rest := text.dropWhile Char.isDigit
  if digits = [] ∨ digits.head? = some '0' ∧ digits.length ≠ 1 ∨
      rest.head? ∈ [some '.', some 'e', some 'E'] then none
  else some (Nat.ofDigitChars 10 digits 0, rest)

def readNumber : List Char → Option (Int × List Char)
  | [] => none
  | c :: rest =>
    if c = '-' then (readDigits rest).map fun (n, after) => (-(n : Int), after)
    else (readDigits (c :: rest)).map fun (n, after) => ((n : Int), after)

/-- The text after a member: another member or the end of the object. -/
def Delimited (rest : List Char) : Prop := rest.head? = some ',' ∨ rest.head? = some '\x7d'

theorem head_toDigits {n : Nat} (positive : 0 < n) : (Nat.toDigits 10 n).head? ≠ some '0' := by
  induction n using Nat.strongRecOn with
  | ind n inductionHypothesis =>
    by_cases small : n < 10
    · rw [Nat.toDigits_of_lt_base small, List.head?_cons]
      intro zero
      have digit : n = 0 := Nat.digitChar_eq_zero.mp (Option.some.inj zero)
      omega
    · rw [Nat.toDigits_of_base_le (by decide) (Nat.le_of_not_lt small),
        List.head?_append_of_ne_nil _ Nat.toDigits_ne_nil]
      exact inductionHypothesis (n / 10) (by omega) (by omega)

variable {rest : List Char}

theorem readDigits_toDigits (n : Nat) (delimited : Delimited rest) :
    readDigits (Nat.toDigits 10 n ++ rest) = some (n, rest) := by
  have stops : rest.takeWhile Char.isDigit = [] ∧ rest.dropWhile Char.isDigit = rest ∧
      rest.head? ∉ [some '.', some 'e', some 'E'] := by
    obtain comma | brace := delimited
    · obtain ⟨more, rfl⟩ := List.head?_eq_some_iff.mp comma
      exact ⟨rfl, rfl, by rw [List.head?_cons]; decide⟩
    · obtain ⟨more, rfl⟩ := List.head?_eq_some_iff.mp brace
      exact ⟨rfl, rfl, by rw [List.head?_cons]; decide⟩
  obtain ⟨noDigits, untouched, noPoint⟩ := stops
  have digits : ∀ c ∈ Nat.toDigits 10 n, c.isDigit = true :=
    fun c member => Nat.isDigit_of_mem_toDigits (by decide) (by decide) member
  have front : (Nat.toDigits 10 n ++ rest).takeWhile Char.isDigit = Nat.toDigits 10 n := by
    rw [List.takeWhile_append_of_pos digits, noDigits, List.append_nil]
  have back : (Nat.toDigits 10 n ++ rest).dropWhile Char.isDigit = rest := by
    rw [List.dropWhile_append_of_pos digits, untouched]
  have plain : ¬ (Nat.toDigits 10 n = [] ∨
      (Nat.toDigits 10 n).head? = some '0' ∧ (Nat.toDigits 10 n).length ≠ 1 ∨
      rest.head? ∈ [some '.', some 'e', some 'E']) := by
    rintro (none | ⟨zero, long⟩ | point)
    · exact Nat.toDigits_ne_nil none
    · by_cases positive : 0 < n
      · exact head_toDigits positive zero
      · obtain rfl : n = 0 := by omega
        exact long rfl
    · exact noPoint point
  unfold readDigits
  dsimp only
  rw [front, back, if_neg plain, Nat.ofDigitChars_ten_toDigits]

theorem readNumber_writeNumber (value : Int) (delimited : Delimited rest) :
    readNumber (writeNumber value ++ rest) = some (value, rest) := by
  cases value with
  | ofNat n =>
    have read := readDigits_toDigits n delimited
    show readNumber (Nat.toDigits 10 n ++ rest) = _
    cases written : Nat.toDigits 10 n with
    | nil => exact absurd written Nat.toDigits_ne_nil
    | cons c more =>
      have digit : c.isDigit = true := Nat.isDigit_of_mem_toDigits (b := 10) (n := n) (by decide)
        (by decide) (written ▸ List.mem_cons_self)
      have unsigned : c ≠ '-' := by
        rintro rfl
        exact absurd digit (by decide)
      rw [written] at read
      rw [List.cons_append] at read ⊢
      rw [readNumber, if_neg unsigned, read]
      rfl
  | negSucc n =>
    show Option.map _ (readDigits (Nat.toDigits 10 (n + 1) ++ rest)) = _
    rw [readDigits_toDigits (n + 1) delimited]
    rfl

/-! ### Objects -/

def writeValue (value : Value) : List Char :=
  match value with
  | .text chars => writeString chars
  | .number n => writeNumber n

def writeMember (member : String × Value) : List Char :=
  writeString member.1 ++ ':' :: writeValue member.2

/-- The members after the first, and the end of the object. -/
def writeRest : Object → List Char
  | [] => ['\x7d']
  | member :: more => ',' :: (writeMember member ++ writeRest more)

def write : Object → List Char
  | [] => ['\x7b', '\x7d']
  | member :: more => '\x7b' :: (writeMember member ++ writeRest more)

def skipBlanks (text : List Char) : List Char :=
  text.dropWhile fun c => c = ' ' || c = '\t' || c = '\n' || c = '\r'

/-- The text after a character that has to come next. -/
def expect (c : Char) (text : List Char) : Option (List Char) :=
  if (skipBlanks text).head? = some c then some (skipBlanks text).tail else none

def readValue (text : List Char) : Option (Value × List Char) :=
  if text.head? = some '"' then
    (readString text).map fun (chars, rest) => (Value.text chars, rest)
  else (readNumber text).map fun (n, rest) => (Value.number n, rest)

def readMember (text : List Char) : Option ((String × Value) × List Char) :=
  (readString (skipBlanks text)).bind fun (name, rest) =>
    (expect ':' rest).bind fun rest =>
      (readValue (skipBlanks rest)).map fun (value, rest) => ((name, value), rest)

/-- The members up to the end of the object. -/
def readRest : Nat → List Char → Option (Object × List Char)
  | 0, _ => none
  | fuel + 1, text =>
    if (skipBlanks text).head? = some '\x7d' then some ([], (skipBlanks text).tail)
    else
      (expect ',' text).bind fun text =>
        (readMember text).bind fun (member, rest) =>
          (readRest fuel rest).map fun (more, after) => (member :: more, after)

def readMembers (text : List Char) : Option (Object × List Char) :=
  if (skipBlanks text).head? = some '\x7d' then some ([], (skipBlanks text).tail)
  else
    (readMember text).bind fun (member, rest) =>
      (readRest (rest.length + 1) rest).map fun (more, after) => (member :: more, after)

/-- Read a text that is an object. -/
def read (text : List Char) : Option Object :=
  ((expect '\x7b' text).bind readMembers).bind fun (object, after) =>
    if skipBlanks after = [] then some object else none

theorem skipBlanks_of_ne {c : Char} (rest : List Char)
    (blank : (c = ' ' || c = '\t' || c = '\n' || c = '\r') = false) :
    skipBlanks (c :: rest) = c :: rest := by
  rw [skipBlanks, List.dropWhile_cons, blank]
  rfl

theorem readValue_writeValue (value : Value) (delimited : Delimited rest) :
    readValue (skipBlanks (writeValue value ++ rest)) = some (value, rest) := by
  cases value with
  | text chars =>
    show Option.map _ (readString (writeString chars ++ rest)) = _
    rw [readString_writeString]
    rfl
  | number n =>
    have starts : ∃ c more, writeNumber n = c :: more ∧ (c = '-' ∨ c.isDigit = true) := by
      cases n with
      | ofNat n =>
        obtain ⟨c, more, written⟩ :=
          List.exists_cons_of_ne_nil (Nat.toDigits_ne_nil (n := n) (b := 10))
        exact ⟨c, more, written, .inr (Nat.isDigit_of_mem_toDigits (b := 10) (n := n) (by decide)
          (by decide) (written ▸ List.mem_cons_self))⟩
      | negSucc n => exact ⟨'-', _, rfl, .inl rfl⟩
    obtain ⟨c, more, written, first⟩ := starts
    have notBlank : (c = ' ' || c = '\t' || c = '\n' || c = '\r') = false := by
      refine Bool.eq_false_iff.mpr fun blank => ?_
      simp only [Bool.or_eq_true, decide_eq_true_eq] at blank
      obtain ((rfl | rfl) | rfl) | rfl := blank <;> exact absurd first (by decide)
    have notQuote : (c :: (more ++ rest)).head? ≠ some '"' := by
      rw [List.head?_cons]
      intro quote
      obtain rfl := Option.some.inj quote
      exact absurd first (by decide)
    have read := readNumber_writeNumber n delimited
    show readValue (skipBlanks (writeNumber n ++ rest)) = _
    rw [written, List.cons_append] at read ⊢
    rw [skipBlanks_of_ne _ notBlank, readValue, if_neg notQuote, read]
    rfl

theorem readMember_writeMember (member : String × Value) (delimited : Delimited rest) :
    readMember (writeMember member ++ rest) = some (member, rest) := by
  obtain ⟨name, value⟩ := member
  rw [writeMember, List.append_assoc, List.cons_append]
  show (readString (writeString name ++ _)).bind _ = _
  rw [readString_writeString, Option.bind_some]
  show (readValue (skipBlanks (writeValue value ++ rest))).map _ = _
  rw [readValue_writeValue value delimited]
  rfl

theorem delimited_writeRest (object : Object) (rest : List Char) :
    Delimited (writeRest object ++ rest) := by
  cases object with
  | nil => exact .inr rfl
  | cons member more => exact .inl rfl

theorem readRest_writeRest (object : Object) : ∀ fuel : Nat, object.length < fuel →
    readRest fuel (writeRest object) = some (object, []) := by
  induction object with
  | nil =>
    intro fuel enough
    obtain ⟨fuel, rfl⟩ := Nat.exists_eq_succ_of_ne_zero (Nat.ne_zero_of_lt enough)
    rfl
  | cons member more inductionHypothesis =>
    intro fuel enough
    obtain ⟨fuel, rfl⟩ := Nat.exists_eq_succ_of_ne_zero (Nat.ne_zero_of_lt enough)
    rw [List.length_cons, Nat.succ_lt_succ_iff] at enough
    show (readMember (writeMember member ++ writeRest more)).bind _ = _
    have delimited := delimited_writeRest more []
    rw [List.append_nil] at delimited
    rw [readMember_writeMember member delimited, Option.bind_some]
    show Option.map _ (readRest fuel (writeRest more)) = _
    rw [inductionHypothesis fuel enough]
    rfl

theorem length_le_writeRest (object : Object) : object.length ≤ (writeRest object).length := by
  induction object with
  | nil => exact Nat.zero_le _
  | cons member more inductionHypothesis =>
    rw [writeRest, List.length_cons, List.length_cons, List.length_append]
    omega

/-- What was written is read back. -/
theorem read_write (object : Object) : read (write object) = some object := by
  cases object with
  | nil => rfl
  | cons member more =>
    have delimited := delimited_writeRest more []
    rw [List.append_nil] at delimited
    have enough : more.length < (writeRest more).length + 1 :=
      Nat.lt_succ_of_le (length_le_writeRest more)
    have members :
        readMembers (writeMember member ++ writeRest more) = some (member :: more, []) := by
      show (readMember (writeMember member ++ writeRest more)).bind _ = _
      rw [readMember_writeMember member delimited, Option.bind_some]
      show Option.map _ (readRest ((writeRest more).length + 1) (writeRest more)) = _
      rw [readRest_writeRest more _ enough]
      rfl
    show (readMembers (writeMember member ++ writeRest more)).bind _ = _
    rw [members]
    rfl

end FlatJson
