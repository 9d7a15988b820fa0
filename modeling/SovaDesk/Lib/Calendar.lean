/-
This file is a small library of calendar dates and of times written as text.

A day is a number of days since 1 January of the year 1 in the Gregorian calendar, which
is extended to all years. Its date is found from the outside in: the cycle of 400 years,
the century, the leap cycle, the year, the month. A time is written to the second as a
date and a time of day, and read back from either of two layouts, the written one and the
one of the internet with a `T` and a zone. Reading a written time gives it back exactly
when its year has four digits.
-/

import Mathlib.Algebra.Ring.Int.Defs
import Mathlib.Algebra.Ring.Nat
import Mathlib.Data.Nat.Init
import Mathlib.Data.Int.Init

namespace Calendar

/-! ### Dates -/

def isLeap (year : Int) : Bool := year % 4 == 0 && (year % 100 != 0 || year % 400 == 0)

def monthLengths (leap : Bool) : List Nat :=
  [31, if leap then 29 else 28, 31, 30, 31, 30, 31, 31, 30, 31, 30, 31]

/-- A date; months and days count from 1. -/
structure Date where
  year : Int
  month : Nat
  day : Nat
  deriving DecidableEq

/-- The days before 1 January of a year. -/
def daysBeforeYear (year : Int) : Int :=
  365 * (year - 1) + (year - 1) / 4 - (year - 1) / 100 + (year - 1) / 400

namespace Date

def Valid (date : Date) : Prop :=
  1 ≤ date.month ∧ date.month ≤ 12 ∧ 1 ≤ date.day ∧
    date.day ≤ (monthLengths (isLeap date.year)).getD (date.month - 1) 0

instance (date : Date) : Decidable date.Valid := inferInstanceAs (Decidable (_ ∧ _ ∧ _ ∧ _))

/-- The number of a date's day. -/
def toDays (date : Date) : Int :=
  daysBeforeYear date.year +
    (((monthLengths (isLeap date.year)).take (date.month - 1)).sum + (date.day - 1) : Nat)

end Date

/-- The month of a day of the year and the day in it, both from 0, by the lengths of the months. -/
def monthOf : List Nat → Nat → Nat × Nat
  | [], day => (0, day)
  | length :: lengths, day =>
    if day < length then (0, day)
    else ((monthOf lengths (day - length)).1 + 1, (monthOf lengths (day - length)).2)

/-- The year of a day and the day in that year, from 0. -/
def yearOf (days : Int) : Int × Int :=
  let inCycle := days % 146097
  let century := min (inCycle / 36524) 3
  let inCentury := inCycle - 36524 * century
  let four := inCentury / 1461
  let inFour := inCentury % 1461
  let one := min (inFour / 365) 3
  (400 * (days / 146097) + 100 * century + 4 * four + one + 1, inFour - 365 * one)

/-- The date of a day. -/
def Date.ofDays (days : Int) : Date :=
  let lengths := monthLengths (isLeap (yearOf days).1)
  { year := (yearOf days).1
    month := (monthOf lengths (yearOf days).2.toNat).1 + 1
    day := (monthOf lengths (yearOf days).2.toNat).2 + 1 }

/-! ### The date of a day -/

/-- Where a day lies in its cycle; the last day of a leap cycle is in its fourth year, and in the
last leap cycle of a century only if the century is the fourth. -/
theorem yearOf_parts (days : Int) : ∃ century four one : Int,
    0 ≤ century ∧ century ≤ 3 ∧ 0 ≤ four ∧ four ≤ 24 ∧ 0 ≤ one ∧ one ≤ 3 ∧
      (yearOf days).1 = 400 * (days / 146097) + 100 * century + 4 * four + one + 1 ∧
      (yearOf days).2 = days % 146097 - 36524 * century - 1461 * four - 365 * one ∧
      0 ≤ (yearOf days).2 ∧
      ((yearOf days).2 < 365 ∨
        ((yearOf days).2 = 365 ∧ one = 3 ∧ (four = 24 → century = 3))) := by
  have inCycle : 0 ≤ days % 146097 ∧ days % 146097 < 146097 := by omega
  unfold yearOf
  dsimp only
  generalize days % 146097 = rest at inCycle ⊢
  obtain ⟨century, isCentury⟩ : ∃ century, min (rest / 36524) 3 = century := ⟨_, rfl⟩
  rw [isCentury]
  have bounds : 0 ≤ century ∧ century ≤ 3 ∧ 0 ≤ rest - 36524 * century ∧
      (century < 3 → rest - 36524 * century < 36524) ∧ rest - 36524 * century ≤ 36524 := by
    omega
  generalize inCentury : rest - 36524 * century = inYears at bounds ⊢
  obtain ⟨one, isOne⟩ : ∃ one, min (inYears % 1461 / 365) 3 = one := ⟨_, rfl⟩
  rw [isOne]
  refine ⟨century, inYears / 1461, one, ?_⟩
  omega

/-- A year's first day and the day in the year. -/
theorem daysBeforeYear_yearOf (days : Int) :
    daysBeforeYear (yearOf days).1 + (yearOf days).2 = days := by
  obtain ⟨century, four, one, _, _, _, _, _, _, year, yearDay, _⟩ := yearOf_parts days
  rw [year, yearDay]
  have before : 400 * (days / 146097) + 100 * century + 4 * four + one + 1 - 1 =
      400 * (days / 146097) + 100 * century + 4 * four + one := by omega
  have fours : (400 * (days / 146097) + 100 * century + 4 * four + one) / 4 =
      100 * (days / 146097) + 25 * century + four := by omega
  have centuries : (400 * (days / 146097) + 100 * century + 4 * four + one) / 100 =
      4 * (days / 146097) + century := by omega
  have cycles : (400 * (days / 146097) + 100 * century + 4 * four + one) / 400 =
      days / 146097 := by omega
  unfold daysBeforeYear
  rw [before, fours, centuries, cycles]
  omega

/-- The fourth year of a leap cycle is a leap year, unless the century ends with it; then the fourth
century does. -/
theorem isLeap_fourth {cycle century four : Int} (fourNonneg : 0 ≤ four) (fourLe : four ≤ 24)
    (full : four = 24 → century = 3) :
    isLeap (400 * cycle + 100 * century + 4 * four + 3 + 1) = true := by
  unfold isLeap
  simp only [Bool.and_eq_true, Bool.or_eq_true, beq_iff_eq, bne_iff_ne]
  refine ⟨by omega, ?_⟩
  by_cases last : four = 24
  · obtain rfl := full last
    exact .inr (by omega)
  · exact .inl (by omega)

/-- A year has 365 days, or 366 in a leap year. -/
theorem yearOf_bounds (days : Int) :
    0 ≤ (yearOf days).2 ∧
      ((yearOf days).2 < 365 ∨ ((yearOf days).2 = 365 ∧ isLeap (yearOf days).1 = true)) := by
  obtain ⟨century, four, one, _, _, fourNonneg, fourLe, _, _, year, _, nonneg,
    short | ⟨last, three, full⟩⟩ := yearOf_parts days
  · exact ⟨nonneg, .inl short⟩
  · refine ⟨nonneg, .inr ⟨last, ?_⟩⟩
    rw [year, three]
    exact isLeap_fourth fourNonneg fourLe full

theorem monthOf_spec {lengths : List Nat} {day : Nat} (within : day < lengths.sum) :
    (monthOf lengths day).1 < lengths.length ∧
      (monthOf lengths day).2 < lengths.getD (monthOf lengths day).1 0 ∧
      (lengths.take (monthOf lengths day).1).sum + (monthOf lengths day).2 = day := by
  induction lengths generalizing day with
  | nil => exact absurd within (Nat.not_lt_zero _)
  | cons length lengths inductionHypothesis =>
    unfold monthOf
    split
    · next first => exact ⟨Nat.succ_pos _, first, by simp⟩
    · next later =>
      rw [List.sum_cons] at within
      have remains : day - length < lengths.sum := by omega
      obtain ⟨month, inMonth, together⟩ := inductionHypothesis remains
      refine ⟨Nat.succ_lt_succ month, ?_, ?_⟩
      · rw [List.getD_cons_succ]
        exact inMonth
      · rw [List.take_succ_cons, List.sum_cons]
        omega

theorem sum_monthLengths (leap : Bool) :
    (monthLengths leap).sum = if leap then 366 else 365 := by
  cases leap <;> rfl

theorem yearDay_lt (days : Int) :
    (yearOf days).2.toNat < (monthLengths (isLeap (yearOf days).1)).sum := by
  obtain ⟨nonneg, common | ⟨last, leap⟩⟩ := yearOf_bounds days
  · rw [sum_monthLengths]
    split <;> omega
  · rw [sum_monthLengths, if_pos leap]
    omega

theorem ofDays_valid (days : Int) : (Date.ofDays days).Valid := by
  obtain ⟨month, day, _⟩ := monthOf_spec (yearDay_lt days)
  have twelve : (monthLengths (isLeap (yearOf days).1)).length = 12 := rfl
  refine ⟨Nat.succ_pos _, ?_, Nat.succ_pos _, ?_⟩
  · rw [twelve] at month
    exact month
  · exact day

theorem toDays_ofDays (days : Int) : (Date.ofDays days).toDays = days := by
  obtain ⟨_, _, together⟩ := monthOf_spec (yearDay_lt days)
  have year := daysBeforeYear_yearOf days
  have nonneg := (yearOf_bounds days).1
  unfold Date.toDays Date.ofDays
  dsimp only
  rw [Nat.add_sub_cancel, Nat.add_sub_cancel, together, Int.toNat_of_nonneg nonneg]
  exact year

/-! ### Times as text -/

def digit (number : Nat) : Char := Nat.digitChar (number % 10)

def twoDigits (number : Nat) : List Char := [digit (number / 10), digit number]

/-- A year with at least four digits. -/
def yearText (year : Int) : List Char :=
  (if year < 0 then ['-'] else []) ++
    if year.natAbs < 10000 then
      twoDigits (year.natAbs / 100) ++ twoDigits year.natAbs
    else Nat.toDigits 10 year.natAbs

/-- The day from which seconds are counted, 1 January 1970. -/
def unixDay : Int := 719162

def dateOf (seconds : Int) : Date := Date.ofDays (seconds / 86400 + unixDay)

/-- A time in the layout `2006-01-02 15:04:05`. -/
def formatDateTime (seconds : Int) : List Char :=
  let time := (seconds % 86400).toNat
  yearText (dateOf seconds).year ++ '-' :: (twoDigits (dateOf seconds).month ++ '-' ::
    (twoDigits (dateOf seconds).day ++ ' ' :: (twoDigits (time / 3600) ++ ':' ::
      (twoDigits (time / 60 % 60) ++ ':' :: twoDigits (time % 60)))))

/-- The same layout with another separator between the date and the time of day. -/
def dateTimeText (separator : Char) (seconds : Int) : List Char :=
  let time := (seconds % 86400).toNat
  yearText (dateOf seconds).year ++ '-' :: (twoDigits (dateOf seconds).month ++ '-' ::
    (twoDigits (dateOf seconds).day ++ separator :: (twoDigits (time / 3600) ++ ':' ::
      (twoDigits (time / 60 % 60) ++ ':' :: twoDigits (time % 60)))))

/-- A time in the layout of the internet, `2006-01-02T15:04:05Z07:00`, in a zone that is ahead by
some seconds. Only whole minutes of the zone are written. -/
def zoneText (ahead : Int) : List Char :=
  if ahead = 0 then ['Z']
  else
    let minutes := (ahead.tdiv 60).natAbs
    (if ahead.tdiv 60 < 0 then '-' else '+') ::
      ((if minutes / 60 < 100 then twoDigits (minutes / 60) else Nat.toDigits 10 (minutes / 60)) ++
        ':' :: twoDigits (minutes % 60))

def formatRFC3339 (seconds ahead : Int) : List Char :=
  dateTimeText 'T' (seconds + ahead) ++ zoneText ahead

def numberOf (digits : List Char) : Nat :=
  digits.foldl (fun value digit => 10 * value + (digit.toNat - 48)) 0

/-- Read a number of that many digits. -/
def fixedNumber (count : Nat) (text : List Char) : Option (Nat × List Char) :=
  if count ≤ text.length ∧ (text.take count).all (·.isDigit) then
    some (numberOf (text.take count), text.drop count)
  else none

/-- Read a number of two digits or, where there are not two, of one. -/
def shortNumber (text : List Char) : Option (Nat × List Char) :=
  (fixedNumber 2 text).or (fixedNumber 1 text)

def expect (c : Char) : List Char → Option (List Char)
  | [] => none
  | first :: rest => if first = c then some rest else none

/-- The nanoseconds of a fraction after the seconds, which may be missing. -/
def fraction : List Char → Nat × List Char
  | [] => (0, [])
  | first :: rest =>
    if (first = '.' ∨ first = ',') ∧ rest.head?.any (·.isDigit) then
      let digits := (rest.takeWhile (·.isDigit)).take 9
      (numberOf digits * 10 ^ (9 - digits.length), rest.dropWhile (·.isDigit))
    else (0, first :: rest)

/-- Read a date and a time of day with a separator between them, as nanoseconds since 1970. -/
def parseDateTime (separator : Char) (text : List Char) : Option (Int × List Char) := do
  let (year, text) ← fixedNumber 4 text
  let text ← expect '-' text
  let (month, text) ← fixedNumber 2 text
  let text ← expect '-' text
  let (day, text) ← fixedNumber 2 text
  let text ← expect separator text
  let (hour, text) ← shortNumber text
  let text ← expect ':' text
  let (minute, text) ← fixedNumber 2 text
  let text ← expect ':' text
  let (second, text) ← fixedNumber 2 text
  let date : Date := ⟨year, month, day⟩
  if date.Valid ∧ hour < 24 ∧ minute < 60 ∧ second < 60 then
    some ((86400 * (date.toDays - unixDay) + (3600 * hour + 60 * minute + second : Nat)) *
      1000000000 + (fraction text).1, (fraction text).2)
  else none

/-- The seconds by which a zone is ahead. -/
def parseZone : List Char → Option Int
  | [] => none
  | 'Z' :: rest => if rest = [] then some 0 else none
  | sign :: text => do
    let (hours, text) ← fixedNumber 2 text
    let text ← expect ':' text
    let (minutes, text) ← fixedNumber 2 text
    if (sign = '+' ∨ sign = '-') ∧ hours ≤ 24 ∧ minutes ≤ 60 ∧ text = [] then
      some (if sign = '-' then -(60 * (60 * hours + minutes) : Nat)
        else (60 * (60 * hours + minutes) : Nat))
    else none

/-- Read a time from the layout `2006-01-02 15:04:05` or, failing that, from
`2006-01-02T15:04:05Z07:00`. -/
def parseTime (text : List Char) : Option Int :=
  ((parseDateTime ' ' text).bind fun (time, rest) => if rest = [] then some time else none).or
    ((parseDateTime 'T' text).bind fun (time, rest) =>
      (parseZone rest).map fun ahead => time - 1000000000 * ahead)

/-! ### Reading a written time -/

theorem isDigit_digit (number : Nat) : (digit number).isDigit = true :=
  Nat.isDigit_digitChar.trans (decide_eq_true (Nat.mod_lt _ (by decide)))

theorem toNat_digit (number : Nat) : (digit number).toNat - 48 = number % 10 :=
  Nat.toNat_digitChar_sub_48_of_lt_ten (Nat.mod_lt _ (by decide))

theorem fixedNumber_append {count : Nat} {digits : List Char} (length : digits.length = count)
    (all : digits.all (·.isDigit) = true) (rest : List Char) :
    fixedNumber count (digits ++ rest) = some (numberOf digits, rest) := by
  subst length
  unfold fixedNumber
  rw [List.take_left, List.drop_left, if_pos]
  exact ⟨by rw [List.length_append]; exact Nat.le_add_right _ _, all⟩

variable {number : Nat}

theorem numberOf_twoDigits (small : number < 100) :
    numberOf (twoDigits number) = number := by
  unfold numberOf twoDigits
  simp only [List.foldl_cons, List.foldl_nil, toNat_digit]
  omega

theorem all_twoDigits (number : Nat) : (twoDigits number).all (·.isDigit) = true := by
  simp [twoDigits, isDigit_digit]

theorem fixedNumber_twoDigits (small : number < 100) (rest : List Char) :
    fixedNumber 2 (twoDigits number ++ rest) = some (number, rest) := by
  have length : (twoDigits number).length = 2 := rfl
  rw [fixedNumber_append length (all_twoDigits number), numberOf_twoDigits small]

theorem shortNumber_twoDigits (small : number < 100) (rest : List Char) :
    shortNumber (twoDigits number ++ rest) = some (number, rest) := by
  unfold shortNumber
  rw [fixedNumber_twoDigits small, Option.some_or]

theorem expect_cons (c : Char) (rest : List Char) : expect c (c :: rest) = some rest :=
  if_pos rfl

/-- A year of four digits is read back. -/
theorem fixedNumber_yearText {year : Int} (nonneg : 0 ≤ year) (small : year < 10000)
    (rest : List Char) : fixedNumber 4 (yearText year ++ rest) = some (year.toNat, rest) := by
  have text : yearText year = twoDigits (year.natAbs / 100) ++ twoDigits year.natAbs := by
    unfold yearText
    rw [if_neg (by omega), if_pos (by omega), List.nil_append]
  have value : numberOf (twoDigits (year.natAbs / 100) ++ twoDigits year.natAbs) = year.toNat := by
    unfold numberOf twoDigits
    simp only [List.cons_append, List.nil_append, List.foldl_cons, List.foldl_nil, toNat_digit]
    omega
  have length : (twoDigits (year.natAbs / 100) ++ twoDigits year.natAbs).length = 4 := rfl
  have all : (twoDigits (year.natAbs / 100) ++ twoDigits year.natAbs).all (·.isDigit) = true := by
    rw [List.all_append, all_twoDigits, all_twoDigits, Bool.and_self]
  rw [text, fixedNumber_append length all, value]

theorem day_le (leap : Bool) (month : Nat) : (monthLengths leap).getD month 0 ≤ 31 := by
  rw [List.getD_eq_getElem?_getD]
  cases found : (monthLengths leap)[month]? with
  | none => exact Nat.zero_le _
  | some length =>
    have all : ∀ length ∈ monthLengths leap, length ≤ 31 := by
      cases leap <;> decide
    exact all length (List.mem_of_getElem? found)

/-- The year of a time has four digits. -/
def FourDigitYear (seconds : Int) : Prop :=
  0 ≤ (dateOf seconds).year ∧ (dateOf seconds).year < 10000

instance (seconds : Int) : Decidable (FourDigitYear seconds) :=
  inferInstanceAs (Decidable (_ ∧ _))

/-- The month, the day and the parts of the time of a moment have two digits. -/
theorem parts_lt (seconds : Int) : (dateOf seconds).month < 100 ∧ (dateOf seconds).day < 100 := by
  obtain ⟨_, monthLe, _, dayLe⟩ := ofDays_valid (seconds / 86400 + unixDay)
  have day := day_le (isLeap (dateOf seconds).year) ((dateOf seconds).month - 1)
  unfold dateOf at day ⊢
  omega

variable {seconds : Int}

/-- A date and a time of day are read up to where a fraction would stand. -/
theorem parseDateTime_dateTimeText (fits : FourDigitYear seconds)
    (separator : Char) {rest : List Char} (whole : fraction rest = (0, rest)) :
    parseDateTime separator (dateTimeText separator seconds ++ rest) =
      some (1000000000 * seconds, rest) := by
  obtain ⟨month, day⟩ := parts_lt seconds
  have time : 0 ≤ seconds % 86400 ∧ seconds % 86400 < 86400 := by omega
  have date : (⟨((dateOf seconds).year.toNat : Int), (dateOf seconds).month,
      (dateOf seconds).day⟩ : Date) = dateOf seconds := by
    rw [Int.toNat_of_nonneg fits.1]
  have days : (dateOf seconds).toDays = seconds / 86400 + unixDay := toDays_ofDays _
  have valid : (dateOf seconds).Valid := ofDays_valid _
  unfold parseDateTime dateTimeText
  simp only [List.append_assoc, List.cons_append, Option.bind_eq_bind,
    fixedNumber_yearText fits.1 fits.2, Option.bind_some, expect_cons, fixedNumber_twoDigits month,
    fixedNumber_twoDigits day]
  rw [shortNumber_twoDigits (by omega)]
  simp only [Option.bind_some, expect_cons]
  rw [fixedNumber_twoDigits (by omega)]
  simp only [Option.bind_some, expect_cons]
  rw [fixedNumber_twoDigits (by omega)]
  simp only [Option.bind_some, date, days]
  rw [if_pos ⟨valid, by omega, by omega, by omega⟩]
  simp only [whole, Option.some.injEq, Prod.mk.injEq, and_true]
  omega

theorem parseDateTime_formatDateTime (fits : FourDigitYear seconds) :
    parseDateTime ' ' (formatDateTime seconds) = some (1000000000 * seconds, []) := by
  have read := parseDateTime_dateTimeText fits ' ' (show fraction [] = (0, []) from rfl)
  rwa [List.append_nil] at read

/-- A date that another separator follows is not read. -/
theorem parseDateTime_of_ne {separator other : Char} (different : separator ≠ other)
    (seconds : Int) (fits : FourDigitYear seconds) (rest : List Char) :
    parseDateTime separator (dateTimeText other seconds ++ rest) = none := by
  obtain ⟨month, day⟩ := parts_lt seconds
  have refused : ∀ text, expect separator (other :: text) = none :=
    fun text => if_neg different.symm
  unfold parseDateTime dateTimeText
  simp only [List.append_assoc, List.cons_append, Option.bind_eq_bind,
    fixedNumber_yearText fits.1 fits.2, Option.bind_some, expect_cons, fixedNumber_twoDigits month,
    fixedNumber_twoDigits day, refused, Option.bind_none]

/-- More digits than a reader takes before a separator leave it at a digit. -/
theorem expect_after_digits {count : Nat} {separator : Char} {digits : List Char}
    (notDigit : separator.isDigit = false) (longer : count < digits.length)
    (all : ∀ c ∈ digits, c.isDigit = true) (rest : List Char) :
    ((fixedNumber count (digits ++ rest)).bind fun read => expect separator read.2) = none := by
  have taken : ((digits.take count).all (·.isDigit)) = true :=
    List.all_eq_true.mpr fun c member => all c (List.mem_of_mem_take member)
  have length : (digits.take count).length = count := by
    rw [List.length_take]
    omega
  obtain ⟨c, others, left⟩ := List.exists_cons_of_ne_nil
    (List.ne_nil_of_length_pos (by rw [List.length_drop]; omega : 0 < (digits.drop count).length))
  have isDigit : c.isDigit = true :=
    all c (List.mem_of_mem_drop (left ▸ List.mem_cons_self))
  have text : digits ++ rest = digits.take count ++ (c :: (others ++ rest)) := by
    rw [← List.cons_append, ← left, ← List.append_assoc, List.take_append_drop]
  rw [text, fixedNumber_append length taken, Option.bind_some]
  refine if_neg ?_
  rintro rfl
  exact Bool.false_ne_true (notDigit.symm.trans isDigit)

/-- A year that has not four digits is not read. -/
theorem fixedNumber_yearText_of_not {year : Int} (unfit : ¬ (0 ≤ year ∧ year < 10000))
    (rest : List Char) :
    ((fixedNumber 4 (yearText year ++ rest)).bind fun read => expect '-' read.2) = none := by
  rcases Int.lt_or_le year 0 with negative | nonneg
  · have signed : ∃ others, yearText year ++ rest = '-' :: others := by
      unfold yearText
      rw [if_pos negative]
      exact ⟨_, rfl⟩
    obtain ⟨others, text⟩ := signed
    have refused : fixedNumber 4 ('-' :: others) = none := by
      refine if_neg fun ⟨_, digits⟩ => ?_
      rw [List.take_succ_cons, List.all_cons, Bool.and_eq_true] at digits
      exact absurd digits.1 (by decide)
    rw [text, refused]
    rfl
  · have large : 10000 ≤ year.natAbs := by omega
    have text : yearText year = Nat.toDigits 10 year.natAbs := by
      unfold yearText
      rw [if_neg (by omega), if_neg (by omega), List.nil_append]
    rw [text]
    refine expect_after_digits rfl ?_ (fun c member => Nat.isDigit_of_mem_toDigits (by decide)
      (by decide) member) rest
    refine Nat.lt_of_not_le fun short => ?_
    have := (Nat.length_toDigits_le_iff (by decide) (by decide)).mp short
    omega

theorem parseDateTime_dateTimeText_of_not (separator other : Char)
    (unfit : ¬ FourDigitYear seconds) (zone : List Char) :
    parseDateTime separator (dateTimeText other seconds ++ zone) = none := by
  obtain ⟨rest, text⟩ : ∃ rest,
      dateTimeText other seconds ++ zone = yearText (dateOf seconds).year ++ rest :=
    ⟨_, List.append_assoc _ _ _⟩
  have refused := fixedNumber_yearText_of_not unfit rest
  unfold parseDateTime
  rw [text]
  dsimp only [Option.bind_eq_bind]
  cases year : fixedNumber 4 (yearText (dateOf seconds).year ++ rest) with
  | none => rfl
  | some found =>
    rw [year, Option.bind_some] at refused
    rw [Option.bind_some, refused]
    rfl

theorem parseDateTime_of_not_fourDigitYear (separator : Char) (unfit : ¬ FourDigitYear seconds) :
    parseDateTime separator (formatDateTime seconds) = none := by
  have read := parseDateTime_dateTimeText_of_not separator ' ' unfit []
  rwa [List.append_nil] at read

/-- Reading a written time. -/
theorem parseTime_formatDateTime (seconds : Int) :
    parseTime (formatDateTime seconds) =
      if FourDigitYear seconds then some (1000000000 * seconds) else none := by
  unfold parseTime
  split
  · next fits =>
    rw [parseDateTime_formatDateTime fits]
    rfl
  · next unfit =>
    rw [parseDateTime_of_not_fourDigitYear ' ' unfit, parseDateTime_of_not_fourDigitYear 'T' unfit]
    rfl

end Calendar
