/-
This file adds to the library of calendar dates how written times are ordered, and how the layout of
the internet is read back.

Texts are compared character by character, as bytes are. Two dates with years of four digits are in
the order of their days. Where the dates are the same, what follows them decides, so a text with a
`T` behind the date comes after every text with a blank there.
-/

import Mathlib.Data.List.Basic
import Mathlib.Tactic.Tauto
import SovaDesk.Lib.Calendar

namespace Calendar

/-! ### The order of days -/

/-- The order of dates by year, month and day. -/
def Date.Before (first second : Date) : Prop :=
  first.year < second.year ∨ (first.year = second.year ∧
    (first.month < second.month ∨ (first.month = second.month ∧ first.day < second.day)))

theorem daysBeforeYear_succ (year : Int) : daysBeforeYear (year + 1) =
    daysBeforeYear year + if isLeap year then 366 else 365 := by
  unfold daysBeforeYear isLeap
  split
  · next leap =>
    simp only [Bool.and_eq_true, Bool.or_eq_true, beq_iff_eq, bne_iff_ne] at leap
    omega
  · next common =>
    simp only [Bool.and_eq_true, Bool.or_eq_true, beq_iff_eq, bne_iff_ne] at common
    omega

theorem daysBeforeYear_mono {first second : Int} (le : first ≤ second) :
    daysBeforeYear first ≤ daysBeforeYear second := by
  unfold daysBeforeYear
  omega

theorem sum_take_mono (leap : Bool) : ∀ first ≤ 12, ∀ second ≤ 12, first ≤ second →
    ((monthLengths leap).take first).sum ≤ ((monthLengths leap).take second).sum := by
  cases leap <;> decide

theorem sum_take_succ (leap : Bool) : ∀ month < 12, ((monthLengths leap).take (month + 1)).sum =
    ((monthLengths leap).take month).sum + (monthLengths leap).getD month 0 := by
  cases leap <;> decide

/-- A day comes before the first day of the next month. -/
theorem dayOfYear_lt {date : Date} (valid : date.Valid) :
    ((monthLengths (isLeap date.year)).take (date.month - 1)).sum + (date.day - 1) <
      ((monthLengths (isLeap date.year)).take date.month).sum := by
  obtain ⟨monthPositive, monthLe, dayPositive, dayLe⟩ := valid
  have next := sum_take_succ (isLeap date.year) (date.month - 1) (by omega)
  rw [Nat.sub_add_cancel monthPositive] at next
  omega

/-- A day comes before the first day of the next year. -/
theorem toDays_lt_nextYear {date : Date} (valid : date.Valid) :
    date.toDays < daysBeforeYear (date.year + 1) := by
  have inYear := dayOfYear_lt valid
  have months := sum_take_mono (isLeap date.year) date.month valid.2.1 12 le_rfl valid.2.1
  have whole : ((monthLengths (isLeap date.year)).take 12).sum =
      if isLeap date.year then 366 else 365 := sum_monthLengths _
  rw [daysBeforeYear_succ]
  unfold Date.toDays
  by_cases leap : isLeap date.year = true
  · rw [if_pos leap] at whole ⊢
    omega
  · rw [if_neg leap] at whole ⊢
    omega

theorem Date.Before.toDays_lt {first second : Date} (before : first.Before second)
    (firstValid : first.Valid) (secondValid : second.Valid) : first.toDays < second.toDays := by
  rcases before with year | ⟨year, month | ⟨month, day⟩⟩
  · have inYear := toDays_lt_nextYear firstValid
    have years := daysBeforeYear_mono (Int.add_one_le_of_lt year)
    have start : daysBeforeYear second.year ≤ second.toDays := by
      unfold Date.toDays
      omega
    omega
  · have inMonth := dayOfYear_lt firstValid
    have months := sum_take_mono (isLeap first.year) first.month firstValid.2.1
      (second.month - 1) (by have := secondValid.2.1; omega) (by omega)
    unfold Date.toDays
    rw [← year]
    omega
  · have positive := firstValid.2.2.1
    unfold Date.toDays
    rw [← year, ← month]
    omega

/-- The dates of two days are in the order of the days. -/
theorem before_ofDays_iff (first second : Int) :
    (Date.ofDays first).Before (Date.ofDays second) ↔ first < second := by
  constructor
  · intro before
    have days := before.toDays_lt (ofDays_valid first) (ofDays_valid second)
    rwa [toDays_ofDays, toDays_ofDays] at days
  · intro days
    by_contra notBefore
    have after : Date.ofDays first = Date.ofDays second ∨
        (Date.ofDays second).Before (Date.ofDays first) := by
      unfold Date.Before at notBefore ⊢
      rw [Date.mk.injEq]
      omega
    rcases after with same | after
    · have sameDay := congrArg Date.toDays same
      rw [toDays_ofDays, toDays_ofDays] at sameDay
      omega
    · have later := after.toDays_lt (ofDays_valid second) (ofDays_valid first)
      rw [toDays_ofDays, toDays_ofDays] at later
      omega

/-! ### The order of texts -/

/-- Two texts that begin with parts of the same length. -/
theorem append_lt_append_iff {first second : List Char} (same : first.length = second.length)
    (rest other : List Char) :
    first ++ rest < second ++ other ↔ first < second ∨ (first = second ∧ rest < other) := by
  induction first generalizing second with
  | nil =>
    obtain rfl := List.length_eq_zero_iff.mp same.symm
    simp
  | cons head tail inductionHypothesis =>
    obtain ⟨c, others, rfl⟩ := List.exists_cons_of_length_eq_add_one same.symm
    have lengths : tail.length = others.length := Nat.succ.inj same
    simp only [List.cons_append, List.cons_lt_cons_iff, inductionHypothesis lengths,
      List.cons.injEq]
    tauto

theorem digit_lt_digit_iff (first second : Nat) :
    digit first < digit second ↔ first % 10 < second % 10 := by
  have digits : ∀ a < 10, ∀ b < 10, Nat.digitChar a < Nat.digitChar b ↔ a < b := by decide
  exact digits _ (Nat.mod_lt _ (by decide)) _ (Nat.mod_lt _ (by decide))

theorem digit_eq_digit_iff (first second : Nat) :
    digit first = digit second ↔ first % 10 = second % 10 := by
  refine ⟨fun same => ?_, fun same => by rw [digit, same, digit]⟩
  rw [← toNat_digit first, same, toNat_digit]

theorem twoDigits_lt_iff {first second : Nat} (firstSmall : first < 100)
    (secondSmall : second < 100) : twoDigits first < twoDigits second ↔ first < second := by
  simp only [twoDigits, List.cons_lt_cons_iff, digit_lt_digit_iff, digit_eq_digit_iff,
    List.not_lt_nil, and_false, or_false]
  omega

theorem twoDigits_eq_iff {first second : Nat} (firstSmall : first < 100)
    (secondSmall : second < 100) : twoDigits first = twoDigits second ↔ first = second := by
  simp only [twoDigits, List.cons.injEq, digit_eq_digit_iff, and_true]
  omega

/-- A date with a year of four digits. -/
def dateText (date : Date) : List Char :=
  twoDigits (date.year.toNat / 100) ++ (twoDigits (date.year.toNat % 100) ++
    '-' :: (twoDigits date.month ++ '-' :: twoDigits date.day))

theorem length_dateText (date : Date) : (dateText date).length = 10 := rfl

theorem dateText_lt_iff {first second : Date} (firstYear : 0 ≤ first.year ∧ first.year < 10000)
    (secondYear : 0 ≤ second.year ∧ second.year < 10000)
    (firstParts : first.month < 100 ∧ first.day < 100)
    (secondParts : second.month < 100 ∧ second.day < 100) :
    dateText first < dateText second ↔ first.Before second := by
  have two : ∀ number other : Nat, (twoDigits number).length = (twoDigits other).length :=
    fun _ _ => rfl
  unfold dateText Date.Before
  rw [append_lt_append_iff (two _ _), append_lt_append_iff (two _ _), List.cons_lt_cons_self,
    append_lt_append_iff (two _ _), List.cons_lt_cons_self]
  rw [twoDigits_lt_iff (by omega) (by omega), twoDigits_lt_iff (by omega) (by omega),
    twoDigits_lt_iff (by omega) (by omega), twoDigits_lt_iff (by omega) (by omega),
    twoDigits_eq_iff (by omega) (by omega), twoDigits_eq_iff (by omega) (by omega),
    twoDigits_eq_iff (by omega) (by omega)]
  omega

/-- A written time begins with its date, the separator behind it. -/
theorem dateTimeText_eq {seconds : Int} (fits : FourDigitYear seconds) (separator : Char) :
    ∃ rest, dateTimeText separator seconds = dateText (dateOf seconds) ++ separator :: rest := by
  have year : yearText (dateOf seconds).year = twoDigits ((dateOf seconds).year.toNat / 100) ++
      twoDigits ((dateOf seconds).year.toNat % 100) := by
    have last : twoDigits ((dateOf seconds).year.toNat % 100) =
        twoDigits (dateOf seconds).year.toNat := by
      simp only [twoDigits, List.cons.injEq, digit_eq_digit_iff, and_true]
      omega
    have nonneg := fits.1
    have small := fits.2
    have same : (dateOf seconds).year.natAbs = (dateOf seconds).year.toNat := by omega
    rw [yearText, if_neg (by omega), if_pos (by omega), List.nil_append, last, same]
  refine ⟨twoDigits ((seconds % 86400).toNat / 3600) ++ ':' ::
    (twoDigits ((seconds % 86400).toNat / 60 % 60) ++
      ':' :: twoDigits ((seconds % 86400).toNat % 60)), ?_⟩
  simp only [dateTimeText, dateText, year, List.append_assoc, List.cons_append]

/-- A text with a `T` comes before one with a blank exactly when its day does. -/
theorem dateTimeText_lt_iff {first second : Int} (firstFits : FourDigitYear first)
    (secondFits : FourDigitYear second) (zone : List Char) :
    dateTimeText 'T' first ++ zone < dateTimeText ' ' second ↔
      first / 86400 < second / 86400 := by
  obtain ⟨rest, firstText⟩ := dateTimeText_eq firstFits 'T'
  obtain ⟨other, secondText⟩ := dateTimeText_eq secondFits ' '
  have blank : ¬ 'T' :: (rest ++ zone) < ' ' :: other := by
    rw [List.cons_lt_cons_iff]
    exact fun before => before.elim (by decide) fun same => absurd same.1 (by decide)
  rw [firstText, secondText, List.append_assoc, List.cons_append,
    append_lt_append_iff ((length_dateText _).trans (length_dateText _).symm)]
  simp only [blank, and_false, or_false]
  rw [dateText_lt_iff firstFits secondFits (parts_lt first) (parts_lt second)]
  rw [show dateOf first = Date.ofDays (first / 86400 + unixDay) from rfl,
    show dateOf second = Date.ofDays (second / 86400 + unixDay) from rfl, before_ofDays_iff]
  omega

/-- A text whose year has a sign comes before one whose year has four digits. -/
theorem lt_of_negative_year {first second : Int} (negative : (dateOf first).year < 0)
    (secondFits : FourDigitYear second) (separator other : Char) (zone : List Char) :
    dateTimeText separator first ++ zone < dateTimeText other second := by
  obtain ⟨rest, secondText⟩ := dateTimeText_eq secondFits other
  have signed : ∃ others, dateTimeText separator first ++ zone = '-' :: others := by
    rw [dateTimeText, yearText, if_pos negative]
    exact ⟨_, rfl⟩
  obtain ⟨others, firstText⟩ := signed
  have dash : ∀ number, '-' < digit number := by
    have digits : ∀ a < 10, '-' < Nat.digitChar a := by decide
    exact fun number => digits _ (Nat.mod_lt _ (by decide))
  rw [firstText, secondText]
  exact List.cons_lt_cons_iff.mpr (Or.inl (dash _))

/-- The first four digits of a year, as a number. -/
def leadingYear (year : Int) : Nat := numberOf ((yearText year).take 4)

theorem exists_of_length_four {text : List Char} (four : text.length = 4) :
    ∃ a b c d, text = [a, b, c, d] := by
  obtain ⟨a, rest, rfl⟩ := List.exists_cons_of_length_eq_add_one four
  obtain ⟨b, c, d, rfl⟩ := List.length_eq_three.mp (Nat.succ.inj four)
  exact ⟨a, b, c, d, rfl⟩

/-- Numbers of four digits are in the order of their texts. -/
theorem four_lt_iff {first second : List Char} (firstDigits : ∀ c ∈ first, c.isDigit = true)
    (secondDigits : ∀ c ∈ second, c.isDigit = true) (firstFour : first.length = 4)
    (secondFour : second.length = 4) : first < second ↔ numberOf first < numberOf second := by
  obtain ⟨a, b, c, d, rfl⟩ := exists_of_length_four firstFour
  obtain ⟨e, f, g, h, rfl⟩ := exists_of_length_four secondFour
  have order : ∀ x y : Char, x < y ↔ x.toNat < y.toNat := fun _ _ => Iff.rfl
  have same : ∀ x y : Char, x = y ↔ x.toNat = y.toNat := fun _ _ => Char.toNat_inj.symm
  have zero : '0'.toNat = 48 := rfl
  have nine : '9'.toNat = 57 := rfl
  simp only [List.mem_cons, List.not_mem_nil, or_false, forall_eq_or_imp, forall_eq,
    Char.isDigit_iff_toNat, zero, nine] at firstDigits secondDigits
  simp only [List.cons_lt_cons_iff, List.not_lt_nil, and_false, or_false, order, same, numberOf,
    List.foldl_cons, List.foldl_nil]
  omega

/-- A text whose year has more than four digits: the dash behind the other year comes before the
fifth digit. -/
theorem lt_of_long_year_iff {first second : Int} (long : 10000 ≤ (dateOf first).year)
    (secondFits : FourDigitYear second) (separator other : Char) (zone : List Char) :
    dateTimeText separator first ++ zone < dateTimeText other second ↔
      (leadingYear (dateOf first).year : Int) < (dateOf second).year := by
  obtain ⟨secondRest, secondText⟩ := dateTimeText_eq secondFits other
  have year : yearText (dateOf first).year = Nat.toDigits 10 (dateOf first).year.natAbs := by
    rw [yearText, if_neg (by omega), if_neg (by omega), List.nil_append]
  have allDigits : ∀ c ∈ yearText (dateOf first).year, c.isDigit = true := by
    rw [year]
    exact fun c member => Nat.isDigit_of_mem_toDigits (by decide) (by decide) member
  have longer : 4 < (yearText (dateOf first).year).length := by
    rw [year]
    refine Nat.lt_of_not_le fun few => ?_
    have bound := (Nat.length_toDigits_le_iff (by decide) (by decide)).mp few
    omega
  obtain ⟨c, others, left⟩ := List.exists_cons_of_ne_nil
    (List.ne_nil_of_length_pos (by rw [List.length_drop]; omega :
      0 < ((yearText (dateOf first).year).drop 4).length))
  have fifth : c.isDigit = true :=
    allDigits c (List.mem_of_mem_drop (left ▸ List.mem_cons_self))
  have cut : yearText (dateOf first).year =
      (yearText (dateOf first).year).take 4 ++ c :: others := by
    rw [← left, List.take_append_drop]
  have firstText : ∃ rest, dateTimeText separator first ++ zone =
      (yearText (dateOf first).year).take 4 ++ c :: rest := by
    refine ⟨others ++ ((dateTimeText separator first).drop
      (yearText (dateOf first).year).length ++ zone), ?_⟩
    rw [← List.cons_append, ← List.append_assoc, ← List.append_assoc, ← cut]
    refine congrArg (· ++ zone) ?_
    rw [dateTimeText, List.drop_left]
  obtain ⟨firstRest, firstText⟩ := firstText
  have four : ((yearText (dateOf first).year).take 4).length = 4 := by
    rw [List.length_take]
    omega
  have secondYear : numberOf (twoDigits ((dateOf second).year.toNat / 100) ++
      twoDigits ((dateOf second).year.toNat % 100)) = (dateOf second).year.toNat := by
    have small := secondFits.2
    simp only [numberOf, twoDigits, List.cons_append, List.nil_append, List.foldl_cons,
      List.foldl_nil, toNat_digit]
    omega
  have fifthLater : ¬ c < '-' := by
    intro before
    have code : c.toNat < 45 := before
    have digit := (Char.isDigit_iff_toNat.mp fifth).1
    have zero : '0'.toNat = 48 := rfl
    omega
  have notDash : c ≠ '-' := by
    rintro rfl
    exact absurd fifth (by decide)
  have dash : ∀ rest other : List Char, ¬ c :: rest < '-' :: other := by
    intro rest other
    rw [List.cons_lt_cons_iff]
    exact fun before => before.elim fifthLater fun same => notDash same.1
  rw [firstText, secondText, dateText, List.append_assoc, List.append_assoc, List.cons_append,
    ← List.append_assoc (twoDigits ((dateOf second).year.toNat / 100)),
    append_lt_append_iff (by rw [four]; rfl)]
  simp only [dash, and_false, or_false]
  rw [four_lt_iff (fun c member => allDigits c (List.mem_of_mem_take member)) ?_ four rfl,
    secondYear]
  · have nonneg := secondFits.1
    show leadingYear (dateOf first).year < (dateOf second).year.toNat ↔ _
    omega
  · intro c member
    rcases List.mem_append.mp member with high | low
    · exact List.all_eq_true.mp (all_twoDigits _) c high
    · exact List.all_eq_true.mp (all_twoDigits _) c low

/-! ### Reading the layout of the internet -/

def readRFC3339 (text : List Char) : Option Int :=
  (parseDateTime 'T' text).bind fun (time, rest) =>
    (parseZone rest).map fun ahead => time - 1000000000 * ahead

theorem fraction_zoneText (ahead : Int) : fraction (zoneText ahead) = (0, zoneText ahead) := by
  have whole : ∀ c rest, c ≠ '.' ∧ c ≠ ',' → fraction (c :: rest) = (0, c :: rest) := by
    intro c rest notPoint
    refine if_neg fun point => ?_
    exact point.1.elim notPoint.1 notPoint.2
  unfold zoneText
  split
  · rfl
  · refine whole _ _ ?_
    split <;> decide

theorem readHoursMinutes {minutes : Nat} {Result : Type}
    (result : Nat → Nat → List Char → Option Result) :
    ((fixedNumber 2 ((if minutes / 60 < 100 then twoDigits (minutes / 60)
        else Nat.toDigits 10 (minutes / 60)) ++ ':' :: twoDigits (minutes % 60))).bind fun hours =>
      (expect ':' hours.2).bind fun text => (fixedNumber 2 text).bind fun read =>
        result hours.1 read.1 read.2) =
      if minutes < 6000 then result (minutes / 60) (minutes % 60) [] else none := by
  have last : fixedNumber 2 (twoDigits (minutes % 60)) = some (minutes % 60, []) := by
    have read := fixedNumber_twoDigits (show minutes % 60 < 100 by omega) []
    rwa [List.append_nil] at read
  by_cases short : minutes / 60 < 100
  · rw [if_pos short, fixedNumber_twoDigits short, if_pos (by omega)]
    simp only [Option.bind_some, expect_cons, last]
  · rw [if_neg short, if_neg (by omega)]
    have longer : 2 < (Nat.toDigits 10 (minutes / 60)).length := by
      refine Nat.lt_of_not_le fun few => ?_
      have bound := (Nat.length_toDigits_le_iff (by decide) (by decide)).mp few
      omega
    have refused := expect_after_digits (show ':'.isDigit = false from rfl) longer (fun c member =>
      Nat.isDigit_of_mem_toDigits (by decide) (by decide) member)
      (':' :: twoDigits (minutes % 60))
    cases read : fixedNumber 2 (Nat.toDigits 10 (minutes / 60) ++
        ':' :: twoDigits (minutes % 60)) with
    | none => rfl
    | some hours =>
      rw [read, Option.bind_some] at refused
      rw [Option.bind_some, refused]
      rfl

/-- A zone is read in whole minutes, if it has at most 24 hours. -/
theorem parseZone_zoneText (ahead : Int) : parseZone (zoneText ahead) =
    if (ahead.tdiv 60).natAbs < 1500 then some (60 * ahead.tdiv 60) else none := by
  unfold zoneText
  split
  · next zero =>
    subst zero
    rfl
  · generalize ahead.tdiv 60 = zone
    dsimp only
    by_cases negative : zone < 0
    · rw [if_pos negative]
      refine (readHoursMinutes fun hours minutes rest =>
        if ('-' = '+' ∨ '-' = '-') ∧ hours ≤ 24 ∧ minutes ≤ 60 ∧ rest = [] then
          some (if '-' = '-' then -((60 * (60 * hours + minutes) : Nat) : Int)
            else ((60 * (60 * hours + minutes) : Nat) : Int)) else none).trans ?_
      have parts := Nat.div_add_mod zone.natAbs 60
      by_cases small : zone.natAbs < 1500
      · rw [if_pos (by omega), if_pos ⟨Or.inr rfl, by omega, by omega, rfl⟩, if_pos small,
          if_pos rfl, Option.some_inj]
        omega
      · have late : ¬ zone.natAbs / 60 ≤ 24 := by omega
        rw [if_neg small]
        split
        · exact if_neg fun fits => late fits.2.1
        · rfl
    · rw [if_neg negative]
      refine (readHoursMinutes fun hours minutes rest =>
        if ('+' = '+' ∨ '+' = '-') ∧ hours ≤ 24 ∧ minutes ≤ 60 ∧ rest = [] then
          some (if '+' = '-' then -((60 * (60 * hours + minutes) : Nat) : Int)
            else ((60 * (60 * hours + minutes) : Nat) : Int)) else none).trans ?_
      have parts := Nat.div_add_mod zone.natAbs 60
      by_cases small : zone.natAbs < 1500
      · rw [if_pos (by omega), if_pos ⟨Or.inl rfl, by omega, by omega, rfl⟩, if_pos small,
          if_neg (by decide), Option.some_inj]
        omega
      · have late : ¬ zone.natAbs / 60 ≤ 24 := by omega
        rw [if_neg small]
        split
        · exact if_neg fun fits => late fits.2.1
        · rfl

/-- What is read from a time that was written in a zone: the time to the second, less the seconds
of the zone that were not written. -/
theorem readRFC3339_formatRFC3339 (seconds ahead : Int) :
    readRFC3339 (formatRFC3339 seconds ahead) =
      if FourDigitYear (seconds + ahead) ∧ (ahead.tdiv 60).natAbs < 1500 then
        some (1000000000 * (seconds + ahead - 60 * ahead.tdiv 60))
      else none := by
  unfold readRFC3339 formatRFC3339
  by_cases fits : FourDigitYear (seconds + ahead)
  · rw [parseDateTime_dateTimeText fits 'T' (fraction_zoneText ahead), Option.bind_some]
    dsimp only
    rw [parseZone_zoneText]
    by_cases small : (ahead.tdiv 60).natAbs < 1500
    · rw [if_pos small, if_pos ⟨fits, small⟩, Option.map_some, Option.some_inj]
      omega
    · rw [if_neg small, if_neg fun both => small both.2, Option.map_none]
  · rw [parseDateTime_dateTimeText_of_not 'T' 'T' fits, if_neg fun both => fits both.1,
      Option.bind_none]

/-- The layout of the internet is not the layout with a blank. -/
theorem parseDateTime_formatRFC3339 (seconds ahead : Int) :
    parseDateTime ' ' (formatRFC3339 seconds ahead) = none := by
  by_cases fits : FourDigitYear (seconds + ahead)
  · exact parseDateTime_of_ne (by decide) _ fits _
  · exact parseDateTime_dateTimeText_of_not ' ' 'T' fits _

end Calendar
