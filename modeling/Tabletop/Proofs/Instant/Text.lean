/-
This file proves that days and dates of the calendar correspond, and that the text of an instant is read back as the
same instant.

The calendar repeats after 146097 days, which are 400 years. Years begin in March here, so that a leap
day is the last day of its year.
-/

import Mathlib.Algebra.Group.Nat.Defs
import Tabletop.Instant

namespace Tabletop.Instant

/-! Years of a cycle -/

/-- The first day of a year, counted from the start of its cycle. -/
def firstDay (year : Int) : Int :=
  365 * year + year / 4 - year / 100 + year / 400

/-- The days of a cycle up to a day without the leap days. -/
def plainDays (day : Int) : Int :=
  day - day / 1460 + day / 36524 - day / 146096

theorem plainDays_mono {day later : Int} (order : day ≤ later) : plainDays day ≤ plainDays later := by
  have centuries (day : Int) : day / 146096 = day / 36524 / 4 := by omega
  have inOrder : day / 36524 ≤ later / 36524 := Int.ediv_le_ediv (by decide) order
  unfold plainDays
  rw [centuries day, centuries later]
  omega

/-- The first and the last day of each year are counted to that year. -/
theorem plainDays_ends : ∀ year : Nat, year < 400 →
    365 * (year : Int) ≤ plainDays (firstDay year) ∧
      plainDays (firstDay (year + 1) - 1) < 365 * ((year : Int) + 1) := by
  decide +kernel

/-- A day of a cycle lies between the first days of its year and of the next one. -/
theorem firstDay_le_lt {day year : Int} (nonneg : 0 ≤ day) (bounded : day < 146097)
    (counted : year = plainDays day / 365) :
    (0 ≤ year ∧ year < 400) ∧ firstDay year ≤ day ∧ day < firstDay (year + 1) := by
  have range : 0 ≤ year ∧ year < 400 := by
    have low := plainDays_mono nonneg
    have high := plainDays_mono (Int.le_sub_one_of_lt bounded)
    have ends : plainDays 0 = 0 ∧ plainDays (146097 - 1) = 145999 := by decide
    omega
  refine ⟨range, Int.not_lt.1 fun early => ?_, Int.not_le.1 fun late => ?_⟩
  · -- A day before the first one of the year is counted to an earlier year.
    obtain ⟨number, rfl⟩ := Int.eq_ofNat_of_zero_le range.1
    cases number with
    | zero => exact Int.not_lt.2 nonneg early
    | succ before =>
        have earlier := plainDays_mono (Int.le_sub_one_of_lt early)
        have ends := (plainDays_ends before (by omega)).2
        rw [Int.natCast_succ] at earlier counted
        omega
  · -- A day from the first one of the next year on is counted to that year or a later one.
    have later := plainDays_mono late
    rcases Int.lt_or_le (year + 1) 400 with inside | outside
    · obtain ⟨next, same⟩ := Int.eq_ofNat_of_zero_le (show 0 ≤ year + 1 by omega)
      have ends := (plainDays_ends next (by omega)).1
      rw [same] at later
      omega
    · have last : year + 1 = 400 := by omega
      rw [last] at late
      exact Int.not_lt.2 late bounded

/-! Months of a year -/

/-- The month of a day of a year that begins in March, from zero to eleven. -/
def monthOfDay (day : Int) : Int :=
  (5 * day + 2) / 153

/-- The days of a year before a month. -/
def daysBefore (month : Int) : Int :=
  (153 * month + 2) / 5

/-- The number of a month in a year that begins in January. -/
def calendarMonth (month : Int) : Int :=
  if month < 10 then month + 3 else month - 9

/-- A day before the leap day lies in a month of a year without one. -/
theorem monthOfDay_plain : ∀ day : Nat, day < 365 →
    0 ≤ monthOfDay day ∧ monthOfDay day < 12 ∧ daysBefore (monthOfDay day) ≤ day ∧
      day < daysBefore (monthOfDay day) + daysOfMonth 1 (calendarMonth (monthOfDay day)).toNat := by
  decide +kernel

theorem monthOfDay_leap :
    monthOfDay 365 = 11 ∧ daysBefore 11 = 337 ∧ calendarMonth 11 = 2 := by
  decide

theorem daysOfMonth_plain (year : Int) (month : Nat) : daysOfMonth 1 month ≤ daysOfMonth year month := by
  unfold daysOfMonth
  split
  · split
    · next leap => exact absurd leap (by decide)
    · split <;> omega
  · exact Nat.le_refl _

/-- The year that follows a year of a cycle is a leap year if the year has 366 days. -/
theorem isLeapYear_of_days {year era : Int} (range : 0 ≤ year ∧ year < 400)
    (days : firstDay year + 365 < firstDay (year + 1)) : isLeapYear (year + era * 400 + 1) = true := by
  unfold firstDay at days
  unfold isLeapYear
  rw [Bool.and_eq_true, Bool.or_eq_true, decide_eq_true_iff, decide_eq_true_iff, decide_eq_true_iff]
  omega

/-! Dates -/

/-- The day is a day of the month. -/
def IsDate (year : Int) (month day : Nat) : Prop :=
  1 ≤ month ∧ month ≤ 12 ∧ 1 ≤ day ∧ day ≤ daysOfMonth year month

/-- The number of the calendar year in which a month of a year of a cycle lies. -/
def calendarYear (era year month : Int) : Int :=
  year + era * 400 + (if calendarMonth month ≤ 2 then 1 else 0)

/-- A day of a year lies in its month. -/
theorem monthOfDay_contains (era : Int) {year day : Int} (range : 0 ≤ year ∧ year < 400) (nonneg : 0 ≤ day)
    (inYear : firstDay year + day < firstDay (year + 1)) :
    (0 ≤ monthOfDay day ∧ monthOfDay day < 12) ∧ daysBefore (monthOfDay day) ≤ day ∧
      day < daysBefore (monthOfDay day) + daysOfMonth (calendarYear era year (monthOfDay day))
        (calendarMonth (monthOfDay day)).toNat := by
  rcases Int.lt_or_le day 365 with plain | leap
  · obtain ⟨number, rfl⟩ := Int.eq_ofNat_of_zero_le nonneg
    obtain ⟨low, high, started, ended⟩ := monthOfDay_plain number (by omega)
    have longer := daysOfMonth_plain (calendarYear era year (monthOfDay number))
      (calendarMonth (monthOfDay number)).toNat
    exact ⟨⟨low, high⟩, started, by omega⟩
  · have last : day = 365 := by
      unfold firstDay at inYear
      omega
    subst last
    obtain ⟨month, before, calendar⟩ := monthOfDay_leap
    rw [month, before]
    have next : calendarYear era year 11 = year + era * 400 + 1 := rfl
    have days : daysOfMonth (calendarYear era year 11) (calendarMonth 11).toNat = 29 := by
      rw [next, calendar, daysOfMonth, isLeapYear_of_days range inYear]
      rfl
    rw [days]
    decide

/-- A date of a year of a cycle gives back the day. -/
theorem daysOfDate_inYear (era : Int) {year month day : Int} (range : 0 ≤ year ∧ year < 400)
    (months : 0 ≤ month ∧ month < 12) (started : daysBefore month ≤ day) :
    daysOfDate (calendarYear era year month) (calendarMonth month).toNat
        (day - daysBefore month + 1).toNat =
      era * 146097 + firstDay year + day - 719468 := by
  have start : firstDay year = 365 * year + year / 4 - year / 100 := by
    unfold firstDay
    omega
  have kept : ((day - daysBefore month + 1).toNat : Int) = day - daysBefore month + 1 := by omega
  rw [start]
  unfold daysOfDate calendarYear calendarMonth
  rw [kept]
  unfold daysBefore at *
  rcases Int.lt_or_le month 10 with early | late
  · rw [if_pos early]
    have number : ((month + 3).toNat : Int) = month + 3 := by omega
    have later : ¬(month + 3).toNat ≤ 2 := by omega
    have era' : (year + era * 400).fdiv 400 = era := by
      rw [Int.fdiv_eq_ediv_of_nonneg _ (by decide)]
      omega
    simp only [if_neg later, if_pos (Nat.lt_of_not_le later), if_neg (show ¬month + 3 ≤ 2 by omega),
      number, Int.add_zero, era']
    omega
  · rw [if_neg (Int.not_lt.2 late)]
    have number : ((month - 9).toNat : Int) = month - 9 := by omega
    have sooner : (month - 9).toNat ≤ 2 := by omega
    have era' : (year + era * 400 + 1 - 1).fdiv 400 = era := by
      rw [Int.fdiv_eq_ediv_of_nonneg _ (by decide)]
      omega
    simp only [if_pos sooner, if_neg (Nat.not_lt.2 sooner), if_pos (show month - 9 ≤ 2 by omega),
      number, era']
    omega

/-- Every day has a date of the calendar, and the date gives the day back. -/
theorem dateOfDays_isDate (days : Int) :
    IsDate (dateOfDays days).1 (dateOfDays days).2.1 (dateOfDays days).2.2 ∧
      daysOfDate (dateOfDays days).1 (dateOfDays days).2.1 (dateOfDays days).2.2 = days := by
  unfold dateOfDays
  dsimp only
  generalize shift : days + 719468 = shifted
  have euclid : shifted.fdiv 146097 = shifted / 146097 := Int.fdiv_eq_ediv_of_nonneg _ (by decide)
  rw [euclid]
  generalize inCycle : shifted - shifted / 146097 * 146097 = day
  have nonneg : 0 ≤ day := by omega
  have bounded : day < 146097 := by omega
  generalize counted : (day - day / 1460 + day / 36524 - day / 146096) / 365 = year
  obtain ⟨range, started, ended⟩ := firstDay_le_lt nonneg bounded counted.symm
  have start : firstDay year = 365 * year + year / 4 - year / 100 := by
    unfold firstDay
    omega
  rw [← start]
  generalize inYear : day - firstDay year = dayOfYear
  have inside := monthOfDay_contains (shifted / 146097) range (show 0 ≤ dayOfYear by omega) (by omega)
  have back := daysOfDate_inYear (shifted / 146097) range inside.1 inside.2.1
  change IsDate (calendarYear (shifted / 146097) year (monthOfDay dayOfYear))
      (calendarMonth (monthOfDay dayOfYear)).toNat
      (dayOfYear - daysBefore (monthOfDay dayOfYear) + 1).toNat ∧
    daysOfDate (calendarYear (shifted / 146097) year (monthOfDay dayOfYear))
      (calendarMonth (monthOfDay dayOfYear)).toNat
      (dayOfYear - daysBefore (monthOfDay dayOfYear) + 1).toNat = days
  generalize monthOfDay dayOfYear = month at inside back ⊢
  have numbered : 1 ≤ calendarMonth month ∧ calendarMonth month ≤ 12 := by
    unfold calendarMonth
    split <;> omega
  refine ⟨⟨?_, ?_, ?_, ?_⟩, ?_⟩ <;> omega

end Tabletop.Instant

namespace Tabletop

open Number Text

/-! Digits -/

namespace Number

theorem natOfDigits_eq (digits : List Char) : natOfDigits digits = Nat.ofDigitChars 10 digits 0 := rfl

theorem toNat_of_isDigit {char : Char} (digit : char.isDigit = true) :
    48 ≤ char.toNat ∧ char.toNat ≤ 57 := by
  unfold Char.isDigit at digit
  rw [Bool.and_eq_true, decide_eq_true_iff, decide_eq_true_iff] at digit
  exact ⟨digit.1, digit.2⟩

/-- A digit is worth less than ten. -/
theorem digitValue_lt {char : Char} (digit : char.isDigit = true) : digitValue char < 10 := by
  have bounds := toNat_of_isDigit digit
  change char.toNat - 48 < 10
  omega

theorem natOfDigits_lt {digits : List Char} (all : ∀ char ∈ digits, char.isDigit = true) :
    natOfDigits digits < 10 ^ digits.length := by
  have grow (start : Nat) :
      digits.foldl (fun value digit => 10 * value + digitValue digit) start <
        (start + 1) * 10 ^ digits.length := by
    induction digits generalizing start with
    | nil => simp
    | cons char digits inductionHypothesis =>
        have small := digitValue_lt (all char List.mem_cons_self)
        have rest := inductionHypothesis (fun other member => all other (List.mem_cons_of_mem _ member))
          (10 * start + digitValue char)
        have room : (10 * start + digitValue char + 1) * 10 ^ digits.length ≤
            (start + 1) * 10 * 10 ^ digits.length := Nat.mul_le_mul_right _ (by omega)
        rw [List.foldl_cons, List.length_cons, Nat.pow_succ', ← Nat.mul_assoc]
        exact Nat.lt_of_lt_of_le rest room
  have bound := grow 0
  rwa [Nat.zero_add, Nat.one_mul] at bound

end Number

namespace Instant

/-! Numbers with zeros in front -/

theorem natOfDigits_padded (width number : Nat) : natOfDigits (padded width number) = number := by
  rw [natOfDigits_eq, padded, Nat.ofDigitChars_append, Nat.ofDigitChars_replicate_zero,
    Nat.mul_zero]
  exact Nat.ofDigitChars_ten_toDigits

theorem isDigit_of_mem_padded {width number : Nat} {char : Char}
    (member : char ∈ padded width number) : char.isDigit = true := by
  rcases List.mem_append.1 member with zero | digit
  · rw [List.eq_of_mem_replicate zero]
    rfl
  · exact Nat.isDigit_of_mem_toDigits (by decide) (by decide) digit

theorem padded_ne_nil (width number : Nat) : padded width number ≠ [] :=
  List.append_ne_nil_of_right_ne_nil _ Nat.toDigits_ne_nil

theorem length_padded {width number : Nat} (positive : 0 < width) (fits : number < 10 ^ width) :
    (padded width number).length = width := by
  have short : (writeNat number).length ≤ width := (Nat.length_toDigits_le_iff (by decide) positive).2 fits
  rw [padded, List.length_append, List.length_replicate]
  omega

/-! Fields -/

theorem isBlank_of_isDigit {char : Char} (digit : char.isDigit = true) : isBlank char = false := by
  have bounds := toNat_of_isDigit digit
  unfold isBlank
  grind

/-- Digits are not cut off as blanks. -/
theorem trimStart_digits {digits : List Char} (some : digits ≠ [])
    (all : ∀ char ∈ digits, char.isDigit = true) (rest : List Char) :
    trimStart (digits ++ rest) = digits ++ rest := by
  cases digits with
  | nil => exact absurd rfl some
  | cons first others =>
      have plain := isBlank_of_isDigit (all first List.mem_cons_self)
      exact List.dropWhile_cons_of_neg (Bool.not_eq_true _ ▸ plain)

/-- The digits of a field are read up to its width or to the first character that is no digit. -/
theorem readField?_digits {width : Nat} {digits rest : List Char} (some : digits ≠ [])
    (all : ∀ char ∈ digits, char.isDigit = true) (fits : digits.length ≤ width)
    (stops : (rest.take (width - digits.length)).takeWhile Char.isDigit = []) :
    readField? width (digits ++ rest) = Option.some (natOfDigits digits, rest) := by
  have taken : ((digits ++ rest).take width).takeWhile Char.isDigit = digits := by
    rw [List.take_append, List.take_of_length_le fits, List.takeWhile_append_of_pos all, stops,
      List.append_nil]
  unfold readField?
  simp only [trimStart_digits some all, taken]
  rw [if_neg (by simpa using some), List.drop_left]

theorem readField?_padded {width number : Nat} (positive : 0 < width) (fits : number < 10 ^ width)
    (rest : List Char) :
    readField? width (padded width number ++ rest) = some (number, rest) := by
  have length := length_padded positive fits
  have stops : (rest.take (width - (padded width number).length)).takeWhile Char.isDigit = [] := by
    rw [length, Nat.sub_self, List.take_zero]
    rfl
  have read := readField?_digits (padded_ne_nil width number) (fun _ => isDigit_of_mem_padded)
    (Nat.le_of_eq length) stops
  rwa [natOfDigits_padded] at read

/-- The digits behind the sign of a year are read up to the next sign. -/
theorem readField?_signed (number : Nat) (rest : List Char) :
    readField? (padded 4 number ++ '-' :: rest).length (padded 4 number ++ '-' :: rest) =
      some (number, '-' :: rest) := by
  have fits : (padded 4 number).length ≤ (padded 4 number ++ '-' :: rest).length := by
    rw [List.length_append]
    exact Nat.le_add_right _ _
  have stops (room : Nat) : (('-' :: rest).take room).takeWhile Char.isDigit = [] := by
    cases room <;> rfl
  have read := readField?_digits (padded_ne_nil 4 number) (fun _ => isDigit_of_mem_padded) fits
    (stops _)
  rwa [natOfDigits_padded] at read

/-- A year of the calendar is read up to the sign behind it. -/
theorem readYear?_yearText (year : Int) (rest : List Char) :
    readYear? (yearText year ++ '-' :: rest) = some (year, '-' :: rest) := by
  unfold yearText
  split
  · next plain =>
    have read := readField?_padded (show 0 < 4 by decide) (show year.toNat < 10 ^ 4 by omega)
      ('-' :: rest)
    have digits := trimStart_digits (padded_ne_nil 4 year.toNat) (fun _ => isDigit_of_mem_padded)
      ('-' :: rest)
    have all : ∀ char ∈ padded 4 year.toNat, char.isDigit = true := fun _ => isDigit_of_mem_padded
    cases shown : padded 4 year.toNat with
    | nil => exact absurd shown (padded_ne_nil 4 year.toNat)
    | cons first others =>
        rw [shown] at digits read all
        have digit : first.isDigit = true := all first List.mem_cons_self
        unfold readYear?
        rw [digits]
        rw [List.cons_append] at read ⊢
        split
        · next same =>
          rw [(List.cons.inj same).1] at digit
          exact absurd digit (by decide)
        · next same =>
          rw [(List.cons.inj same).1] at digit
          exact absurd digit (by decide)
        · rw [read, Option.map_some]
          exact congrArg (fun year => some (year, '-' :: rest)) (Int.toNat_of_nonneg plain.1)
  · split
    · next negative =>
      change (readField? (padded 4 year.natAbs ++ '-' :: rest).length
        (padded 4 year.natAbs ++ '-' :: rest)).map (fun found => (-(found.1 : Int), found.2)) = _
      rw [readField?_signed, Option.map_some]
      exact congrArg (fun year => some (year, '-' :: rest)) (show -(year.natAbs : Int) = year by omega)
    · next large =>
      change (readField? (padded 4 year.natAbs ++ '-' :: rest).length
        (padded 4 year.natAbs ++ '-' :: rest)).map (fun found => ((found.1 : Int), found.2)) = _
      rw [readField?_signed, Option.map_some]
      exact congrArg (fun year => some (year, '-' :: rest)) (show (year.natAbs : Int) = year by omega)

/-! The fraction of a second -/

theorem readFraction?_padded {width number : Nat} (positive : 0 < width) (most : width ≤ 9)
    (fits : number < 10 ^ width) :
    readFraction? ('.' :: padded width number ++ ['Z']) = some (number * 10 ^ (9 - width), ['Z']) := by
  have digits : (padded width number ++ ['Z']).takeWhile Char.isDigit = padded width number := by
    rw [List.takeWhile_append_of_pos fun _ => isDigit_of_mem_padded]
    exact List.append_nil _
  have behind : (padded width number ++ ['Z']).dropWhile Char.isDigit = ['Z'] := by
    rw [List.dropWhile_append_of_pos fun _ => isDigit_of_mem_padded]
    rfl
  have length := length_padded positive fits
  have places : (padded width number).take 9 = padded width number :=
    List.take_of_length_le (by omega)
  rw [List.cons_append]
  unfold readFraction?
  simp only [digits, behind, places, length, natOfDigits_padded, Nat.pow_eq]
  rw [if_neg (by simpa using padded_ne_nil width number)]

theorem readFraction?_fractionText {nanos : Nat} (fits : nanos < 1000000000) :
    readFraction? (fractionText nanos ++ ['Z']) = some (nanos, ['Z']) := by
  unfold fractionText
  split
  · next zero =>
    rw [zero]
    rfl
  split
  · next millis =>
    rw [readFraction?_padded (by decide) (by decide) (by omega)]
    congr
    omega
  split
  · next micros =>
    rw [readFraction?_padded (by decide) (by decide) (by omega)]
    congr
    omega
  · rw [readFraction?_padded (by decide) (by decide) fits, Nat.sub_self, Nat.pow_zero, Nat.mul_one]

/-! Instants -/

/-- The instant lies in the calendar. Only the last second of a minute may be a leap second. -/
structure Valid (instant : Instant) : Prop where
  year : isYear instant.year = true
  nanos : instant.nanos < 1000000000 ∨ instant.nanos < 2000000000 ∧ instant.seconds % 60 = 59

theorem epoch_valid : epoch.Valid where
  year := by decide
  nanos := by decide

/-- A sign is read if no blank stands for it. -/
theorem readSign?_cons {sign : Char} (plain : isBlank sign = false) (rest : List Char) :
    readSign? sign (sign :: rest) = some rest := by
  have kept : trimStart (sign :: rest) = sign :: rest :=
    List.dropWhile_cons_of_neg (Bool.not_eq_true _ ▸ plain)
  unfold readSign?
  rw [kept]
  exact if_pos rfl

/-- The date and the time of day in the text of an instant are read field by field. -/
theorem parse?_fields {year : Int} {month day hour minute second nanos : Nat}
    (months : month ≤ 12) (days : day ≤ 31) (hours : hour < 24) (minutes : minute < 60)
    (seconds : second ≤ 60) (fraction : nanos < 1000000000) :
    parse? (yearText year ++ '-' :: (padded 2 month ++ '-' :: (padded 2 day ++ 'T' ::
        (padded 2 hour ++ ':' :: (padded 2 minute ++ ':' :: (padded 2 second ++
          (fractionText nanos ++ ['Z']))))))) =
      ofFields? year month day hour minute second nanos 0 := by
  have two : 0 < 2 := by decide
  have mark (rest : List Char) : readTimeMark? ('T' :: rest) = some rest := rfl
  have zone : readOffset? (trimStart ['Z']) = some (0, []) := rfl
  have nothing : (trimStart []).isEmpty = true := rfl
  unfold parse?
  simp only [readYear?_yearText, Option.bind_eq_bind, Option.bind_some, mark, zone, nothing, if_true,
    readSign?_cons (show isBlank '-' = false by decide),
    readSign?_cons (show isBlank ':' = false by decide),
    readField?_padded two (show month < 10 ^ 2 by omega),
    readField?_padded two (show day < 10 ^ 2 by omega),
    readField?_padded two (show hour < 10 ^ 2 by omega),
    readField?_padded two (show minute < 10 ^ 2 by omega),
    readField?_padded two (show second < 10 ^ 2 by omega), readFraction?_fractionText fraction]

theorem daysOfMonth_le (year : Int) (month : Nat) : daysOfMonth year month ≤ 31 := by
  unfold daysOfMonth
  split
  · split <;> decide
  · split <;> decide

/-- Fields of the calendar give an instant. -/
theorem ofFields?_isDate {year : Int} {month day hour minute second : Nat}
    (date : IsDate year month day) (calendar : isYear year = true) (hours : hour < 24)
    (minutes : minute < 60) (seconds : second ≤ 60) (nanos : Nat) (offset : Int) :
    ofFields? year month day hour minute second nanos offset =
      let instant : Instant :=
        ⟨daysOfDate year month day * 86400 +
            (hour * 3600 + minute * 60 + (if second = 60 then 59 else second)) - offset,
          nanos + (if second = 60 then 1000000000 else 0)⟩
      if isYear instant.year then some instant else none := by
  obtain ⟨firstMonth, lastMonth, firstDay, lastDay⟩ := date
  refine (if_neg ?_).trans rfl
  simp only [calendar, Bool.not_true, Bool.false_eq_true, or_false]
  omega

/-- The text of an instant of the calendar is read back as the same instant. -/
theorem parse?_text {instant : Instant} (valid : instant.Valid) :
    parse? instant.text.toList = some instant := by
  obtain ⟨date, back⟩ := dateOfDays_isDate (instant.seconds.fdiv 86400)
  have calendar : isYear (dateOfDays (instant.seconds.fdiv 86400)).1 = true := valid.year
  have euclid : instant.seconds.fdiv 86400 = instant.seconds / 86400 :=
    Int.fdiv_eq_ediv_of_nonneg _ (by decide)
  generalize clock : (instant.seconds - instant.seconds.fdiv 86400 * 86400).toNat = second
  have shown : second % 60 + instant.nanos / 1000000000 ≤ 60 := by
    rcases valid.nanos with plain | ⟨double, last⟩ <;> omega
  have hours : second / 3600 < 24 := by omega
  have minutes : second / 60 % 60 < 60 := by omega
  have read := ofFields?_isDate date calendar hours minutes shown (instant.nanos % 1000000000) 0
  have same : (⟨daysOfDate (dateOfDays (instant.seconds.fdiv 86400)).1
        (dateOfDays (instant.seconds.fdiv 86400)).2.1 (dateOfDays (instant.seconds.fdiv 86400)).2.2 *
          86400 +
        ((second / 3600 : Nat) * 3600 + (second / 60 % 60 : Nat) * 60 +
          (if second % 60 + instant.nanos / 1000000000 = 60 then 59
            else second % 60 + instant.nanos / 1000000000 : Nat)) - 0,
      instant.nanos % 1000000000 +
        (if second % 60 + instant.nanos / 1000000000 = 60 then 1000000000 else 0)⟩ : Instant) =
      instant := by
    rw [back, euclid]
    rw [euclid] at clock
    obtain ⟨seconds, nanos⟩ := instant
    have limits := valid.nanos
    simp only [Instant.mk.injEq] at clock limits ⊢
    constructor
    · split <;> omega
    · split <;> omega
  rw [same] at read
  have lastDay := Nat.le_trans date.2.2.2 (daysOfMonth_le _ _)
  refine Eq.trans ?_ ((parse?_fields date.2.1 lastDay hours minutes shown (by omega)).trans
    (read.trans (if_pos valid.year)))
  unfold text
  simp only [String.toList_ofList, List.append_assoc, List.cons_append, List.nil_append, clock]

/-! Reading gives instants of the calendar -/

theorem readFraction?_lt {text rest : List Char} {nanos : Nat}
    (read : readFraction? text = some (nanos, rest)) : nanos < 1000000000 := by
  unfold readFraction? at read
  split at read
  · next fraction =>
    dsimp only at read
    split at read
    · cases read
    · obtain ⟨same, _⟩ := Prod.mk.inj (Option.some.inj read)
      rw [← same]
      generalize shown : (fraction.takeWhile Char.isDigit).take 9 = places
      have few : places.length ≤ 9 := by
        rw [← shown]
        exact List.length_take_le _ _
      have all : ∀ char ∈ places, char.isDigit = true := by
        intro char member
        rw [← shown] at member
        exact List.all_eq_true.1 List.all_takeWhile _ (List.mem_of_mem_take member)
      have bound := Nat.mul_lt_mul_of_pos_right (natOfDigits_lt all)
        (show 0 < Nat.pow 10 (9 - places.length) from Nat.pow_pos (by decide))
      have whole : 10 ^ places.length * Nat.pow 10 (9 - places.length) = 1000000000 := by
        rw [Nat.pow_eq, ← Nat.pow_add, Nat.add_sub_cancel' few]
      exact whole ▸ bound
  · cases read
    decide

theorem readOffset?_minutes {text rest : List Char} {offset : Int}
    (read : readOffset? text = some (offset, rest)) : offset % 60 = 0 := by
  unfold readOffset? at read
  extract_lets signed at read
  have minutes {negative : Bool} {behind : List Char}
      (read : signed negative behind = some (offset, rest)) : offset % 60 = 0 := by
    simp only [signed, Option.bind_eq_bind, Option.bind_eq_some_iff] at read
    obtain ⟨⟨hours, _⟩, _, ⟨minutes, _⟩, _, made⟩ := read
    split at made
    · cases made
    · obtain ⟨same, _⟩ := Prod.mk.inj (Option.some.inj made)
      rw [← same]
      split <;> omega
  split at read
  · cases read
    rfl
  · cases read
    rfl
  · exact minutes read
  · exact minutes read
  · exact minutes read
  · split at read
    · cases read
      rfl
    · cases read
  · cases read

theorem ofFields?_valid {year : Int} {month day hour minute second nanos : Nat} {offset : Int}
    {instant : Instant} (fraction : nanos < 1000000000) (zone : offset % 60 = 0)
    (made : ofFields? year month day hour minute second nanos offset = some instant) :
    instant.Valid := by
  unfold ofFields? at made
  rw [Option.ite_none_left_eq_some] at made
  obtain ⟨_, made⟩ := made
  dsimp only at made
  rw [Option.ite_none_right_eq_some] at made
  obtain ⟨calendar, same⟩ := made
  cases same
  refine ⟨calendar, ?_⟩
  dsimp only
  split <;> omega

/-- An instant that is read lies in the calendar. -/
theorem parse?_valid {text : List Char} {instant : Instant} (read : parse? text = some instant) :
    instant.Valid := by
  unfold parse? at read
  simp only [Option.bind_eq_bind, Option.bind_eq_some_iff] at read
  obtain ⟨_, _, _, _, _, _, _, _, _, _, _, _, _, _, _, _, _, _, _, _, _, _, ⟨nanos, _⟩, fraction,
    ⟨offset, _⟩, zone, made⟩ := read
  split at made
  · exact ofFields?_valid (readFraction?_lt fraction) (readOffset?_minutes zone) made
  · cases made

end Instant

end Tabletop
