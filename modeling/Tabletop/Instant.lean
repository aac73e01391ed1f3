/-
This file defines instants of universal time with their calendar text.
-/

import Tabletop.Number.Numeral
import Tabletop.Text.Cut

namespace Tabletop

open Number Text

/-- The seconds since the start of 1970 and the nanoseconds behind them. In a leap second the
nanoseconds are a billion more. -/
structure Instant where
  seconds : Int
  nanos : Nat
deriving DecidableEq, Repr

namespace Instant

/-- The start of 1970. -/
def epoch : Instant := ⟨0, 0⟩

def isLeapYear (year : Int) : Bool :=
  year % 4 = 0 && (year % 100 ≠ 0 || year % 400 = 0)

def daysOfMonth (year : Int) (month : Nat) : Nat :=
  if month = 2 then (if isLeapYear year then 29 else 28)
  else if [4, 6, 9, 11].contains month then 30
  else 31

/-- The days from the start of 1970 to a date. Years count from March here. -/
def daysOfDate (year : Int) (month day : Nat) : Int :=
  let year := if month ≤ 2 then year - 1 else year
  let era := year.fdiv 400
  let yearOfEra := year - era * 400
  let shifted : Int := if 2 < month then (month : Int) - 3 else (month : Int) + 9
  let dayOfYear := (153 * shifted + 2) / 5 + (day : Int) - 1
  era * 146097 + yearOfEra * 365 + yearOfEra / 4 - yearOfEra / 100 + dayOfYear - 719468

/-- The date that lies some days after the start of 1970. -/
def dateOfDays (days : Int) : Int × Nat × Nat :=
  let shifted := days + 719468
  let era := shifted.fdiv 146097
  let dayOfEra := shifted - era * 146097
  let yearOfEra := (dayOfEra - dayOfEra / 1460 + dayOfEra / 36524 - dayOfEra / 146096) / 365
  let dayOfYear := dayOfEra - (365 * yearOfEra + yearOfEra / 4 - yearOfEra / 100)
  let month := (5 * dayOfYear + 2) / 153
  let day := dayOfYear - (153 * month + 2) / 5 + 1
  let calendarMonth := if month < 10 then month + 3 else month - 9
  let year := yearOfEra + era * 400 + (if calendarMonth ≤ 2 then 1 else 0)
  (year, calendarMonth.toNat, day.toNat)

/-- The year lies in the calendar. -/
def isYear (year : Int) : Bool :=
  -262143 ≤ year && year ≤ 262142

/-- The year of an instant in universal time. -/
def year (instant : Instant) : Int :=
  (dateOfDays (instant.seconds.fdiv 86400)).1

/-- A number with zeros in front of it up to a width. -/
def padded (width number : Nat) : List Char :=
  let digits := writeNat number
  List.replicate (width - digits.length) '0' ++ digits

def yearText (year : Int) : List Char :=
  if 0 ≤ year ∧ year ≤ 9999 then padded 4 year.toNat
  else (if year < 0 then '-' else '+') :: padded 4 year.natAbs

/-- The fraction of a second with three, six or nine places, or none. -/
def fractionText (nanos : Nat) : List Char :=
  if nanos = 0 then []
  else if nanos % 1000000 = 0 then '.' :: padded 3 (nanos / 1000000)
  else if nanos % 1000 = 0 then '.' :: padded 6 (nanos / 1000)
  else '.' :: padded 9 nanos

/-- The date and the time of day with the mark of universal time. -/
def text (instant : Instant) : String :=
  let days := instant.seconds.fdiv 86400
  let second := (instant.seconds - days * 86400).toNat
  let (year, month, day) := dateOfDays days
  let shown := second % 60 + instant.nanos / 1000000000
  String.ofList (yearText year ++ ['-'] ++ padded 2 month ++ ['-'] ++ padded 2 day ++ ['T'] ++
    padded 2 (second / 3600) ++ [':'] ++ padded 2 (second / 60 % 60) ++ [':'] ++ padded 2 shown ++
    fractionText (instant.nanos % 1000000000) ++ ['Z'])

/-- Reads a number of one to `width` digits after blanks. -/
def readField? (width : Nat) (text : List Char) : Option (Nat × List Char) :=
  let text := trimStart text
  let digits := (text.take width).takeWhile Char.isDigit
  if digits.isEmpty then none else some (natOfDigits digits, text.drop digits.length)

/-- Reads a year: four digits at most, or any number of them after a sign. -/
def readYear? (text : List Char) : Option (Int × List Char) :=
  match trimStart text with
  | '-' :: rest => (readField? rest.length rest).map fun (year, rest) => (-(year : Int), rest)
  | '+' :: rest => (readField? rest.length rest).map fun (year, rest) => ((year : Int), rest)
  | text => (readField? 4 text).map fun (year, rest) => ((year : Int), rest)

/-- Reads blanks and a sign. -/
def readSign? (sign : Char) (text : List Char) : Option (List Char) :=
  match trimStart text with
  | char :: rest => if char = sign then some rest else none
  | [] => none

/-- Reads the fraction of a second. Places behind the ninth are dropped. -/
def readFraction? : List Char → Option (Nat × List Char)
  | '.' :: rest =>
    let digits := rest.takeWhile Char.isDigit
    if digits.isEmpty then none
    else
      let places := digits.take 9
      some (natOfDigits places * Nat.pow 10 (9 - places.length), rest.dropWhile Char.isDigit)
  | text => some (0, text)

/-- Reads two digits. -/
def readPair? : List Char → Option (Nat × List Char)
  | first :: second :: rest =>
    if first.isDigit && second.isDigit then some (natOfDigits [first, second], rest) else none
  | _ => none

/-- Reads the distance from universal time in seconds. -/
def readOffset? (text : List Char) : Option (Int × List Char) :=
  let signed (negative : Bool) (rest : List Char) : Option (Int × List Char) := do
    let (hours, rest) ← readPair? rest
    let (minutes, rest) ← readPair? (rest.dropWhile fun char => char == ':' || isBlank char)
    let seconds : Int := hours * 3600 + minutes * 60
    if 60 ≤ minutes ∨ 86400 ≤ seconds then none
    else some (if negative then -seconds else seconds, rest)
  match text with
  | 'z' :: rest => some (0, rest)
  | 'Z' :: rest => some (0, rest)
  | '+' :: rest => signed false rest
  | '-' :: rest => signed true rest
  | '−' :: rest => signed true rest
  | first :: second :: third :: rest =>
    if [first, second, third].map Char.toLower = ['u', 't', 'c'] then some (0, rest) else none
  | _ => none

/-- Reads what stands between the date and the time of day. -/
def readTimeMark? : List Char → Option (List Char)
  | 'T' :: rest => some rest
  | 't' :: rest => some rest
  | ' ' :: rest => some rest
  | _ => none

/-- The instant of a date and a time of day that are ahead of universal time by some seconds. The year has
to lie in the calendar both there and in universal time. -/
def ofFields? (year : Int) (month day hour minute second nanos : Nat) (offset : Int) :
    Option Instant :=
  if month = 0 ∨ 12 < month ∨ day = 0 ∨ daysOfMonth year month < day ∨ 23 < hour ∨ 59 < minute ∨
      60 < second ∨ !isYear year then none
  else
    let leap := second = 60
    let secondOfDay : Int := hour * 3600 + minute * 60 + (if leap then 59 else second)
    let instant : Instant :=
      ⟨daysOfDate year month day * 86400 + secondOfDay - offset,
        nanos + (if leap then 1000000000 else 0)⟩
    if isYear instant.year then some instant else none

/-- Reads an instant: a date, a time of day and the distance from universal time. -/
def parse? (text : List Char) : Option Instant := do
  let (year, rest) ← readYear? text
  let rest ← readSign? '-' rest
  let (month, rest) ← readField? 2 rest
  let rest ← readSign? '-' rest
  let (day, rest) ← readField? 2 rest
  let rest ← readTimeMark? rest
  let (hour, rest) ← readField? 2 rest
  let rest ← readSign? ':' rest
  let (minute, rest) ← readField? 2 rest
  let rest ← readSign? ':' rest
  let (second, rest) ← readField? 2 rest
  let (nanos, rest) ← readFraction? rest
  let (offset, rest) ← readOffset? (trimStart rest)
  if (trimStart rest).isEmpty then ofFields? year month day hour minute second nanos offset
  else none

end Instant

end Tabletop
