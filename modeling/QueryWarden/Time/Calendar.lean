import QueryWarden.Text.Numeral

/-!
# The calendar

Days counted from 1 January 1970 and their dates in the Gregorian calendar, which is carried back
without limit. Years may be negative.
-/

namespace QueryWarden.Time

open QueryWarden.Text

/-- A date. -/
structure Date where
  year : Int
  month : Nat
  day : Nat
  deriving DecidableEq, Repr

/-- A leap year. -/
def isLeapYear (year : Int) : Bool :=
  decide (year % 4 = 0) && (decide (year % 100 ≠ 0) || decide (year % 400 = 0))

/-- The days in a month. -/
def daysInMonth (year : Int) (month : Nat) : Nat :=
  if month = 2 then if isLeapYear year then 29 else 28
  else if [4, 6, 9, 11].contains month then 30
  else 31

/-- The date exists. -/
def Date.isValid (date : Date) : Bool :=
  decide (1 ≤ date.month) && decide (date.month ≤ 12) && decide (1 ≤ date.day) &&
    decide (date.day ≤ daysInMonth date.year date.month)

/-- The days from 1 January 1970 to a date. Years are counted from March, so that a leap day is the
last day of its year, and in eras of 400 years. -/
def Date.toDays (date : Date) : Int :=
  let year : Int := if date.month ≤ 2 then date.year - 1 else date.year
  let month : Int := if date.month ≤ 2 then (date.month : Int) + 9 else (date.month : Int) - 3
  let era := year / 400
  let yearOfEra := year % 400
  let dayOfYear := (153 * month + 2) / 5 + (date.day : Int) - 1
  let dayOfEra := yearOfEra * 365 + yearOfEra / 4 - yearOfEra / 100 + dayOfYear
  era * 146097 + dayOfEra - 719468

/-- The date a number of days after 1 January 1970. -/
def Date.ofDays (days : Int) : Date :=
  let shifted := days + 719468
  let era := shifted / 146097
  let dayOfEra := shifted % 146097
  let yearOfEra := (dayOfEra - dayOfEra / 1460 + dayOfEra / 36524 - dayOfEra / 146096) / 365
  let dayOfYear := dayOfEra - (365 * yearOfEra + yearOfEra / 4 - yearOfEra / 100)
  let month := (5 * dayOfYear + 2) / 153
  let day := dayOfYear - (153 * month + 2) / 5 + 1
  let year := yearOfEra + era * 400
  if month < 10 then ⟨year, (month + 3).toNat, day.toNat⟩
  else ⟨year + 1, (month - 9).toNat, day.toNat⟩

/-- A year in four digits, with a sign when it has more or is negative. -/
def yearText (year : Int) : List Char :=
  if 0 ≤ year ∧ year ≤ 9999 then paddedNumeral 4 year.natAbs
  else (if year < 0 then '-' else '+') :: paddedNumeral 4 year.natAbs

/-- The date with hyphens. -/
def Date.text (date : Date) : List Char :=
  yearText date.year ++ '-' :: paddedNumeral 2 date.month ++ '-' :: paddedNumeral 2 date.day

/-- The seconds in a day. -/
def secondsPerDay : Nat := 86400

/-- The nanoseconds in a second. -/
def nanosPerSecond : Nat := 1000000000

/-- A time of day. A nanosecond beyond a whole second belongs to a leap second. -/
structure Clock where
  second : Nat
  nano : Nat
  deriving DecidableEq, Repr

/-- A fraction of a second in 3, 6 or 9 digits, the fewest that lose nothing; none for zero. -/
def fractionText (nano : Nat) : List Char :=
  if nano = 0 then []
  else if nano % 1000000 = 0 then '.' :: paddedNumeral 3 (nano / 1000000)
  else if nano % 1000 = 0 then '.' :: paddedNumeral 6 (nano / 1000)
  else '.' :: paddedNumeral 9 nano

/-- The time of day with colons, then the fraction. -/
def Clock.text (clock : Clock) : List Char :=
  let second := clock.second % 60 + clock.nano / nanosPerSecond
  paddedNumeral 2 (clock.second / 3600) ++ ':' :: paddedNumeral 2 (clock.second / 60 % 60) ++
    ':' :: paddedNumeral 2 second ++ fractionText (clock.nano % nanosPerSecond)

end QueryWarden.Time
