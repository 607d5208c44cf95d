/-! # The Gregorian calendar

Dates of the proleptic Gregorian calendar and their count in days from
1970-01-01. Years are integers: year 0 stands before year 1. Weeks start on
Monday. -/

namespace DruidPanels

/-- The calendar starts with this year. -/
def firstYear : Int := -262143

/-- The calendar ends with this year. -/
def lastYear : Int := 262142

namespace Calendar

/-- A year of 366 days. -/
def isLeap (year : Int) : Bool := year % 4 = 0 && (year % 100 ≠ 0 || year % 400 = 0)

/-- The lengths of the months of a year, in order. -/
def monthLengths (leap : Bool) : List Nat :=
  [31, if leap then 29 else 28, 31, 30, 31, 30, 31, 31, 30, 31, 30, 31]

/-- The length of a month, counted from 1. -/
def monthLength (year : Int) (month : Nat) : Nat :=
  (monthLengths (isLeap year)).getD (month - 1) 0

/-- Days from 0001-01-01 to the first day of `year`. -/
def daysBeforeYear (year : Int) : Int :=
  let y := year - 1
  365 * y + y / 4 - y / 100 + y / 400

/-- Days from the first day of a year to the first day of its month `month`. -/
def daysBeforeMonth (leap : Bool) (month : Nat) : Nat :=
  ((monthLengths leap).take (month - 1)).foldr (· + ·) 0

/-- Days from 0001-01-01 to 1970-01-01. -/
def epochOffset : Int := 719162

end Calendar

structure Date where
  year : Int
  month : Nat
  day : Nat
deriving DecidableEq, Repr

namespace Date

/-- The month and the day exist. The year may be any integer. -/
def valid (d : Date) : Bool :=
  1 ≤ d.month && d.month ≤ 12 && 1 ≤ d.day && d.day ≤ Calendar.monthLength d.year d.month

/-- The date lies in the years that the calendar covers. -/
def covered (d : Date) : Bool := firstYear ≤ d.year && d.year ≤ lastYear

/-- A date of the calendar, if there is one of this year, month and day. -/
def of? (year : Int) (month day : Nat) : Option Date :=
  let d : Date := ⟨year, month, day⟩
  if d.valid && d.covered then some d else none

/-- Days from 1970-01-01. -/
def toEpochDay (d : Date) : Int :=
  Calendar.daysBeforeYear d.year + Calendar.daysBeforeMonth (Calendar.isLeap d.year) d.month
    + d.day - 1 - Calendar.epochOffset

/-- The year in a cycle of four hundred years in which its day `n` falls, and the day
within that year, all counted from 0. Centuries, spans of four years and years are
taken off in turn; the last century of a cycle and the last year of a span are a
day longer than the others. -/
def yearInCycle (n : Nat) : Nat × Nat :=
  let century := min 3 (n / 36524)
  let inCentury := n - 36524 * century
  let span := inCentury / 1461
  let inSpan := inCentury - 1461 * span
  let year := min 3 (inSpan / 365)
  (100 * century + 4 * span + year, inSpan - 365 * year)

/-- The year of a day counted from 0001-01-01, and the day within that year counted
from 0. Four hundred years have 146097 days. -/
def yearOfDay (n : Int) : Int × Nat :=
  let (years, inYear) := yearInCycle (n % 146097).toNat
  (400 * (n / 146097) + years + 1, inYear)

/-- The month in which day `n` of a year falls, and the day within it, when months
of these lengths start with number `month`; all counted from the given starts. -/
def monthOfDay (month : Nat) : List Nat → Nat → Nat × Nat
  | [], n => (month, n)
  | length :: rest, n => if n < length then (month, n) else monthOfDay (month + 1) rest (n - length)

def ofEpochDay (n : Int) : Date :=
  let (year, inYear) := yearOfDay (n + Calendar.epochOffset)
  let (month, inMonth) := monthOfDay 1 (Calendar.monthLengths (Calendar.isLeap year)) inYear
  ⟨year, month, inMonth + 1⟩

def startOfMonth (d : Date) : Date := { d with day := 1 }

def startOfYear (d : Date) : Date := ⟨d.year, 1, 1⟩

/-- Moves by whole months; the day is held to the length of the month reached. -/
def addMonths (d : Date) (months : Int) : Date :=
  let count := 12 * d.year + (d.month - 1 : Nat) + months
  let year := count / 12
  let month := (count % 12).toNat + 1
  ⟨year, month, min d.day (Calendar.monthLength year month)⟩

end Date

/-- Days since the last Monday of the day counted from 1970-01-01, a Thursday. -/
def daysSinceMonday (epochDay : Int) : Int := (epochDay + 3) % 7

end DruidPanels
