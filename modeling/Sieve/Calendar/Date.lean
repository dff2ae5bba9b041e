/-
Dates of the proleptic Gregorian calendar and their day numbers. The leap year
rule holds for every year, before the calendar was introduced as well, and the
year before year one is year zero. Day zero is the first of January 1970.

A day number is turned back into a date in two steps: the year is estimated from
the mean length of a year and set right by at most one, then the month is found
by taking off the lengths of the months before it.
-/

namespace Sieve.Calendar

def isLeapYear (year : Int) : Bool :=
  decide (year % 4 = 0) && (decide (year % 100 ≠ 0) || decide (year % 400 = 0))

/-- The lengths of the twelve months. -/
def monthLengths (leap : Bool) : List Nat :=
  [31, if leap then 29 else 28, 31, 30, 31, 30, 31, 31, 30, 31, 30, 31]

/-- The days of a month, counted from one; other months have none. -/
def daysInMonth (year : Int) (month : Nat) : Nat :=
  if month = 0 then 0 else (monthLengths (isLeapYear year)).getD (month - 1) 0

def firstYear : Int := -262143

def lastYear : Int := 262142

/-- A date in the years that are kept: from `-262143` to `262142`. -/
structure Date where
  year : Int
  month : Nat
  day : Nat
  yearInRange : firstYear ≤ year ∧ year ≤ lastYear
  dayInMonth : 1 ≤ day ∧ day ≤ daysInMonth year month
deriving DecidableEq

/-- The date with the given parts, if there is one. -/
def Date.ofParts? (year : Int) (month day : Nat) : Option Date :=
  if yearInRange : firstYear ≤ year ∧ year ≤ lastYear then
    if dayInMonth : 1 ≤ day ∧ day ≤ daysInMonth year month then
      some ⟨year, month, day, yearInRange, dayInMonth⟩
    else none
  else none

/-! ### Day numbers -/

/-- The days from the first of January of year one to the first of January of a year. -/
def daysBeforeYear (year : Int) : Int :=
  365 * (year - 1) + (year - 1) / 4 - (year - 1) / 100 + (year - 1) / 400

/-- The days from the first of January of year one to day zero. -/
def daysBeforeEpoch : Int := 719162

/-- The days of a year before one of its months. -/
def daysBeforeMonth (leap : Bool) (month : Nat) : Nat :=
  ((monthLengths leap).take (month - 1)).foldl (· + ·) 0

/-- The days from the first of January 1970, negative before it. -/
def Date.dayNumber (date : Date) : Int :=
  daysBeforeYear date.year + daysBeforeMonth (isLeapYear date.year) date.month + (date.day - 1) -
    daysBeforeEpoch

/-- The year that a day of the era lies in, the first of January of year one being day zero. -/
def yearOfDay (day : Int) : Int :=
  let guess := 400 * day / 146097 + 1
  if day < daysBeforeYear guess then guess - 1
  else if daysBeforeYear (guess + 1) ≤ day then guess + 1
  else guess

/-- The month and the day in it, from the months that are left and the days into them. -/
def monthAndDay : List Nat → Nat → Nat → Nat × Nat
  | [], month, ordinal => (month, ordinal + 1)
  | length :: rest, month, ordinal =>
    if ordinal < length then (month, ordinal + 1) else monthAndDay rest (month + 1) (ordinal - length)

/-- The date of a day number, if its year is kept. -/
def Date.ofDayNumber? (number : Int) : Option Date :=
  let day := number + daysBeforeEpoch
  let year := yearOfDay day
  let parts := monthAndDay (monthLengths (isLeapYear year)) 1 (day - daysBeforeYear year).toNat
  Date.ofParts? year parts.1 parts.2

end Sieve.Calendar
