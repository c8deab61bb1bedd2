/-!
# Dates of the proleptic Gregorian calendar

`Date.ofDayNumber` turns a count of days from 1 January 1970 into year, month and day, and
`Date.dayNumber` counts back.  Both work in a calendar whose year starts in March, so that the
leap day is the last day of a year, and in cycles of 400 years, which all have the same length.
-/

namespace PropertyGraph

structure Date where
  year : Int
  month : Nat
  day : Nat
deriving DecidableEq

namespace Date

/-- The days of 400 years. -/
def cycleDays : Int := 146097

/-- From 1 March of year `0` to 1 January 1970. -/
def epochOffset : Int := 719468

/-- The days from 1 January 1970 to the date. -/
def dayNumber (d : Date) : Int :=
  let marchYear := if d.month ≤ 2 then d.year - 1 else d.year
  let cycle := marchYear.fdiv 400
  let yearOfCycle := marchYear - cycle * 400
  let monthFromMarch := (d.month + 9) % 12
  let dayOfYear : Int := ((153 * monthFromMarch + 2) / 5 + d.day : Nat) - 1
  let dayOfCycle := yearOfCycle * 365 + yearOfCycle / 4 - yearOfCycle / 100 + dayOfYear
  cycle * cycleDays + dayOfCycle - epochOffset

/-- The date that lies a number of days after 1 January 1970. -/
def ofDayNumber (n : Int) : Date :=
  let shifted := n + epochOffset
  let cycle := shifted.fdiv cycleDays
  let dayOfCycle := (shifted - cycle * cycleDays).toNat
  -- Leap days of four, a hundred and four hundred years are taken out before dividing.
  let yearOfCycle :=
    (dayOfCycle - dayOfCycle / 1460 + dayOfCycle / 36524 - dayOfCycle / 146096) / 365
  let dayOfYear := dayOfCycle - (365 * yearOfCycle + yearOfCycle / 4 - yearOfCycle / 100)
  let monthFromMarch := (5 * dayOfYear + 2) / 153
  let day := dayOfYear - (153 * monthFromMarch + 2) / 5 + 1
  let month := if monthFromMarch < 10 then monthFromMarch + 3 else monthFromMarch - 9
  let marchYear := (yearOfCycle : Int) + cycle * 400
  ⟨if month ≤ 2 then marchYear + 1 else marchYear, month, day⟩

def isLeapYear (year : Int) : Bool :=
  year % 4 == 0 && (year % 100 != 0 || year % 400 == 0)

def daysInMonth (year : Int) (month : Nat) : Nat :=
  if month = 2 then (if isLeapYear year then 29 else 28)
  else if month = 4 ∨ month = 6 ∨ month = 9 ∨ month = 11 then 30
  else 31

/-- The years that instants are kept for. -/
def firstYear : Int := -262143

def lastYear : Int := 262142

/-- A month and a day that the calendar has, in a year that instants are kept for. -/
def isValid (d : Date) : Bool :=
  firstYear ≤ d.year && d.year ≤ lastYear && 1 ≤ d.month && d.month ≤ 12 &&
    1 ≤ d.day && d.day ≤ daysInMonth d.year d.month

end Date

end PropertyGraph
