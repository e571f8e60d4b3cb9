/-
Dates of the proleptic Gregorian calendar.

Days are counted from the first of January 1970, and years may be zero or negative.
-/

namespace CompactSchema

/-- A year, a month and a day, which need not exist. -/
structure Date where
  year : Int
  month : Nat
  day : Nat
  deriving DecidableEq, Repr

namespace Date

def isLeapYear (year : Int) : Bool := year % 4 == 0 && (year % 100 != 0 || year % 400 == 0)

def monthLength (year : Int) : Nat → Nat
  | 1 | 3 | 5 | 7 | 8 | 10 | 12 => 31
  | 4 | 6 | 9 | 11 => 30
  | 2 => if isLeapYear year then 29 else 28
  | _ => 0

def firstYear : Int := -262143

def lastYear : Int := 262142

/-- The date exists and its year is not too far away. -/
def exists? (date : Date) : Bool :=
  decide (firstYear ≤ date.year ∧ date.year ≤ lastYear ∧ 1 ≤ date.day ∧
    date.day ≤ monthLength date.year date.month)

def cycleDays : Int := 146097

/-- The day on which the first cycle begins, the first of March of the year 0. -/
def cycleStart : Int := -719468

/-- The number of a date.  Years are taken to begin in March, so that the day of a
leap year is their last. -/
def toDayNumber (date : Date) : Int :=
  let year := if date.month ≤ 2 then date.year - 1 else date.year
  let cycle := year / 400
  let yearOfCycle := year - cycle * 400
  let month : Int := (date.month + 9) % 12
  let dayOfYear := (153 * month + 2) / 5 + date.day - 1
  let dayOfCycle := yearOfCycle * 365 + yearOfCycle / 4 - yearOfCycle / 100 + dayOfYear
  cycle * cycleDays + dayOfCycle + cycleStart

def ofDayNumber (number : Int) : Date :=
  let shifted := number - cycleStart
  let cycle := shifted / cycleDays
  let dayOfCycle := shifted - cycle * cycleDays
  let yearOfCycle :=
    (dayOfCycle - dayOfCycle / 1460 + dayOfCycle / 36524 - dayOfCycle / 146096) / 365
  let dayOfYear := dayOfCycle - (365 * yearOfCycle + yearOfCycle / 4 - yearOfCycle / 100)
  let month := (5 * dayOfYear + 2) / 153
  let day := dayOfYear - (153 * month + 2) / 5 + 1
  let monthOfYear := if month < 10 then month + 3 else month - 9
  let year := yearOfCycle + cycle * 400
  { year := if monthOfYear ≤ 2 then year + 1 else year
    month := monthOfYear.toNat
    day := day.toNat }

/-- The day of the week, Monday being 0. -/
def weekday (date : Date) : Nat := ((date.toDayNumber + 3) % 7).toNat

end Date
end CompactSchema
