import CompactSchema.Calendar.Date

/-
Instants of time and their texts.

An instant is a number of milliseconds since the beginning of 1970 in UTC.
-/

namespace CompactSchema

structure Instant where
  milliseconds : Int
  deriving DecidableEq, Repr

namespace Instant

def epoch : Instant := ⟨0⟩

def millisecondsPerDay : Int := 86400000

def date (instant : Instant) : Date := .ofDayNumber (instant.milliseconds / millisecondsPerDay)

def millisecondOfDay (instant : Instant) : Nat := (instant.milliseconds % millisecondsPerDay).toNat

/-- The instant after a number of milliseconds; the epoch if its year cannot be
represented. -/
def ofMilliseconds (milliseconds : Int) : Instant :=
  let instant : Instant := ⟨milliseconds⟩
  let year := instant.date.year
  if Date.firstYear ≤ year ∧ year ≤ Date.lastYear then instant else epoch

def padded (width n : Nat) : List Char :=
  let digits := Nat.toDigits 10 n
  List.replicate (width - digits.length) '0' ++ digits

/-- A year in four digits; one that does not fit has a sign and at least four
digits. -/
def yearChars (year : Int) : List Char :=
  if 0 ≤ year ∧ year ≤ 9999 then padded 4 year.toNat
  else (if year < 0 then '-' else '+') :: padded 4 year.natAbs

def dateChars (date : Date) : List Char :=
  yearChars date.year ++ '-' :: (padded 2 date.month ++ '-' :: padded 2 date.day)

def timeChars (millisecondOfDay : Nat) : List Char :=
  padded 2 (millisecondOfDay / 3600000) ++ ':' ::
    (padded 2 (millisecondOfDay / 60000 % 60) ++ ':' ::
      (padded 2 (millisecondOfDay / 1000 % 60) ++ '.' :: padded 3 (millisecondOfDay % 1000)))

def dateText (instant : Instant) : String := String.ofList (dateChars instant.date)

def text (instant : Instant) : String :=
  String.ofList (dateChars instant.date ++ 'T' :: (timeChars instant.millisecondOfDay ++ ['Z']))

end Instant
end CompactSchema
