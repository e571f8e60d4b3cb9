import CompactSchema.Calendar.Date
import Mathlib.Logic.Basic

/-
The dates of day numbers.

Four hundred years are split into centuries, periods of four years, years and days.  The
last day of a period or of the whole cycle is the leap day, the last of a year that
begins in March, so every day number has a date that exists.
-/

namespace CompactSchema
namespace Date

def yearOfCycle (day : Int) : Int := (day - day / 1460 + day / 36524 - day / 146096) / 365

def daysBefore (year : Int) : Int := 365 * year + year / 4 - year / 100

/-- A day of a cycle by its century, its period of four years, its year and its place in
the year. -/
structure CyclePlace (day : Int) where
  century : Int
  period : Int
  year : Int
  rest : Int
  sum : day = 36524 * century + 1461 * period + 365 * year + rest
  centuryBound : 0 ≤ century ∧ century ≤ 3
  periodBound : 0 ≤ period ∧ period ≤ 24
  yearBound : 0 ≤ year ∧ year ≤ 3
  restBound : 0 ≤ rest ∧ rest ≤ 365
  /-- Only the last year of a period has a leap day, and not that of most centuries. -/
  leap : rest = 365 → year = 3 ∧ (period < 24 ∨ century = 3)

def cyclePlace {day : Int} (low : 0 ≤ day) (high : day < cycleDays) : CyclePlace day :=
  have high : day < 146097 := high
  let century := min 3 (day / 36524)
  let inCentury := day - 36524 * century
  let period := inCentury / 1461
  let inPeriod := inCentury - 1461 * period
  let year := min 3 (inPeriod / 365)
  { century
    period
    year
    rest := inPeriod - 365 * year
    sum := by omega
    centuryBound := by omega
    periodBound := by omega
    yearBound := by omega
    restBound := by omega
    leap := by omega }

namespace CyclePlace

variable {day : Int} (place : CyclePlace day)

theorem yearOfCycle_eq : yearOfCycle day = 100 * place.century + 4 * place.period + place.year := by
  obtain ⟨century, period, year, rest, sum, centuryBound, periodBound, yearBound, restBound, leap⟩ :=
    place
  -- The leap days before the day are counted by periods of 1460 days, which come too
  -- early by one day each; only the days at the end of a last year notice.
  have periods : day / 1460 = 25 * century + period +
      if 24 * century + period + 365 * year + rest < 1460 then 0 else 1 := by
    split <;> omega
  have centuries : day / 36524 = century + if day = 146096 then 1 else 0 := by
    split <;> omega
  have cycles : day / 146096 = if day = 146096 then 1 else 0 := by
    split <;> omega
  show yearOfCycle day = 100 * century + 4 * period + year
  unfold yearOfCycle
  rw [periods, centuries, cycles]
  split <;> split <;> omega

theorem daysBefore_eq :
    daysBefore (100 * place.century + 4 * place.period + place.year) =
      36524 * place.century + 1461 * place.period + 365 * place.year := by
  obtain ⟨century, period, year, rest, sum, centuryBound, periodBound, yearBound, restBound, leap⟩ :=
    place
  unfold daysBefore
  simp only
  omega

theorem sub_daysBefore : day - daysBefore (yearOfCycle day) = place.rest := by
  have sum := place.sum
  have years := place.daysBefore_eq
  rw [place.yearOfCycle_eq]
  omega

/-- The leap day ends a year before a leap year. -/
theorem isLeapYear_of_rest {cycle : Int} (last : place.rest = 365) :
    isLeapYear (yearOfCycle day + cycle * 400 + 1) = true := by
  rw [place.yearOfCycle_eq]
  obtain ⟨century, period, year, rest, sum, centuryBound, periodBound, yearBound, restBound, leap⟩ :=
    place
  obtain ⟨lastYear, notMost⟩ := leap last
  simp only [isLeapYear, Bool.and_eq_true, Bool.or_eq_true, beq_iff_eq, bne_iff_ne]
  omega

end CyclePlace

/-- A day of a year that begins in March lies in its month, the leap day included. -/
theorem day_le_monthLength (dayOfYear month year : Int) (low : 0 ≤ dayOfYear)
    (high : dayOfYear ≤ 365) (leap : dayOfYear = 365 → isLeapYear (year + 1) = true)
    (found : month = (5 * dayOfYear + 2) / 153) :
    1 ≤ (dayOfYear - (153 * month + 2) / 5 + 1).toNat ∧
      (dayOfYear - (153 * month + 2) / 5 + 1).toNat ≤
        monthLength
          (if (if month < 10 then month + 3 else month - 9) ≤ 2 then year + 1 else year)
          (if month < 10 then month + 3 else month - 9).toNat := by
  have bound : 0 ≤ month ∧ month ≤ 11 := by omega
  by_cases february : month = 11
  · subst february
    have length : monthLength (year + 1) 2 = if isLeapYear (year + 1) then 29 else 28 := rfl
    simp only [Int.reduceLT, if_false, Int.reduceSub, Int.reduceLE, if_true, Int.reduceToNat, length]
    by_cases last : dayOfYear = 365
    · rw [if_pos (leap last)]
      omega
    · split <;> omega
  · have others : month = 0 ∨ month = 1 ∨ month = 2 ∨ month = 3 ∨ month = 4 ∨ month = 5 ∨
        month = 6 ∨ month = 7 ∨ month = 8 ∨ month = 9 ∨ month = 10 := by omega
    rcases others with rfl | rfl | rfl | rfl | rfl | rfl | rfl | rfl | rfl | rfl | rfl <;>
      simp [monthLength] <;> omega

def dayOfCycle (number : Int) : Int :=
  number - cycleStart - (number - cycleStart) / cycleDays * cycleDays

def placeOfCycle (number : Int) : CyclePlace (dayOfCycle number) :=
  cyclePlace (by unfold dayOfCycle cycleDays; omega) (by unfold dayOfCycle cycleDays; omega)

theorem ofDayNumber_day_le (number : Int) :
    1 ≤ (ofDayNumber number).day ∧
      (ofDayNumber number).day ≤ monthLength (ofDayNumber number).year (ofDayNumber number).month := by
  have place := placeOfCycle number
  have rest := place.sub_daysBefore
  exact day_le_monthLength _ _ _ (rest ▸ place.restBound.1) (rest ▸ place.restBound.2)
    (fun last => place.isLeapYear_of_rest (rest.symm.trans last)) rfl

/-- The year of a day number is one of its cycle, or the next where the cycle ends after
December. -/
theorem year_ofDayNumber (number : Int) :
    (number - cycleStart) / cycleDays * 400 ≤ (ofDayNumber number).year ∧
      (ofDayNumber number).year ≤ (number - cycleStart) / cycleDays * 400 + 400 := by
  have place := placeOfCycle number
  have inCycle := place.yearOfCycle_eq
  have century := place.centuryBound
  have period := place.periodBound
  have year := place.yearBound
  have counted : (ofDayNumber number).year =
        yearOfCycle (dayOfCycle number) + (number - cycleStart) / cycleDays * 400 + 1 ∨
      (ofDayNumber number).year =
        yearOfCycle (dayOfCycle number) + (number - cycleStart) / cycleDays * 400 :=
    ite_eq_or_eq _ _ _
  omega

theorem month_le_of_day_le {date : Date} (first : 1 ≤ date.day)
    (last : date.day ≤ monthLength date.year date.month) : date.month ≤ 12 := by
  by_cases few : date.month ≤ 12
  · exact few
  · have none : monthLength date.year date.month = 0 := by
      unfold monthLength
      split <;> omega
    omega

theorem monthLength_le (year : Int) (month : Nat) : monthLength year month ≤ 31 := by
  unfold monthLength
  split <;> (try split) <;> omega

theorem le_monthLength_iff {year : Int} {month day : Nat} (first : 1 ≤ day) :
    day ≤ monthLength year month ↔
      month ∈ [1, 3, 5, 7, 8, 10, 12] ∧ day ≤ 31 ∨ month ∈ [4, 6, 9, 11] ∧ day ≤ 30 ∨
        month = 2 ∧ (day ≤ 28 ∨ day = 29 ∧ isLeapYear year = true) := by
  unfold monthLength
  split
  case h_12 =>
    cases isLeapYear year <;> simp
    omega
  case h_13 =>
    simp only [List.mem_cons, List.not_mem_nil, or_false]
    grind
  all_goals simp

theorem exists?_ofDayNumber {number : Int} (notEarly : firstYear ≤ (ofDayNumber number).year)
    (notLate : (ofDayNumber number).year ≤ lastYear) : (ofDayNumber number).exists? = true := by
  obtain ⟨first, last⟩ := ofDayNumber_day_le number
  exact decide_eq_true ⟨notEarly, notLate, first, last⟩

end Date
end CompactSchema
