import CompactSchema.Calendar.Reader
import CompactSchema.Proofs.Calendar.Date
import CompactSchema.Proofs.Calendar.Padded

/-
The texts of instants as dates.

Both texts of an instant in a year of four digits are accepted: the date alone by the
form of its year, month and day, and the date with the time of day as an internet
timestamp.
-/

namespace CompactSchema
namespace Calendar

open Scanner Instant

theorem blanks_padded (width n : Nat) (rest : List Char) :
    blanks (padded width n ++ rest) = some ((), padded width n ++ rest) := by
  unfold blanks
  rw [trimStart_padded]

theorem charIf_padded {c : Char} (sign : c.isDigit = false) (width n : Nat) (rest : List Char) :
    charIf c (padded width n ++ rest) = some (false, padded width n ++ rest) := by
  obtain ⟨d, others, begins, digit⟩ := exists_padded_eq_cons width n
  rw [begins]
  have different : d ≠ c := by
    intro same
    rw [same, sign] at digit
    cases digit
  exact if_neg different

theorem twoDigits_padded {n : Nat} (fits : n < 100) (rest : List Char) :
    twoDigits (padded 2 n ++ rest) = some (n, rest) := by
  unfold twoDigits
  rw [bind_of_eq_some (blanks_padded 2 n rest)]
  exact numberBetween_padded (by decide) fits (by omega) (by decide) (by decide) (by omega)

theorem exactlyTwoDigits_padded {n : Nat} (fits : n < 100) (rest : List Char) :
    exactlyTwoDigits (padded 2 n ++ rest) = some (n, rest) :=
  numberBetween_padded (by decide) fits (by omega) (by decide) (by decide) (by omega)

theorem year_of_padded {width n : Nat} {rest : List Char} (wide : 0 < width) (short : width ≤ 4)
    (fits : n < 10 ^ width) (ends : width < 4 → Ends rest) :
    year (padded width n ++ rest) = some ((n : Int), rest) := by
  have small : n < 2 ^ 63 := Nat.lt_of_lt_of_le fits
    (Nat.le_trans (Nat.pow_le_pow_right (by decide) short) (by decide))
  have digits : numberBetween 1 4 (padded width n ++ rest) = some (n, rest) :=
    numberBetween_padded wide fits small wide short ends
  unfold year
  rw [bind_of_eq_some (blanks_padded width n rest),
    bind_of_eq_some (charIf_padded (by decide) width n rest)]
  simp only [Bool.false_eq_true, if_false]
  rw [bind_of_eq_some (charIf_padded (by decide) width n rest)]
  simp only [Bool.false_eq_true, if_false]
  rw [bind_of_eq_some digits]
  rfl

theorem year_padded {n : Nat} (fits : n < 10000) (rest : List Char) :
    year (padded 4 n ++ rest) = some ((n : Int), rest) :=
  year_of_padded (by decide) (by decide) fits fun few => absurd few (by decide)

theorem require_of_eq_true {condition : Bool} (held : condition = true) (text : List Char) :
    require condition text = some ((), text) := by
  rw [held]
  rfl

theorem fraction_padded {n : Nat} (fits : n < 1000) {c : Char} (other : c.isDigit = false)
    (rest : List Char) : fraction ('.' :: (padded 3 n ++ c :: rest)) = some ((), c :: rest) := by
  have ends : Ends (c :: rest) := by
    intro d here
    cases here
    exact other
  have digits : numberBetween 1 9 (padded 3 n ++ c :: rest) = some (n, c :: rest) :=
    numberBetween_padded (by decide) fits (by omega) (by decide) (by decide) fun _ => ends
  have point : charIf '.' ('.' :: (padded 3 n ++ c :: rest)) = some (true, padded 3 n ++ c :: rest) := rfl
  unfold fraction
  rw [bind_of_eq_some point]
  simp only [if_true]
  rw [bind_of_eq_some digits]
  simp only [List.dropWhile_cons, other, Bool.false_eq_true, if_false]

theorem scanItems_cons {item : Item} {items : List Item} {fields found : Fields}
    {text rest : List Char} (read : item.scan fields text = some (found, rest)) :
    scanItems (item :: items) fields text = scanItems items found rest :=
  bind_of_eq_some read

theorem scan_year {n : Nat} (fits : n < 10000) (fields : Fields) (rest : List Char) :
    Item.year.scan fields (padded 4 n ++ rest) = some ({ fields with year := n }, rest) :=
  bind_of_eq_some (year_padded fits rest)

theorem scan_month {n : Nat} (fits : n < 100) (fields : Fields) (rest : List Char) :
    Item.month.scan fields (padded 2 n ++ rest) = some ({ fields with month := n }, rest) :=
  bind_of_eq_some (twoDigits_padded fits rest)

theorem scan_day {n : Nat} (fits : n < 100) (fields : Fields) (rest : List Char) :
    Item.day.scan fields (padded 2 n ++ rest) = some ({ fields with day := n }, rest) :=
  bind_of_eq_some (twoDigits_padded fits rest)

theorem scan_literal (c : Char) (fields : Fields) (rest : List Char) :
    (Item.literal c).scan fields (c :: rest) = some (fields, rest) :=
  bind_of_eq_some (char_cons c rest)

theorem scanItems_date {year month day : Nat} (years : year < 10000) (months : month < 100)
    (days : day < 100) (fields : Fields) :
    scanItems [.year, .literal '-', .month, .literal '-', .day] fields
        (padded 4 year ++ '-' :: (padded 2 month ++ '-' :: padded 2 day)) =
      some ({ fields with year, month, day }, []) := by
  have last := scan_day days { fields with year, month } []
  rw [List.append_nil] at last
  rw [scanItems_cons (scan_year years _ _), scanItems_cons (scan_literal _ _ _),
    scanItems_cons (scan_month months _ _), scanItems_cons (scan_literal _ _ _),
    scanItems_cons last]
  rfl

theorem timestamp_of_padded {year month day hour minute second : Nat} (millisecond : Nat)
    (years : year < 10000) (months : month < 100) (days : day < 100)
    (hours : hour < 100) (minutes : minute < 100) (seconds : second < 100)
    (milliseconds : millisecond < 1000)
    (valid : Fields.valid { year := year, month, day, hour, minute, second } = true) :
    timestamp (padded 4 year ++ '-' :: (padded 2 month ++ '-' :: (padded 2 day ++ 'T' ::
      (padded 2 hour ++ ':' :: (padded 2 minute ++ ':' :: (padded 2 second ++ '.' ::
        (padded 3 millisecond ++ ['Z']))))))) = some ((), []) := by
  have digits (rest : List Char) : numberBetween 4 4 (padded 4 year ++ rest) = some (year, rest) :=
    numberBetween_padded (by decide) years (by omega) (by decide) (by decide) (by omega)
  have letter (rest : List Char) : oneOf ['T', 't', ' '] ('T' :: rest) = some ('T', rest) := rfl
  have zone : timestampZone ['Z'] = some (0, []) := rfl
  unfold timestamp
  rw [bind_of_eq_some (digits _), bind_of_eq_some (char_cons _ _),
    bind_of_eq_some (exactlyTwoDigits_padded months _), bind_of_eq_some (char_cons _ _),
    bind_of_eq_some (exactlyTwoDigits_padded days _), bind_of_eq_some (letter _),
    bind_of_eq_some (exactlyTwoDigits_padded hours _), bind_of_eq_some (char_cons _ _),
    bind_of_eq_some (exactlyTwoDigits_padded minutes _), bind_of_eq_some (char_cons _ _),
    bind_of_eq_some (exactlyTwoDigits_padded seconds _),
    bind_of_eq_some (fraction_padded milliseconds (by decide) []),
    bind_of_eq_some zone, bind_of_eq_some (require_of_eq_true (by decide) _)]
  exact require_of_eq_true valid []

theorem isDateLike_of_dateForm {text : String} {chars : List Char} {form : List Item}
    (trimmed : Unicode.WhiteSpace.trim text.toList = chars) (known : form ∈ dateForms)
    (fit : fits form chars = true) (nonempty : chars ≠ []) : isDateLike text = true := by
  have some : dateForms.any (fits · chars) = true := List.any_eq_true.2 ⟨form, known, fit⟩
  have full : chars.isEmpty = false := List.isEmpty_eq_false_iff.2 nonempty
  simp only [isDateLike, trimmed, some, full, Bool.or_true, Bool.true_or, Bool.not_false, Bool.and_true]

theorem isDateLike_of_timestamp {text : String} {chars : List Char}
    (trimmed : Unicode.WhiteSpace.trim text.toList = chars)
    (read : timestamp chars = some ((), [])) (nonempty : chars ≠ []) : isDateLike text = true := by
  have accepted : timestamp.accepts chars = true := by
    unfold Scanner.accepts
    rw [read]
  have full : chars.isEmpty = false := List.isEmpty_eq_false_iff.2 nonempty
  simp only [isDateLike, trimmed, accepted, full, Bool.true_or, Bool.not_false, Bool.and_true]

end Calendar

namespace Instant

open Calendar

variable {instant : Instant}

theorem exists_date_eq (plain : 0 ≤ instant.date.year ∧ instant.date.year ≤ 9999) :
    ∃ year month day : Nat, instant.date = ⟨year, month, day⟩ ∧ year < 10000 ∧ month < 100 ∧
      day < 100 ∧ Date.exists? ⟨year, month, day⟩ = true := by
  obtain ⟨first, last⟩ := Date.ofDayNumber_day_le (instant.milliseconds / millisecondsPerDay)
  have months : instant.date.month ≤ 12 := Date.month_le_of_day_le first last
  have days : instant.date.day ≤ 31 := Nat.le_trans last (Date.monthLength_le _ _)
  have existing : instant.date.exists? = true :=
    Date.exists?_ofDayNumber (Int.le_trans (by decide) plain.1) (Int.le_trans plain.2 (by decide))
  have year : (instant.date.year.toNat : Int) = instant.date.year := by omega
  refine ⟨instant.date.year.toNat, instant.date.month, instant.date.day, ?_, by omega, by omega,
    by omega, ?_⟩
  · rw [year]
  · rw [year]
    exact existing

theorem dateChars_natCast {year : Nat} (years : year < 10000) (month day : Nat) :
    dateChars ⟨year, month, day⟩ =
      padded 4 year ++ '-' :: (padded 2 month ++ '-' :: padded 2 day) := by
  have plain : 0 ≤ (year : Int) ∧ (year : Int) ≤ 9999 := by omega
  simp only [dateChars, yearChars, if_pos plain, Int.toNat_natCast]

/-- The date of an instant in a year of four digits is accepted as a date. -/
theorem isDateLike_dateText (plain : 0 ≤ instant.date.year ∧ instant.date.year ≤ 9999) :
    isDateLike instant.dateText = true := by
  obtain ⟨year, month, day, date, years, months, days, existing⟩ := exists_date_eq plain
  have text : instant.dateText.toList =
      padded 4 year ++ '-' :: (padded 2 month ++ '-' :: padded 2 day) := by
    rw [dateText, String.toList_ofList, date, dateChars_natCast years]
  have trimmed : Unicode.WhiteSpace.trim instant.dateText.toList =
      padded 4 year ++ '-' :: (padded 2 month ++ '-' :: padded 2 day) := by
    have ends := trim_padded 4 year ('-' :: (padded 2 month ++ ['-'])) 2 day
    rw [text]
    simpa only [List.cons_append, List.append_assoc, List.nil_append] using ends
  have fit : fits [.year, .literal '-', .month, .literal '-', .day]
      (padded 4 year ++ '-' :: (padded 2 month ++ '-' :: padded 2 day)) = true := by
    unfold fits
    rw [scanItems_date years months days]
    exact existing
  exact isDateLike_of_dateForm trimmed List.mem_cons_self fit (by simp)

/-- The text of an instant in a year of four digits is accepted as a date with a time. -/
theorem isDateLike_text (plain : 0 ≤ instant.date.year ∧ instant.date.year ≤ 9999) :
    isDateLike instant.text = true := by
  obtain ⟨year, month, day, date, years, months, days, existing⟩ := exists_date_eq plain
  obtain ⟨c, others, begins, startDigit⟩ := exists_padded_eq_cons 4 year
  have inDay : instant.millisecondOfDay < 86400000 := by
    unfold millisecondOfDay millisecondsPerDay
    omega
  have text : instant.text.toList =
      padded 4 year ++ '-' :: (padded 2 month ++ '-' :: (padded 2 day ++ 'T' ::
        (timeChars instant.millisecondOfDay ++ ['Z']))) := by
    rw [Instant.text, String.toList_ofList, date, dateChars_natCast years]
    simp
  have shape : padded 4 year ++ '-' :: (padded 2 month ++ '-' :: (padded 2 day ++ 'T' ::
        (timeChars instant.millisecondOfDay ++ ['Z']))) =
      c :: ((others ++ '-' :: (padded 2 month ++ '-' :: (padded 2 day ++ 'T' ::
        timeChars instant.millisecondOfDay))) ++ ['Z']) := by
    rw [begins]
    simp
  have trimmed : Unicode.WhiteSpace.trim instant.text.toList =
      padded 4 year ++ '-' :: (padded 2 month ++ '-' :: (padded 2 day ++ 'T' ::
        (timeChars instant.millisecondOfDay ++ ['Z']))) := by
    rw [text, shape, Unicode.WhiteSpace.trim_eq_self _
      (Unicode.WhiteSpace.isSpace_of_isDigit startDigit) (by decide)]
  have valid : Fields.valid
      { year := year
        month
        day
        hour := instant.millisecondOfDay / 3600000
        minute := instant.millisecondOfDay / 60000 % 60
        second := instant.millisecondOfDay / 1000 % 60 } = true := by
    refine Bool.and_eq_true_iff.2 ⟨decide_eq_true ?_, existing⟩
    simp only
    omega
  have read := timestamp_of_padded (instant.millisecondOfDay % 1000) years months days
    (by omega) (by omega) (by omega) (by omega) valid
  refine isDateLike_of_timestamp trimmed ?_ (by simp)
  simpa only [timeChars, List.append_assoc, List.cons_append] using read

end Instant
end CompactSchema
