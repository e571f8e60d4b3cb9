import CompactSchema.Proofs.Calendar.Written

/-
Dates and times that are written in digits, and the forms that fit them.

A year has four digits here and everything else has two.  The form that is written alike
fits exactly if the date exists, and the time of day with it; every other form comes upon
a digit or a mark that it does not expect, or leaves something unread.
-/

namespace CompactSchema

namespace Calendar

open Scanner Instant Unicode.WhiteSpace

/-! ### Written dates and times -/

structure WrittenDate where
  year : Fin 10000
  month : Fin 100
  day : Fin 100

structure WrittenTime where
  hour : Fin 100
  minute : Fin 100
  second : Option (Fin 100)

namespace WrittenDate

def yearFirst (separator : Char) (date : WrittenDate) : List Char :=
  padded 4 date.year ++ separator :: (padded 2 date.month ++ separator :: padded 2 date.day)

def monthFirst (date : WrittenDate) : List Char :=
  padded 2 date.month ++ '/' :: (padded 2 date.day ++ '/' :: padded 4 date.year)

def IsLeapYear (date : WrittenDate) : Prop :=
  4 ∣ date.year.val ∧ (100 ∣ date.year.val → 400 ∣ date.year.val)

/-- The day is one that its month has. -/
def Exists (date : WrittenDate) : Prop :=
  1 ≤ date.day.val ∧
    (date.month.val ∈ [1, 3, 5, 7, 8, 10, 12] ∧ date.day.val ≤ 31 ∨
      date.month.val ∈ [4, 6, 9, 11] ∧ date.day.val ≤ 30 ∨
      date.month.val = 2 ∧ (date.day.val ≤ 28 ∨ date.day.val = 29 ∧ date.IsLeapYear))

instance (date : WrittenDate) : Decidable date.IsLeapYear :=
  inferInstanceAs (Decidable (_ ∧ (_ → _)))

instance (date : WrittenDate) : Decidable date.Exists := inferInstanceAs (Decidable (_ ∧ _))

end WrittenDate

namespace WrittenTime

def secondChars (time : WrittenTime) : List Char :=
  match time.second with
  | none => []
  | some second => ':' :: padded 2 second

def chars (time : WrittenTime) : List Char :=
  padded 2 time.hour ++ ':' :: (padded 2 time.minute ++ time.secondChars)

def Exists (time : WrittenTime) : Prop :=
  time.hour.val ≤ 23 ∧ time.minute.val ≤ 59 ∧ ∀ second ∈ time.second, second.val ≤ 60

instance (time : WrittenTime) : Decidable time.Exists := inferInstanceAs (Decidable (_ ∧ _))

end WrittenTime

/-! ### Existence -/

namespace WrittenDate

def fields (date : WrittenDate) : Fields :=
  { year := date.year.val, month := date.month, day := date.day }

theorem isLeapYear_iff (date : WrittenDate) :
    Date.isLeapYear (date.year.val : Int) = true ↔ date.IsLeapYear := by
  simp only [Date.isLeapYear, IsLeapYear, Bool.and_eq_true, Bool.or_eq_true, beq_iff_eq, bne_iff_ne]
  omega

theorem exists?_iff (date : WrittenDate) : date.fields.date.exists? = true ↔ date.Exists := by
  have years := date.year.isLt
  have near : Date.firstYear ≤ (date.year.val : Int) ∧ (date.year.val : Int) ≤ Date.lastYear := by
    unfold Date.firstYear Date.lastYear
    omega
  unfold Date.exists? Exists
  rw [decide_eq_true_iff, ← isLeapYear_iff]
  constructor
  · intro existing
    exact ⟨existing.2.2.1, (Date.le_monthLength_iff existing.2.2.1).1 existing.2.2.2⟩
  · intro existing
    exact ⟨near.1, near.2, existing.1, (Date.le_monthLength_iff existing.1).2 existing.2⟩

end WrittenDate

namespace WrittenTime

def fieldsOn (date : WrittenDate) (time : WrittenTime) : Fields :=
  { date.fields with
    hour := time.hour, minute := time.minute, second := (time.second.map Fin.val).getD 0 }

theorem valid_iff (date : WrittenDate) (time : WrittenTime) :
    (time.fieldsOn date).valid = true ↔ date.Exists ∧ time.Exists := by
  have same : (time.fieldsOn date).date = date.fields.date := rfl
  unfold Fields.valid Exists
  rw [Bool.and_eq_true, decide_eq_true_iff, same, date.exists?_iff, and_comm]
  cases known : time.second with
  | none => simp [fieldsOn, known]
  | some second => simp [fieldsOn, known]

end WrittenTime

theorem WrittenDate.valid_iff (date : WrittenDate) : date.fields.valid = true ↔ date.Exists := by
  have midnight : date.fields.hour ≤ 23 ∧ date.fields.minute ≤ 59 ∧ date.fields.second ≤ 60 :=
    ⟨Nat.zero_le 23, Nat.zero_le 59, Nat.zero_le 60⟩
  unfold Fields.valid
  rw [Bool.and_eq_true, decide_eq_true_iff, and_iff_right midnight, date.exists?_iff]

/-! ### Steps of a form -/

/-- What is left of a form fits what is left of a text. -/
def fitsFrom (items : List Item) (fields : Fields) (text : List Char) : Bool :=
  match scanItems items fields text with
  | some (found, []) => found.valid
  | _ => false

theorem fits_eq (form : List Item) (text : List Char) : fits form text = fitsFrom form {} text := rfl

theorem fitsFrom_nil (fields : Fields) : fitsFrom [] fields [] = fields.valid := rfl

theorem fitsFrom_nil_cons (fields : Fields) (c : Char) (rest : List Char) :
    fitsFrom [] fields (c :: rest) = false := rfl

theorem fitsFrom_of_scan {item : Item} {fields found : Fields} {text rest : List Char}
    (read : item.scan fields text = some (found, rest)) (items : List Item) :
    fitsFrom (item :: items) fields text = fitsFrom items found rest := by
  unfold fitsFrom
  rw [scanItems_cons read]

theorem fitsFrom_of_refused {item : Item} {fields : Fields} {text : List Char}
    (refused : item.scan fields text = none) (items : List Item) :
    fitsFrom (item :: items) fields text = false := by
  have stopped : scanItems (item :: items) fields text = none := bind_of_eq_none refused
  unfold fitsFrom
  rw [stopped]

theorem fitsFrom_literal (c : Char) (items : List Item) (fields : Fields) (rest : List Char) :
    fitsFrom (.literal c :: items) fields (c :: rest) = fitsFrom items fields rest :=
  fitsFrom_of_scan (scan_literal c fields rest) items

theorem fitsFrom_literal_of_ne {expected c : Char} (different : c ≠ expected) (items : List Item)
    (fields : Fields) (rest : List Char) :
    fitsFrom (.literal expected :: items) fields (c :: rest) = false :=
  fitsFrom_of_refused (bind_of_eq_none (char_of_ne different rest)) items

theorem fitsFrom_literal_nil (c : Char) (items : List Item) (fields : Fields) :
    fitsFrom (.literal c :: items) fields [] = false := rfl

/-! ### Dates and the forms of dates -/

theorem numberBetween_padded_four {n : Nat} (fits : n < 10000) (rest : List Char) :
    ∃ value c d, numberBetween 1 2 (padded 4 n ++ rest) = some (value, c :: d :: rest) ∧
      c.isDigit = true := by
  have length : (padded 4 n).length = 4 := length_padded (by decide) fits
  have all : ∀ x ∈ padded 4 n, x.isDigit = true := fun x inside => isDigit_of_mem_padded inside
  match padded 4 n, length, all with
  | [a, b, c, d], _, all =>
      have pair : ∀ x ∈ [a, b], x.isDigit = true :=
        fun x inside => all x (List.mem_append_left [c, d] inside)
      have small : digitsValue [a, b] < 2 ^ 63 := by
        have first := toNat_of_isDigit (pair a (by simp))
        have second := toNat_of_isDigit (pair b (by simp))
        simp only [digitsValue, List.foldl_cons, List.foldl_nil]
        omega
      refine ⟨digitsValue [a, b], c, d, ?_, all c (by simp)⟩
      exact numberBetween_append pair (by simp) (by simp) (fun few => absurd few (by simp)) small

/-- What follows the first two digits of a year is a digit. -/
theorem twoDigits_padded_four {n : Nat} (fits : n < 10000) (rest : List Char) :
    ∃ value c d, twoDigits (padded 4 n ++ rest) = some (value, c :: d :: rest) ∧
      c.isDigit = true := by
  unfold twoDigits
  rw [bind_of_eq_some (blanks_padded 4 n rest)]
  exact numberBetween_padded_four fits rest

theorem fitsFrom_literal_of_isDigit {expected c : Char} (mark : expected.isDigit = false)
    (digit : c.isDigit = true) (items : List Item) (fields : Fields) (rest : List Char) :
    fitsFrom (.literal expected :: items) fields (c :: rest) = false := by
  have different : c ≠ expected := by
    intro same
    rw [same, mark] at digit
    cases digit
  exact fitsFrom_literal_of_ne different items fields rest

/-- The items of a date whose year comes first. -/
def yearFirstItems (separator : Char) : List Item :=
  [.year, .literal separator, .month, .literal separator, .day]

theorem fitsFrom_yearFirst (date : WrittenDate) (separator : Char) (items : List Item)
    (tail : List Char) :
    fitsFrom (yearFirstItems separator ++ items) {} (date.yearFirst separator ++ tail) =
      fitsFrom items date.fields tail := by
  simp only [yearFirstItems, WrittenDate.yearFirst, List.cons_append, List.nil_append,
    List.append_assoc]
  rw [fitsFrom_of_scan (scan_year date.year.isLt _ _), fitsFrom_literal,
    fitsFrom_of_scan (scan_month date.month.isLt _ _), fitsFrom_literal,
    fitsFrom_of_scan (scan_day date.day.isLt _ _)]
  rfl

theorem fitsFrom_yearFirst_of_ne (date : WrittenDate) {separator other : Char}
    (different : separator ≠ other) (items : List Item) (tail : List Char) :
    fitsFrom (yearFirstItems other ++ items) {} (date.yearFirst separator ++ tail) = false := by
  simp only [yearFirstItems, WrittenDate.yearFirst, List.cons_append, List.append_assoc]
  rw [fitsFrom_of_scan (scan_year date.year.isLt _ _), fitsFrom_literal_of_ne different]

theorem fitsFrom_yearFirst_of_month (date : WrittenDate) (separator : Char) (items : List Item)
    (tail : List Char) :
    fitsFrom (.month :: .literal '/' :: items) {} (date.yearFirst separator ++ tail) = false := by
  simp only [WrittenDate.yearFirst, List.cons_append, List.append_assoc]
  obtain ⟨value, c, d, read, digit⟩ := twoDigits_padded_four date.year.isLt
    (separator :: (padded 2 date.month ++ separator :: (padded 2 date.day ++ tail)))
  have scanned : Item.month.scan {} (padded 4 date.year ++ separator ::
      (padded 2 date.month ++ separator :: (padded 2 date.day ++ tail))) =
        some ({ month := value }, c :: d :: separator ::
          (padded 2 date.month ++ separator :: (padded 2 date.day ++ tail))) := bind_of_eq_some read
  rw [fitsFrom_of_scan scanned, fitsFrom_literal_of_isDigit (by decide) digit]

theorem scan_year_padded_two {n : Nat} (fits : n < 100) (fields : Fields) (rest : List Char) :
    Item.year.scan fields (padded 2 n ++ '/' :: rest) =
      some ({ fields with year := n }, '/' :: rest) := by
  have ends : Ends ('/' :: rest) := by
    intro c here
    cases here
    rfl
  exact bind_of_eq_some (year_of_padded (by decide) (by decide) fits fun _ => ends)

theorem fitsFrom_monthFirst (date : WrittenDate) :
    fitsFrom [.month, .literal '/', .day, .literal '/', .year] {} date.monthFirst =
      date.fields.valid := by
  have last (fields : Fields) :
      Item.year.scan fields (padded 4 date.year) = some ({ fields with year := date.year.val }, []) := by
    have read := scan_year date.year.isLt fields []
    rwa [List.append_nil] at read
  unfold WrittenDate.monthFirst
  rw [fitsFrom_of_scan (scan_month date.month.isLt _ _), fitsFrom_literal,
    fitsFrom_of_scan (scan_day date.day.isLt _ _), fitsFrom_literal, fitsFrom_of_scan (last _)]
  rfl

theorem fitsFrom_monthFirst_of_hyphen (date : WrittenDate) (items : List Item) :
    fitsFrom (yearFirstItems '-' ++ items) {} date.monthFirst = false := by
  simp only [yearFirstItems, WrittenDate.monthFirst, List.cons_append]
  rw [fitsFrom_of_scan (scan_year_padded_two date.month.isLt _ _),
    fitsFrom_literal_of_ne (by decide)]

/-- The month taken for a year and the day for a month, two digits of the year remain. -/
theorem fitsFrom_monthFirst_of_slash (date : WrittenDate) :
    fitsFrom (yearFirstItems '/') {} date.monthFirst = false := by
  obtain ⟨value, c, d, read, digit⟩ := twoDigits_padded_four date.year.isLt []
  rw [List.append_nil] at read
  have day (fields : Fields) : Item.day.scan fields (padded 4 date.year) =
      some ({ fields with day := value }, [c, d]) := bind_of_eq_some read
  simp only [yearFirstItems, WrittenDate.monthFirst]
  rw [fitsFrom_of_scan (scan_year_padded_two date.month.isLt _ _), fitsFrom_literal,
    fitsFrom_of_scan (scan_month date.day.isLt _ _), fitsFrom_literal, fitsFrom_of_scan (day _),
    fitsFrom_nil_cons]

/-! ### Times of day and the forms of times -/

theorem scan_hour {n : Nat} (fits : n < 100) (fields : Fields) (rest : List Char) :
    Item.hour.scan fields (padded 2 n ++ rest) = some ({ fields with hour := n }, rest) :=
  bind_of_eq_some (twoDigits_padded fits rest)

theorem scan_minute {n : Nat} (fits : n < 100) (fields : Fields) (rest : List Char) :
    Item.minute.scan fields (padded 2 n ++ rest) = some ({ fields with minute := n }, rest) :=
  bind_of_eq_some (twoDigits_padded fits rest)

theorem scan_second {n : Nat} (fits : n < 100) (fields : Fields) (rest : List Char) :
    Item.second.scan fields (padded 2 n ++ rest) = some ({ fields with second := n }, rest) :=
  bind_of_eq_some (twoDigits_padded fits rest)

def clockItems : List Item := [.hour, .literal ':', .minute]

def secondItems : List Item := [.literal ':', .second, .fraction]

theorem fitsFrom_clock (time : WrittenTime) (items : List Item) (fields : Fields) :
    fitsFrom (clockItems ++ items) fields time.chars =
      fitsFrom items { fields with hour := time.hour, minute := time.minute } time.secondChars := by
  simp only [clockItems, WrittenTime.chars, List.cons_append, List.nil_append]
  rw [fitsFrom_of_scan (scan_hour time.hour.isLt _ _), fitsFrom_literal,
    fitsFrom_of_scan (scan_minute time.minute.isLt _ _)]

/-- One of the two forms of a time of day fits it, with or without a second. -/
theorem fitsFrom_time (date : WrittenDate) (time : WrittenTime) :
    (fitsFrom (clockItems ++ secondItems) date.fields time.chars ||
      fitsFrom clockItems date.fields time.chars) = (time.fieldsOn date).valid := by
  have short := fitsFrom_clock time [] date.fields
  rw [List.append_nil] at short
  rw [fitsFrom_clock, short]
  cases known : time.second with
  | none =>
      have none : time.secondChars = [] := by
        unfold WrittenTime.secondChars
        rw [known]
      rw [none, fitsFrom_nil, secondItems, fitsFrom_literal_nil, Bool.false_or, WrittenTime.fieldsOn,
        known]
      rfl
  | some second =>
      have some : time.secondChars = ':' :: (padded 2 second ++ []) := by
        unfold WrittenTime.secondChars
        rw [known, List.append_nil]
      rw [some, fitsFrom_nil_cons, Bool.or_false, secondItems, fitsFrom_literal,
        fitsFrom_of_scan (scan_second second.isLt _ _), WrittenTime.fieldsOn, known]
      rfl

theorem fitsFrom_blanks (items : List Item) (fields : Fields) (n : Nat) (rest : List Char) :
    fitsFrom (.blanks :: items) fields (' ' :: (padded 2 n ++ rest)) =
      fitsFrom items fields (padded 2 n ++ rest) := by
  have dropped : trimStart (' ' :: (padded 2 n ++ rest)) = padded 2 n ++ rest :=
    trimStart_padded 2 n rest
  have read : Item.blanks.scan fields (' ' :: (padded 2 n ++ rest)) =
      some (fields, trimStart (' ' :: (padded 2 n ++ rest))) := rfl
  rw [fitsFrom_of_scan read, dropped]

theorem fitsFrom_separator {separator : Char} (known : separator ∈ ['T', ' ']) (time : WrittenTime)
    (items : List Item) (fields : Fields) :
    (fitsFrom (.literal 'T' :: (clockItems ++ items)) fields (separator :: time.chars) ||
      fitsFrom (.blanks :: (clockItems ++ items)) fields (separator :: time.chars)) =
        fitsFrom (clockItems ++ items) fields time.chars := by
  rcases List.mem_cons.1 known with letter | other
  · subst letter
    have notBlank : fitsFrom (.blanks :: (clockItems ++ items)) fields ('T' :: time.chars) = false := rfl
    rw [fitsFrom_literal, notBlank, Bool.or_false]
  · have blank : separator = ' ' := List.mem_singleton.1 other
    subst blank
    rw [fitsFrom_literal_of_ne (by decide), Bool.false_or]
    exact fitsFrom_blanks _ _ _ _

/-! ### All forms together -/

theorem any_dateForms_yearFirst (date : WrittenDate) (tail : List Char) :
    dateForms.any (fits · (date.yearFirst '-' ++ tail)) = fitsFrom [] date.fields tail := by
  have hyphens := fitsFrom_yearFirst date '-' [] tail
  have slashes := fitsFrom_yearFirst_of_ne date (show '-' ≠ '/' by decide) [] tail
  have monthFirst := fitsFrom_yearFirst_of_month date '-' [.day, .literal '/', .year] tail
  simp only [yearFirstItems, List.append_nil] at hyphens slashes
  simp only [dateForms, List.any_cons, List.any_nil, fits_eq, hyphens, slashes, monthFirst,
    Bool.or_false]

theorem dateTimeForms_eq : dateTimeForms =
    [.literal 'T' :: (clockItems ++ secondItems), .blanks :: (clockItems ++ secondItems),
      .literal 'T' :: clockItems, .blanks :: clockItems].map (yearFirstItems '-' ++ ·) := rfl

theorem any_dateTimeForms_of_refused {text : List Char}
    (refused : ∀ items, fitsFrom (yearFirstItems '-' ++ items) {} text = false) :
    dateTimeForms.any (fits · text) = false := by
  rw [dateTimeForms_eq]
  simp only [List.map_cons, List.map_nil, List.any_cons, List.any_nil, fits_eq, refused,
    Bool.or_false]

theorem any_dateTimeForms_yearFirst (date : WrittenDate) (tail : List Char) :
    dateTimeForms.any (fits · (date.yearFirst '-' ++ tail)) =
      (fitsFrom (.literal 'T' :: (clockItems ++ secondItems)) date.fields tail ||
        (fitsFrom (.blanks :: (clockItems ++ secondItems)) date.fields tail ||
          (fitsFrom (.literal 'T' :: clockItems) date.fields tail ||
            fitsFrom (.blanks :: clockItems) date.fields tail))) := by
  rw [dateTimeForms_eq]
  simp only [List.map_cons, List.map_nil, List.any_cons, List.any_nil, fits_eq, fitsFrom_yearFirst,
    Bool.or_false]

theorem any_forms_of_hyphen (date : WrittenDate) :
    (dateForms.any (fits · (date.yearFirst '-')) ||
      dateTimeForms.any (fits · (date.yearFirst '-'))) = date.fields.valid := by
  have alone := any_dateForms_yearFirst date []
  have withTime := any_dateTimeForms_yearFirst date []
  rw [List.append_nil] at alone withTime
  rw [alone, withTime, fitsFrom_nil]
  exact Bool.or_false _

theorem any_forms_of_slash (date : WrittenDate) :
    (dateForms.any (fits · (date.yearFirst '/')) ||
      dateTimeForms.any (fits · (date.yearFirst '/'))) = date.fields.valid := by
  have different : '/' ≠ '-' := by decide
  have slashes := fitsFrom_yearFirst date '/' [] []
  have hyphens (items : List Item) := fitsFrom_yearFirst_of_ne date different items []
  have monthFirst := fitsFrom_yearFirst_of_month date '/' [.day, .literal '/', .year] []
  simp only [List.append_nil] at slashes hyphens monthFirst
  have alone := hyphens []
  simp only [yearFirstItems, List.append_nil] at slashes alone
  rw [any_dateTimeForms_of_refused hyphens]
  simp only [dateForms, List.any_cons, List.any_nil, fits_eq, alone, slashes, monthFirst,
    fitsFrom_nil, Bool.or_false, Bool.false_or]

theorem any_forms_of_monthFirst (date : WrittenDate) :
    (dateForms.any (fits · date.monthFirst) || dateTimeForms.any (fits · date.monthFirst)) =
      date.fields.valid := by
  have hyphens := fitsFrom_monthFirst_of_hyphen date []
  have slashes := fitsFrom_monthFirst_of_slash date
  simp only [yearFirstItems, List.append_nil] at hyphens slashes
  rw [any_dateTimeForms_of_refused (fitsFrom_monthFirst_of_hyphen date)]
  simp only [dateForms, List.any_cons, List.any_nil, fits_eq, hyphens, slashes,
    fitsFrom_monthFirst, Bool.or_false, Bool.false_or]

theorem any_forms_of_time {separator : Char} (known : separator ∈ ['T', ' '])
    (date : WrittenDate) (time : WrittenTime) :
    (dateForms.any (fits · (date.yearFirst '-' ++ separator :: time.chars)) ||
      dateTimeForms.any (fits · (date.yearFirst '-' ++ separator :: time.chars))) =
        (time.fieldsOn date).valid := by
  have long := fitsFrom_separator known time secondItems date.fields
  have short := fitsFrom_separator known time [] date.fields
  simp only [List.append_nil] at short
  rw [any_dateForms_yearFirst, any_dateTimeForms_yearFirst, fitsFrom_nil_cons, Bool.false_or,
    ← Bool.or_assoc, long, short, fitsFrom_time]

end Calendar
end CompactSchema
