import CompactSchema.Proofs.Calendar.Forms

/-
Which texts of digits are dates.

A date, alone or with a time of day, is accepted exactly if it exists: it is no internet
timestamp for want of a zone and no date of mail for want of white space, so that the
forms decide.  White space around any text changes nothing.
-/

namespace CompactSchema

namespace Unicode
namespace WhiteSpace

theorem trimStart_append {blanks : List Char} (blank : ∀ c ∈ blanks, isSpace c = true)
    (text : List Char) : trimStart (blanks ++ text) = trimStart text :=
  List.dropWhile_append_of_pos blank

theorem trim_append_left {blanks : List Char} (blank : ∀ c ∈ blanks, isSpace c = true)
    (text : List Char) : trim (blanks ++ text) = trim text := by
  unfold trim
  rw [trimStart_append blank]

theorem trim_append_right {blanks : List Char} (blank : ∀ c ∈ blanks, isSpace c = true)
    (text : List Char) : trim (text ++ blanks) = trim text := by
  have reversed : ∀ c ∈ blanks.reverse, isSpace c = true :=
    fun c inside => blank c (List.mem_reverse.1 inside)
  unfold trim
  by_cases empty : (text.dropWhile isSpace).isEmpty = true
  · have nothing : trimStart text = [] := List.isEmpty_iff.1 empty
    have dropped : trimStart (text ++ blanks) = [] := by
      unfold trimStart
      rw [List.dropWhile_append, if_pos empty]
      have all := trimStart_append blank []
      rwa [List.append_nil] at all
    rw [nothing, dropped]
  · have kept : trimStart (text ++ blanks) = trimStart text ++ blanks := by
      unfold trimStart
      rw [List.dropWhile_append, if_neg empty]
    rw [kept, List.reverse_append, trimStart_append reversed]

end WhiteSpace
end Unicode

namespace Calendar

open Scanner Instant Unicode.WhiteSpace

theorem isDateLike_surrounded {before after : String}
    (blankBefore : ∀ c ∈ before.toList, isSpace c = true)
    (blankAfter : ∀ c ∈ after.toList, isSpace c = true) (text : String) :
    isDateLike (before ++ text ++ after) = isDateLike text := by
  have same : trim (before ++ text ++ after).toList = trim text.toList := by
    rw [String.toList_append, String.toList_append, trim_append_right blankAfter,
      trim_append_left blankBefore]
  unfold isDateLike
  rw [same]

theorem numberBetween_four (date : WrittenDate) (rest : List Char) :
    numberBetween 4 4 (padded 4 date.year ++ rest) = some (date.year.val, rest) :=
  numberBetween_padded (by decide) date.year.isLt (by omega) (by decide) (by decide) (by omega)

theorem timestamp_of_slash (date : WrittenDate) : timestamp (date.yearFirst '/') = none := by
  have different : '/' ≠ '-' := by decide
  unfold timestamp WrittenDate.yearFirst
  rw [bind_of_eq_some (numberBetween_four date _)]
  exact bind_of_eq_none (char_of_ne different _)

theorem timestamp_of_monthFirst (date : WrittenDate) : timestamp date.monthFirst = none := by
  have length : (padded 2 date.month).length = 2 := length_padded (by decide) date.month.isLt
  have ends (rest : List Char) : Ends ('/' :: rest) := by
    intro c here
    cases here
    rfl
  have refused (rest : List Char) : numberBetween 4 4 (padded 2 date.month ++ '/' :: rest) = none :=
    numberBetween_of_few (fun c inside => isDigit_of_mem_padded inside) (by omega) (by omega) (ends rest)
  exact bind_of_eq_none (refused _)

theorem timestamp_of_time {separator : Char} (known : separator ∈ ['T', ' ']) (date : WrittenDate)
    (time : WrittenTime) : timestamp (date.yearFirst '-' ++ separator :: time.chars) = none := by
  have letter (rest : List Char) :
      oneOf ['T', 't', ' '] (separator :: rest) = some (separator, rest) := by
    have listed : ['T', 't', ' '].contains separator = true := by
      simp only [List.mem_cons, List.not_mem_nil, or_false] at known
      rcases known with rfl | rfl <;> rfl
    exact if_pos listed
  simp only [WrittenDate.yearFirst, WrittenTime.chars, List.cons_append, List.append_assoc]
  unfold timestamp
  rw [bind_of_eq_some (numberBetween_four date _), bind_of_eq_some (char_cons _ _),
    bind_of_eq_some (exactlyTwoDigits_padded date.month.isLt _), bind_of_eq_some (char_cons _ _),
    bind_of_eq_some (exactlyTwoDigits_padded date.day.isLt _), bind_of_eq_some (letter _),
    bind_of_eq_some (exactlyTwoDigits_padded time.hour.isLt _), bind_of_eq_some (char_cons _ _),
    bind_of_eq_some (exactlyTwoDigits_padded time.minute.isLt _)]
  unfold WrittenTime.secondChars
  split
  · exact bind_of_eq_none rfl
  · rename_i second _
    have ends := exactlyTwoDigits_padded second.isLt []
    rw [List.append_nil] at ends
    rw [bind_of_eq_some (char_cons _ _), bind_of_eq_some ends]
    rfl

theorem timestamp_of_hyphen (date : WrittenDate) : timestamp (date.yearFirst '-') = none := by
  have ends := exactlyTwoDigits_padded date.day.isLt []
  rw [List.append_nil] at ends
  unfold timestamp WrittenDate.yearFirst
  rw [bind_of_eq_some (numberBetween_four date _), bind_of_eq_some (char_cons _ _),
    bind_of_eq_some (exactlyTwoDigits_padded date.month.isLt _), bind_of_eq_some (char_cons _ _),
    bind_of_eq_some ends]
  rfl

theorem toLower_of_isDigit {c : Char} (digit : c.isDigit = true) : c.toLower = c := by
  have bounds := toNat_of_isDigit digit
  unfold Char.toLower
  rw [dif_neg]
  intro upper
  have low : 65 ≤ c.toNat := upper.1
  omega

theorem wordOf_weekdays {c : Char} (digit : c.isDigit = true) (rest : List Char) :
    wordOf weekdays (c :: rest) = none := by
  have letters : ∀ word ∈ weekdays, word.toList.head?.any (!·.isDigit) = true := by decide
  have other : weekdays.findIdx?
      (fun word => word.toList.isPrefixOf ((c :: rest).map Char.toLower)) = none := by
    rw [List.findIdx?_eq_none_iff]
    intro word inside
    have letter := letters word inside
    rw [List.map_cons, toLower_of_isDigit digit]
    cases begins : word.toList with
    | nil =>
        rw [begins] at letter
        cases letter
    | cons first others =>
        rw [begins] at letter
        have different : (first == c) = false := by
          rw [beq_eq_false_iff_ne]
          intro same
          rw [same, List.head?_cons, Option.any_some, digit] at letter
          cases letter
        rw [List.isPrefixOf_cons_cons, different, Bool.false_and]
  simp only [wordOf, other]

/-- Two digits that no white space follows begin no date of mail. -/
theorem mailDate_of_padded {width n value : Nat} {d : Char} {rest behind : List Char}
    (read : numberBetween 1 2 (padded width n ++ rest) = some (value, d :: behind))
    (plain : isSpace d = false) : mailDate (padded width n ++ rest) = none := by
  have weekday : optionalWeekday (padded width n ++ rest) = some (none, padded width n ++ rest) := by
    obtain ⟨c, others, begins, digit⟩ := exists_padded_eq_cons width n
    have nothing : attempt (wordOf weekdays) (padded width n ++ rest) =
        some (none, padded width n ++ rest) := by
      rw [begins, List.cons_append]
      unfold attempt
      rw [wordOf_weekdays digit]
    exact bind_of_eq_some nothing
  have refused : someBlanks (d :: behind) = none := by
    have notBlank : ¬ isSpace d = true := by
      rw [plain]
      exact Bool.false_ne_true
    exact if_neg notBlank
  unfold mailDate
  rw [bind_of_eq_some (blanks_padded width n rest), bind_of_eq_some weekday,
    bind_of_eq_some (blanks_padded width n rest), bind_of_eq_some read]
  exact bind_of_eq_none refused

theorem mailDate_of_yearFirst (date : WrittenDate) (separator : Char) (tail : List Char) :
    mailDate (date.yearFirst separator ++ tail) = none := by
  simp only [WrittenDate.yearFirst, List.cons_append, List.append_assoc]
  obtain ⟨value, c, d, read, digit⟩ := numberBetween_padded_four date.year.isLt
    (separator :: (padded 2 date.month ++ separator :: (padded 2 date.day ++ tail)))
  exact mailDate_of_padded read (isSpace_of_isDigit digit)

theorem mailDate_of_monthFirst (date : WrittenDate) : mailDate date.monthFirst = none :=
  mailDate_of_padded
    (numberBetween_padded (by decide) date.month.isLt (by omega) (by decide) (by decide) (by omega))
    (show isSpace '/' = false by decide)

theorem isDateLike_ofList {chars : List Char} (trimmed : trim chars = chars) (full : chars ≠ [])
    (noTimestamp : timestamp chars = none) (noMail : mailDate chars = none) :
    isDateLike (String.ofList chars) =
      (dateForms.any (fits · chars) || dateTimeForms.any (fits · chars)) := by
  have nonempty : chars.isEmpty = false := List.isEmpty_eq_false_iff.2 full
  have notTimestamp : timestamp.accepts chars = false := by
    unfold Scanner.accepts
    rw [noTimestamp]
  have notMail : mailDate.accepts chars = false := by
    unfold Scanner.accepts
    rw [noMail]
  simp only [isDateLike, String.toList_ofList, trimmed, nonempty, notTimestamp, notMail,
    Bool.not_false, Bool.true_and, Bool.false_or]

theorem isDateLike_yearFirst {separator : Char} (known : separator ∈ ['-', '/']) (date : WrittenDate) :
    isDateLike (String.ofList (date.yearFirst separator)) = true ↔ date.Exists := by
  have trimmed : trim (date.yearFirst separator) = date.yearFirst separator := by
    have ends := trim_padded 4 date.year (separator :: (padded 2 date.month ++ [separator])) 2 date.day
    simpa only [WrittenDate.yearFirst, List.cons_append, List.append_assoc, List.nil_append] using ends
  have full : date.yearFirst separator ≠ [] := by simp [WrittenDate.yearFirst]
  have noMail := mailDate_of_yearFirst date separator []
  rw [List.append_nil] at noMail
  rw [← date.valid_iff]
  rcases List.mem_cons.1 known with hyphen | other
  · subst hyphen
    rw [isDateLike_ofList trimmed full (timestamp_of_hyphen date) noMail, any_forms_of_hyphen]
  · have slash : separator = '/' := List.mem_singleton.1 other
    subst slash
    rw [isDateLike_ofList trimmed full (timestamp_of_slash date) noMail, any_forms_of_slash]

theorem isDateLike_monthFirst (date : WrittenDate) :
    isDateLike (String.ofList date.monthFirst) = true ↔ date.Exists := by
  have trimmed : trim date.monthFirst = date.monthFirst := by
    have ends := trim_padded 2 date.month ('/' :: (padded 2 date.day ++ ['/'])) 4 date.year
    simpa only [WrittenDate.monthFirst, List.cons_append, List.append_assoc, List.nil_append] using ends
  have full : date.monthFirst ≠ [] := by simp [WrittenDate.monthFirst]
  rw [← date.valid_iff, isDateLike_ofList trimmed full (timestamp_of_monthFirst date)
    (mailDate_of_monthFirst date), any_forms_of_monthFirst]

theorem isDateLike_time {separator : Char} (known : separator ∈ ['T', ' ']) (date : WrittenDate)
    (time : WrittenTime) :
    isDateLike (String.ofList (date.yearFirst '-' ++ separator :: time.chars)) = true ↔
      date.Exists ∧ time.Exists := by
  have full : date.yearFirst '-' ++ separator :: time.chars ≠ [] := by simp
  have trimmed : trim (date.yearFirst '-' ++ separator :: time.chars) =
      date.yearFirst '-' ++ separator :: time.chars := by
    simp only [WrittenDate.yearFirst, WrittenTime.chars, WrittenTime.secondChars, List.cons_append,
      List.append_assoc]
    cases time.second with
    | none =>
        have ends := trim_padded 4 date.year ('-' :: (padded 2 date.month ++ '-' ::
          (padded 2 date.day ++ separator :: (padded 2 time.hour ++ [':'])))) 2 time.minute
        simpa only [List.cons_append, List.append_assoc, List.nil_append, List.append_nil] using ends
    | some second =>
        have ends := trim_padded 4 date.year ('-' :: (padded 2 date.month ++ '-' ::
          (padded 2 date.day ++ separator :: (padded 2 time.hour ++ ':' ::
            (padded 2 time.minute ++ [':']))))) 2 second
        simpa only [List.cons_append, List.append_assoc, List.nil_append] using ends
  rw [← time.valid_iff, isDateLike_ofList trimmed full (timestamp_of_time known date time)
    (mailDate_of_yearFirst date '-' _), any_forms_of_time known]

/-- A written date is accepted exactly if the calendar has it, and with a time of day
exactly if the day has that time, too.  White space around a text does not count. -/
theorem written_dates_exact {before after : String}
    (blankBefore : ∀ c ∈ before.toList, isSpace c = true)
    (blankAfter : ∀ c ∈ after.toList, isSpace c = true) :
    (∀ date : WrittenDate, ∀ chars ∈ [date.yearFirst '-', date.yearFirst '/', date.monthFirst],
      isDateLike (before ++ String.ofList chars ++ after) = true ↔ date.Exists) ∧
    (∀ (date : WrittenDate) (time : WrittenTime), ∀ separator ∈ ['T', ' '],
      isDateLike (before ++ String.ofList (date.yearFirst '-' ++ separator :: time.chars) ++ after) =
        true ↔ date.Exists ∧ time.Exists) ∧
    ∀ text, isDateLike (before ++ text ++ after) = isDateLike text := by
  have surrounded := isDateLike_surrounded blankBefore blankAfter
  refine ⟨?_, ?_, surrounded⟩
  · intro date chars inside
    rw [surrounded]
    simp only [List.mem_cons, List.not_mem_nil, or_false] at inside
    rcases inside with rfl | rfl | rfl
    · exact isDateLike_yearFirst (by decide) date
    · exact isDateLike_yearFirst (by decide) date
    · exact isDateLike_monthFirst date
  · intro date time separator known
    rw [surrounded]
    exact isDateLike_time known date time

/-- The last century's leap day with a leap second is accepted, and so is the day that
1900 does not have refused. -/
theorem written_dates_of_leap_days :
    let before := "\u3000\t"
    let after := "\u2028"
    let date : WrittenDate := ⟨2000, 2, 29⟩
    let time : WrittenTime := ⟨23, 59, some 60⟩
    let missing : WrittenDate := ⟨1900, 2, 29⟩
    (∀ c ∈ before.toList, isSpace c = true) ∧ (∀ c ∈ after.toList, isSpace c = true) ∧
      isDateLike (before ++ String.ofList (date.yearFirst '-' ++ ' ' :: time.chars) ++ after) = true ∧
      isDateLike (before ++ String.ofList missing.monthFirst ++ after) = false := by
  intro before after date time missing
  have blankBefore : ∀ c ∈ before.toList, isSpace c = true := List.all_eq_true.1 (by decide)
  have blankAfter : ∀ c ∈ after.toList, isSpace c = true := List.all_eq_true.1 (by decide)
  have exact := written_dates_exact blankBefore blankAfter
  have accepted : date.Exists ∧ time.Exists := by decide
  have refused : ¬ missing.Exists := by decide
  refine ⟨blankBefore, blankAfter, (exact.2.1 date time ' ' (by decide)).2 accepted, ?_⟩
  rw [← Bool.not_eq_true, exact.1 missing missing.monthFirst (by simp)]
  exact refused

end Calendar
end CompactSchema
