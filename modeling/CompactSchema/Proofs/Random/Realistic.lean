import CompactSchema.Generation.Basic
import CompactSchema.Proofs.Calendar.Written
import CompactSchema.Proofs.Format.Shapes
import CompactSchema.Proofs.Random.Choices
import CompactSchema.Random.Realistic

/-
Plausible values are recognised.

Each value is put together from choices, and every choice that can be made gives a text
of the format.
-/

namespace CompactSchema

namespace Instant

/-- The instants that are drawn lie in years of four digits. -/
theorem hasPlainYear_ofMilliseconds {milliseconds : Int} (low : Realistic.earliest.toInt ≤ milliseconds)
    (high : milliseconds ≤ Realistic.latest.toInt) : (ofMilliseconds milliseconds).HasPlainYear := by
  have low : 946684800000 ≤ milliseconds := low
  have high : milliseconds ≤ 2082758399999 := high
  have year : 0 ≤ (Instant.mk milliseconds).date.year ∧ (Instant.mk milliseconds).date.year ≤ 9999 := by
    have inCycle := Date.year_ofDayNumber (milliseconds / millisecondsPerDay)
    show 0 ≤ (Date.ofDayNumber (milliseconds / millisecondsPerDay)).year ∧
      (Date.ofDayNumber (milliseconds / millisecondsPerDay)).year ≤ 9999
    unfold Date.cycleStart Date.cycleDays millisecondsPerDay at *
    omega
  have kept : ofMilliseconds milliseconds = ⟨milliseconds⟩ := by
    refine if_pos ?_
    unfold Date.firstYear Date.lastYear
    omega
  rw [kept]
  exact year

end Instant

namespace Realistic

variable {σ : Type} (words : WordSource σ)

theorem digit_answers : Answers (digit words) fun c => c.isDigit = true := by
  have digits : ∀ n < 10, (Nat.digitChar n).isDigit = true := by
    decide
  exact Answers.bind (words.choose32_answers (by decide)) fun n small => .pure (digits n small)

theorem letter_answers : Answers (letter words) IsLetter := by
  have all : letters.all (fun c => decide ('a' ≤ c ∧ c ≤ 'z' ∨ 'A' ≤ c ∧ c ≤ 'Z')) = true := by
    decide
  refine (words.pick_answers 'a' (by decide)).mono fun c inside => ?_
  have checked := List.all_eq_true.1 all c inside
  rw [decide_eq_true_iff] at checked
  exact checked

theorem intInRange_answers {lo hi : Int64} (ordered : lo ≤ hi) :
    Answers (intInRange words lo hi) fun n => lo ≤ n ∧ n ≤ hi := by
  unfold intInRange
  split
  · rename_i ends
    rw [ends.1, ends.2]
    exact Answers.bind (.any _) fun word _ => .pure ⟨Int64.minValue_le _, Int64.le_maxValue _⟩
  · have notAbove := Int64.le_iff_toInt_le.1 ordered
    refine Answers.bind (words.choose64_answers (by omega)) fun offset small => .pure ?_
    have least := lo.le_toInt
    have most := hi.toInt_lt
    have exact : (Int64.ofInt (lo.toInt + offset)).toInt = lo.toInt + offset :=
      Int64.toInt_ofInt_of_le (by omega) (by omega)
    rw [Int64.le_iff_toInt_le, Int64.le_iff_toInt_le, exact]
    omega

theorem dateTime_answers : Answers (dateTime words) Instant.HasPlainYear := by
  refine Answers.bind (intInRange_answers words (by decide)) fun n within => .pure ?_
  rw [Int64.le_iff_toInt_le, Int64.le_iff_toInt_le] at within
  exact Instant.hasPlainYear_ofMilliseconds within.1 within.2

theorem uuid_answers :
    Answers (uuid words) fun id => Format.isUuid id.text = true ∧ id.text.toList[14]? = some '4' :=
  Answers.bind (.any _) fun _ _ => .pure (Uuid.isUuid_text_version4 _)

/-- A plus sign and eleven to thirteen digits, the first of them not zero. -/
def IsInternational (text : String) : Prop :=
  ∃ first others, text.toList = '+' :: first :: others ∧ first.isDigit = true ∧ first ≠ '0' ∧
    (∀ c ∈ others, c.isDigit = true) ∧ 10 ≤ others.length ∧ others.length ≤ 12

theorem phoneNumber_answers :
    Answers (phoneNumber words) fun text => IsInternational text ∧ Format.isPhoneNumber text = true := by
  have countries : ∀ n < 9, (Nat.digitChar (1 + n)).isDigit = true ∧ Nat.digitChar (1 + n) ≠ '0' := by
    decide
  refine Answers.bind (words.choose32_answers (show 0 < 9 by decide)) fun country small => ?_
  refine Answers.bind (words.choose64_answers (show 0 < 3 by decide)) fun more few => ?_
  refine Answers.bind ((digit_answers words).times (10 + more)) fun digits all => .pure ?_
  obtain ⟨length, all⟩ := all
  obtain ⟨digit, notZero⟩ := countries country small
  constructor
  · exact ⟨_, digits, String.toList_ofList, digit, notZero, all, by omega, by omega⟩
  · show Format.isPhoneNumber (String.ofList (['+'] ++ Nat.digitChar (1 + country) :: digits)) = true
    refine Format.isPhoneNumber_of_digits (.inr rfl) (List.forall_mem_cons.2 ⟨digit, all⟩) ?_ ?_
    · rw [List.length_cons]
      omega
    · rw [List.length_cons]
      omega

theorem isAddressPart_name :
    ∀ name ∈ firstNames ++ lastNames ++ hosts ++ domains, Format.IsAddressPart name.toList := by
  have all : (firstNames ++ lastNames ++ hosts ++ domains).all
      (fun name => !name.toList.isEmpty && name.toList.all Format.addressChars.contains) = true := by
    decide
  intro name known
  have checked := List.all_eq_true.1 all name known
  rw [Bool.and_eq_true, Bool.not_eq_true', List.isEmpty_eq_false_iff, List.all_eq_true] at checked
  exact checked

theorem isEmail_of_names {first last host domain : String} (number : Nat)
    (isFirst : Format.IsAddressPart first.toList) (isLast : Format.IsAddressPart last.toList)
    (isHost : Format.IsAddressPart host.toList) (isDomain : Format.IsAddressPart domain.toList) :
    Format.isEmail s!"{first}.{last}{number}@{host}.{domain}" = true := by
  have dot : Format.addressChars.contains '.' = true := by
    decide
  have digits : ∀ c ∈ Nat.toDigits 10 number, Format.addressChars.contains c = true := fun c inside =>
    Format.addressChars_of_isDigit (Nat.isDigit_of_mem_toDigits (by decide) (by decide) inside)
  have name : Format.IsAddressPart (first.toList ++ '.' :: (last.toList ++ Nat.toDigits 10 number)) := by
    refine ⟨List.append_ne_nil_of_left_ne_nil isFirst.1 _, ?_⟩
    rw [List.forall_mem_append, List.forall_mem_cons, List.forall_mem_append]
    exact ⟨isFirst.2, dot, isLast.2, digits⟩
  have text : s!"{first}.{last}{number}@{host}.{domain}" =
      String.ofList ((first.toList ++ '.' :: (last.toList ++ Nat.toDigits 10 number)) ++
        '@' :: (host.toList ++ '.' :: domain.toList)) := by
    rw [← String.toList_inj]
    simp [toString]
  rw [text]
  exact Format.isEmail_of_parts name isHost isDomain

theorem email_answers : Answers (email words) fun text => Format.isEmail text = true := by
  refine Answers.bind (words.pick_answers "" (by decide)) fun first isFirst => ?_
  refine Answers.bind (words.pick_answers "" (by decide)) fun last isLast => ?_
  refine Answers.bind (words.pick_answers "" (by decide)) fun host isHost => ?_
  refine Answers.bind (words.pick_answers "" (by decide)) fun domain isDomain => ?_
  refine Answers.bind (.any _) fun number _ => .pure (isEmail_of_names _ ?_ ?_ ?_ ?_)
  · exact isAddressPart_name first (by simp [isFirst])
  · exact isAddressPart_name last (by simp [isLast])
  · exact isAddressPart_name host (by simp [isHost])
  · exact isAddressPart_name domain (by simp [isDomain])

theorem alpha_answers (length : Nat) :
    Answers ((RandomSource.ofWords words).alpha length) (IsAlpha length) := by
  refine Answers.bind ((letter_answers words).times length) fun letters all => .pure ?_
  rw [IsAlpha, String.toList_ofList]
  exact all

theorem exists_formatted_ofWords (format : StringFormat) :
    (∃ name, format = .other name) ∨
      ∃ draw, Generate.formatted (RandomSource.ofWords words) format = some draw ∧
        Answers draw fun text => format.accepts text = true := by
  cases format with
  | email => exact .inr ⟨_, rfl, email_answers words⟩
  | phoneNumber => exact .inr ⟨_, rfl, (phoneNumber_answers words).mono fun _ drawn => drawn.2⟩
  | date =>
      refine .inr ⟨_, rfl, Answers.bind (dateTime_answers words) fun instant plain => .pure ?_⟩
      show Calendar.isDateLike instant.dateText = true
      exact Instant.isDateLike_dateText plain
  | dateTime =>
      refine .inr ⟨_, rfl, Answers.bind (dateTime_answers words) fun instant plain => .pure ?_⟩
      show Calendar.isDateLike instant.text = true
      exact Instant.isDateLike_text plain
  | uuid =>
      refine .inr ⟨_, rfl, Answers.bind (uuid_answers words) fun id drawn => .pure ?_⟩
      exact drawn.1
  | other name => exact .inl ⟨name, rfl⟩

/-- Whatever the words are: addresses, telephone numbers and identifiers are recognised,
telephone numbers have eleven to thirteen digits of which the first is not zero,
identifiers show version 4, texts have the letters that are asked for, and both texts of
an instant are read as a date.  So every text that is drawn for a format has it. -/
theorem formats_accept_ofWords {σ : Type} (words : WordSource σ) (state : σ) :
    Format.isEmail ((RandomSource.ofWords words).email.run state).1 = true ∧
    (IsInternational ((RandomSource.ofWords words).phoneNumber.run state).1 ∧
      Format.isPhoneNumber ((RandomSource.ofWords words).phoneNumber.run state).1 = true) ∧
    (Format.isUuid ((RandomSource.ofWords words).uuid.run state).1.text = true ∧
      ((RandomSource.ofWords words).uuid.run state).1.text.toList[14]? = some '4') ∧
    (∀ length, IsAlpha length (((RandomSource.ofWords words).alpha length).run state).1) ∧
    (Calendar.isDateLike ((RandomSource.ofWords words).dateTime.run state).1.dateText = true ∧
      Calendar.isDateLike ((RandomSource.ofWords words).dateTime.run state).1.text = true) ∧
    ∀ format, (∃ name, format = .other name) ∨
      ∃ draw, Generate.formatted (RandomSource.ofWords words) format = some draw ∧
        format.accepts (draw.run state).1 = true := by
  have plain := dateTime_answers words state
  refine ⟨email_answers words state, phoneNumber_answers words state, uuid_answers words state,
    fun length => alpha_answers words length state,
    ⟨Instant.isDateLike_dateText plain, Instant.isDateLike_text plain⟩, fun format => ?_⟩
  exact (exists_formatted_ofWords words format).imp id
    fun ⟨draw, found, answers⟩ => ⟨draw, found, answers state⟩

end Realistic
end CompactSchema
