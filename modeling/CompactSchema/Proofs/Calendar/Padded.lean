import CompactSchema.Calendar.Instant
import CompactSchema.Calendar.Scan

/-
Numbers written with leading zeros and read back.

A number that fits a width is written in just so many digits, and a scanner that asks
for no more of them than there are takes all of them and finds the number again.
-/

namespace CompactSchema

namespace Instant

theorem isDigit_of_mem_padded {width n : Nat} {c : Char} (inside : c ∈ padded width n) :
    c.isDigit = true := by
  rcases List.mem_append.1 inside with zero | digit
  · rw [List.eq_of_mem_replicate zero]
    rfl
  · exact Nat.isDigit_of_mem_toDigits (by decide) (by decide) digit

theorem length_padded {width n : Nat} (wide : 0 < width) (fits : n < 10 ^ width) :
    (padded width n).length = width := by
  have digits : (Nat.toDigits 10 n).length ≤ width :=
    (Nat.length_toDigits_le_iff (by decide) wide).2 fits
  simp only [padded, List.length_append, List.length_replicate]
  omega

end Instant

namespace Scanner

open Instant

theorem digitsValue_eq_ofDigitChars (digits : List Char) :
    digitsValue digits = Nat.ofDigitChars 10 digits 0 := by
  unfold digitsValue
  rw [Nat.ofDigitChars_eq_foldl]
  simp only [Nat.mul_comm]

/-- Leading zeros do not count. -/
theorem digitsValue_padded (width n : Nat) : digitsValue (padded width n) = n := by
  rw [digitsValue_eq_ofDigitChars]
  simp [padded, Nat.ofDigitChars_append]

theorem bind_of_eq_some {α β : Type} {first : Scanner α} {next : α → Scanner β}
    {text rest : List Char} {value : α} (read : first text = some (value, rest)) :
    (first >>= next) text = next value rest := by
  show (first text).bind _ = _
  rw [read]
  rfl

theorem bind_of_eq_none {α β : Type} {first : Scanner α} {next : α → Scanner β}
    {text : List Char} (refused : first text = none) : (first >>= next) text = none := by
  show (first text).bind _ = _
  rw [refused]
  rfl

theorem char_cons (c : Char) (rest : List Char) : char c (c :: rest) = some ((), rest) :=
  if_pos rfl

theorem char_of_ne {expected c : Char} (different : c ≠ expected) (rest : List Char) :
    char expected (c :: rest) = none :=
  if_neg different

/-- What follows a number does not go on with a digit. -/
def Ends (rest : List Char) : Prop := ∀ c, rest.head? = some c → c.isDigit = false

theorem takeWhile_digits {most : Nat} {digits rest : List Char}
    (all : ∀ c ∈ digits, c.isDigit = true) (few : digits.length ≤ most)
    (ends : digits.length < most → Ends rest) :
    ((digits ++ rest).take most).takeWhile Char.isDigit = digits := by
  have nothingMore : (rest.take (most - digits.length)).takeWhile Char.isDigit = [] := by
    cases rest with
    | nil => simp
    | cons c rest =>
        by_cases full : digits.length < most
        · have other : c.isDigit = false := ends full c rfl
          cases gap : most - digits.length with
          | zero => rfl
          | succ gap => simp [other]
        · have done : most - digits.length = 0 := by omega
          simp [done]
  rw [List.take_append, List.take_of_length_le few, List.takeWhile_append_of_pos all, nothingMore,
    List.append_nil]

theorem numberBetween_append {least most : Nat} {digits rest : List Char}
    (all : ∀ c ∈ digits, c.isDigit = true) (enough : least ≤ digits.length)
    (few : digits.length ≤ most) (ends : digits.length < most → Ends rest)
    (small : digitsValue digits < 2 ^ 63) :
    numberBetween least most (digits ++ rest) = some (digitsValue digits, rest) := by
  have accepted : ¬ (digits.length < least ∨ 2 ^ 63 ≤ digitsValue digits) := by omega
  simp only [numberBetween, takeWhile_digits all few ends, if_neg accepted, List.drop_left]

theorem numberBetween_of_few {least most : Nat} {digits rest : List Char}
    (all : ∀ c ∈ digits, c.isDigit = true) (few : digits.length < least)
    (room : digits.length ≤ most) (ends : Ends rest) :
    numberBetween least most (digits ++ rest) = none := by
  simp only [numberBetween, takeWhile_digits all room fun _ => ends]
  exact if_pos (.inl few)

theorem numberBetween_padded {least most width n : Nat} {rest : List Char} (wide : 0 < width)
    (fits : n < 10 ^ width) (small : n < 2 ^ 63) (enough : least ≤ width) (few : width ≤ most)
    (ends : width < most → Ends rest) :
    numberBetween least most (padded width n ++ rest) = some (n, rest) := by
  have length := length_padded wide fits
  have value := digitsValue_padded width n
  have read := @numberBetween_append least most (padded width n) rest
    (fun c inside => isDigit_of_mem_padded inside) (by omega) (by omega)
    (fun less => ends (by omega)) (by omega)
  rw [read, value]

end Scanner

theorem toNat_of_isDigit {c : Char} (digit : c.isDigit = true) : 48 ≤ c.toNat ∧ c.toNat ≤ 57 := by
  simp only [Char.isDigit, Bool.and_eq_true, decide_eq_true_eq, ge_iff_le, UInt32.le_iff_toNat_le] at digit
  exact digit

namespace Unicode
namespace WhiteSpace

theorem isSpace_of_isDigit {c : Char} (digit : c.isDigit = true) : isSpace c = false := by
  obtain ⟨low, high⟩ := toNat_of_isDigit digit
  simp only [isSpace, ranges, inRanges]
  rw [if_pos (by omega), if_pos (by omega), if_neg (by omega)]
  exact decide_eq_false (by omega)

theorem trimStart_cons {c : Char} {rest : List Char} (plain : isSpace c = false) :
    trimStart (c :: rest) = c :: rest := by
  unfold trimStart
  rw [List.dropWhile_cons_of_neg (by rw [plain]; exact Bool.false_ne_true)]

theorem trim_eq_self {first last : Char} (middle : List Char) (plainFirst : isSpace first = false)
    (plainLast : isSpace last = false) :
    trim (first :: (middle ++ [last])) = first :: (middle ++ [last]) := by
  have reversed : (first :: (middle ++ [last])).reverse = last :: (middle.reverse ++ [first]) := by
    simp
  unfold trim
  rw [trimStart_cons plainFirst, reversed, trimStart_cons plainLast, ← reversed, List.reverse_reverse]

end WhiteSpace
end Unicode

namespace Instant

theorem exists_padded_eq_cons (width n : Nat) :
    ∃ c rest, padded width n = c :: rest ∧ c.isDigit = true := by
  cases found : padded width n with
  | nil =>
      unfold padded at found
      exact absurd (List.append_eq_nil_iff.1 found).2 Nat.toDigits_ne_nil
  | cons c rest =>
      have inside : c ∈ padded width n := by
        rw [found]
        exact List.mem_cons_self
      exact ⟨c, rest, rfl, isDigit_of_mem_padded inside⟩

theorem exists_padded_eq_append (width n : Nat) :
    ∃ first c, padded width n = first ++ [c] ∧ c.isDigit = true := by
  obtain ⟨c, rest, begins, _⟩ := exists_padded_eq_cons width n
  have nonempty : padded width n ≠ [] := by
    rw [begins]
    exact List.cons_ne_nil c rest
  refine ⟨_, _, (List.dropLast_concat_getLast nonempty).symm, ?_⟩
  exact isDigit_of_mem_padded (List.getLast_mem nonempty)

theorem trimStart_padded (width n : Nat) (rest : List Char) :
    Unicode.WhiteSpace.trimStart (padded width n ++ rest) = padded width n ++ rest := by
  obtain ⟨c, others, begins, digit⟩ := exists_padded_eq_cons width n
  rw [begins]
  exact Unicode.WhiteSpace.trimStart_cons (Unicode.WhiteSpace.isSpace_of_isDigit digit)

theorem trim_padded (width n : Nat) (middle : List Char) (width' n' : Nat) :
    Unicode.WhiteSpace.trim (padded width n ++ (middle ++ padded width' n')) =
      padded width n ++ (middle ++ padded width' n') := by
  obtain ⟨first, others, begins, startDigit⟩ := exists_padded_eq_cons width n
  obtain ⟨front, last, finishes, endDigit⟩ := exists_padded_eq_append width' n'
  have shape : padded width n ++ (middle ++ padded width' n') =
      first :: ((others ++ (middle ++ front)) ++ [last]) := by
    rw [begins, finishes]
    simp
  rw [shape, Unicode.WhiteSpace.trim_eq_self _ (Unicode.WhiteSpace.isSpace_of_isDigit startDigit)
    (Unicode.WhiteSpace.isSpace_of_isDigit endDigit)]

end Instant
end CompactSchema
