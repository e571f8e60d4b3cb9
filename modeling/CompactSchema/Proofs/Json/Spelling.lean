import CompactSchema.Json.Token
import CompactSchema.Json.Writer
import Mathlib.Tactic.IntervalCases

/-
The tokens of written JSON text.

A value whose numbers are integers is written as a text that falls into the tokens of
the value and nothing else, whatever text may follow.  A numeral ends only at the
character behind it, so what follows a value must begin with a mark that ends values.
-/

namespace CompactSchema

namespace Json

/-! ### Values without doubles -/

mutual

def IntegersOnly : Json → Prop
  | .number (.float _) => False
  | .array elements => ElementsIntegersOnly elements
  | .object members => MembersIntegersOnly members
  | _ => True

def ElementsIntegersOnly : List Json → Prop
  | [] => True
  | element :: rest => IntegersOnly element ∧ ElementsIntegersOnly rest

def MembersIntegersOnly : List (String × Json) → Prop
  | [] => True
  | (_, value) :: rest => IntegersOnly value ∧ MembersIntegersOnly rest

end

/-! ### The tokens of a value -/

mutual

/-- The tokens of a value before others. -/
def spelling : Json → List Token → List Token
  | .null, rest => .word .null :: rest
  | .boolean value, rest => .word (.boolean value) :: rest
  | .number n, rest => .number (some n) :: rest
  | .string s, rest => .text (some s) :: rest
  | .array [], rest => .openArray :: .closeArray :: rest
  | .array (first :: others), rest => .openArray :: spelling first (elementsSpelling others rest)
  | .object [], rest => .openObject :: .closeObject :: rest
  | .object ((name, value) :: others), rest =>
      .openObject :: .text (some name) :: .colon :: spelling value (membersSpelling others rest)

def elementsSpelling : List Json → List Token → List Token
  | [], rest => .closeArray :: rest
  | element :: others, rest => .comma :: spelling element (elementsSpelling others rest)

def membersSpelling : List (String × Json) → List Token → List Token
  | [], rest => .closeObject :: rest
  | (name, value) :: others, rest =>
      .comma :: .text (some name) :: .colon :: spelling value (membersSpelling others rest)

end

end Json

namespace Lexer

open Json

/-! ### Strings -/

theorem run_cons (state : State) (c : Char) (rest : List Char) :
    run state (c :: rest) = (step state c).1 ++ run (step state c).2 rest := rfl

theorem hexDigit?_hexDigit {n : Nat} (small : n < 16) : hexDigit? (hexDigit n) = some n := by
  revert n
  decide

/-- Four digits spell the code of a control character. -/
theorem run_hex {c : Char} (low : c < ' ') (held rest : List Char) :
    run (.hex ⟨held, false, none⟩ ⟨0, 0, true⟩)
        ('0' :: '0' :: hexDigit (c.toNat / 16) :: hexDigit (c.toNat % 16) :: rest) =
      run (.text ⟨c :: held, false, none⟩) rest := by
  have small : c.toNat < 32 := low
  have high := hexDigit?_hexDigit (n := c.toNat / 16) (by omega)
  have last := hexDigit?_hexDigit (n := c.toNat % 16) (Nat.mod_lt _ (by decide))
  have zero : hexDigit? '0' = some 0 := by decide
  have unit : c.toNat / 16 * 16 + c.toNat % 16 = c.toNat := by omega
  have noLow : isLowSurrogate c.toNat = false := by
    simp only [isLowSurrogate, Bool.and_eq_false_iff, decide_eq_false_iff_not]
    omega
  have noHigh : isHighSurrogate c.toNat = false := by
    simp only [isHighSurrogate, Bool.and_eq_false_iff, decide_eq_false_iff_not]
    omega
  simp [run_cons, step, stepHex, zero, high, last, unit, Reading.pushUnit, noLow, noHigh,
    Reading.push, Reading.settle]

theorem run_escape (c : Char) (held rest : List Char) :
    run (.text ⟨held, false, none⟩) (escape c ++ rest) = run (.text ⟨c :: held, false, none⟩) rest := by
  unfold escape
  split
  · rfl
  · rfl
  · rfl
  · rfl
  · rfl
  · rfl
  · rfl
  · rename_i notQuote notBackslash _ _ _ _ _
    split
    · rename_i low
      exact run_hex low held rest
    · rename_i high
      simp only [List.cons_append, List.nil_append, run_cons, step, stepText]
      rw [if_neg notQuote, if_neg notBackslash, if_neg high]
      rfl

theorem run_writeChars (chars held rest : List Char) :
    run (.text ⟨held, false, none⟩) (writeChars chars rest) =
      .text (some (String.ofList (held.reverse ++ chars))) :: run .between rest := by
  induction chars generalizing held with
  | nil =>
      rw [List.append_nil]
      rfl
  | cons c chars ih =>
      rw [writeChars, run_escape, ih, List.reverse_cons, List.append_assoc]
      rfl

theorem run_writeString (s : String) (rest : List Char) :
    run .between (writeString s rest) = .text (some s) :: run .between rest := by
  have literal := run_writeChars s.toList [] rest
  rw [List.reverse_nil, List.nil_append, String.ofList_toList] at literal
  exact literal

/-! ### Integers -/

/-- The text ends, or goes on with a mark that ends a value. -/
def EndsValue (rest : List Char) : Prop :=
  ∀ c, rest.head? = some c → c = ',' ∨ c = ']' ∨ c = '\x7d'

def digitOf (c : Char) : Nat := c.toNat - '0'.toNat

theorem digit?_of_isDigit {c : Char} (digit : c.isDigit = true) : digit? c = some (digitOf c) := by
  have bounds : 48 ≤ c.val ∧ c.val ≤ 57 := by
    simpa [Char.isDigit] using digit
  exact if_pos bounds

/-- A numeral that may end does so before a mark that ends values. -/
theorem run_numeral_of_endsValue {place : NumeralPlace} (complete : place.complete = true)
    (numeral : Numeral) {rest : List Char} (ends : EndsValue rest) :
    run (.numeral place numeral) rest = numeralToken numeral :: run .between rest := by
  cases rest with
  | nil =>
      show (if place.complete = true then _ else _) = _
      rw [if_pos complete]
      rfl
  | cons c rest =>
      have noDigit : digit? c = none := by
        rcases ends c rfl with rfl | rfl | rfl <;> decide
      have noMore : extendNumeral place numeral c = none := by
        unfold extendNumeral
        rw [noDigit]
        rcases ends c rfl with rfl | rfl | rfl <;> cases place <;> rfl
      have whole : step (.numeral place numeral) c = (numeralToken numeral :: (start c).1, (start c).2) := by
        simp [step, stepNumeral, noMore, complete, noDigit]
      rw [run_cons, whole]
      rfl

theorem run_whole (numeral : Numeral) {digits rest : List Char}
    (all : ∀ c ∈ digits, c.isDigit = true) (ends : EndsValue rest) :
    run (.numeral .whole numeral) (digits ++ rest) =
      numeralToken { numeral with whole := (digits.map digitOf).reverse ++ numeral.whole } ::
        run .between rest := by
  -- the digits already read stand in the numeral, the last one first
  induction digits generalizing numeral with
  | nil => exact run_numeral_of_endsValue rfl numeral ends
  | cons c digits ih =>
      have digit := digit?_of_isDigit (all c List.mem_cons_self)
      have next : step (.numeral .whole numeral) c =
          ([], .numeral .whole { numeral with whole := digitOf c :: numeral.whole }) := by
        simp [step, stepNumeral, extendNumeral, digit]
      rw [List.cons_append, run_cons, next, List.nil_append,
        ih _ fun d inside => all d (List.mem_cons_of_mem c inside), List.map_cons, List.reverse_cons,
        List.append_assoc]
      rfl

theorem exists_toDigits_eq_cons {n : Nat} (positive : 0 < n) :
    ∃ first digits, 0 < first ∧ first < 10 ∧ Nat.toDigits 10 n = first.digitChar :: digits := by
  induction n using Nat.strongRecOn with
  | ind n ih =>
      by_cases small : n < 10
      · exact ⟨n, [], positive, small, Nat.toDigits_of_lt_base small⟩
      · obtain ⟨first, digits, notZero, single, shape⟩ := ih (n / 10) (by omega) (by omega)
        refine ⟨first, digits ++ [(n % 10).digitChar], notZero, single, ?_⟩
        rw [Nat.toDigits_of_base_le (by decide) (by omega), shape, List.cons_append]

theorem foldl_digitOf_toDigits (n : Nat) :
    ((Nat.toDigits 10 n).map digitOf).foldl (fun value digit => value * 10 + digit) 0 = n := by
  have read := Nat.ofDigitChars_toDigits (b := 10) (n := n) (by decide) (by decide)
  rw [Nat.ofDigitChars_eq_foldl] at read
  simp only [Nat.mul_comm 10] at read
  rw [List.foldl_map]
  exact read

theorem le_foldl_digits (digits : List Nat) (word : Nat) :
    word ≤ digits.foldl (fun value digit => value * 10 + digit) word := by
  induction digits generalizing word with
  | nil => exact Nat.le_refl word
  | cons digit digits ih => exact Nat.le_trans (by omega) (ih (word * 10 + digit))

theorem fillWord_of_lt (digits : List Nat) (word : Nat)
    (small : digits.foldl (fun value digit => value * 10 + digit) word < 2 ^ 64) :
    Numeral.fillWord word digits =
      (digits.foldl (fun value digit => value * 10 + digit) word, []) := by
  induction digits generalizing word with
  | nil => rfl
  | cons digit digits ih =>
      have fits : word * 10 + digit < 2 ^ 64 := Nat.lt_of_le_of_lt (le_foldl_digits digits _) small
      rw [Numeral.fillWord, if_pos fits, ih _ small, List.foldl_cons]

theorem value_toDigits {n : Nat} (fits : FitsWord n) :
    Numeral.value ⟨false, (Nat.toDigits 10 n).map digitOf, [], false, []⟩ = some (.integer n fits) := by
  have small : n < 2 ^ 64 := by
    unfold FitsWord at fits
    omega
  have filled := fillWord_of_lt ((Nat.toDigits 10 n).map digitOf) 0
  rw [foldl_digitOf_toDigits] at filled
  simp [Numeral.value, filled small, fits]

theorem value_neg_toDigits {n : Nat} (positive : 0 < n) (fits : FitsWord (-(n : Int))) :
    Numeral.value ⟨true, (Nat.toDigits 10 n).map digitOf, [], false, []⟩ =
      some (.integer (-(n : Int)) fits) := by
  have small : n ≤ 9223372036854775808 := by
    unfold FitsWord at fits
    omega
  have filled := fillWord_of_lt ((Nat.toDigits 10 n).map digitOf) 0
  rw [foldl_digitOf_toDigits] at filled
  simp [Numeral.value, filled (by omega), fits, Nat.pos_iff_ne_zero.1 positive, small]

/-- Digits from one that is not zero on, perhaps behind a sign. -/
theorem run_digits {n : Nat} (positive : 0 < n) (negative : Bool) {rest : List Char}
    (ends : EndsValue rest) :
    run (.numeral .sign ⟨negative, [], [], false, []⟩) (Nat.toDigits 10 n ++ rest) =
      .number (Numeral.value ⟨negative, (Nat.toDigits 10 n).map digitOf, [], false, []⟩) ::
        run .between rest := by
  obtain ⟨first, digits, notZero, single, shape⟩ := exists_toDigits_eq_cons positive
  have all (c : Char) (inside : c ∈ Nat.toDigits 10 n) : c.isDigit = true :=
    Nat.isDigit_of_mem_toDigits (by decide) (by decide) inside
  rw [shape] at all ⊢
  have value : digitOf first.digitChar = first := by
    interval_cases first <;> rfl
  have next : step (.numeral .sign ⟨negative, [], [], false, []⟩) first.digitChar =
      ([], .numeral .whole ⟨negative, [first], [], false, []⟩) := by
    simp [step, stepNumeral, extendNumeral, digit?_of_isDigit (all _ List.mem_cons_self), value,
      Nat.pos_iff_ne_zero.1 notZero]
  rw [List.cons_append, run_cons, next, List.nil_append,
    run_whole _ (fun c inside => all c (List.mem_cons_of_mem _ inside)) ends]
  simp [numeralToken, inOrder, value]

theorem run_intChars {n : Int} (fits : FitsWord n) {rest : List Char} (ends : EndsValue rest) :
    run .between (intChars n ++ rest) = .number (some (.integer n fits)) :: run .between rest := by
  rcases Int.lt_trichotomy n 0 with below | zero | above
  · obtain ⟨m, rfl⟩ : ∃ m : Nat, n = -(m : Int) := ⟨n.natAbs, by omega⟩
    have positive : 0 < m := by omega
    have shape : intChars (-(m : Int)) = '-' :: Nat.toDigits 10 m := by
      simp [intChars, positive]
    have sign : step .between '-' = ([], .numeral .sign ⟨true, [], [], false, []⟩) := rfl
    rw [shape, List.cons_append, run_cons, sign, List.nil_append, run_digits positive true ends,
      value_neg_toDigits positive fits]
  · subst zero
    have digit : step .between '0' = ([], .numeral .zero ⟨false, [0], [], false, []⟩) := rfl
    have value : Numeral.value ⟨false, [0], [], false, []⟩ = some (.integer 0 fits) :=
      value_toDigits (n := 0) fits
    have shape : intChars 0 = ['0'] := rfl
    rw [shape, List.cons_append, List.nil_append, run_cons, digit, List.nil_append,
      run_numeral_of_endsValue rfl _ ends, ← value]
    rfl
  · obtain ⟨m, rfl⟩ : ∃ m : Nat, n = (m : Int) := ⟨n.natAbs, by omega⟩
    have positive : 0 < m := by omega
    have shape : intChars (m : Int) = Nat.toDigits 10 m := by
      simp [intChars]
    have same : run .between (Nat.toDigits 10 m ++ rest) =
        run (.numeral .sign ⟨false, [], [], false, []⟩) (Nat.toDigits 10 m ++ rest) := by
      obtain ⟨first, digits, notZero, single, shape⟩ := exists_toDigits_eq_cons positive
      rw [shape]
      interval_cases first <;> rfl
    rw [shape, same, run_digits positive false ends, value_toDigits fits]

end Lexer

/-! ### Values -/

namespace Json

open Lexer

theorem endsValue_writeElements (elements : List Json) (rest : List Char) :
    EndsValue (writeElements elements rest) := by
  intro c first
  cases elements <;> simp [writeElements] at first <;> simp [← first]

theorem endsValue_writeMembers (members : List (String × Json)) (rest : List Char) :
    EndsValue (writeMembers members rest) := by
  intro c first
  cases members <;> simp [writeMembers] at first <;> simp [← first]

mutual

theorem run_write (value : Json) (integers : value.IntegersOnly) {rest : List Char}
    (ends : EndsValue rest) :
    run .between (write value rest) = spelling value (run .between rest) := by
  cases value with
  | null => rfl
  | boolean value => cases value <;> rfl
  | number n =>
      cases n with
      | integer n fits => exact run_intChars fits ends
      | float x => exact integers.elim
  | string s => exact run_writeString s rest
  | array elements =>
      cases elements with
      | nil => rfl
      | cons first others =>
          show .openArray :: run .between (write first (writeElements others rest)) = _
          rw [run_write first integers.1 (endsValue_writeElements others rest),
            run_writeElements others integers.2]
          rfl
  | object members =>
      cases members with
      | nil => rfl
      | cons first others =>
          obtain ⟨name, value⟩ := first
          show .openObject :: run .between
            (writeString name (':' :: write value (writeMembers others rest))) = _
          rw [run_writeString]
          show .openObject :: .text (some name) :: .colon ::
            run .between (write value (writeMembers others rest)) = _
          rw [run_write value integers.1 (endsValue_writeMembers others rest),
            run_writeMembers others integers.2]
          rfl

theorem run_writeElements (elements : List Json) (integers : ElementsIntegersOnly elements)
    {rest : List Char} :
    run .between (writeElements elements rest) = elementsSpelling elements (run .between rest) := by
  cases elements with
  | nil => rfl
  | cons element others =>
      show .comma :: run .between (write element (writeElements others rest)) = _
      rw [run_write element integers.1 (endsValue_writeElements others rest),
        run_writeElements others integers.2]
      rfl

theorem run_writeMembers (members : List (String × Json)) (integers : MembersIntegersOnly members)
    {rest : List Char} :
    run .between (writeMembers members rest) = membersSpelling members (run .between rest) := by
  cases members with
  | nil => rfl
  | cons member others =>
      obtain ⟨name, value⟩ := member
      show .comma :: run .between
        (writeString name (':' :: write value (writeMembers others rest))) = _
      rw [run_writeString]
      show .comma :: .text (some name) :: .colon ::
        run .between (write value (writeMembers others rest)) = _
      rw [run_write value integers.1 (endsValue_writeMembers others rest),
        run_writeMembers others integers.2]
      rfl

end

theorem tokens_text {value : Json} (integers : value.IntegersOnly) :
    tokens value.text = spelling value [] := by
  unfold tokens text
  rw [String.toList_ofList]
  exact run_write value integers nofun

end Json
end CompactSchema
