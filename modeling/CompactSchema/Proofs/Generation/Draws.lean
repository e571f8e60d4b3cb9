import CompactSchema.Proofs.Binary64.Words
import CompactSchema.Proofs.Generation.Returns
import CompactSchema.Proofs.Json.Number
import CompactSchema.Proofs.Validation.Conformance

/-
What is drawn from a source that keeps its promises.

Lengths and numbers lie within the bounds that their ranges come from.  An integer is
drawn from the integers of a range, whose ends are doubles, and becomes a double when it
is compared with them: no rounding carries it past an end, since the ends themselves are
doubles.
-/

namespace CompactSchema

namespace LengthBounds

theorem ends_of_range {bounds : LengthBounds} {defaults : LengthDefaults} {range : LengthRange}
    (found : bounds.range defaults = .ok range) :
    range.least = (bounds.effectiveLeast defaults).toNat ∧
      range.most = min (bounds.effectiveMost defaults).toNat lengthLimit := by
  unfold LengthBounds.range at found
  dsimp only at found
  split at found
  · split at found
    · cases found
      exact ⟨rfl, rfl⟩
    · cases found
  · cases found

theorem allow_of_range {bounds : LengthBounds} {defaults : LengthDefaults} {range : LengthRange}
    (found : bounds.range defaults = .ok range) {n : Nat} (low : range.least ≤ n)
    (high : n ≤ range.most) : bounds.Allow n := by
  obtain ⟨leastIs, mostIs⟩ := ends_of_range found
  rw [leastIs] at low
  rw [mostIs] at high
  constructor
  · intro least explicit
    have same : bounds.effectiveLeast defaults = least := by
      rw [effectiveLeast, explicit]
    rw [← same]
    exact low
  · intro most explicit
    have same : bounds.effectiveMost defaults = most := by
      rw [effectiveMost, explicit]
    rw [← same]
    exact Nat.le_trans high (Nat.min_le_left _ _)

end LengthBounds

namespace LengthRange

variable (range : LengthRange)

theorem toInt_ofNat :
    (Int64.ofNat range.least).toInt = range.least ∧ (Int64.ofNat range.most).toInt = range.most := by
  have limited : range.most ≤ 10000 := range.limited
  have ordered := range.ordered
  exact ⟨Int64.toInt_ofNat_of_lt (by omega), Int64.toInt_ofNat_of_lt (by omega)⟩

theorem ofNat_least_le : Int64.ofNat range.least ≤ Int64.ofNat range.most := by
  rw [Int64.le_iff_toInt_le, range.toInt_ofNat.1, range.toInt_ofNat.2]
  exact Int.ofNat_le.2 range.ordered

end LengthRange

namespace NumberRange

def Holds (range : NumberRange) (x : Finite64) : Prop :=
  range.least.signedUnits ≤ x.signedUnits ∧ x.signedUnits ≤ range.most.signedUnits

end NumberRange

namespace NumberConstraints

theorem within_of_range {constraints : NumberConstraints} {range : NumberRange}
    (found : constraints.range = .ok range) {x : Finite64} (held : range.Holds x) :
    constraints.Within (.finite x) := by
  obtain ⟨low, high⟩ := held
  unfold NumberConstraints.range at found
  split at found
  · rename_i lo hi leastIs mostIs
    split at found
    · cases found
      constructor
      · intro least explicit
        have same : constraints.effectiveLeast = least := by
          rw [effectiveLeast, explicit]
        rw [← same, leastIs]
        exact decide_eq_false (Int.not_lt.2 low)
      · intro most explicit
        have same : constraints.effectiveMost = most := by
          rw [effectiveMost, explicit]
        rw [← same, mostIs]
        exact decide_eq_false (Int.not_lt.2 high)
    · cases found
  · cases found

end NumberConstraints

namespace Finite64

theorem floor_mul_le (x : Finite64) : x.floor * unitsPerOne ≤ x.signedUnits :=
  Int.ediv_mul_le _ (Int.ne_of_gt (Int.natCast_pos.2 unitsPerOne_pos))

theorem le_ceil_mul (x : Finite64) : x.signedUnits ≤ x.ceil * unitsPerOne := by
  have below := Int.ediv_mul_le (-x.signedUnits) (Int.ne_of_gt (Int.natCast_pos.2 unitsPerOne_pos))
  unfold ceil
  rw [Int.neg_mul]
  omega

end Finite64

namespace NumberRange

theorem toInt_of_integers {range : NumberRange} {least most : Int64}
    (integers : range.integers? = some (least, most)) :
    least.toInt = min range.least.ceil (2 ^ 63 - 1) ∧ most.toInt = min range.most.floor (2 ^ 63 - 1) ∧
      range.least.ceil ≤ range.most.floor ∧ range.most.floor ≤ 2 ^ 63 := by
  unfold integers? at integers
  dsimp only at integers
  split at integers
  · rename_i guard
    obtain ⟨ordered, notBelow, notAbove⟩ := guard
    cases integers
    refine ⟨?_, ?_, ordered, notAbove⟩
    · exact Int64.toInt_ofInt_of_le (by omega) (by omega)
    · exact Int64.toInt_ofInt_of_le (by omega) (by omega)
  · cases integers

theorem le_of_integers {range : NumberRange} {least most : Int64}
    (integers : range.integers? = some (least, most)) : least ≤ most := by
  obtain ⟨leastIs, mostIs, ordered, _⟩ := toInt_of_integers integers
  rw [Int64.le_iff_toInt_le, leastIs, mostIs]
  omega

/-- An integer between the integers of a range is, as a double, in the range.  It may be
one less than the least integer, when that is 2^63, and is then rounded up to it. -/
theorem exists_ofInt64_holds {range : NumberRange} {least most n : Int64}
    (integers : range.integers? = some (least, most)) (low : least ≤ n) (high : n ≤ most) :
    ∃ x : Finite64, (Number.ofInt64 n).toBinary64 = .finite x ∧ range.Holds x := by
  have unit : (0 : Int) ≤ unitsPerOne := Int.natCast_nonneg _
  have ceil := range.least.le_ceil_mul
  have floor := range.most.floor_mul_le
  obtain ⟨leastIs, mostIs, ordered, notAbove⟩ := toInt_of_integers integers
  rw [Int64.le_iff_toInt_le, leastIs] at low
  rw [Int64.le_iff_toInt_le, mostIs] at high
  by_cases last : range.least.ceil = 2 ^ 63
  -- The only integer that is drawn from outside the range; rounding brings it back.
  · have value : n.toInt = 2 ^ 63 - 1 := by omega
    obtain ⟨x, rounded, exact⟩ := exists_ofInt_lastSigned
    refine ⟨x, ?_, ?_, ?_⟩
    · show Binary64.ofInt n.toInt = _
      rw [value, rounded]
    · rw [exact, ← last]
      exact ceil
    · rw [exact]
      exact Int.le_trans (Int.mul_le_mul_of_nonneg_right (by omega) unit) floor
  · have small : n.toInt.natAbs ≤ 2 ^ 64 := by
      have least := n.le_toInt
      have most := n.toInt_lt
      omega
    obtain ⟨x, rounded, notLess, notMore⟩ := exists_ofInt_eq small
    refine ⟨x, rounded, notLess _ ?_, notMore _ ?_⟩
    · exact Int.le_trans ceil (Int.mul_le_mul_of_nonneg_right (by omega) unit)
    · exact Int.le_trans (Int.mul_le_mul_of_nonneg_right (by omega) unit) floor

theorem integers?_eq_some {range : NumberRange} (filled : range.least.ceil ≤ range.most.floor)
    (low : -2 ^ 63 ≤ range.least.ceil) (high : range.most.floor ≤ 2 ^ 63) :
    range.integers? = some (nearestWord range.least.ceil, nearestWord range.most.floor) := by
  have clamped (n : Int) (above : -2 ^ 63 ≤ n) :
      max (-2 ^ 63) (min n (2 ^ 63 - 1)) = min n (2 ^ 63 - 1) := by omega
  unfold integers? nearestWord
  rw [clamped _ low, clamped _ (Int.le_trans low filled)]
  exact if_pos ⟨filled, low, high⟩

/-- The least and the greatest integer of a range are doubles.  If they lie within the words
and 2^63, integers are drawn between the words of the two, which are in order, and each of
these integers is, as a double, in the range. -/
theorem words_within (range : NumberRange) (filled : range.least.ceil ≤ range.most.floor)
    (low : -2 ^ 63 ≤ range.least.ceil) (high : range.most.floor ≤ 2 ^ 63) :
    ∃ up down : Finite64, up.signedUnits = range.least.ceil * unitsPerOne ∧
      down.signedUnits = range.most.floor * unitsPerOne ∧
      let least := Binary64.toWord (.finite up)
      let most := Binary64.toWord (.finite down)
      range.integers? = some (least, most) ∧ least ≤ most ∧
        ∀ n, least ≤ n → n ≤ most →
          Binary64.le (.finite range.least) (Number.ofInt64 n).toBinary64 = true ∧
          Binary64.le (Number.ofInt64 n).toBinary64 (.finite range.most) = true := by
  obtain ⟨up, upIs⟩ := range.least.exists_ceil
  obtain ⟨down, downIs⟩ := range.most.exists_floor
  have integers := integers?_eq_some filled low high
  refine ⟨up, down, upIs, downIs, ?_⟩
  dsimp only
  rw [toWord_finite upIs, toWord_finite downIs]
  refine ⟨integers, nearestWord_le filled, ?_⟩
  intro n above below
  obtain ⟨x, denotes, held⟩ := exists_ofInt64_holds integers above below
  rw [denotes, Binary64.le_finite_iff, Binary64.le_finite_iff]
  exact held

/-- A range that holds 2^63 alone: the last word is drawn, and it is 2^63 as a double. -/
theorem words_within_beyond_last :
    let beyond : Finite64 := ⟨false, 2 ^ 63 * unitsPerOne, by decide +kernel⟩
    let range : NumberRange := ⟨beyond, beyond, Int.le_refl _⟩
    range.integers? = some (.maxValue, .maxValue) ∧
      Binary64.le (.finite beyond) (Number.ofInt64 .maxValue).toBinary64 = true ∧
      Binary64.le (Number.ofInt64 .maxValue).toBinary64 (.finite beyond) = true := by
  intro beyond range
  have least : range.least.ceil = 2 ^ 63 := by decide +kernel
  have most : range.most.floor = 2 ^ 63 := by decide +kernel
  obtain ⟨up, down, upIs, downIs, integers, -, held⟩ := range.words_within
    (Int.le_of_eq (least.trans most.symm)) (by rw [least]; decide) (Int.le_of_eq most)
  have word : nearestWord (2 ^ 63) = .maxValue := by decide
  rw [toWord_finite upIs, toWord_finite downIs, least, most, word] at integers
  rw [toWord_finite upIs, toWord_finite downIs, least, most, word] at held
  exact ⟨integers, held .maxValue (by decide) (by decide)⟩

end NumberRange

def StringFormat.IsKnown : StringFormat → Prop
  | .other _ => False
  | _ => True

namespace Generate

variable {σ : Type} {source : RandomSource σ}

theorem length_answers (contract : source.Contract) (range : LengthRange) :
    Answers (length source range) fun n => range.least ≤ n ∧ n ≤ range.most := by
  obtain ⟨leastIs, mostIs⟩ := range.toInt_ofNat
  intro state
  obtain ⟨low, high⟩ := contract.intInRange _ _ state range.ofNat_least_le
  rw [Int64.le_iff_toInt_le, leastIs] at low
  rw [Int64.le_iff_toInt_le, mostIs] at high
  have notNegative : 0 ≤ ((source.intInRange (.ofNat range.least) (.ofNat range.most)).run state).1 := by
    rw [Int64.le_iff_toInt_le, Int64.toInt_zero]
    omega
  show range.least ≤ ((source.intInRange _ _).run state).1.toUInt64.toNat ∧
    ((source.intInRange _ _).run state).1.toUInt64.toNat ≤ range.most
  rw [Int64.toNat_toUInt64_of_le notNegative, ← Int64.toNat_toInt]
  omega

theorem letters_answers (contract : source.Contract) (range : LengthRange) :
    Answers (letters source range) fun text =>
      (range.least ≤ text.length ∧ text.length ≤ range.most) ∧ ∀ c ∈ text.toList, IsLetter c := by
  refine Answers.bind (length_answers contract range) fun n within state => ?_
  obtain ⟨exact, letters⟩ := contract.alpha n state
  have exact : ((source.alpha n).run state).1.length = n := exact
  rw [exact]
  exact ⟨within, letters⟩

theorem member_returns {α : Type} (contract : source.Contract) (members : List α) :
    Generation.Returns (member source members) (· ∈ members) := by
  cases members with
  | nil => exact .throw _ _
  | cons first others =>
      have inside : Answers (source.index (first :: others).length) (· < (first :: others).length) :=
        fun state => contract.index _ state (Nat.succ_pos _)
      refine .bind (.draw inside) fun i less => .pure ?_
      rw [List.getD_eq_getElem?_getD, List.getElem?_eq_getElem less]
      exact List.getElem_mem less

/-- The value is a number, and as a double it is good. -/
def IsNumber (good : Finite64 → Prop) (value : Json) : Prop :=
  ∃ (n : Number) (x : Finite64), value = .number n ∧ n.toBinary64 = .finite x ∧ good x

theorem isNumber_numberValue {good : Finite64 → Prop} {x : Finite64}
    (here : ∀ y : Finite64, y.signedUnits = x.signedUnits → good y) :
    IsNumber good (numberValue (.finite x)) := by
  obtain ⟨n, y, written, denotes, same⟩ := exists_numberValue_eq x
  exact ⟨n, y, written, denotes, here y same⟩

theorem numberWithin_answers (contract : source.Contract) (range : NumberRange) :
    Answers (numberWithin source range) (IsNumber range.Holds) := by
  unfold numberWithin
  split
  · rename_i least most integers
    have inOrder : least ≤ most := range.le_of_integers integers
    have drawn : Answers (source.intInRange least most) fun n => least ≤ n ∧ n ≤ most :=
      fun state => contract.intInRange least most state inOrder
    refine Answers.bind drawn fun n within => .pure ?_
    obtain ⟨x, denotes, held⟩ := NumberRange.exists_ofInt64_holds integers within.1 within.2
    exact ⟨_, x, rfl, denotes, held⟩
  · have inOrder : Binary64.le (.finite range.least) (.finite range.most) = true :=
      Binary64.le_finite_iff.2 range.ordered
    have drawn : Answers (source.floatInRange (.finite range.least) (.finite range.most))
        fun number => ∃ x : Finite64, number = .finite x ∧ range.Holds x := by
      intro state
      obtain ⟨finite, low, high⟩ := contract.floatInRange _ _ state rfl rfl inOrder
      cases answer : ((source.floatInRange (.finite range.least) (.finite range.most)).run state).1 with
      | finite x =>
          rw [answer] at low high
          exact ⟨x, rfl, Binary64.le_finite_iff.1 low, Binary64.le_finite_iff.1 high⟩
      | infinite negative =>
          rw [answer] at finite
          cases finite
      | nan =>
          rw [answer] at finite
          cases finite
    refine Answers.bind drawn fun number held => .pure ?_
    obtain ⟨x, same, low, high⟩ := held
    rw [same]
    refine isNumber_numberValue fun y equal => ?_
    unfold NumberRange.Holds
    rw [equal]
    exact ⟨low, high⟩

end Generate
end CompactSchema
