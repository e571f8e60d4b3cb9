import CompactSchema.Proofs.Binary64.Order
import CompactSchema.Proofs.Json.Number

/-
Doubles as signed words.

A conversion to a word drops the fraction of a double, and takes the first or the last word
for what lies beyond them.  Where the stored form of a number is an integer, nothing is
dropped and nothing lies beyond.  The ends of a range of integers are converted as well, and
there 2^63 becomes the word below it; as a double that word is 2^63 again.
-/

namespace CompactSchema

def nearestWord (n : Int) : Int64 := .ofInt (max (-2 ^ 63) (min n (2 ^ 63 - 1)))

/-- The word of a double, without its fraction; a NaN becomes zero. -/
def Binary64.toWord : Binary64 → Int64
  | .nan => 0
  | .infinite negative => if negative then .minValue else .maxValue
  | .finite x => nearestWord (x.signedUnits.tdiv unitsPerOne)

theorem toInt_nearestWord (n : Int) : (nearestWord n).toInt = max (-2 ^ 63) (min n (2 ^ 63 - 1)) := by
  apply Int64.toInt_ofInt_of_le
  · omega
  · omega

theorem nearestWord_le {m n : Int} (le : m ≤ n) : nearestWord m ≤ nearestWord n := by
  rw [Int64.le_iff_toInt_le, toInt_nearestWord, toInt_nearestWord]
  omega

theorem toWord_finite {x : Finite64} {n : Int} (whole : x.signedUnits = n * unitsPerOne) :
    Binary64.toWord (.finite x) = nearestWord n := by
  have unit : (unitsPerOne : Int) ≠ 0 := Int.ne_of_gt (Int.natCast_pos.2 unitsPerOne_pos)
  show nearestWord (x.signedUnits.tdiv unitsPerOne) = nearestWord n
  rw [whole, Int.mul_tdiv_cancel n unit]

namespace Finite64

/-- Doubles with a fraction are small. -/
theorem units_lt_of_not_isIntegral {x : Finite64} (fraction : ¬ x.isIntegral = true) :
    x.units < 2 ^ 53 * unitsPerOne := by
  apply Nat.lt_of_not_le
  intro large
  apply fraction
  have spacing : unitsPerOne ∣ quantum x.units := by
    obtain ⟨k, unit⟩ := exists_unitsPerOne_eq
    rw [unit, ← Nat.pow_add] at large
    apply Nat.dvd_trans _ (quantum_dvd_quantum large)
    unfold quantum
    rw [unit, Nat.log2_two_pow]
    exact Nat.pow_dvd_pow 2 (by omega)
  unfold isIntegral
  rw [beq_iff_eq]
  exact Nat.mod_eq_zero_of_dvd (Nat.dvd_trans spacing x.quantum_dvd_units)

theorem exists_of_small {n : Int} (small : n.natAbs ≤ 2 ^ 53) :
    ∃ y : Finite64, y.signedUnits = n * unitsPerOne := by
  obtain ⟨y, -, rounded⟩ := exists_ofInt_eq_roundedUnits (n := n) (Nat.le_trans small (by decide))
  exact ⟨y, rounded.trans (roundedUnits_of_small small)⟩

theorem natAbs_floor_le {x : Finite64} (small : x.units < 2 ^ 53 * unitsPerOne) :
    x.floor.natAbs ≤ 2 ^ 53 := by
  have unit : (0 : Int) < unitsPerOne := Int.natCast_pos.2 unitsPerOne_pos
  have size := x.natAbs_signedUnits
  have least : -2 ^ 53 ≤ x.floor := by
    apply Int.le_ediv_of_mul_le unit
    omega
  have most : x.floor < 2 ^ 53 := by
    apply Int.ediv_lt_of_lt_mul unit
    omega
  omega

/-- The integer below a double is a double: it is small, or the double has no fraction. -/
theorem exists_floor (x : Finite64) : ∃ y : Finite64, y.signedUnits = x.floor * unitsPerOne := by
  by_cases whole : x.isIntegral = true
  · exact ⟨x, floor_mul_unitsPerOne whole⟩
  · apply exists_of_small
    exact natAbs_floor_le (units_lt_of_not_isIntegral whole)

theorem signedUnits_neg (x : Finite64) : x.neg.signedUnits = -x.signedUnits := by
  obtain ⟨negative, units, held⟩ := x
  cases negative with
  | false => rfl
  | true => exact (Int.neg_neg (units : Int)).symm

theorem exists_ceil (x : Finite64) : ∃ y : Finite64, y.signedUnits = x.ceil * unitsPerOne := by
  obtain ⟨y, below⟩ := x.neg.exists_floor
  apply Exists.intro y.neg
  rw [signedUnits_neg, below, ← Int.neg_mul]
  unfold floor ceil
  rw [signedUnits_neg]

end Finite64

/-- A whole double has an integer part below 2^63 if it is below 2^63 itself. -/
theorem natAbs_quotient_lt_iff {x : Finite64} (whole : x.isIntegral = true) :
    (x.signedUnits / (unitsPerOne : Int)).natAbs < 2 ^ 63 ↔ x.units < 2 ^ 63 * unitsPerOne := by
  have size := congrArg Int.natAbs (Finite64.floor_mul_unitsPerOne whole)
  rw [x.natAbs_signedUnits, Int.natAbs_mul, Int.natAbs_natCast] at size
  rw [size]
  exact (Nat.mul_lt_mul_right unitsPerOne_pos).symm

/-- The integer part of a whole double below 2^63 is the word that the double is converted to. -/
theorem toInt_toWord {x : Finite64} (whole : x.isIntegral = true) (small : x.units < 2 ^ 63 * unitsPerOne) :
    (Binary64.toWord (.finite x)).toInt = x.signedUnits / (unitsPerOne : Int) := by
  have bound := (natAbs_quotient_lt_iff whole).2 small
  rw [toWord_finite (Finite64.floor_mul_unitsPerOne whole), toInt_nearestWord]
  omega

theorem numberValue_of_word {x : Finite64} (whole : x.isIntegral = true)
    (small : x.units < 2 ^ 63 * unitsPerOne) :
    numberValue (.finite x) = .number (.ofInt64 (Binary64.toWord (.finite x))) := by
  unfold numberValue
  dsimp only
  rw [dif_pos ⟨whole, (natAbs_quotient_lt_iff whole).2 small⟩]
  simp only [Number.ofInt64, toInt_toWord whole small]

theorem numberValue_of_not_word {x : Finite64}
    (beyond : ¬ (x.isIntegral = true ∧ x.units < 2 ^ 63 * unitsPerOne)) :
    numberValue (.finite x) = .number (.float x) := by
  unfold numberValue
  apply dif_neg
  intro word
  exact beyond ⟨word.1, (natAbs_quotient_lt_iff word.1).1 word.2⟩

/-- A finite double is stored as a number equal to it: as the word that it is converted to if
it is whole and below 2^63, where the conversion changes nothing, and as itself otherwise.
What is not finite is stored as `null`. -/
theorem numberValue_exact (x : Binary64) :
    match x with
    | .finite x => ∃ n : Number, numberValue (.finite x) = .number n ∧
        n.toBinary64.same (.finite x) = true ∧
        let word := Binary64.toWord (.finite x)
        if x.isIntegral = true ∧ x.units < 2 ^ 63 * unitsPerOne then
          n = .ofInt64 word ∧ x.signedUnits = word.toInt * unitsPerOne
        else n = .float x
    | _ => numberValue x = .null := by
  cases x with
  | nan => rfl
  | infinite negative => rfl
  | finite x =>
      obtain ⟨n, y, written, denotes, same⟩ := exists_numberValue_eq x
      refine ⟨n, written, ?_, ?_⟩
      · rw [denotes]
        exact decide_eq_true same
      · dsimp only
        split
        · rename_i isWord
          have form := written.symm.trans (numberValue_of_word isWord.1 isWord.2)
          constructor
          · exact Json.number.inj form
          · rw [toInt_toWord isWord.1 isWord.2]
            exact Finite64.floor_mul_unitsPerOne isWord.1
        · rename_i beyond
          exact Json.number.inj (written.symm.trans (numberValue_of_not_word beyond))

end CompactSchema
