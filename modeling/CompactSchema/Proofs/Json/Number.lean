import CompactSchema.Json.Value
import CompactSchema.Proofs.Binary64.Rounding
import CompactSchema.Schema.Stored

/-
Numbers read back from their stored form.

Every JSON number denotes a finite double.  A finite double is stored as a number that
denotes it again, up to the sign of zero, and doubles that are equal as numbers have
one stored form.
-/

namespace CompactSchema

/-- The double of a word is the only one at its place. -/
theorem ofInt_exact {n : Int} {y : Finite64} (small : n.natAbs ≤ 2 ^ 64)
    (exact : y.signedUnits = n * unitsPerOne) :
    ∃ x : Finite64, Binary64.ofInt n = .finite x ∧ x.signedUnits = y.signedUnits := by
  obtain ⟨x, rounded, notBelow, notAbove⟩ := exists_ofInt_eq small
  have least := notBelow y (Int.le_of_eq exact)
  have most := notAbove y (Int.le_of_eq exact.symm)
  exact ⟨x, rounded, Int.le_antisymm most least⟩

theorem natAbs_le_of_fitsWord {n : Int} (fits : FitsWord n) : n.natAbs ≤ 2 ^ 64 := by
  obtain ⟨low, high⟩ := fits
  omega

theorem Number.exists_toBinary64_eq (n : Number) : ∃ x : Finite64, n.toBinary64 = .finite x := by
  cases n with
  | integer n fits =>
      obtain ⟨x, rounded, _⟩ := exists_ofInt_eq (natAbs_le_of_fitsWord fits)
      exact ⟨x, rounded⟩
  | float x => exact ⟨x, rfl⟩

namespace Finite64

theorem isIntegral_iff (x : Finite64) : x.isIntegral = true ↔ (unitsPerOne : Int) ∣ x.signedUnits := by
  unfold isIntegral
  rw [beq_iff_eq, ← Nat.dvd_iff_mod_eq_zero, ← x.natAbs_signedUnits]
  exact Int.ofNat_dvd_left.symm

theorem floor_mul_unitsPerOne {x : Finite64} (whole : x.isIntegral = true) :
    x.signedUnits = x.signedUnits / (unitsPerOne : Int) * unitsPerOne :=
  (Int.ediv_mul_cancel (x.isIntegral_iff.1 whole)).symm

/-- Doubles that are not zero are known by their signed counts. -/
theorem eq_of_signedUnits_eq {x y : Finite64} (same : x.signedUnits = y.signedUnits)
    (nonzero : x.signedUnits ≠ 0) : x = y := by
  obtain ⟨negative, units, held⟩ := x
  obtain ⟨negative', units', held'⟩ := y
  cases negative with
  | false =>
      cases negative' with
      | false =>
          have equal : units = units' := Int.ofNat.inj same
          subst equal
          rfl
      | true =>
          have opposite : (units : Int) = -units' := same
          have counted : (units : Int) ≠ 0 := nonzero
          omega
  | true =>
      cases negative' with
      | false =>
          have opposite : -(units : Int) = units' := same
          have counted : -(units : Int) ≠ 0 := nonzero
          omega
      | true =>
          have opposite : -(units : Int) = -units' := same
          have equal : units = units' := by omega
          subst equal
          rfl

end Finite64

/-- A finite double is stored as a number that denotes it. -/
theorem exists_numberValue_eq (x : Finite64) :
    ∃ (n : Number) (y : Finite64), numberValue (.finite x) = .number n ∧
      n.toBinary64 = .finite y ∧ y.signedUnits = x.signedUnits := by
  unfold numberValue
  dsimp only
  split
  · rename_i whole
    obtain ⟨y, rounded, same⟩ := ofInt_exact (n := x.signedUnits / (unitsPerOne : Int))
      (by omega) (Finite64.floor_mul_unitsPerOne whole.1)
    exact ⟨_, y, rfl, rounded, same⟩
  · exact ⟨.float x, x, rfl, rfl, rfl⟩

theorem numberValue_eq_of_signedUnits_eq {x y : Finite64} (same : x.signedUnits = y.signedUnits) :
    numberValue (.finite x) = numberValue (.finite y) := by
  by_cases zero : x.signedUnits = 0
  · have zero' : y.signedUnits = 0 := same ▸ zero
    have whole : x.isIntegral = true := x.isIntegral_iff.2 (zero ▸ Int.dvd_zero _)
    have whole' : y.isIntegral = true := y.isIntegral_iff.2 (zero' ▸ Int.dvd_zero _)
    simp only [numberValue, whole, whole', zero, zero', true_and, Int.zero_ediv]
    rfl
  · rw [Finite64.eq_of_signedUnits_eq same zero]

namespace Binary64

theorem le_finite_iff {x y : Finite64} :
    Binary64.le (.finite x) (.finite y) = true ↔ x.signedUnits ≤ y.signedUnits := by
  simp only [le, lt, same, Bool.or_eq_true, decide_eq_true_eq]
  omega

/-- Where neither is a NaN, not above is not greater. -/
theorem le_iff_lt_eq_false {x y : Binary64} (finiteLeft : x.isFinite = true)
    (finiteRight : y.isFinite = true) : x.le y = true ↔ y.lt x = false := by
  cases x with
  | finite x =>
      cases y with
      | finite y => rw [le_finite_iff, lt, decide_eq_false_iff_not, Int.not_lt]
      | _ => cases finiteRight
  | _ => cases finiteLeft

end Binary64

namespace Binary64

theorem lt_congr_left {x x' : Binary64} (same : x.same x' = true) (y : Binary64) :
    x.lt y = x'.lt y := by
  cases x with
  | nan => cases same
  | finite x => cases x' <;> cases y <;> simp_all [Binary64.same, Binary64.lt]
  | infinite negative => cases x' <;> simp_all [Binary64.same]

theorem lt_congr_right {y y' : Binary64} (same : y.same y' = true) (x : Binary64) :
    x.lt y = x.lt y' := by
  cases y with
  | nan => cases same
  | finite y =>
      cases y' with
      | finite y' =>
          cases x with
          | infinite negative => cases negative <;> rfl
          | _ => simp_all [Binary64.same, Binary64.lt]
      | _ => cases same
  | infinite negative => cases y' <;> simp_all [Binary64.same]

theorem same_trans {x y z : Binary64} (first : x.same y = true) (second : y.same z = true) :
    x.same z = true := by
  cases x <;> cases y <;> cases z <;> simp_all [same]

theorem lt_trans {x y z : Binary64} (first : x.lt y = true) (second : y.lt z = true) : x.lt z = true := by
  rcases x with _ | (_ | _) | x <;> rcases y with _ | (_ | _) | y <;> rcases z with _ | (_ | _) | z <;>
    simp_all [lt]
  exact Int.lt_trans first second

theorem lt_of_lt_of_le {x y z : Binary64} (first : x.lt y = true) (second : y.le z = true) :
    x.lt z = true := by
  rcases Bool.or_eq_true_iff.1 second with less | same
  · exact lt_trans first less
  · rw [← lt_congr_right same]
    exact first

theorem lt_of_le_of_lt {x y z : Binary64} (first : x.le y = true) (second : y.lt z = true) :
    x.lt z = true := by
  rcases Bool.or_eq_true_iff.1 first with less | same
  · exact lt_trans less second
  · rw [lt_congr_left same]
    exact second

end Binary64

theorem exists_numberValue_same {x : Binary64} (finite : x.isFinite = true) :
    ∃ n : Number, numberValue x = .number n ∧ x.same n.toBinary64 = true := by
  cases x with
  | finite x =>
      obtain ⟨n, y, written, denotes, same⟩ := exists_numberValue_eq x
      refine ⟨n, written, ?_⟩
      rw [denotes]
      exact decide_eq_true same.symm
  | infinite negative => cases finite
  | nan => cases finite

end CompactSchema
