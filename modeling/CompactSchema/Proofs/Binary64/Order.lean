import CompactSchema.Proofs.Binary64.Rounding

/-
Rounding keeps the order.

A smaller count is never rounded above a larger one, so integers keep their order as
doubles, except that different ones may become equal.  An integer of at most 53 bits is
a double itself, and beside it no other integer becomes equal to it.
-/

namespace CompactSchema

theorem roundQuotient_one_of_dvd {n : Nat} (held : quantum n ∣ n) : roundQuotient n 1 = n :=
  Nat.le_antisymm (roundQuotient_one_le held (Nat.le_refl n)) (le_roundQuotient_one held (Nat.le_refl n))

/-- A count is rounded to one of the multiples of its spacing around it. -/
theorem roundQuotient_one_mem (n : Nat) :
    n / quantum n * quantum n ≤ roundQuotient n 1 ∧
      roundQuotient n 1 ≤ (n / quantum n + 1) * quantum n := by
  rcases roundQuotient_one_cases n with down | ⟨up, _⟩
  · rw [down]
    exact ⟨Nat.le_refl _, Nat.mul_le_mul_right _ (Nat.le_succ _)⟩
  · rw [up]
    exact ⟨Nat.mul_le_mul_right _ (Nat.le_succ _), Nat.le_refl _⟩

/-- Between the same two multiples the larger count is rounded up if the smaller one is. -/
theorem roundQuotient_one_mono_of_div_eq {m n : Nat} (le : m ≤ n) (spacing : quantum m = quantum n)
    (same : m / quantum n = n / quantum n) : roundQuotient m 1 ≤ roundQuotient n 1 := by
  have rests : m % quantum n ≤ n % quantum n := by
    have parts := Nat.div_add_mod m (quantum n)
    have parts' := Nat.div_add_mod n (quantum n)
    rw [same] at parts
    omega
  unfold roundQuotient
  simp only [Nat.div_one, Nat.one_mul, spacing, same]
  split
  · rename_i up
    exact Nat.le_of_eq (if_pos (by omega)).symm
  · split
    · exact Nat.mul_le_mul_right _ (Nat.le_succ _)
    · exact Nat.le_refl _

theorem roundQuotient_one_mono {m n : Nat} (le : m ≤ n) : roundQuotient m 1 ≤ roundQuotient n 1 := by
  by_cases binade : m.log2 = n.log2
  · have spacing : quantum m = quantum n := by
      unfold quantum
      rw [binade]
    by_cases same : m / quantum n = n / quantum n
    · exact roundQuotient_one_mono_of_div_eq le spacing same
    · have next : m / quantum n + 1 ≤ n / quantum n := by
        have := Nat.div_le_div_right (c := quantum n) le
        omega
      calc
        roundQuotient m 1 ≤ (m / quantum m + 1) * quantum m := (roundQuotient_one_mem m).2
        _ = (m / quantum n + 1) * quantum n := by rw [spacing]
        _ ≤ n / quantum n * quantum n := Nat.mul_le_mul_right _ next
        _ ≤ roundQuotient n 1 := (roundQuotient_one_mem n).1
  · obtain ⟨below, start⟩ := lt_two_pow_log2_of_ne le binade
    calc
      roundQuotient m 1 ≤ 2 ^ n.log2 := roundQuotient_one_le (quantum_dvd_two_pow _) (Nat.le_of_lt below)
      _ ≤ roundQuotient n 1 := le_roundQuotient_one (quantum_dvd_two_pow _) start

/-- The signed count of the double nearest to an integer. -/
def roundedUnits (n : Int) : Int :=
  if n < 0 then -(roundQuotient (n.natAbs * unitsPerOne) 1) else roundQuotient (n.natAbs * unitsPerOne) 1

theorem roundedUnits_mono {m n : Int} (le : m ≤ n) : roundedUnits m ≤ roundedUnits n := by
  unfold roundedUnits
  by_cases negative : n < 0
  · have further : n.natAbs * unitsPerOne ≤ m.natAbs * unitsPerOne := Nat.mul_le_mul_right _ (by omega)
    have rounded := roundQuotient_one_mono further
    rw [if_pos negative, if_pos (by omega)]
    omega
  · rw [if_neg negative]
    by_cases negative' : m < 0
    · rw [if_pos negative']
      omega
    · have nearer : m.natAbs * unitsPerOne ≤ n.natAbs * unitsPerOne := Nat.mul_le_mul_right _ (by omega)
      have rounded := roundQuotient_one_mono nearer
      rw [if_neg negative']
      omega

theorem roundedUnits_of_dvd {n : Int} (held : quantum (n.natAbs * unitsPerOne) ∣ n.natAbs * unitsPerOne) :
    roundedUnits n = n * unitsPerOne := by
  have size : (n * unitsPerOne).natAbs = n.natAbs * unitsPerOne := by
    rw [Int.natAbs_mul, Int.natAbs_natCast]
  have unit : (0 : Int) < unitsPerOne := Int.natCast_pos.2 unitsPerOne_pos
  unfold roundedUnits
  rw [roundQuotient_one_of_dvd held, ← size]
  split
  · rename_i negative
    have sign := Int.mul_neg_of_neg_of_pos negative unit
    omega
  · rename_i notNegative
    have sign := Int.mul_nonneg (Int.not_lt.1 notNegative) (Int.le_of_lt unit)
    omega

theorem roundedUnits_of_double {n : Int} {x : Finite64} (exact : x.signedUnits = n * unitsPerOne) :
    roundedUnits n = x.signedUnits := by
  have count : n.natAbs * unitsPerOne = x.units := by
    rw [← x.natAbs_signedUnits, exact, Int.natAbs_mul, Int.natAbs_natCast]
  rw [exact]
  apply roundedUnits_of_dvd
  rw [count]
  exact x.quantum_dvd_units

theorem roundedUnits_of_small {n : Int} (small : n.natAbs ≤ 2 ^ 53) : roundedUnits n = n * unitsPerOne := by
  apply roundedUnits_of_dvd
  obtain ⟨k, unit⟩ := exists_unitsPerOne_eq
  rw [unit]
  exact two_pow_dvd_mul_two_pow small

theorem exists_ofInt_eq_roundedUnits {n : Int} (small : n.natAbs ≤ 2 ^ 64) :
    ∃ x : Finite64, Binary64.ofInt n = .finite x ∧ x.signedUnits = roundedUnits n := by
  have bound := roundQuotient_word_lt small
  unfold Binary64.ofInt Binary64.ofQuotient
  rw [dif_pos bound]
  refine ⟨_, rfl, ?_⟩
  simp only [Finite64.signedUnits, roundedUnits, decide_eq_true_eq]

/-- Beside an integer below 2^53 different integers stay different. -/
theorem roundedUnits_strictMono {m n : Int} (less : m < n) (small : m.natAbs < 2 ^ 53 ∨ n.natAbs < 2 ^ 53) :
    roundedUnits m < roundedUnits n := by
  have unit : (0 : Int) < unitsPerOne := Int.natCast_pos.2 unitsPerOne_pos
  rcases small with lower | upper
  · calc
      roundedUnits m = m * unitsPerOne := roundedUnits_of_small (by omega)
      _ < (m + 1) * unitsPerOne := Int.mul_lt_mul_of_pos_right (by omega) unit
      _ = roundedUnits (m + 1) := (roundedUnits_of_small (by omega)).symm
      _ ≤ roundedUnits n := roundedUnits_mono (by omega)
  · calc
      roundedUnits m ≤ roundedUnits (n - 1) := roundedUnits_mono (by omega)
      _ = (n - 1) * unitsPerOne := roundedUnits_of_small (by omega)
      _ < n * unitsPerOne := Int.mul_lt_mul_of_pos_right (by omega) unit
      _ = roundedUnits n := (roundedUnits_of_small (by omega)).symm

theorem roundedUnits_le_iff {m n : Int} (small : m.natAbs < 2 ^ 53 ∨ n.natAbs < 2 ^ 53) :
    roundedUnits m ≤ roundedUnits n ↔ m ≤ n := by
  constructor
  · intro rounded
    apply Int.not_lt.1
    intro less
    have strict := roundedUnits_strictMono less small.symm
    omega
  · exact roundedUnits_mono

theorem roundedUnits_inj {m n : Int} (small : m.natAbs < 2 ^ 53 ∨ n.natAbs < 2 ^ 53) :
    roundedUnits m = roundedUnits n ↔ m = n := by
  rw [Int.le_antisymm_iff, Int.le_antisymm_iff, roundedUnits_le_iff small, roundedUnits_le_iff small.symm]

end CompactSchema
