import CompactSchema.Binary64.Basic

/-
Rounding to the nearest double.

The spacing of doubles grows with their size, so a smaller spacing divides a larger
one.  From this, rounding never crosses a double: a count between two doubles is
rounded to one between them, and a count that is a double stays as it is.
-/

namespace CompactSchema

theorem quantum_pos (units : Nat) : 0 < quantum units := Nat.two_pow_pos _

theorem log2_le_log2 {m n : Nat} (le : m ≤ n) : m.log2 ≤ n.log2 := by
  by_cases zero : m = 0
  · subst zero
    rw [Nat.log2_zero]
    exact Nat.zero_le _
  · have positive : n ≠ 0 := by omega
    exact (Nat.le_log2 positive).2 (Nat.le_trans (Nat.log2_self_le zero) le)

/-- Doubles are closer together where they are smaller. -/
theorem quantum_dvd_quantum {m n : Nat} (le : m ≤ n) : quantum m ∣ quantum n := by
  have logs := log2_le_log2 le
  exact Nat.pow_dvd_pow 2 (by omega)

/-- Between counts of different binades lies the power of two that begins the upper one. -/
theorem lt_two_pow_log2_of_ne {m n : Nat} (le : m ≤ n) (apart : m.log2 ≠ n.log2) :
    m < 2 ^ n.log2 ∧ 2 ^ n.log2 ≤ n := by
  have logs := log2_le_log2 le
  have nonzero : n ≠ 0 := by
    intro zero
    subst zero
    rw [Nat.log2_zero] at logs apart
    omega
  constructor
  · by_cases zero : m = 0
    · rw [zero]
      exact Nat.two_pow_pos _
    · exact (Nat.log2_lt zero).1 (by omega)
  · exact Nat.log2_self_le nonzero

/-- A count in the same binade or above it is not less than any double below. -/
theorem le_floor_of_le {r n : Nat} (held : quantum r ∣ r) (le : r ≤ n) :
    r ≤ n / quantum n * quantum n := by
  by_cases same : r.log2 = n.log2
  · have step : quantum n ∣ r := by
      unfold quantum at held ⊢
      rw [← same]
      exact held
    obtain ⟨k, multiple⟩ := step
    rw [Nat.mul_comm] at multiple
    rw [multiple]
    apply Nat.mul_le_mul_right
    rw [Nat.le_div_iff_mul_le (quantum_pos n), ← multiple]
    exact le
  · -- The binade of `n` begins at a multiple of its spacing, and `r` lies below it.
    obtain ⟨below, start⟩ := lt_two_pow_log2_of_ne le same
    have multiple : 2 ^ n.log2 = 2 ^ n.log2 / quantum n * quantum n := by
      rw [Nat.div_mul_cancel]
      exact Nat.pow_dvd_pow 2 (by omega)
    calc
      r ≤ 2 ^ n.log2 := Nat.le_of_lt below
      _ = 2 ^ n.log2 / quantum n * quantum n := multiple
      _ ≤ n / quantum n * quantum n :=
          Nat.mul_le_mul_right _ (Nat.div_le_div_right start)

/-- A count is rounded to one of the two multiples of its spacing around it, and stays
if it is one. -/
theorem roundQuotient_one_cases (n : Nat) :
    (roundQuotient n 1 = n / quantum n * quantum n) ∨
      (roundQuotient n 1 = (n / quantum n + 1) * quantum n ∧ n % quantum n ≠ 0) := by
  have positive := quantum_pos n
  unfold roundQuotient
  simp only [Nat.div_one, Nat.one_mul]
  split
  · rename_i up
    right
    refine ⟨rfl, ?_⟩
    intro exact
    rw [exact] at up
    omega
  · left
    rfl

theorem le_roundQuotient_one {r n : Nat} (held : quantum r ∣ r) (le : r ≤ n) :
    r ≤ roundQuotient n 1 := by
  have floor := le_floor_of_le held le
  rcases roundQuotient_one_cases n with down | ⟨up, _⟩
  · rw [down]
    exact floor
  · rw [up, Nat.succ_mul]
    omega

theorem roundQuotient_one_le {r n : Nat} (held : quantum r ∣ r) (le : n ≤ r) :
    roundQuotient n 1 ≤ r := by
  have split := Nat.div_add_mod n (quantum n)
  rw [Nat.mul_comm] at split
  rcases roundQuotient_one_cases n with down | ⟨up, inexact⟩
  · omega
  · obtain ⟨k, multiple⟩ := Nat.dvd_trans (quantum_dvd_quantum le) held
    rw [Nat.mul_comm] at multiple
    rw [up, multiple]
    apply Nat.mul_le_mul_right
    have less : n / quantum n * quantum n < k * quantum n := by omega
    have := Nat.lt_of_mul_lt_mul_right less
    omega

theorem exists_unitsPerOne_eq : ∃ k, unitsPerOne = 2 ^ k := by
  unfold unitsPerOne
  exact ⟨_, rfl⟩

theorem exists_unitLimit_eq : ∃ k, 64 < k ∧ unitLimit = 2 ^ k * unitsPerOne := by
  unfold unitLimit
  exact ⟨1024, by omega, rfl⟩

theorem unitsPerOne_pos : 0 < unitsPerOne := by
  obtain ⟨k, power⟩ := exists_unitsPerOne_eq
  rw [power]
  exact Nat.two_pow_pos k

theorem quantum_dvd_two_pow (k : Nat) : quantum (2 ^ k) ∣ 2 ^ k := by
  unfold quantum
  rw [Nat.log2_two_pow]
  exact Nat.pow_dvd_pow 2 (by omega)

theorem roundQuotient_word_lt {n : Nat} (small : n ≤ 2 ^ 64) :
    roundQuotient (n * unitsPerOne) 1 < unitLimit := by
  have power : quantum (2 ^ 64 * unitsPerOne) ∣ 2 ^ 64 * unitsPerOne := by
    obtain ⟨k, unit⟩ := exists_unitsPerOne_eq
    rw [unit, ← Nat.pow_add]
    exact quantum_dvd_two_pow (64 + k)
  have rounded : roundQuotient (n * unitsPerOne) 1 ≤ 2 ^ 64 * unitsPerOne :=
    roundQuotient_one_le power (Nat.mul_le_mul_right _ small)
  apply Nat.lt_of_le_of_lt rounded
  obtain ⟨k, larger, limit⟩ := exists_unitLimit_eq
  rw [limit]
  exact Nat.mul_lt_mul_of_pos_right (Nat.pow_lt_pow_right Nat.one_lt_two larger) unitsPerOne_pos

namespace Finite64

theorem natAbs_signedUnits (x : Finite64) : x.signedUnits.natAbs = x.units := by
  unfold signedUnits
  split <;> omega

theorem quantum_dvd_units (x : Finite64) : quantum x.units ∣ x.units := x.representable.2

end Finite64

/-- The double of an integer of a word's size is finite, and no other double lies
strictly between the two. -/
theorem exists_ofInt_eq {n : Int} (small : n.natAbs ≤ 2 ^ 64) :
    ∃ x : Finite64, Binary64.ofInt n = .finite x ∧
      (∀ y : Finite64, y.signedUnits ≤ n * unitsPerOne → y.signedUnits ≤ x.signedUnits) ∧
      (∀ y : Finite64, n * unitsPerOne ≤ y.signedUnits → x.signedUnits ≤ y.signedUnits) := by
  have bound := roundQuotient_word_lt small
  have size : (n * unitsPerOne).natAbs = n.natAbs * unitsPerOne := by
    rw [Int.natAbs_mul, Int.natAbs_natCast]
  have unit : (0 : Int) < unitsPerOne := Int.natCast_pos.2 unitsPerOne_pos
  let x : Finite64 :=
    ⟨decide (n < 0), roundQuotient (n.natAbs * unitsPerOne) 1, bound,
      two_pow_dvd_roundQuotient _ _⟩
  refine ⟨x, ?_, ?_⟩
  · unfold Binary64.ofInt Binary64.ofQuotient
    rw [dif_pos bound]
  · by_cases negative : n < 0
    · have sign := Int.mul_neg_of_neg_of_pos negative unit
      have value : x.signedUnits = -(roundQuotient (n.natAbs * unitsPerOne) 1 : Nat) := by
        simp only [x, Finite64.signedUnits, negative, decide_true, if_true]
      rw [value]
      constructor
      · intro y below
        have count := y.natAbs_signedUnits
        have rounded := roundQuotient_one_le y.quantum_dvd_units
          (n := n.natAbs * unitsPerOne) (by omega)
        omega
      · intro y above
        have count := y.natAbs_signedUnits
        by_cases side : y.signedUnits < 0
        · have rounded := le_roundQuotient_one y.quantum_dvd_units
            (n := n.natAbs * unitsPerOne) (by omega)
          omega
        · omega
    · have sign := Int.mul_nonneg (Int.not_lt.1 negative) (Int.le_of_lt unit)
      have value : x.signedUnits = (roundQuotient (n.natAbs * unitsPerOne) 1 : Nat) := by
        simp only [x, Finite64.signedUnits, negative, decide_false, Bool.false_eq_true, if_false]
      rw [value]
      constructor
      · intro y below
        have count := y.natAbs_signedUnits
        by_cases side : 0 < y.signedUnits
        · have rounded := le_roundQuotient_one y.quantum_dvd_units
            (n := n.natAbs * unitsPerOne) (by omega)
          omega
        · omega
      · intro y above
        have count := y.natAbs_signedUnits
        have rounded := roundQuotient_one_le y.quantum_dvd_units
          (n := n.natAbs * unitsPerOne) (by omega)
        omega

theorem roundQuotient_lastSigned :
    roundQuotient ((2 ^ 63 - 1) * unitsPerOne) 1 = 2 ^ 63 * unitsPerOne := by
  decide +kernel

theorem Finite64.signedUnits_mk_false (units : Nat) (held : Representable units) :
    (⟨false, units, held⟩ : Finite64).signedUnits = units :=
  rfl

theorem exists_ofInt_lastSigned :
    ∃ x : Finite64, Binary64.ofInt (2 ^ 63 - 1) = .finite x ∧ x.signedUnits = 2 ^ 63 * unitsPerOne := by
  have positive : decide ((2 ^ 63 - 1 : Int) < 0) = false := by decide
  have size : (2 ^ 63 - 1 : Int).natAbs = 2 ^ 63 - 1 := by decide
  have bound : roundQuotient ((2 ^ 63 - 1) * unitsPerOne) 1 < unitLimit :=
    roundQuotient_word_lt (by decide)
  unfold Binary64.ofInt Binary64.ofQuotient
  rw [positive, size, dif_pos bound]
  refine ⟨_, rfl, (Finite64.signedUnits_mk_false _ _).trans ?_⟩
  rw [roundQuotient_lastSigned, Int.natCast_mul]
  rfl

end CompactSchema
