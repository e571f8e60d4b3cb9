import CompactSchema.Power

/-
Double-precision numbers as exact counts.

A finite double is a sign and a count of units of 2^-1074, the smallest positive
double.  Which counts occur is a divisibility condition, so the order, the
rounding rule and every operation are statements of integer arithmetic.  The
module holds the type, rounding to nearest with ties to even, the order, and the
operations that schemas and generators need.
-/

namespace CompactSchema

def unitsPerOne : Nat := 2 ^ 1074

def unitLimit : Nat := 2 ^ 1024 * unitsPerOne

def Representable (units : Nat) : Prop :=
  units < unitLimit ∧ 2 ^ (units.log2 - 52) ∣ units

instance (units : Nat) : Decidable (Representable units) :=
  inferInstanceAs (Decidable (_ ∧ _))

/-- A finite double: its sign and its distance from zero in units of 2^-1074. -/
structure Finite64 where
  negative : Bool
  units : Nat
  representable : Representable units
  deriving DecidableEq

inductive Binary64 where
  | nan
  | infinite (negative : Bool)
  | finite (value : Finite64)
  deriving DecidableEq

def quantum (units : Nat) : Nat := 2 ^ (units.log2 - 52)

/-- The count nearest to `num / den` whose significant part has 53 bits; a tie
goes to the even significant part.  The result is not limited in size. -/
def roundQuotient (num den : Nat) : Nat :=
  let step := quantum (num / den)
  let low := num / (den * step)
  let rest := num % (den * step)
  if den * step < 2 * rest ∨ (2 * rest = den * step ∧ low % 2 = 1) then
    (low + 1) * step
  else
    low * step

private theorem log2_le_of_lt_two_pow {n k : Nat} (bound : n < 2 ^ (k + 1)) : n.log2 ≤ k := by
  by_cases zero : n = 0
  · subst zero
    exact Nat.le_trans (Nat.le_of_eq Nat.log2_zero) (Nat.zero_le k)
  · have := (Nat.log2_lt zero).2 bound
    omega

theorem two_pow_dvd_mul_two_pow {c e : Nat} (small : c ≤ 2 ^ 53) :
    2 ^ ((c * 2 ^ e).log2 - 52) ∣ c * 2 ^ e := by
  by_cases less : c < 2 ^ 53
  · have bound : c * 2 ^ e < 2 ^ (52 + e + 1) := by
      have := Nat.mul_lt_mul_of_pos_right less (Nat.two_pow_pos e)
      calc c * 2 ^ e < 2 ^ 53 * 2 ^ e := this
        _ = 2 ^ (52 + e + 1) := by rw [← Nat.pow_add]; congr 1; omega
    have logBound := log2_le_of_lt_two_pow bound
    have : 2 ^ ((c * 2 ^ e).log2 - 52) ∣ 2 ^ e := Nat.pow_dvd_pow 2 (by omega)
    exact Nat.dvd_trans this (Nat.dvd_mul_left _ _)
  · have same : c = 2 ^ 53 := by omega
    have whole : c * 2 ^ e = 2 ^ (53 + e) := by rw [same, ← Nat.pow_add]
    rw [whole, Nat.log2_two_pow]
    exact Nat.pow_dvd_pow 2 (by omega)

theorem div_quantum_lt (n : Nat) : n / quantum n < 2 ^ 53 := by
  unfold quantum
  rw [Nat.div_lt_iff_lt_mul (Nat.two_pow_pos _), ← Nat.pow_add]
  by_cases zero : n = 0
  · subst zero
    exact Nat.two_pow_pos _
  · have := (Nat.log2_lt (n := n) (k := n.log2 + 1) zero).1 (by omega)
    exact Nat.lt_of_lt_of_le this (Nat.pow_le_pow_right (by omega) (by omega))

theorem two_pow_dvd_roundQuotient (num den : Nat) :
    2 ^ ((roundQuotient num den).log2 - 52) ∣ roundQuotient num den := by
  have low : num / (den * quantum (num / den)) < 2 ^ 53 := by
    rw [← Nat.div_div_eq_div_mul]
    exact div_quantum_lt _
  unfold roundQuotient
  dsimp only
  split
  · exact two_pow_dvd_mul_two_pow (by omega)
  · exact two_pow_dvd_mul_two_pow (by omega)

namespace Binary64

/-- The double nearest to `num / den` units, with the given sign; infinite when
the rounded count is too large. -/
def ofQuotient (negative : Bool) (num den : Nat) : Binary64 :=
  if bound : roundQuotient num den < unitLimit then
    .finite ⟨negative, roundQuotient num den, bound, two_pow_dvd_roundQuotient num den⟩
  else
    .infinite negative

def ofInt (n : Int) : Binary64 :=
  ofQuotient (n < 0) (n.natAbs * unitsPerOne) 1

def ofNat (n : Nat) : Binary64 := ofInt n

instance : OfNat Binary64 n := ⟨ofNat n⟩

def isFinite : Binary64 → Bool
  | .finite _ => true
  | _ => false

end Binary64

namespace Finite64

/-- The value as a signed count; both zeros count nothing. -/
def signedUnits (x : Finite64) : Int :=
  if x.negative then -x.units else x.units

def floor (x : Finite64) : Int := x.signedUnits / (unitsPerOne : Int)

def ceil (x : Finite64) : Int := -(-x.signedUnits / (unitsPerOne : Int))

def isIntegral (x : Finite64) : Bool := x.units % unitsPerOne == 0

/-- The value is not below zero; the negative zero is not. -/
def isNonNegative (x : Finite64) : Bool := decide (0 ≤ x.signedUnits)

def neg (x : Finite64) : Finite64 := { x with negative := !x.negative }

def add (x y : Finite64) : Binary64 :=
  let sum := x.signedUnits + y.signedUnits
  if sum = 0 then
    .ofQuotient (x.negative && y.negative) 0 1
  else
    .ofQuotient (sum < 0) sum.natAbs 1

def mul (x y : Finite64) : Binary64 :=
  .ofQuotient (x.negative != y.negative) (x.units * y.units) unitsPerOne

end Finite64

namespace Binary64

/-- Less, as numbers: a NaN is neither less nor greater, and the zeros are
equal. -/
def lt : Binary64 → Binary64 → Bool
  | .nan, _ | _, .nan => false
  | .infinite true, .infinite negative => !negative
  | .infinite true, .finite _ => true
  | .infinite false, _ => false
  | .finite _, .infinite negative => !negative
  | .finite x, .finite y => decide (x.signedUnits < y.signedUnits)

/-- Equal as numbers: a NaN equals nothing, and the zeros are equal. -/
def same : Binary64 → Binary64 → Bool
  | .nan, _ | _, .nan => false
  | .infinite x, .infinite y => x == y
  | .finite x, .finite y => decide (x.signedUnits = y.signedUnits)
  | _, _ => false

def le (x y : Binary64) : Bool := lt x y || same x y

/-- The smaller of two numbers, passing over a NaN. -/
def minNumber (x y : Binary64) : Binary64 :=
  match x, y with
  | .nan, y => y
  | x, .nan => x
  | x, y => if lt x y then x else y

def maxNumber (x y : Binary64) : Binary64 :=
  match x, y with
  | .nan, y => y
  | x, .nan => x
  | x, y => if lt y x then x else y

/-- The nearest number in the range from `lo` to `hi`; a NaN stays one. -/
def clamp (x lo hi : Binary64) : Binary64 :=
  let raised := if lt x lo then lo else x
  if lt hi raised then hi else raised

def neg : Binary64 → Binary64
  | .nan => .nan
  | .infinite negative => .infinite (!negative)
  | .finite x => .finite x.neg

def add : Binary64 → Binary64 → Binary64
  | .nan, _ | _, .nan => .nan
  | .infinite x, .infinite y => if x == y then .infinite x else .nan
  | .infinite x, .finite _ | .finite _, .infinite x => .infinite x
  | .finite x, .finite y => x.add y

def sub (x y : Binary64) : Binary64 := add x (neg y)

def mul : Binary64 → Binary64 → Binary64
  | .nan, _ | _, .nan => .nan
  | .infinite x, .infinite y => .infinite (x != y)
  | .infinite x, .finite y | .finite y, .infinite x =>
      if y.units = 0 then .nan else .infinite (x != y.negative)
  | .finite x, .finite y => x.mul y

def div : Binary64 → Binary64 → Binary64
  | .nan, _ | _, .nan => .nan
  | .infinite _, .infinite _ => .nan
  | .infinite x, .finite y => .infinite (x != y.negative)
  | .finite x, .infinite y => .ofQuotient (x.negative != y) 0 1
  | .finite x, .finite y =>
      if y.units = 0 then
        if x.units = 0 then .nan else .infinite (x.negative != y.negative)
      else
        .ofQuotient (x.negative != y.negative) (x.units * unitsPerOne) y.units

end Binary64
end CompactSchema
