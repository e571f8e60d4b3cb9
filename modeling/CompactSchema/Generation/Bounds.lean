import CompactSchema.Schema.Basic
import CompactSchema.Schema.Error

/-
The ranges that generated values are drawn from.

A bound that is absent has a default, and a default never turns a range with one bound
upside down.  A range that holds nothing is an error of the schema node, and so is a
least length beyond the limit; a greatest length beyond it is lowered.
-/

namespace CompactSchema

def lengthLimit : Nat := 10000

structure LengthRange where
  least : Nat
  most : Nat
  ordered : least ≤ most
  limited : most ≤ lengthLimit

structure LengthDefaults where
  leastName : String
  mostName : String
  least : UInt64
  most : UInt64

namespace LengthDefaults

def text : LengthDefaults := ⟨"minLength", "maxLength", 3, 10⟩

def array : LengthDefaults := ⟨"minItems", "maxItems", 3, 4⟩

end LengthDefaults

namespace LengthBounds

/-- The least length, or the default where it is below the greatest length. -/
def effectiveLeast (bounds : LengthBounds) (defaults : LengthDefaults) : UInt64 :=
  match bounds.least, bounds.most with
  | some least, _ => least
  | none, some most => min most defaults.least
  | none, none => defaults.least

def effectiveMost (bounds : LengthBounds) (defaults : LengthDefaults) : UInt64 :=
  match bounds.most with
  | some most => most
  | none => max (bounds.effectiveLeast defaults) defaults.most

def range (bounds : LengthBounds) (defaults : LengthDefaults) : Except Defect LengthRange :=
  let least := bounds.effectiveLeast defaults
  let most := bounds.effectiveMost defaults
  if ordered : least ≤ most then
    if limited : least.toNat ≤ lengthLimit then
      .ok
        { least := least.toNat
          most := min most.toNat lengthLimit
          ordered := Nat.le_min.2 ⟨UInt64.le_iff_toNat_le.1 ordered, limited⟩
          limited := Nat.min_le_right _ _ }
    else
      .error (.lengthBeyondLimit defaults.leastName least lengthLimit)
  else
    .error (.lengthsInverted defaults.leastName least defaults.mostName most)

end LengthBounds

structure NumberRange where
  least : Finite64
  most : Finite64
  ordered : least.signedUnits ≤ most.signedUnits

namespace NumberConstraints

/-- The least number, or one where that is below the greatest number. -/
def effectiveLeast (constraints : NumberConstraints) : Binary64 :=
  match constraints.least, constraints.most with
  | some least, _ => least
  | none, some most => most.minNumber 1
  | none, none => 1

def effectiveMost (constraints : NumberConstraints) : Binary64 :=
  match constraints.most with
  | some most => most
  | none => constraints.effectiveLeast.maxNumber 100

def range (constraints : NumberConstraints) : Except Defect NumberRange :=
  match constraints.effectiveLeast, constraints.effectiveMost with
  | .finite least, .finite most =>
      if ordered : least.signedUnits ≤ most.signedUnits then
        .ok { least, most, ordered }
      else
        .error (.numbersInverted (.finite least) (.finite most))
  | _, _ => .error .boundsNotFinite

end NumberConstraints

namespace NumberRange

/-- The least and the greatest integer of the range, if it holds an integer and its
ends fit 64 bits.  The end 2^63 counts as fitting, and stands for the integer below
it. -/
def integers? (range : NumberRange) : Option (Int64 × Int64) :=
  let least := range.least.ceil
  let most := range.most.floor
  if least ≤ most ∧ -2 ^ 63 ≤ least ∧ most ≤ 2 ^ 63 then
    some (.ofInt (min least (2 ^ 63 - 1)), .ofInt (min most (2 ^ 63 - 1)))
  else
    none

end NumberRange
end CompactSchema
