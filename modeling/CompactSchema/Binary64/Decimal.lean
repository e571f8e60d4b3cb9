import CompactSchema.Binary64.Basic

/-
The shortest decimal that reads back to a double, and the ways to lay it out.

A double stands for an interval of reals, those nearest to it.  The shortest
decimal is the first point of the grids 10^k, coarse to fine, that falls into the
interval; of two such points of one grid the nearer is taken, and a `Layout` says
which of two equally near ones.  The search compares integers only.
-/

namespace CompactSchema

structure Decimal where
  digits : Nat
  exponent : Int
  deriving DecidableEq, Repr

namespace Decimal

def stripZeros : Nat → Decimal → Decimal
  | 0, d => d
  | fuel + 1, d =>
      if d.digits ≠ 0 ∧ d.digits % 10 = 0 then stripZeros fuel ⟨d.digits / 10, d.exponent + 1⟩ else d

def inUnits (d : Decimal) : Nat × Nat :=
  if 0 ≤ d.exponent then
    (d.digits * 10 ^ d.exponent.toNat * unitsPerOne, 1)
  else
    (d.digits * unitsPerOne, 10 ^ (-d.exponent).toNat)

end Decimal

inductive Tie where
  | toEven
  | upward
  deriving DecidableEq

/-- The reals that round to a count, in quarters of a unit.  The lower gap is
half as wide at a power of two; the ends belong to the interval when the
significant part is even. -/
structure RoundingInterval where
  low : Nat
  high : Nat
  closed : Bool

def RoundingInterval.of (units : Nat) : RoundingInterval :=
  let step := quantum units
  let lowGap := if step ≠ 1 ∧ units = 2 ^ units.log2 then step else 2 * step
  { low := 4 * units - lowGap
    high := 4 * units + 2 * step
    closed := units / step % 2 == 0 }

def RoundingInterval.contains (interval : RoundingInterval) (d : Decimal) : Bool :=
  let (num, den) := d.inUnits
  let quarters := 4 * num
  if interval.closed then
    decide (interval.low * den ≤ quarters ∧ quarters ≤ interval.high * den)
  else
    decide (interval.low * den < quarters ∧ quarters < interval.high * den)

def digitCount (n : Nat) : Nat := if n = 0 then 0 else (Nat.toDigits 10 n).length

def leadingExponent (units : Nat) : Int :=
  (digitCount (units * 10 ^ 324 / unitsPerOne) : Int) - 325

def gridFloor (units : Nat) (exponent : Int) : Nat :=
  if 0 ≤ exponent then
    units / (unitsPerOne * 10 ^ exponent.toNat)
  else
    units * 10 ^ (-exponent).toNat / unitsPerOne

/-- Compares the distances of two neighbouring grid points, the first at
`floor * 10 ^ exponent`, from the count. -/
def nearerNeighbour (units floor : Nat) (exponent : Int) : Ordering :=
  let (sum, den) := (⟨2 * floor + 1, exponent⟩ : Decimal).inUnits
  compare (2 * units * den) sum

/-- The chosen point of one grid, if one of the count's two neighbours on it lies
in the interval. -/
def onGrid (tie : Tie) (units : Nat) (exponent : Int) : Option Decimal :=
  let interval := RoundingInterval.of units
  let floor := gridFloor units exponent
  let lower : Decimal := ⟨floor, exponent⟩
  let upper : Decimal := ⟨floor + 1, exponent⟩
  match floor ≠ 0 && interval.contains lower, interval.contains upper with
  | false, false => none
  | true, false => some lower
  | false, true => some upper
  | true, true =>
      match nearerNeighbour units floor exponent with
      | .lt => some lower
      | .gt => some upper
      | .eq =>
          match tie with
          | .upward => some upper
          | .toEven => some (if floor % 2 = 0 then lower else upper)

def searchGrids (tie : Tie) (units : Nat) : Nat → Int → Decimal
  | 0, exponent => ⟨gridFloor units exponent, exponent⟩
  | fuel + 1, exponent =>
      match onGrid tie units exponent with
      | some d => d
      | none => searchGrids tie units fuel (exponent - 1)

/-- The shortest decimal of a positive representable count.  Seventeen digits
always suffice. -/
def shortestDecimal (tie : Tie) (units : Nat) : Decimal :=
  (searchGrids tie units 17 (leadingExponent units)).stripZeros 17

structure Layout where
  /-- Positional notation is used for leading exponents from here on. -/
  positionalFrom : Option Int
  /-- Positional notation ends before this leading exponent. -/
  positionalBelow : Option Int
  pointZero : Bool
  plusSign : Bool
  tie : Tie

def digitChars (n : Nat) : List Char := if n = 0 then [] else Nat.toDigits 10 n

def intChars (n : Int) : List Char :=
  if n < 0 then '-' :: Nat.toDigits 10 n.natAbs else Nat.toDigits 10 n.natAbs

namespace Layout

def positional (layout : Layout) (d : Decimal) : List Char :=
  let digits := digitChars d.digits
  let whole := if layout.pointZero then ['.', '0'] else []
  let pointAt := (digits.length : Int) + d.exponent
  if 0 ≤ d.exponent then
    digits ++ List.replicate d.exponent.toNat '0' ++ whole
  else if 0 < pointAt then
    digits.take pointAt.toNat ++ '.' :: digits.drop pointAt.toNat
  else
    '0' :: '.' :: (List.replicate (-pointAt).toNat '0' ++ digits)

def scientific (layout : Layout) (d : Decimal) : List Char :=
  let digits := digitChars d.digits
  let exponent := (digits.length : Int) + d.exponent - 1
  let sign := if layout.plusSign ∧ 0 ≤ exponent then ['+'] else []
  let significand :=
    match digits with
    | first :: second :: rest => first :: '.' :: second :: rest
    | short => short
  significand ++ 'e' :: (sign ++ intChars exponent)

def unsignedChars (layout : Layout) (units : Nat) : List Char :=
  if units = 0 then
    '0' :: (if layout.pointZero then ['.', '0'] else [])
  else
    let d := shortestDecimal layout.tie units
    let exponent := (digitCount d.digits : Int) + d.exponent - 1
    let fromOk := layout.positionalFrom.all (· ≤ exponent)
    let belowOk := layout.positionalBelow.all (exponent < ·)
    if fromOk && belowOk then layout.positional d else layout.scientific d

def finiteChars (layout : Layout) (x : Finite64) : List Char :=
  if x.negative then '-' :: layout.unsignedChars x.units else layout.unsignedChars x.units

/-- The text of a double; a NaN and the infinities have fixed names. -/
def text (layout : Layout) : Binary64 → String
  | .nan => "NaN"
  | .infinite false => "inf"
  | .infinite true => "-inf"
  | .finite x => String.ofList (layout.finiteChars x)

end Layout

/-- Numbers in prose: never an exponent, and no trailing zero. -/
def Layout.plain : Layout :=
  { positionalFrom := none, positionalBelow := none, pointZero := false, plusSign := false,
    tie := .upward }

/-- Numbers in a list of allowed values: always recognisable as fractions. -/
def Layout.listed : Layout :=
  { positionalFrom := some (-4), positionalBelow := some 16, pointZero := true, plusSign := false,
    tie := .upward }

def Layout.json : Layout :=
  { positionalFrom := some (-5), positionalBelow := some 16, pointZero := true, plusSign := true,
    tie := .toEven }

end CompactSchema
