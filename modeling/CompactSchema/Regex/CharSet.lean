import CompactSchema.Unicode.GeneralCategory
import CompactSchema.Unicode.BinaryProperty
import CompactSchema.Unicode.WhiteSpace
import CompactSchema.Unicode.CaseFolding

/-
Sets of characters.

A set is kept as the expression that describes it, so that membership is read off
the expression.  `CharSet.ranges` gives the same set as ranges of code points.
-/

namespace CompactSchema

inductive CharSet where
  | ranges (listed : List (Nat × Nat))
  | union (left right : CharSet)
  | inter (left right : CharSet)
  | complement (set : CharSet)
  /-- The set with every character that folds together with one of it. -/
  | folded (set : CharSet)
  | ascii (set : CharSet)

namespace CharSet

def containsCode : CharSet → Nat → Bool
  | .ranges listed, code => Unicode.inRanges code listed
  | .union left right, code => left.containsCode code || right.containsCode code
  | .inter left right, code => left.containsCode code && right.containsCode code
  | .complement set, code => !set.containsCode code
  | .folded set, code =>
      set.containsCode code || (Unicode.CaseFolding.partners code).any set.containsCode
  | .ascii set, code => decide (code < 128) && set.containsCode code

def contains (set : CharSet) (c : Char) : Bool := set.containsCode c.toNat

def empty : CharSet := .ranges []

def span (low high : Nat) : CharSet := .ranges [(low, high)]

def single (c : Char) : CharSet := span c.toNat c.toNat

def difference (left right : CharSet) : CharSet := .inter left (.complement right)

def symmetricDifference (left right : CharSet) : CharSet :=
  difference (.union left right) (.inter left right)

def all : CharSet := span 0 0x10FFFF

def space : CharSet := .ranges Unicode.WhiteSpace.ranges

def decimalDigits : CharSet := .ranges (Unicode.GeneralCategory.ranges [.decimalNumber])

def word : CharSet :=
  .union (.ranges [(0x30, 0x39), (0x41, 0x5A), (0x5F, 0x5F), (0x61, 0x7A)])
    (.union (.ranges Unicode.BinaryProperty.alphabetic)
      (.union
        (.ranges <| Unicode.GeneralCategory.ranges
          [.nonspacingMark, .spacingMark, .enclosingMark, .decimalNumber, .connectorPunctuation])
        (.ranges Unicode.BinaryProperty.joinControl)))

def asciiDigits : CharSet := span 0x30 0x39

def asciiSpace : CharSet := .ranges [(0x09, 0x0D), (0x20, 0x20)]

def asciiWord : CharSet := .ranges [(0x30, 0x39), (0x41, 0x5A), (0x5F, 0x5F), (0x61, 0x7A)]

/-- Joins ranges that touch or overlap; the ranges are sorted by their start. -/
def joinFrom (low high : Nat) : List (Nat × Nat) → List (Nat × Nat)
  | [] => [(low, high)]
  | (nextLow, nextHigh) :: rest =>
      if nextLow ≤ high + 1 then joinFrom low (max high nextHigh) rest
      else (low, high) :: joinFrom nextLow nextHigh rest

def normalize (ranges : List (Nat × Nat)) : List (Nat × Nat) :=
  match ranges.mergeSort (fun left right => decide (left.1 ≤ right.1)) with
  | [] => []
  | (low, high) :: rest => joinFrom low high rest

def gapsFrom (start : Nat) : List (Nat × Nat) → List (Nat × Nat)
  | [] => if start ≤ 0x10FFFF then [(start, 0x10FFFF)] else []
  | (low, high) :: rest =>
      if start < low then (start, low - 1) :: gapsFrom (high + 1) rest else gapsFrom (high + 1) rest

/-- The ranges that fold together with a range in one run of the folding table. -/
def foldedRun (run : Unicode.CaseFolding.Run) (low high : Nat) : List (Nat × Nat) :=
  let last := run.first + (run.count - 1) * run.step
  if high < run.first ∨ last < low then []
  else
    let skipped := if run.first < low then (low - run.first + run.step - 1) / run.step else 0
    let start := run.first + skipped * run.step
    let stop := min high last
    if stop < start then []
    else
      (List.range ((stop - start) / run.step + 1)).map fun i =>
        let image := ((start + i * run.step : Nat) + run.distance).toNat
        (image, image)

def toRanges : CharSet → List (Nat × Nat)
  | .ranges listed => normalize listed
  | .union left right => normalize (left.toRanges ++ right.toRanges)
  | .inter left right =>
      gapsFrom 0 (normalize (gapsFrom 0 left.toRanges ++ gapsFrom 0 right.toRanges))
  | .complement set => gapsFrom 0 set.toRanges
  | .folded set =>
      let own := set.toRanges
      normalize <| own ++
        own.flatMap fun range =>
          Unicode.CaseFolding.table.flatMap fun run => foldedRun run range.1 range.2
  | .ascii set =>
      set.toRanges.filterMap fun (low, high) => if low < 128 then some (low, min high 127) else none

end CharSet
end CompactSchema
