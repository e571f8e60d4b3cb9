/-
Runs of code points, and the text form of their tables.

A table is a sequence of numbers, written in digits to the base 32 with the most
significant first.  The last digit of a number is a lower-case letter or one of six
further characters, all earlier ones are decimal digits or upper-case letters, so no
separator is needed.
-/

namespace CompactSchema
namespace Unicode

/-- A digit and whether it is the last of its number. -/
def digit (c : Char) : Nat × Bool :=
  if 'a' ≤ c ∧ c ≤ 'z' then (c.toNat - 'a'.toNat, true)
  else if '0' ≤ c ∧ c ≤ '9' then (c.toNat - '0'.toNat, false)
  else if 'A' ≤ c ∧ c ≤ 'V' then (c.toNat - 'A'.toNat + 10, false)
  else if 'W' ≤ c ∧ c ≤ 'Z' then (c.toNat - 'W'.toNat + 26, true)
  else if c = '+' then (30, true)
  else (31, true)

def decodeChars : Nat → List Char → List Nat
  | _, [] => []
  | part, c :: rest =>
      let (value, last) := digit c
      if last then (part * 32 + value) :: decodeChars 0 rest
      else decodeChars (part * 32 + value) rest

def decode (lines : List String) : List Nat :=
  decodeChars 0 (lines.flatMap String.toList)

/-- Ranges from their gaps and their lengths less one. -/
def spansFrom : Nat → List Nat → List (Nat × Nat)
  | start, gap :: length :: rest =>
      (start + gap, start + gap + length) :: spansFrom (start + gap + length + 1) rest
  | _, _ => []

def spans (numbers : List Nat) : List (Nat × Nat) := spansFrom 0 numbers

/-- Labelled ranges without gaps, from their lengths less one and their labels. -/
def partitionFrom : Nat → List Nat → List (Nat × Nat × Nat)
  | start, length :: label :: rest =>
      (start, start + length, label) :: partitionFrom (start + length + 1) rest
  | _, _ => []

def partition (numbers : List Nat) : List (Nat × Nat × Nat) := partitionFrom 0 numbers

def gappedPartitionFrom : Nat → List Nat → List (Nat × Nat × Nat)
  | start, gap :: length :: label :: rest =>
      (start + gap, start + gap + length, label) :: gappedPartitionFrom (start + gap + length + 1) rest
  | _, _ => []

/-- Labelled ranges that need not cover all code points. -/
def gappedPartition (numbers : List Nat) : List (Nat × Nat × Nat) := gappedPartitionFrom 0 numbers

def find? (code : Nat) : List (Nat × Nat × Nat) → Option Nat
  | [] => none
  | (low, high, label) :: rest =>
      if high < code then find? code rest
      else if low ≤ code then some label
      else none

/-- A code point lies in one of the ranges, which are in increasing order. -/
def inRanges (code : Nat) : List (Nat × Nat) → Bool
  | [] => false
  | (low, high) :: rest => if high < code then inRanges code rest else decide (low ≤ code)

/-- A property that gives code points one of several values: the names of the values,
and the runs of code points of one value, which is known by its place among the
names. -/
structure Labelling where
  names : List (List String)
  table : List (Nat × Nat × Nat)

namespace Labelling

def place? (labelling : Labelling) (name : String) : Option Nat :=
  labelling.names.findIdx? (·.contains name)

def ranges (labelling : Labelling) (place : Nat) : List (Nat × Nat) :=
  labelling.table.filterMap fun (low, high, held) => if held = place then some (low, high) else none

def named? (labelling : Labelling) (name : String) : Option (List (Nat × Nat)) :=
  (labelling.place? name).map labelling.ranges

end Labelling
end Unicode
end CompactSchema
