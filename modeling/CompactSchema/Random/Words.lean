import CompactSchema.Binary64.Basic
import CompactSchema.Random.Times

/-
Uniform choice from random words.

A choice among `count` values takes a word and scales it; words for which scaling
would favour some value are rejected and drawn again.  After a great number of
rejections in a row the least value is taken, so every choice ends, whatever the
words are.
-/

namespace CompactSchema

structure WordSource (σ : Type) where
  word32 : StateM σ UInt32
  word64 : StateM σ UInt64

namespace WordSource

variable {σ : Type}

def drawLimit : Nat := 65536

def firstAccepted (draw : StateM σ Nat) (accept : Nat → Option Nat) : Nat → StateM σ Nat
  | 0 => pure 0
  | attempts + 1 => do
      match accept (← draw) with
      | some value => return value
      | none => firstAccepted draw accept attempts

/-- Scales a word of `bits` bits to a choice among `count` values.  The low part of
the product is accepted up to `zone`. -/
def scale (bits zone count word : Nat) : Option Nat :=
  if word * count % 2 ^ bits ≤ zone then some (word * count / 2 ^ bits) else none

/-- A choice among `count` values by words of 64 bits, where `count` is positive and
below 2^64. -/
def choose64 (words : WordSource σ) (count : Nat) : StateM σ Nat :=
  let draw := return (← words.word64).toNat
  firstAccepted draw (scale 64 (count <<< (63 - count.log2) - 1) count) drawLimit

def choose32 (words : WordSource σ) (count : Nat) : StateM σ Nat :=
  let draw := return (← words.word32).toNat
  firstAccepted draw (scale 32 (2 ^ 32 - 1 - (2 ^ 32 - count) % count) count) drawLimit

/-- An element of a list; `absent` of the empty one. -/
def pick {α : Type} (words : WordSource σ) (absent : α) (options : List α) : StateM σ α := do
  let i ← words.choose64 options.length
  return options.getD i absent

/-- A number from zero up to but not including one, a multiple of 2^-53. -/
def unit (words : WordSource σ) : StateM σ Binary64 := do
  let word ← words.word64
  return .ofQuotient false ((word >>> 11).toNat * unitsPerOne) (2 ^ 53)

def coin (words : WordSource σ) : StateM σ Bool := do
  return (← words.word64) < 0x8000000000000000

def octet (words : WordSource σ) : StateM σ UInt8 := do
  return (← words.word32).toUInt8

end WordSource
end CompactSchema
