import CompactSchema.Power

/-
Characters as bytes.

The characters of a range are told apart by the bytes of their UTF-8 form.  A range is
parted into sequences of byte ranges, of which each admits all its combinations.
-/

namespace CompactSchema
namespace Regex

abbrev ByteRanges := List (Nat × Nat)

def utf8Bytes (code : Nat) : List Nat :=
  if code < 0x80 then [code]
  else if code < 0x800 then [0xC0 + code / 64, 0x80 + code % 64]
  else if code < 0x10000 then [0xE0 + code / 4096, 0x80 + code / 64 % 64, 0x80 + code % 64]
  else
    [0xF0 + code / 262144, 0x80 + code / 4096 % 64, 0x80 + code / 64 % 64, 0x80 + code % 64]

/-- The parts of a range whose code points have as many bytes as one another and are
characters. -/
def partByLength (low high : Nat) : List (Nat × Nat) :=
  [(0, 0x7F), (0x80, 0x7FF), (0x800, 0xD7FF), (0xE000, 0xFFFF), (0x10000, 0x10FFFF)].filterMap
    fun (first, last) =>
      if max low first ≤ min high last then some (max low first, min high last) else none

/-- Parts a range of code points of one length until the bytes behind each place vary
freely; `places` counts the bytes that may still have to be parted. -/
def partByBytes : Nat → Nat → Nat → List ByteRanges
  | 0, low, high => [(utf8Bytes low).zip (utf8Bytes high)]
  | places + 1, low, high =>
      let block := 64 ^ (places + 1)
      if low / block = high / block then partByBytes places low high
      else
        let headEnd := if low % block = 0 then low else low / block * block + block
        let tailStart := if (high + 1) % block = 0 then high + 1 else high / block * block
        (if low < headEnd then partByBytes places low (headEnd - 1) else []) ++
          (if headEnd < tailStart then [(utf8Bytes headEnd).zip (utf8Bytes (tailStart - 1))] else []) ++
            (if tailStart ≤ high then partByBytes places tailStart high else [])

def byteSequences (low high : Nat) : List ByteRanges :=
  (partByLength low high).flatMap fun part => partByBytes ((utf8Bytes part.1).length - 1) part.1 part.2

end Regex
end CompactSchema
