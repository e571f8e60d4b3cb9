import CompactSchema.Unicode.Runs

/-
White space.

The characters with the property White_Space, and the removal of them at the ends of
a text.
-/

namespace CompactSchema
namespace Unicode
namespace WhiteSpace

def ranges : List (Nat × Nat) :=
  [(0x09, 0x0D), (0x20, 0x20), (0x85, 0x85), (0xA0, 0xA0), (0x1680, 0x1680), (0x2000, 0x200A),
   (0x2028, 0x2029), (0x202F, 0x202F), (0x205F, 0x205F), (0x3000, 0x3000)]

def isSpace (c : Char) : Bool := inRanges c.toNat ranges

def trimStart (text : List Char) : List Char := text.dropWhile isSpace

def trim (text : List Char) : List Char := (trimStart (trimStart text).reverse).reverse

end WhiteSpace
end Unicode
end CompactSchema
