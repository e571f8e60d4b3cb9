import CompactSchema.Power
import CompactSchema.Unicode.WhiteSpace

/-
Scanning the parts of dates and times.

A scanner takes what it reads from the front of a text and fails if it is not there.
-/

namespace CompactSchema

abbrev Scanner := StateT (List Char) Option

namespace Scanner

def refuse {α : Type} : Scanner α := fun _ => none

def require (condition : Bool) : Scanner Unit := if condition then pure () else refuse

def char (expected : Char) : Scanner Unit
  | c :: rest => if c = expected then some ((), rest) else none
  | [] => none

def oneOf (expected : List Char) : Scanner Char
  | c :: rest => if expected.contains c then some (c, rest) else none
  | [] => none

def charIf (expected : Char) : Scanner Bool
  | c :: rest => if c = expected then some (true, rest) else some (false, c :: rest)
  | [] => some (false, [])

def blanks : Scanner Unit := fun text => some ((), Unicode.WhiteSpace.trimStart text)

def someBlanks : Scanner Unit
  | c :: rest =>
      if Unicode.WhiteSpace.isSpace c then some ((), Unicode.WhiteSpace.trimStart rest) else none
  | [] => none

def digitsValue (digits : List Char) : Nat :=
  digits.foldl (fun value c => value * 10 + (c.toNat - '0'.toNat)) 0

/-- Reads a number of `least` to `most` digits that fits a signed 64-bit word. -/
def numberBetween (least most : Nat) : Scanner Nat := fun text =>
  let digits := (text.take most).takeWhile Char.isDigit
  if digits.length < least ∨ 2 ^ 63 ≤ digitsValue digits then none
  else some (digitsValue digits, text.drop digits.length)

def numberFrom (least : Nat) : Scanner (Nat × Nat) := fun text =>
  let digits := text.takeWhile Char.isDigit
  if digits.length < least ∨ 2 ^ 63 ≤ digitsValue digits then none
  else some ((digitsValue digits, digits.length), text.drop digits.length)

/-- Reads a word of a list without regard to case, and tells its place. -/
def wordOf (words : List String) : Scanner Nat := fun text =>
  let lower := text.map Char.toLower
  match words.findIdx? (fun word => word.toList.isPrefixOf lower) with
  | some place => some (place, text.drop (words.getD place "").length)
  | none => none

def attempt {α : Type} (scanner : Scanner α) : Scanner (Option α) := fun text =>
  match scanner text with
  | some (value, rest) => some (some value, rest)
  | none => some (none, text)

def accepts {α : Type} (scanner : Scanner α) (text : List Char) : Bool :=
  match scanner text with
  | some (_, []) => true
  | _ => false

end Scanner
end CompactSchema
