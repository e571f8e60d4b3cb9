import CompactSchema.Json.Value

/-
The value of a number as it is written in JSON text.

A whole number that fits a 64-bit word is exact.  Any other numeral is a double,
computed in two roundings: the leading digits that fit an unsigned word, then one
multiplication or division by a power of ten.  Further digits only move the point.
-/

namespace CompactSchema

/-- A numeral taken apart.  A fraction or an exponent that is absent has no
digits. -/
structure Numeral where
  negative : Bool
  whole : List Nat
  fraction : List Nat
  exponentNegative : Bool
  exponent : List Nat

namespace Numeral

/-- Reads digits into an unsigned word, and returns those from the first that does
not fit. -/
def fillWord (word : Nat) : List Nat → Nat × List Nat
  | [] => (word, [])
  | digit :: digits =>
      if word * 10 + digit < 2 ^ 64 then fillWord (word * 10 + digit) digits
      else (word, digit :: digits)

def digitsValue (digits : List Nat) : Nat :=
  digits.foldl (fun value digit => value * 10 + digit) 0

def scaleDown : Nat → Binary64 → Nat → Binary64
  | 0, x, _ => x
  | steps + 1, x, places =>
      if places ≤ 308 then x.div (.ofNat (10 ^ places))
      else scaleDown steps (x.div (.ofNat (10 ^ 308))) (places - 308)

/-- The double `significand * 10 ^ exponent`; `none` when it is too large.  Three
steps down bring every 64-bit significand to zero. -/
def scale (significand : Nat) (exponent : Int) : Option Binary64 :=
  if 0 ≤ exponent then
    if exponent ≤ 308 then
      let product := (Binary64.ofNat significand).mul (.ofNat (10 ^ exponent.toNat))
      if product.isFinite then some product else none
    else if significand = 0 then some (.ofNat 0)
    else none
  else
    some (scaleDown 4 (.ofNat significand) (min (-exponent).toNat 1200))

def signed (negative : Bool) : Binary64 → Option Number
  | .finite x => some (.float (if negative then x.neg else x))
  | _ => none

def exponentLimit : Nat := 2 ^ 31 - 1

def value (numeral : Numeral) : Option Number :=
  let (word, beyond) := fillWord 0 numeral.whole
  if beyond.isEmpty && numeral.fraction.isEmpty && numeral.exponent.isEmpty then
    if numeral.negative then
      if word ≠ 0 ∧ word ≤ 2 ^ 63 then
        if fits : FitsWord (-(word : Int)) then some (.integer (-(word : Int)) fits) else none
      else
        signed true (.ofNat word)
    else
      if fits : FitsWord word then some (.integer word fits) else none
  else
    let (significand, dropped) := fillWord word numeral.fraction
    let places := (beyond.length : Int) - (numeral.fraction.length - dropped.length : Nat)
    let exponent := digitsValue numeral.exponent
    if exponentLimit < exponent then
      if significand ≠ 0 ∧ ¬ numeral.exponentNegative then none
      else signed numeral.negative (.ofNat 0)
    else
      let exponent := if numeral.exponentNegative then places - exponent else places + exponent
      (scale significand exponent).bind (signed numeral.negative)

end Numeral
end CompactSchema
