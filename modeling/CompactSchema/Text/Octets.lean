/-
Octets of texts.

A text stands for its octets in UTF-8.  Octets that are no text can still be shown: each
longest beginning of a character that does not go on gives one replacement character.
-/

namespace CompactSchema

/-- The octets of a text in UTF-8. -/
def octets (text : String) : List UInt8 := text.toUTF8.data.toList

namespace Utf8

def text? (octets : List UInt8) : Option String := String.fromUTF8? ⟨octets.toArray⟩

/-- A character of which octets are still to come: `later` octets behind the next one, which
lies between `least` and `most`. -/
structure Unfinished where
  later : Nat
  value : Nat
  least : UInt8 := 0x80
  most : UInt8 := 0xBF

/-- What the first octet of a longer character leaves to come.  The ranges of the second octet
exclude surrogates, values beyond the last character, and values that fewer octets hold. -/
def begin? (octet : UInt8) : Option Unfinished :=
  if octet < 0xC2 then none
  else if octet < 0xE0 then some { later := 0, value := octet.toNat - 0xC0 }
  else if octet = 0xE0 then some { later := 1, value := 0, least := 0xA0 }
  else if octet = 0xED then some { later := 1, value := 0xD, most := 0x9F }
  else if octet < 0xF0 then some { later := 1, value := octet.toNat - 0xE0 }
  else if octet = 0xF0 then some { later := 2, value := 0, least := 0x90 }
  else if octet < 0xF4 then some { later := 2, value := octet.toNat - 0xF0 }
  else if octet = 0xF4 then some { later := 2, value := 4, most := 0x8F }
  else none

def replacement : Char := '\uFFFD'

def start (octet : UInt8) : List Char × Option Unfinished :=
  if octet < 0x80 then ([Char.ofNat octet.toNat], none)
  else
    match begin? octet with
    | some unfinished => ([], some unfinished)
    | none => ([replacement], none)

def step : Option Unfinished → UInt8 → List Char × Option Unfinished
  | none, octet => start octet
  | some unfinished, octet =>
      if unfinished.least ≤ octet ∧ octet ≤ unfinished.most then
        let value := unfinished.value * 64 + (octet.toNat - 0x80)
        match unfinished.later with
        | 0 => ([Char.ofNat value], none)
        | later + 1 => ([], some { later, value })
      else
        let (chars, next) := start octet
        (replacement :: chars, next)

def showFrom : Option Unfinished → List UInt8 → List Char
  | none, [] => []
  | some _, [] => [replacement]
  | state, octet :: rest => (step state octet).1 ++ showFrom (step state octet).2 rest

def shown (octets : List UInt8) : String := String.ofList (showFrom none octets)

end Utf8
end CompactSchema
