import CompactSchema.Json.Numeral

/-
The tokens of JSON text.

The lexer is an automaton over characters.  It never fails: a text that is cut
short or ill formed ends in a token that says so, and whoever reads the tokens
meets the fault only on reaching it.  Two faults leave a token whole, so that a
reader may pass over it: a numeral beyond every double, and a string with an
unpaired surrogate escape.
-/

namespace CompactSchema

inductive JsonFault where
  | ended
  | illFormed
  deriving DecidableEq, Repr

inductive Token where
  | openArray
  | closeArray
  | openObject
  | closeObject
  | comma
  | colon
  | word (value : Json)
  /-- A numeral, or nothing when it is beyond every double. -/
  | number (value : Option Number)
  /-- A string, or nothing when a surrogate escape in it has no partner. -/
  | text (value : Option String)
  | brokenScalar (fault : JsonFault)
  | brokenText (fault : JsonFault)
  | stray

namespace Lexer

def isBlank (c : Char) : Bool := c == ' ' || c == '\n' || c == '\t' || c == '\r'

def digit? (c : Char) : Option Nat :=
  if '0' ≤ c ∧ c ≤ '9' then some (c.toNat - '0'.toNat) else none

def hexDigit? (c : Char) : Option Nat :=
  if '0' ≤ c ∧ c ≤ '9' then some (c.toNat - '0'.toNat)
  else if 'a' ≤ c ∧ c ≤ 'f' then some (c.toNat - 'a'.toNat + 10)
  else if 'A' ≤ c ∧ c ≤ 'F' then some (c.toNat - 'A'.toNat + 10)
  else none

def escaped? : Char → Option Char
  | '"' => some '"'
  | '\\' => some '\\'
  | '/' => some '/'
  | 'b' => some '\x08'
  | 'f' => some '\x0c'
  | 'n' => some '\n'
  | 'r' => some '\r'
  | 't' => some '\t'
  | _ => none

def isHighSurrogate (unit : Nat) : Bool := 0xD800 ≤ unit && unit ≤ 0xDBFF

def isLowSurrogate (unit : Nat) : Bool := 0xDC00 ≤ unit && unit ≤ 0xDFFF

/-- A string being read: its characters so far, last first, whether a surrogate
was found unpaired, and a high surrogate that still awaits its partner. -/
structure Reading where
  chars : List Char
  unpaired : Bool
  high : Option Nat

/-- Four hexadecimal digits being read.  They end after four bytes of text,
whatever these are. -/
structure HexReading where
  unit : Nat
  bytes : Nat
  valid : Bool

inductive NumeralPlace where
  | sign
  | zero
  | whole
  | point
  | fraction
  | exponentMark
  | exponentSign
  | exponent
  deriving DecidableEq

inductive State where
  | between
  | word (left : List Char) (value : Json)
  /-- The digits of the numeral stand last first. -/
  | numeral (place : NumeralPlace) (numeral : Numeral)
  | text (reading : Reading)
  | escape (reading : Reading)
  | hex (reading : Reading) (digits : HexReading)
  | stopped

def NumeralPlace.complete : NumeralPlace → Bool
  | .zero | .whole | .fraction | .exponent => true
  | _ => false

def inOrder (numeral : Numeral) : Numeral :=
  { numeral with
    whole := numeral.whole.reverse
    fraction := numeral.fraction.reverse
    exponent := numeral.exponent.reverse }

def numeralToken (numeral : Numeral) : Token := .number (inOrder numeral).value

def extendNumeral (place : NumeralPlace) (numeral : Numeral) (c : Char) :
    Option (NumeralPlace × Numeral) :=
  match place, digit? c with
  | .sign, some digit =>
      some (if digit = 0 then .zero else .whole, { numeral with whole := [digit] })
  | .whole, some digit => some (.whole, { numeral with whole := digit :: numeral.whole })
  | .point, some digit | .fraction, some digit =>
      some (.fraction, { numeral with fraction := digit :: numeral.fraction })
  | .exponentMark, some digit | .exponentSign, some digit | .exponent, some digit =>
      some (.exponent, { numeral with exponent := digit :: numeral.exponent })
  | .zero, none | .whole, none =>
      if c = '.' then some (.point, numeral)
      else if c = 'e' ∨ c = 'E' then some (.exponentMark, numeral)
      else none
  | .fraction, none => if c = 'e' ∨ c = 'E' then some (.exponentMark, numeral) else none
  | .exponentMark, none =>
      if c = '+' then some (.exponentSign, numeral)
      else if c = '-' then some (.exponentSign, { numeral with exponentNegative := true })
      else none
  | _, _ => none

def Reading.settle (reading : Reading) : Reading :=
  match reading.high with
  | none => reading
  | some _ => { reading with high := none, unpaired := true }

def Reading.push (reading : Reading) (c : Char) : Reading :=
  { reading.settle with chars := c :: reading.chars }

def Reading.pushUnit (reading : Reading) (unit : Nat) : Reading :=
  if isLowSurrogate unit then
    match reading.high with
    | some high =>
        { reading with
          high := none
          chars := Char.ofNat (0x10000 + (high - 0xD800) * 0x400 + (unit - 0xDC00)) :: reading.chars }
    | none => { reading with unpaired := true }
  else if isHighSurrogate unit then
    { reading.settle with high := some unit }
  else
    reading.push (Char.ofNat unit)

def Reading.token (reading : Reading) : Token :=
  let settled := reading.settle
  .text (if settled.unpaired then none else some (String.ofList settled.chars.reverse))

/-- The token of a string that is broken off.  An unpaired surrogate before that
is the earlier fault. -/
def Reading.broken (reading : Reading) (fault : JsonFault) : Token :=
  if reading.unpaired then .text none else .brokenText fault

def start (c : Char) : List Token × State :=
  if isBlank c then ([], .between)
  else
    match c with
    | '[' => ([.openArray], .between)
    | ']' => ([.closeArray], .between)
    | '\x7b' => ([.openObject], .between)
    | '\x7d' => ([.closeObject], .between)
    | ',' => ([.comma], .between)
    | ':' => ([.colon], .between)
    | '"' => ([], .text ⟨[], false, none⟩)
    | 'n' => ([], .word ['u', 'l', 'l'] .null)
    | 't' => ([], .word ['r', 'u', 'e'] (.boolean true))
    | 'f' => ([], .word ['a', 'l', 's', 'e'] (.boolean false))
    | '-' => ([], .numeral .sign ⟨true, [], [], false, []⟩)
    | c =>
        match extendNumeral .sign ⟨false, [], [], false, []⟩ c with
        | some (place, numeral) => ([], .numeral place numeral)
        | none => ([.stray], .stopped)

def stepWord (left : List Char) (value : Json) (c : Char) : List Token × State :=
  match left with
  | [] => ([.stray], .stopped)
  | next :: rest =>
      if c ≠ next then ([.brokenScalar .illFormed], .stopped)
      else if rest.isEmpty then ([.word value], .between)
      else ([], .word rest value)

def stepNumeral (place : NumeralPlace) (numeral : Numeral) (c : Char) : List Token × State :=
  match extendNumeral place numeral c with
  | some (place, numeral) => ([], .numeral place numeral)
  | none =>
      if place.complete && !(place == .zero && (digit? c).isSome) then
        let (tokens, state) := start c
        (numeralToken numeral :: tokens, state)
      else
        ([.brokenScalar .illFormed], .stopped)

def stepText (reading : Reading) (c : Char) : List Token × State :=
  if c = '"' then ([reading.token], .between)
  else if c = '\\' then ([], .escape reading)
  else if c < ' ' then ([reading.settle.broken .illFormed], .stopped)
  else ([], .text (reading.push c))

def stepEscape (reading : Reading) (c : Char) : List Token × State :=
  if c = 'u' then ([], .hex reading ⟨0, 0, true⟩)
  else
    match escaped? c with
    | some meant => ([], .text (reading.push meant))
    | none => ([reading.settle.broken .illFormed], .stopped)

def stepHex (reading : Reading) (digits : HexReading) (c : Char) : List Token × State :=
  let read : HexReading :=
    match hexDigit? c with
    | some digit => ⟨digits.unit * 16 + digit, digits.bytes + 1, digits.valid⟩
    | none => ⟨digits.unit, digits.bytes + c.utf8Size, false⟩
  if read.bytes < 4 then ([], .hex reading read)
  else if read.valid then ([], .text (reading.pushUnit read.unit))
  else ([reading.broken .illFormed], .stopped)

def step : State → Char → List Token × State
  | .between, c => start c
  | .word left value, c => stepWord left value c
  | .numeral place numeral, c => stepNumeral place numeral c
  | .text reading, c => stepText reading c
  | .escape reading, c => stepEscape reading c
  | .hex reading digits, c => stepHex reading digits c
  | .stopped, _ => ([], .stopped)

def finish : State → List Token
  | .between | .stopped => []
  | .word _ _ => [.brokenScalar .ended]
  | .numeral place numeral =>
      if place.complete then [numeralToken numeral] else [.brokenScalar .ended]
  | .text reading | .escape reading | .hex reading _ => [reading.broken .ended]

def run : State → List Char → List Token
  | state, [] => finish state
  | state, c :: rest => (step state c).1 ++ run (step state c).2 rest

end Lexer

def tokens (text : String) : List Token := Lexer.run .between text.toList

end CompactSchema
