import CompactSchema.Json.Value
import CompactSchema.Binary64.Decimal

/-
Writing JSON text.

The text is compact.  Strings escape the quote, the backslash and the control
characters below the blank, and nothing else.
-/

namespace CompactSchema
namespace Json

def hexDigit (n : Nat) : Char :=
  if n < 10 then Char.ofNat ('0'.toNat + n) else Char.ofNat ('a'.toNat + (n - 10))

def escape (c : Char) : List Char :=
  match c with
  | '"' => ['\\', '"']
  | '\\' => ['\\', '\\']
  | '\x08' => ['\\', 'b']
  | '\x0c' => ['\\', 'f']
  | '\n' => ['\\', 'n']
  | '\r' => ['\\', 'r']
  | '\t' => ['\\', 't']
  | c =>
      if c < ' ' then ['\\', 'u', '0', '0', hexDigit (c.toNat / 16), hexDigit (c.toNat % 16)]
      else [c]

def writeChars : List Char → List Char → List Char
  | [], rest => '"' :: rest
  | c :: chars, rest => escape c ++ writeChars chars rest

def writeString (s : String) (rest : List Char) : List Char := '"' :: writeChars s.toList rest

def numberChars : Number → List Char
  | .integer n _ => intChars n
  | .float x => Layout.json.finiteChars x

mutual

/-- A value before `rest`. -/
def write : Json → List Char → List Char
  | .null, rest => 'n' :: 'u' :: 'l' :: 'l' :: rest
  | .boolean true, rest => 't' :: 'r' :: 'u' :: 'e' :: rest
  | .boolean false, rest => 'f' :: 'a' :: 'l' :: 's' :: 'e' :: rest
  | .number n, rest => numberChars n ++ rest
  | .string s, rest => writeString s rest
  | .array [], rest => '[' :: ']' :: rest
  | .array (first :: others), rest => '[' :: write first (writeElements others rest)
  | .object [], rest => '\x7b' :: '\x7d' :: rest
  | .object ((name, value) :: others), rest =>
      '\x7b' :: writeString name (':' :: write value (writeMembers others rest))

def writeElements : List Json → List Char → List Char
  | [], rest => ']' :: rest
  | element :: others, rest => ',' :: write element (writeElements others rest)

def writeMembers : List (String × Json) → List Char → List Char
  | [], rest => '\x7d' :: rest
  | (name, value) :: others, rest =>
      ',' :: writeString name (':' :: write value (writeMembers others rest))

end

def text (value : Json) : String := String.ofList (write value [])

end Json
end CompactSchema
