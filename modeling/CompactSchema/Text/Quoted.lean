import CompactSchema.Unicode.Additions
import CompactSchema.Unicode.BinaryProperty
import CompactSchema.Unicode.GeneralCategory

/-
Quoted text in messages.

A text is shown between double quotes so that every character of it can be seen:
quotes and backslashes are escaped, and what has no shape of its own, or joins the
character before it, is shown by its code point in braces.
-/

namespace CompactSchema
namespace Quoted

def hexDigits (code : Nat) : List Char := Nat.toDigits 16 code

def byCode (c : Char) : List Char := '\\' :: 'u' :: '\x7b' :: (hexDigits c.toNat ++ ['\x7d'])

def isIgnorable (c : Char) : Bool :=
  Unicode.inRanges c.toNat Unicode.BinaryProperty.defaultIgnorableCodePoint

/-- The character has a shape of its own. -/
def isVisible (c : Char) : Bool :=
  c == ' ' || Unicode.inRanges c.toNat Unicode.Additions.visible ||
    !(Unicode.GeneralCategory.ofCode c.toNat matches
      .control | .format | .surrogate | .privateUse | .unassigned | .lineSeparator
      | .paragraphSeparator | .spaceSeparator)

/-- The character joins the one before it and is no letter. -/
def joins (c : Char) : Bool :=
  Unicode.inRanges c.toNat Unicode.Additions.graphemeExtend ||
    (Unicode.inRanges c.toNat Unicode.BinaryProperty.graphemeExtend &&
      !(Unicode.GeneralCategory.ofCode c.toNat matches .modifierLetter))

def encodeChar (c : Char) : List Char :=
  match c with
  | '\x00' => ['\\', '0']
  | '\t' => ['\\', 't']
  | '\r' => ['\\', 'r']
  | '\n' => ['\\', 'n']
  | '"' => ['\\', '"']
  | '\\' => ['\\', '\\']
  | c =>
      if ' ' ≤ c ∧ c ≤ '~' then [c]
      else if joins c || isIgnorable c || !isVisible c then byCode c
      else [c]

def encode (text : String) : String :=
  String.ofList ('"' :: (text.toList.flatMap encodeChar ++ ['"']))

def list (shown : List String) : String := "[" ++ ", ".intercalate shown ++ "]"

end Quoted
end CompactSchema
