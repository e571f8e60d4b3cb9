import CompactSchema.Regex.CharSet

/-
Regular expressions.

An expression consumes characters of a set, or looks at the place between two
characters without consuming any.  Whether an expression matches somewhere in a text
does not depend on greediness or on groups; both are kept because its size does.
-/

namespace CompactSchema

/-- A condition on the place between two characters.  The flag of a word condition
tells whether words are made of ASCII characters only. -/
inductive Look where
  | textStart
  | textEnd
  | lineStart
  | lineEnd
  /-- Lines end in a carriage return, a line feed, or both. -/
  | anyLineStart
  | anyLineEnd
  | wordBoundary (ascii : Bool)
  | noWordBoundary (ascii : Bool)
  | wordStart (ascii : Bool)
  | wordEnd (ascii : Bool)
  /-- No word character stands before. -/
  | wordStartHalf (ascii : Bool)
  /-- No word character follows. -/
  | wordEndHalf (ascii : Bool)
  deriving DecidableEq

namespace Look

def isWord (ascii : Bool) (c : Option Char) : Bool :=
  c.any (if ascii then CharSet.asciiWord else CharSet.word).contains

/-- The condition holds between two characters, absent at the ends of the text. -/
def holds (before after : Option Char) : Look → Bool
  | .textStart => before.isNone
  | .textEnd => after.isNone
  | .lineStart => before.isNone || before == some '\n'
  | .lineEnd => after.isNone || after == some '\n'
  | .anyLineStart =>
      before.isNone || before == some '\n' || (before == some '\r' && !(after == some '\n'))
  | .anyLineEnd =>
      after.isNone || after == some '\r' || (after == some '\n' && !(before == some '\r'))
  | .wordBoundary ascii => isWord ascii before != isWord ascii after
  | .noWordBoundary ascii => isWord ascii before == isWord ascii after
  | .wordStart ascii => !isWord ascii before && isWord ascii after
  | .wordEnd ascii => isWord ascii before && !isWord ascii after
  | .wordStartHalf ascii => !isWord ascii before
  | .wordEndHalf ascii => !isWord ascii after

end Look

inductive Regex where
  | empty
  | chars (set : CharSet)
  | look (condition : Look)
  | seq (first second : Regex)
  | alt (left right : Regex)
  /-- At least `least` and at most `most` repetitions; no limit if `most` is
  absent. -/
  | repeated (body : Regex) (least : Nat) (most : Option Nat) (greedy : Bool)
  | group (capturing : Bool) (body : Regex)

namespace Regex

def sequence : List Regex → Regex
  | [] => .empty
  | [only] => only
  | first :: rest => .seq first (sequence rest)

def choice : List Regex → Regex
  | [] => .chars .empty
  | [only] => only
  | left :: rest => .alt left (choice rest)

end Regex
end CompactSchema
