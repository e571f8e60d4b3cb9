import CompactSchema.Regex.Property
import CompactSchema.Regex.Basic

/-
The syntax of regular expressions.

A syntax tree keeps what was written: flags, groups and classes.  Its depth is
limited, so that a reader of expressions never has to follow more than
`Syntax.depthLimit` levels.
-/

namespace CompactSchema
namespace Regex

inductive Flag where
  | ignoreCase
  | multiLine
  | dotMatchesNewLine
  | anyLineEnd
  | swapGreed
  | unicode
  | ignoreBlanks
  deriving DecidableEq

def Flag.ofLetter? : Char → Option Flag
  | 'i' => some .ignoreCase
  | 'm' => some .multiLine
  | 's' => some .dotMatchesNewLine
  | 'R' => some .anyLineEnd
  | 'U' => some .swapGreed
  | 'u' => some .unicode
  | 'x' => some .ignoreBlanks
  | _ => none

abbrev FlagChanges := List (Flag × Bool)

inductive LetterClass where
  | digit
  | space
  | word
  deriving DecidableEq

inductive ClassOperation where
  | intersection
  | difference
  | symmetricDifference
  deriving DecidableEq

/-- A literal character; `byte` says that it was written as a byte, in two
hexadecimal digits. -/
structure Literal where
  char : Char
  byte : Bool
  deriving DecidableEq

inductive ClassTree where
  | nothing
  | literal (char : Literal)
  | span (low high : Literal)
  /-- A class of ASCII characters by name, given as ranges. -/
  | ascii (negated : Bool) (ranges : List (Nat × Nat))
  | property (negated : Bool) (query : CharSet.PropertyQuery)
  | letter (negated : Bool) (kind : LetterClass)
  | bracketed (negated : Bool) (contents : ClassTree)
  | union (items : List ClassTree)
  | combined (operation : ClassOperation) (left right : ClassTree)

inductive Assertion where
  | lineStart
  | lineEnd
  | textStart
  | textEnd
  | wordBoundary
  | noWordBoundary
  | wordStart
  | wordEnd
  | wordStartHalf
  | wordEndHalf
  deriving DecidableEq

inductive SyntaxTree where
  | nothing
  /-- Changes flags up to the end of the enclosing group. -/
  | flags (changes : FlagChanges)
  | literal (char : Literal)
  | dot
  | assertion (place : Assertion)
  | property (negated : Bool) (query : CharSet.PropertyQuery)
  | letter (negated : Bool) (kind : LetterClass)
  | bracketed (negated : Bool) (contents : ClassTree)
  | repetition (body : SyntaxTree) (least : Nat) (most : Option Nat) (greedy : Bool)
  | group (capturing : Bool) (changes : FlagChanges) (body : SyntaxTree)
  | alternation (branches : List SyntaxTree)
  | concatenation (parts : List SyntaxTree)

namespace ClassTree

def ofItems : List ClassTree → ClassTree
  | [] => .nothing
  | [only] => only
  | items => .union items

mutual

def depth : ClassTree → Nat
  | .bracketed _ contents => contents.depth + 1
  | .union items => itemsDepth items + 1
  | .combined _ left right => max left.depth right.depth + 1
  | _ => 0

def itemsDepth : List ClassTree → Nat
  | [] => 0
  | item :: rest => max item.depth (itemsDepth rest)

end
end ClassTree

namespace SyntaxTree

def depthLimit : Nat := 250

def ofParts : List SyntaxTree → SyntaxTree
  | [] => .nothing
  | [only] => only
  | parts => .concatenation parts

def ofBranches : List SyntaxTree → SyntaxTree
  | [only] => only
  | branches => .alternation branches

def repeatable : SyntaxTree → Bool
  | .nothing | .flags _ => false
  | _ => true

mutual

def depth : SyntaxTree → Nat
  | .bracketed _ contents => contents.depth + 1
  | .repetition body _ _ _ => body.depth + 1
  | .group _ _ body => body.depth + 1
  | .alternation branches => listDepth branches + 1
  | .concatenation parts => listDepth parts + 1
  | _ => 0

def listDepth : List SyntaxTree → Nat
  | [] => 0
  | tree :: rest => max tree.depth (listDepth rest)

end
end SyntaxTree
end Regex
end CompactSchema
