import CompactSchema.Regex.Syntax

/-
The expression that a syntax tree stands for.

Flags hold from where they are set to the end of the enclosing group.  Without the
Unicode flag only ASCII characters may be described by classes, so that every match
ends between characters; a tree that breaks this, or that names an unknown property,
stands for no expression.
-/

namespace CompactSchema
namespace Regex

structure Flags where
  ignoreCase : Bool
  multiLine : Bool
  dotMatchesNewLine : Bool
  anyLineEnd : Bool
  swapGreed : Bool
  unicode : Bool

def Flags.initial : Flags :=
  { ignoreCase := false
    multiLine := false
    dotMatchesNewLine := false
    anyLineEnd := false
    swapGreed := false
    unicode := true }

def Flags.set (flags : Flags) (flag : Flag) (value : Bool) : Flags :=
  match flag with
  | .ignoreCase => { flags with ignoreCase := value }
  | .multiLine => { flags with multiLine := value }
  | .dotMatchesNewLine => { flags with dotMatchesNewLine := value }
  | .anyLineEnd => { flags with anyLineEnd := value }
  | .swapGreed => { flags with swapGreed := value }
  | .unicode => { flags with unicode := value }
  | .ignoreBlanks => flags

def Flags.apply (flags : Flags) (changes : FlagChanges) : Flags :=
  changes.foldl (fun flags change => flags.set change.1 change.2) flags

def foldCase (flags : Flags) (set : CharSet) : CharSet :=
  let set := if flags.ignoreCase then .folded set else set
  if flags.unicode then set else .ascii set

/-- Adds the characters of other case, then takes the complement if it is asked for.
A complement has characters beyond ASCII. -/
def foldAndNegate (flags : Flags) (negated : Bool) (set : CharSet) : Option CharSet :=
  if negated then
    if flags.unicode then some (.complement (foldCase flags set)) else none
  else
    some (foldCase flags set)

def letterSet (flags : Flags) (negated : Bool) (kind : LetterClass) : Option CharSet :=
  if flags.unicode then
    let set : CharSet :=
      match kind with
      | .digit => .decimalDigits
      | .space => .space
      | .word => .word
    some (if negated then .complement set else set)
  else if negated then
    none
  else
    let set : CharSet :=
      match kind with
      | .digit => .asciiDigits
      | .space => .asciiSpace
      | .word => .asciiWord
    some (.ascii set)

def propertySet (flags : Flags) (negated : Bool) (query : CharSet.PropertyQuery) : Option CharSet := do
  guard flags.unicode
  foldAndNegate flags negated (← CharSet.ofProperty? query)

def classChar? (flags : Flags) (literal : Literal) : Option Char :=
  if flags.unicode || literal.char.toNat < 128 then some literal.char else none

def combine (operation : ClassOperation) (left right : CharSet) : CharSet :=
  match operation with
  | .intersection => .inter left right
  | .difference => .difference left right
  | .symmetricDifference => .symmetricDifference left right

mutual

def classSet (flags : Flags) : ClassTree → Option CharSet
  | .nothing => some .empty
  | .literal literal => (classChar? flags literal).map .single
  | .span low high => do
      let low ← classChar? flags low
      let high ← classChar? flags high
      return .span low.toNat high.toNat
  | .ascii negated listed => foldAndNegate flags negated (.ranges listed)
  | .property negated query => propertySet flags negated query
  | .letter negated kind => letterSet flags negated kind
  | .bracketed negated contents => do foldAndNegate flags negated (← classSet flags contents)
  | .union items => classUnion flags items
  | .combined operation left right => do
      let left ← classSet flags left
      let right ← classSet flags right
      return combine operation (foldCase flags left) (foldCase flags right)

def classUnion (flags : Flags) : List ClassTree → Option CharSet
  | [] => some .empty
  | item :: rest => do
      let set ← classSet flags item
      let others ← classUnion flags rest
      return .union set others

end

def literalRegex (flags : Flags) (literal : Literal) : Option Regex :=
  let single := CharSet.single literal.char
  if flags.unicode then some (.chars (foldCase flags single))
  else if literal.char.toNat < 128 then some (.chars (foldCase flags single))
  else if literal.byte then none
  else some (.chars single)

def dotRegex (flags : Flags) : Option Regex :=
  if flags.unicode then
    if flags.dotMatchesNewLine then some (.chars .all)
    else if flags.anyLineEnd then some (.chars (.complement (.ranges [(0x0A, 0x0A), (0x0D, 0x0D)])))
    else some (.chars (.complement (.single '\n')))
  else
    none

def assertionLook (flags : Flags) (assertion : Assertion) : Look :=
  let ascii := !flags.unicode
  match assertion with
  | .lineStart =>
      if flags.multiLine then (if flags.anyLineEnd then .anyLineStart else .lineStart)
      else .textStart
  | .lineEnd =>
      if flags.multiLine then (if flags.anyLineEnd then .anyLineEnd else .lineEnd) else .textEnd
  | .textStart => .textStart
  | .textEnd => .textEnd
  | .wordBoundary => .wordBoundary ascii
  | .noWordBoundary => .noWordBoundary ascii
  | .wordStart => .wordStart ascii
  | .wordEnd => .wordEnd ascii
  | .wordStartHalf => .wordStartHalf ascii
  | .wordEndHalf => .wordEndHalf ascii

mutual

/-- The expression of a tree, and the flags behind it. -/
def meaning (flags : Flags) : SyntaxTree → Option (Regex × Flags)
  | .nothing => some (.empty, flags)
  | .flags changes => some (.empty, flags.apply changes)
  | .literal literal => do return (← literalRegex flags literal, flags)
  | .dot => do return (← dotRegex flags, flags)
  | .assertion assertion => some (.look (assertionLook flags assertion), flags)
  | .property negated query => do return (.chars (← propertySet flags negated query), flags)
  | .letter negated kind => do return (.chars (← letterSet flags negated kind), flags)
  | .bracketed negated contents => do
      let set ← classSet flags contents
      return (.chars (← foldAndNegate flags negated set), flags)
  | .repetition body least most greedy => do
      let (regex, flags) ← meaning flags body
      return (.repeated regex least most (greedy != flags.swapGreed), flags)
  | .group capturing changes body => do
      let (regex, _) ← meaning (flags.apply changes) body
      return (.group capturing regex, flags)
  | .alternation branches => do
      let (regexes, flags) ← meanings flags branches
      return (.choice regexes, flags)
  | .concatenation parts => do
      let (regexes, flags) ← meanings flags parts
      return (.sequence regexes, flags)

def meanings (flags : Flags) : List SyntaxTree → Option (List Regex × Flags)
  | [] => some ([], flags)
  | tree :: rest => do
      let (regex, flags) ← meaning flags tree
      let (regexes, flags) ← meanings flags rest
      return (regex :: regexes, flags)

end

def ofTree? (tree : SyntaxTree) : Option Regex := (meaning .initial tree).map (·.1)

end Regex
end CompactSchema
