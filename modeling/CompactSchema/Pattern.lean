import CompactSchema.Regex.Cost
import CompactSchema.Regex.Matching
import CompactSchema.Regex.Meaning
import CompactSchema.Regex.Reader

/-
Patterns.

A pattern is the text of a regular expression together with the expression, so that
two patterns are equal exactly when their texts are.
-/

namespace CompactSchema

/-- The expression that a text denotes, if it is one and is not too large. -/
def Regex.compile? (source : String) : Option Regex := do
  let tree ← Regex.SyntaxTree.read? source
  let regex ← Regex.ofTree? tree
  if regex.isAffordable then some regex else none

structure Pattern where
  source : String
  regex : Regex
  compiled : Regex.compile? source = some regex

namespace Pattern

def ofSource? (source : String) : Option Pattern :=
  match found : Regex.compile? source with
  | some regex => some ⟨source, regex, found⟩
  | none => none

def isMatch (pattern : Pattern) (text : String) : Bool := pattern.regex.isMatch text.toList

theorem eq_of_source_eq {left right : Pattern} (same : left.source = right.source) : left = right := by
  cases left with
  | mk source regex compiled =>
      cases right with
      | mk source' regex' compiled' =>
          simp only at same
          subst same
          have : some regex = some regex' := compiled.symm.trans compiled'
          cases this
          rfl

instance : DecidableEq Pattern := fun left right =>
  if same : left.source = right.source then isTrue (eq_of_source_eq same)
  else isFalse fun equal => same (congrArg Pattern.source equal)

end Pattern
end CompactSchema
