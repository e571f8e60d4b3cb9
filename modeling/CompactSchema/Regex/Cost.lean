import CompactSchema.Regex.LiteralTree
import CompactSchema.Regex.Normal
import CompactSchema.Regex.SharedStates

/-
The cost of an expression.

An expression is searched for forwards and backwards, by an automaton each, and both
have to keep to the limit.  A counted repetition costs as many copies of its body as it
counts, so a short text can denote an expression that costs too much.
-/

namespace CompactSchema
namespace Regex
namespace NormalForm

def literals? : List NormalForm → Option (List (List Nat))
  | [] => some []
  | .literal bytes :: rest => (literals? rest).map (bytes :: ·)
  | _ => none

mutual

/-- The part of an automaton for an expression.  Backwards, groups are not noted. -/
def fragment (backward : Bool) : NormalForm → Fragment
  | .empty | .look _ => .fixed 1 0
  | .literal bytes => .fixed bytes.length 0
  | .chars _ ranges => .ofRanges backward ranges
  | .repeated body least most _ =>
      (fragment backward body).repeated (body.leastLength.any (0 < ·)) least most
  | .group body => if backward then fragment backward body else (fragment backward body).captured
  | .concat parts =>
      let parts := fragments backward parts
      .inOrder (if backward then parts.reverse else parts)
  | .choice branches =>
      match literals? branches with
      | some literals => .ofLiterals (if backward then literals.map List.reverse else literals)
      | none => .anyOf (fragments backward branches)

def fragments (backward : Bool) : List NormalForm → List Fragment
  | [] => []
  | first :: rest => fragment backward first :: fragments backward rest

end

mutual

/-- Every match begins, or backwards ends, where the text does. -/
def isAnchored (backward : Bool) : NormalForm → Bool
  | .look condition => condition == (if backward then .textEnd else .textStart)
  | .repeated body least _ _ => 0 < least && isAnchored backward body
  | .group body => isAnchored backward body
  | .concat parts => if backward then endAnchored parts else startAnchored parts
  | .choice branches => allAnchored backward branches
  | _ => false

def startAnchored : List NormalForm → Bool
  | [] => false
  | part :: rest => isAnchored false part || part.consumesNothing && startAnchored rest

def endAnchored : List NormalForm → Bool
  | [] => false
  | part :: rest => endAnchored rest || isAnchored true part && allConsumeNothing rest

def allAnchored (backward : Bool) : List NormalForm → Bool
  | [] => true
  | branch :: rest => isAnchored backward branch && allAnchored backward rest

end

/-- The automaton that searches for an expression, within the limit.  Unless every
match is anchored, a search may begin anywhere. -/
def search? (backward : Bool) (form : NormalForm) : Option Automaton := do
  let start : Fragment :=
    if form.isAnchored backward then .fixed 1 0
    else .fixed 3 (2 * Automaton.branchSize + Automaton.transitionSize)
  let (_, automaton) ← start.extend .empty
  let body := form.fragment backward
  let (ends, automaton) ← (if backward then body else body.captured).extend automaton
  (← automaton.addState).follow ends

end NormalForm

def isAffordable (regex : Regex) : Bool :=
  let form := regex.normalForm
  (form.search? false).isSome && (form.search? true).isSome

end Regex
end CompactSchema
