import CompactSchema.Power

/-
The size of an automaton.

An automaton reads bytes.  It is built state by state and may not grow beyond a limit.
Only the number of its states and their size are kept, and a `Fragment` says how a part
of an expression makes an automaton grow.
-/

namespace CompactSchema
namespace Regex

structure Automaton where
  states : Nat
  /-- Its size in octets. -/
  size : Nat

namespace Automaton

def empty : Automaton := ⟨0, 0⟩

def sizeLimit : Nat := 10 * 2 ^ 20

def stateSize : Nat := 32

/-- The size of a transition of a state with several transitions. -/
def transitionSize : Nat := 8

def branchSize : Nat := 4

def grow (automaton : Automaton) (states octets : Nat) : Option Automaton :=
  let size := automaton.size + states * stateSize + octets
  if size ≤ sizeLimit then some ⟨automaton.states + states, size⟩ else none

def addBranches (automaton : Automaton) (count : Nat) : Option Automaton :=
  automaton.grow 0 (count * branchSize)

def addChoice (automaton : Automaton) (branches : Nat) : Option Automaton :=
  automaton.grow 1 (branches * branchSize)

def addState (automaton : Automaton) : Option Automaton := automaton.grow 1 0

/-- Leads from the end of a part to what follows; a part that ends in a choice takes a
branch for it. -/
def follow (automaton : Automaton) (endsInChoice : Bool) : Option Automaton :=
  if endsInChoice then automaton.addBranches 1 else some automaton

end Automaton

/-! ### Fragments -/

/-- How a part of an expression makes an automaton grow, and whether the part ends in a
state that chooses. -/
structure Fragment where
  extend : Automaton → Option (Bool × Automaton)

namespace Fragment

def fixed (states octets : Nat) : Fragment where
  extend automaton := (automaton.grow states octets).map fun grown => (false, grown)

def extendBy : List Fragment → Bool × Automaton → Option (Bool × Automaton)
  | [], built => some built
  | next :: rest, (endsInChoice, automaton) => do
      let (nextEnds, automaton) ← next.extend automaton
      extendBy rest (nextEnds, ← automaton.follow endsInChoice)

def inOrder : List Fragment → Fragment
  | [] => fixed 1 0
  | first :: rest => ⟨fun automaton => (first.extend automaton).bind (extendBy rest)⟩

def extendAgain (round : Fragment) : Nat → Bool × Automaton → Option (Bool × Automaton)
  | 0, built => some built
  | rounds + 1, (endsInChoice, automaton) =>
      match round.extend automaton with
      | none => none
      | some (nextEnds, automaton) =>
          match automaton.follow endsInChoice with
          | none => none
          | some automaton => extendAgain round rounds (nextEnds, automaton)

def exactly (round : Fragment) : Nat → Fragment
  | 0 => fixed 1 0
  | rounds + 1 => ⟨fun automaton => (round.extend automaton).bind (extendAgain round rounds)⟩

def optional (round : Fragment) : Fragment where
  extend automaton := do
    let (ends, automaton) ← round.extend (← automaton.addChoice 2)
    return (false, ← (← automaton.addState).follow ends)

/-- Further rounds that may be left out, all of which lead to one end. -/
def extendUpTo (round : Fragment) : Nat → Bool × Automaton → Option (Bool × Automaton)
  | 0, built => some built
  | rounds + 1, (endsInChoice, automaton) =>
      match (automaton.addChoice 2).bind round.extend with
      | none => none
      | some (nextEnds, automaton) =>
          match automaton.follow endsInChoice with
          | none => none
          | some automaton => extendUpTo round rounds (nextEnds, automaton)

def between (round : Fragment) (least most : Nat) : Fragment where
  extend automaton := do
    let (ends, automaton) ← (round.exactly least).extend automaton
    let (ends, automaton) ← round.extendUpTo (most - least) (ends, ← automaton.addState)
    return (false, ← automaton.follow ends)

def anyNumber (round : Fragment) : Fragment where
  extend automaton := do
    let (ends, automaton) ← round.extend (← automaton.addChoice 1)
    return (true, ← automaton.follow ends)

/-- Any number of rounds that may be empty: a choice whether there is a first round,
and a choice behind each whether there is another. -/
def anyNumberOfEmpty (round : Fragment) : Fragment where
  extend automaton := do
    let (ends, automaton) ← round.extend automaton
    let automaton ← (← automaton.addChoice 2).follow ends
    return (false, ← (← automaton.addChoice 2).addState)

def atLeast (round : Fragment) (least : Nat) : Fragment where
  extend automaton := do
    let (ends, automaton) ← (round.exactly least).extend automaton
    return (true, ← (← automaton.addChoice 1).follow ends)

/-- The rounds of a repetition; `consuming` says that no round is empty. -/
def repeated (round : Fragment) (consuming : Bool) (least : Nat) : Option Nat → Fragment
  | some most =>
      if least = 0 ∧ most = 1 then round.optional
      else if least = most then round.exactly least
      else round.between least most
  | none =>
      if 0 < least then round.atLeast least
      else if consuming then round.anyNumber
      else round.anyNumberOfEmpty

def captured (body : Fragment) : Fragment where
  extend automaton := do
    let (ends, automaton) ← body.extend (← automaton.addState)
    return (false, ← (← automaton.addState).follow ends)

def extendBeside : List Fragment → Automaton → Option Automaton
  | [], automaton => some automaton
  | branch :: rest, automaton => do
      let (ends, automaton) ← branch.extend automaton
      extendBeside rest (← (← automaton.addBranches 1).follow ends)

/-- Any one of several parts.  The state that chooses stands behind the second. -/
def anyOf : List Fragment → Fragment
  | [] => fixed 2 0
  | [only] => only
  | first :: second :: rest =>
      { extend := fun automaton => do
          let (firstEnds, automaton) ← first.extend automaton
          let (secondEnds, automaton) ← second.extend automaton
          let automaton ← (← automaton.addChoice 2).addState
          let automaton ← (← automaton.follow firstEnds).follow secondEnds
          return (false, ← extendBeside rest automaton) }

end Fragment

end Regex
end CompactSchema
