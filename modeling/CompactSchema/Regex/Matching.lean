import CompactSchema.Power
import CompactSchema.Regex.Basic

/-
Searching a text for a match.

The places of a text are numbered from 0 to its length, and a set of places is a
number whose binary digits are its members.  An expression sends a set of places to
the set of places that it can reach from there; each part of the expression does so
in one step, so that no search backtracks.
-/

namespace CompactSchema
namespace Regex

/-- An expression whose characters and conditions have been looked up in a text:
each stands for the set of places where it applies. -/
inductive Located where
  | stay
  | step (places : Nat)
  | filter (places : Nat)
  | seq (first second : Located)
  | alt (left right : Located)
  | repeated (body : Located) (least : Nat) (most : Option Nat)

def charPlaces (set : CharSet) : List Char → Nat
  | [] => 0
  | c :: rest => 2 * charPlaces set rest + (if set.contains c then 1 else 0)

def lookPlaces (condition : Look) (before : Option Char) : List Char → Nat
  | [] => if condition.holds before none then 1 else 0
  | c :: rest =>
      2 * lookPlaces condition (some c) rest + (if condition.holds before (some c) then 1 else 0)

def locate (text : List Char) : Regex → Located
  | .empty => .stay
  | .chars set => .step (charPlaces set text)
  | .look condition => .filter (lookPlaces condition none text)
  | .seq first second => .seq (first.locate text) (second.locate text)
  | .alt left right => .alt (left.locate text) (right.locate text)
  | .repeated body least most _ => .repeated (body.locate text) least most
  | .group _ body => body.locate text

/-- Applies a step a number of times; a set that a step leaves alone stays as it is. -/
def iterate (step : Nat → Nat) : Nat → Nat → Nat
  | 0, places => places
  | rounds + 1, places =>
      let next := step places
      if next = places then places else iterate step rounds next

/-- The places reached in at most `rounds` steps from the newest ones among those
reached before. -/
def spread (step : Nat → Nat) : Nat → Nat → Nat → Nat
  | 0, reached, _ => reached
  | rounds + 1, reached, newest =>
      let found := (reached ||| step newest) ^^^ reached
      if found = 0 then reached else spread step rounds (reached ||| found) found

/-- The places that an expression reaches from a set of places, in a text of
`length` characters. -/
def Located.reach (length : Nat) : Located → Nat → Nat
  | .stay, places => places
  | .step here, places => (places &&& here) <<< 1
  | .filter here, places => places &&& here
  | .seq first second, places => second.reach length (first.reach length places)
  | .alt left right, places => left.reach length places ||| right.reach length places
  | .repeated body least most, places =>
      let start := iterate (body.reach length) least places
      let rounds :=
        match most with
        | some most => min (most - least) (length + 1)
        | none => length + 1
      spread (body.reach length) rounds start start

def isMatch (regex : Regex) (text : List Char) : Bool :=
  (regex.locate text).reach text.length (2 ^ (text.length + 1) - 1) != 0

end Regex
end CompactSchema
