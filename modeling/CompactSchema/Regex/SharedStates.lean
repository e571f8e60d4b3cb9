import CompactSchema.Regex.Automaton
import CompactSchema.Regex.Bytes
import Std.Data.HashMap

/-
The states of sets of characters.

The states that tell the characters of a set from all others are shared where they read
the same.  What can be shared is looked up in a table with a fixed number of slots, in
which a newer state takes the place of an older one; two states that fall on one slot
may therefore be built more than once.
-/

namespace CompactSchema
namespace Regex

structure ByteTransition where
  low : Nat
  high : Nat
  target : Nat
  deriving DecidableEq

/-- An automaton with a table of the states that may be shared; a state is known by what
it reads. -/
structure SharedStates (Reading : Type) where
  automaton : Automaton
  table : Std.HashMap Nat (Reading × Nat)

namespace SharedStates

def seed : UInt64 := 14695981039346656037

def mix (hash : UInt64) (value : Nat) : UInt64 := (hash ^^^ value.toUInt64) * 1099511628211

/-- The number of the state that reads what is given and falls on a slot.  Unless the
table has it, it is added with the octets that it holds. -/
@[specialize]
def stateOf {Reading : Type} [DecidableEq Reading] (slot : Nat) (reading : Reading) (octets : Nat) :
    SharedStates Reading → Option (Nat × SharedStates Reading)
  | ⟨automaton, table⟩ =>
      let known : Option Nat :=
        match table[slot]? with
        | some (held, number) => if held = reading then some number else none
        | none => none
      match known with
      | some number => some (number, ⟨automaton, table⟩)
      | none =>
          match automaton.grow 1 octets with
          | some grown =>
              some (automaton.states, ⟨grown, table.insert slot (reading, automaton.states)⟩)
          | none => none

end SharedStates

/-- A state whose last transition does not lead anywhere yet. -/
structure PendingState where
  done : List ByteTransition
  last : Option (Nat × Nat)

def PendingState.complete (pending : PendingState) (target : Nat) : List ByteTransition :=
  match pending.last with
  | some (low, high) => ⟨low, high, target⟩ :: pending.done
  | none => pending.done

namespace Forward

abbrev States := SharedStates (List ByteTransition)

def slots : Nat := 10000

def slotOf (transitions : List ByteTransition) : Nat :=
  let hash := transitions.foldr
    (fun transition hash =>
      SharedStates.mix (SharedStates.mix (SharedStates.mix hash transition.low) transition.high)
        transition.target)
    SharedStates.seed
  hash.toNat % slots

/-- Completes pending states, of which each leads to the next one and the last leads to
the end of the set; gives the number of the first. -/
def complete (last : Nat) : List PendingState → States → Option (Nat × States)
  | [], states => some (last, states)
  | pending :: deeper, states => do
      let (target, states) ← complete last deeper states
      let transitions := pending.complete target
      states.stateOf (slotOf transitions) transitions
        (transitions.length * Automaton.transitionSize)

def fresh (sequence : ByteRanges) : List PendingState := sequence.map fun range => ⟨[], some range⟩

/-- Adds a sequence of bytes that comes after all sequences before.  States that it
shares with the sequence before stay pending. -/
def insert (last : Nat) :
    List PendingState → ByteRanges → States → Option (List PendingState × States)
  | pending :: deeper, range :: rest, states =>
      if pending.last = some range then do
        let (deeper, states) ← insert last deeper rest states
        return (pending :: deeper, states)
      else do
        let (target, states) ← complete last deeper states
        return (⟨pending.complete target, some range⟩ :: fresh rest, states)
  | [], sequence, states => some (fresh sequence, states)
  | pending, [], states => some (pending, states)

def insertAll (last : Nat) :
    List ByteRanges → List PendingState → States → Option (List PendingState × States)
  | [], pending, states => some (pending, states)
  | sequence :: rest, pending, states =>
      match insert last pending sequence states with
      | none => none
      | some (pending, states) => insertAll last rest pending states

def fragment (sequences : List ByteRanges) : Fragment where
  extend automaton := do
    let last := automaton.states
    let (pending, states) ← insertAll last sequences [⟨[], none⟩] ⟨← automaton.addState, ∅⟩
    let (_, states) ← complete last pending states
    return (false, states.automaton)

end Forward

namespace Backward

abbrev States := SharedStates ByteTransition

def slots : Nat := 1000

def slotOf (transition : ByteTransition) : Nat :=
  let hash :=
    SharedStates.mix
      (SharedStates.mix (SharedStates.mix SharedStates.seed transition.target) transition.low)
      transition.high
  hash.toNat % slots

/-- Adds a sequence of bytes, of which the first is read last, and a branch that leads
to it. -/
def insert : Nat → ByteRanges → States → Option States
  | _, [], ⟨automaton, table⟩ =>
      match automaton.addBranches 1 with
      | some grown => some ⟨grown, table⟩
      | none => none
  | target, (low, high) :: rest, states =>
      match states.stateOf (slotOf ⟨low, high, target⟩) ⟨low, high, target⟩ 0 with
      | some (number, states) => insert number rest states
      | none => none

def insertAll (target : Nat) : List ByteRanges → States → Option States
  | [], states => some states
  | sequence :: rest, states =>
      match insert target sequence states with
      | some states => insertAll target rest states
      | none => none

def fragment (sequences : List ByteRanges) : Fragment where
  extend automaton := do
    let automaton ← automaton.addChoice 0
    let states ← insertAll automaton.states sequences ⟨← automaton.addState, ∅⟩
    return (false, states.automaton)

end Backward

/-- The part for the characters in ranges.  Characters of one byte are told apart by a
single state. -/
def Fragment.ofRanges (backward : Bool) (ranges : List (Nat × Nat)) : Fragment :=
  if ranges.all (·.2 < 0x80) then .fixed 2 (ranges.length * Automaton.transitionSize)
  else
    let sequences := ranges.flatMap fun range => byteSequences range.1 range.2
    if backward then Backward.fragment sequences else Forward.fragment sequences

end Regex
end CompactSchema
