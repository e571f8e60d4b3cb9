import CompactSchema.Regex.Basic
import CompactSchema.Regex.Bytes

/-
The normal form of an expression.

Parts that stand side by side are joined and groups that capture nothing disappear:
literals of one sequence become one literal, choices among characters become one set,
and branches that begin alike share their beginning.  The size of an expression is the
size of its normal form.
-/

namespace CompactSchema
namespace Regex

/-- An expression in normal form.  A constructor may hold what is not normal; the
functions under "Building" make what is. -/
inductive NormalForm where
  | empty
  /-- Characters one after the other, given by their bytes. -/
  | literal (bytes : List Nat)
  /-- The characters in ranges; `ascii` says that they were described as bytes. -/
  | chars (ascii : Bool) (ranges : List (Nat × Nat))
  | look (condition : Look)
  | repeated (body : NormalForm) (least : Nat) (most : Option Nat) (greedy : Bool)
  | group (body : NormalForm)
  | concat (parts : List NormalForm)
  | choice (branches : List NormalForm)

namespace NormalForm

/-! ### Lengths -/

mutual

/-- A number of bytes that every match consumes, positive if no match is empty; a set
without characters leaves it open. -/
def leastLength : NormalForm → Option Nat
  | .empty | .look _ => some 0
  | .literal bytes => some bytes.length
  | .chars _ ranges => if ranges.isEmpty then none else some 1
  | .repeated body least _ _ => (leastLength body).map (least * ·)
  | .group body => leastLength body
  | .concat parts => sumOfLengths parts
  | .choice branches => leastOfLengths branches

def sumOfLengths : List NormalForm → Option Nat
  | [] => some 0
  | part :: rest => do return (← leastLength part) + (← sumOfLengths rest)

def leastOfLengths : List NormalForm → Option Nat
  | [] => none
  | [only] => leastLength only
  | branch :: rest => do return min (← leastLength branch) (← leastOfLengths rest)

end

mutual

def consumesNothing : NormalForm → Bool
  | .empty | .look _ => true
  | .literal _ | .chars _ _ => false
  | .repeated body _ _ _ => consumesNothing body
  | .group body => consumesNothing body
  | .concat parts => allConsumeNothing parts
  | .choice branches => allConsumeNothing branches

def allConsumeNothing : List NormalForm → Bool
  | [] => true
  | first :: rest => consumesNothing first && allConsumeNothing rest

end

/-! ### Equality -/

mutual

/-- The expressions are the same.  A capturing group is the same as no other. -/
def same : NormalForm → NormalForm → Bool
  | .empty, .empty => true
  | .literal left, .literal right => left == right
  | .chars ascii ranges, .chars ascii' ranges' => ascii == ascii' && ranges == ranges'
  | .look left, .look right => left == right
  | .repeated body least most greedy, .repeated body' least' most' greedy' =>
      same body body' && least == least' && most == most' && greedy == greedy'
  | .concat left, .concat right => allSame left right
  | .choice left, .choice right => allSame left right
  | _, _ => false

def allSame : List NormalForm → List NormalForm → Bool
  | [], [] => true
  | left :: lefts, right :: rights => same left right && allSame lefts rights
  | _, _ => false

end

def commonBeginning : List NormalForm → List NormalForm → List NormalForm
  | left :: lefts, right :: rights =>
      if same left right then left :: commonBeginning lefts rights else []
  | _, _ => []

/-! ### Building -/

def withoutSurrogates? (range : Nat × Nat) : Option (Nat × Nat) :=
  let low := if 0xD800 ≤ range.1 ∧ range.1 < 0xE000 then 0xE000 else range.1
  let high := if 0xD800 ≤ range.2 ∧ range.2 < 0xE000 then 0xD7FF else range.2
  if low ≤ high then some (low, high) else none

def oneOf (ascii : Bool) (ranges : List (Nat × Nat)) : NormalForm :=
  match ranges with
  | [] => .chars true []
  | [(low, high)] => if low = high then .literal (utf8Bytes low) else .chars ascii ranges
  | _ => .chars ascii ranges

def ofSet (set : CharSet) : NormalForm :=
  oneOf (set matches .ascii _) (set.toRanges.filterMap withoutSurrogates?)

/-- Repetition.  More than one round of a body that consumes nothing changes nothing. -/
def times (body : NormalForm) (least : Nat) (most : Option Nat) (greedy : Bool) : NormalForm :=
  let (least, most) :=
    if body.consumesNothing then (min least 1, some ((most.map (min · 1)).getD 1)) else (least, most)
  if least = 0 ∧ most = some 0 then .empty
  else if least = 1 ∧ most = some 1 then body
  else .repeated body least most greedy

def putBefore (part : NormalForm) (parts : List NormalForm) : List NormalForm :=
  match part, parts with
  | .literal left, .literal right :: rest => .literal (left ++ right) :: rest
  | part, parts => part :: parts

def joinParts : List NormalForm → List NormalForm
  | [] => []
  | part :: rest =>
      match part with
      | .empty => joinParts rest
      | .concat inner => inner.foldr putBefore (joinParts rest)
      | part => putBefore part (joinParts rest)

def inOrder (parts : List NormalForm) : NormalForm :=
  match joinParts parts with
  | [] => .empty
  | [only] => only
  | parts => .concat parts

def charOfLiteral? (bytes : List Nat) : Option Nat :=
  match bytes with
  | [a] => if a < 0x80 then some a else none
  | [a, b] => if a < 0xE0 ∧ 0xC0 ≤ a then some ((a - 0xC0) * 64 + (b - 0x80)) else none
  | [a, b, c] =>
      if a < 0xF0 ∧ 0xE0 ≤ a then some ((a - 0xE0) * 4096 + (b - 0x80) * 64 + (c - 0x80)) else none
  | [a, b, c, d] =>
      if 0xF0 ≤ a then
        some ((a - 0xF0) * 262144 + (b - 0x80) * 4096 + (c - 0x80) * 64 + (d - 0x80))
      else
        none
  | _ => none

def singleChars? : List NormalForm → Option (List Nat)
  | [] => some []
  | .literal bytes :: rest => do return (← charOfLiteral? bytes) :: (← singleChars? rest)
  | _ => none

def charRanges? : List NormalForm → Option (List (Nat × Nat))
  | [] => some []
  | .chars _ ranges :: rest => (charRanges? rest).map (ranges ++ ·)
  | _ => none

def joinBranches (branches : List NormalForm) : List NormalForm :=
  branches.flatMap fun
    | .choice inner => inner
    | branch => [branch]

/-- Any one of the expressions, unless they begin alike. -/
def unite (branches : List NormalForm) : NormalForm :=
  match joinBranches branches with
  | [] => .chars true []
  | [only] => only
  | branches =>
      match singleChars? branches with
      | some codes => oneOf false (CharSet.normalize (codes.map fun code => (code, code)))
      | none =>
          match charRanges? branches with
          | some ranges => oneOf false (CharSet.normalize ranges)
          | none => .choice branches

def sequences? : List NormalForm → Option (List (List NormalForm))
  | [] => some []
  | .concat parts :: rest => (sequences? rest).map (parts :: ·)
  | _ => none

/-- Any one of the expressions; what all sequences begin with comes first. -/
def anyOf (branches : List NormalForm) : NormalForm :=
  match unite branches with
  | .choice branches =>
      match sequences? branches with
      | some (first :: others) =>
          let beginning := others.foldl commonBeginning first
          if beginning.isEmpty then .choice branches
          else
            inOrder <| beginning ++
              [unite ((first :: others).map fun parts => inOrder (parts.drop beginning.length))]
      | _ => .choice branches
  | other => other

/-! ### Expressions -/

/-- An expression whose outermost sequence or choice may still go on. -/
inductive Unclosed where
  | closed (form : NormalForm)
  | parts (list : List NormalForm)
  | branches (list : List NormalForm)

namespace Unclosed

def close : Unclosed → NormalForm
  | .closed form => form
  | .parts list => inOrder list
  | .branches list => anyOf list

def after (first : NormalForm) : Unclosed → Unclosed
  | .parts list => .parts (first :: list)
  | other => .parts [first, other.close]

def beside (left : NormalForm) : Unclosed → Unclosed
  | .branches list => .branches (left :: list)
  | other => .branches [left, other.close]

end Unclosed

def unclosed : Regex → Unclosed
  | .empty => .closed .empty
  | .chars set => .closed (ofSet set)
  | .look condition => .closed (.look condition)
  | .seq first second => (unclosed second).after (unclosed first).close
  | .alt left right => (unclosed right).beside (unclosed left).close
  | .repeated body least most greedy => .closed ((unclosed body).close.times least most greedy)
  | .group true body => .closed (.group (unclosed body).close)
  | .group false body => .closed (unclosed body).close

end NormalForm

def normalForm (regex : Regex) : NormalForm := (NormalForm.unclosed regex).close

end Regex
end CompactSchema
