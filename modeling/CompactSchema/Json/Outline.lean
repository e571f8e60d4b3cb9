import CompactSchema.Json.Reader

/-
The outline of a JSON text.

The outline of an array or an object gives the tokens of each part and reads none of
them.  Whoever needs a part reads it from its tokens; parts that nobody needs may be
nested to any depth and hold numerals beyond every double.
-/

namespace CompactSchema
namespace Json

inductive Outline where
  | array (elements : List (List Token))
  | object (members : List (String × List Token))

namespace Outline

def splitValue (tokens : List Token) : Option (List Token × List Token) :=
  match skip tokens with
  | .ok rest => some (tokens.take (tokens.length - rest.length), rest)
  | .error _ => none

/-- The elements from a first one on, to the end of the array, where the first number
bounds the number of elements. -/
def elements : Nat → List Token → Option (List (List Token) × List Token)
  | 0, _ => none
  | bound + 1, tokens => do
      match ← splitValue tokens with
      | (value, .comma :: rest) =>
          let (values, rest) ← elements bound rest
          return (value :: values, rest)
      | (value, .closeArray :: rest) => return ([value], rest)
      | _ => none

def members : Nat → List Token → Option (List (String × List Token) × List Token)
  | bound + 1, .text (some name) :: .colon :: tokens => do
      match ← splitValue tokens with
      | (value, .comma :: rest) =>
          let (values, rest) ← members bound rest
          return ((name, value) :: values, rest)
      | (value, .closeObject :: rest) => return ([(name, value)], rest)
      | _ => none
  | _, _ => none

def front : List Token → Option (Outline × List Token)
  | .openArray :: .closeArray :: rest => some (.array [], rest)
  | .openArray :: rest => (elements rest.length rest).map fun (parts, rest) => (.array parts, rest)
  | .openObject :: .closeObject :: rest => some (.object [], rest)
  | .openObject :: rest => (members rest.length rest).map fun (parts, rest) => (.object parts, rest)
  | _ => none

def ofText? (text : String) : Option Outline :=
  match front (tokens text) with
  | some (outline, []) => some outline
  | _ => none

end Outline
end Json
end CompactSchema
