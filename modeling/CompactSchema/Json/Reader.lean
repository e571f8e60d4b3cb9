import CompactSchema.Json.Token

/-
Reading JSON values from tokens.

The reader keeps the open arrays and objects on a stack and knows what it expects
next, so it needs one pass over the tokens and no recursion on values.  The number
of containers open at once is limited by its caller.
-/

namespace CompactSchema
namespace Json

/-- An open container with the elements or members that are complete.  Elements
stand last first; an object waits for the value of `name`. -/
inductive Frame where
  | array (elements : List Json)
  | object (members : List (String × Json)) (name : String)

inductive Expected where
  | value
  | elementOrEnd
  | nameOrEnd
  | name
  | colon
  | commaOrEnd
  deriving DecidableEq

inductive Progress where
  | waiting (expected : Expected) (stack : List Frame)
  | done (value : Json)

def complete (value : Json) : List Frame → Progress
  | [] => .done value
  | .array elements :: outer => .waiting .commaOrEnd (.array (value :: elements) :: outer)
  | .object members name :: outer =>
      .waiting .commaOrEnd (.object (insertMember name value members) name :: outer)

def closeArray : List Frame → Except JsonFault Progress
  | .array elements :: outer => .ok (complete (.array elements.reverse) outer)
  | _ => .error .illFormed

def closeObject : List Frame → Except JsonFault Progress
  | .object members _ :: outer => .ok (complete (.object members) outer)
  | _ => .error .illFormed

def beginValue (limit : Nat) (stack : List Frame) : Token → Except JsonFault Progress
  | .word value => .ok (complete value stack)
  | .number (some value) => .ok (complete (.number value) stack)
  | .text (some value) => .ok (complete (.string value) stack)
  | .openArray =>
      if stack.length < limit then .ok (.waiting .elementOrEnd (.array [] :: stack))
      else .error .illFormed
  | .openObject =>
      if stack.length < limit then .ok (.waiting .nameOrEnd (.object [] "" :: stack))
      else .error .illFormed
  | .brokenScalar fault | .brokenText fault => .error fault
  | _ => .error .illFormed

def beginMember (stack : List Frame) : Token → Except JsonFault Progress
  | .text (some name) =>
      match stack with
      | .object members _ :: outer => .ok (.waiting .colon (.object members name :: outer))
      | _ => .error .illFormed
  | .brokenText fault => .error fault
  | _ => .error .illFormed

def advance (limit : Nat) (stack : List Frame) : Expected → Token → Except JsonFault Progress
  | .value, token => beginValue limit stack token
  | .elementOrEnd, .closeArray => closeArray stack
  | .elementOrEnd, token => beginValue limit stack token
  | .nameOrEnd, .closeObject => closeObject stack
  | .nameOrEnd, token | .name, token => beginMember stack token
  | .colon, .colon => .ok (.waiting .value stack)
  | .colon, _ => .error .illFormed
  | .commaOrEnd, .comma =>
      match stack with
      | .object _ _ :: _ => .ok (.waiting .name stack)
      | _ => .ok (.waiting .value stack)
  | .commaOrEnd, .closeArray => closeArray stack
  | .commaOrEnd, .closeObject => closeObject stack
  | .commaOrEnd, _ => .error .illFormed

def readTokens (limit : Nat) : Progress → List Token → Except JsonFault (Json × List Token)
  | .done value, rest => .ok (value, rest)
  | .waiting _ _, [] => .error .ended
  | .waiting expected stack, token :: rest =>
      match advance limit stack expected token with
      | .ok progress => readTokens limit progress rest
      | .error fault => .error fault

/-- The number of containers that may be open at once in a document. -/
def nestingLimit : Nat := 127

def readFront (limit : Nat) (tokens : List Token) : Except JsonFault (Json × List Token) :=
  readTokens limit (.waiting .value []) tokens

def readWithin (limit : Nat) (text : String) : Except JsonFault Json :=
  match readFront limit (tokens text) with
  | .ok (value, []) => .ok value
  | .ok (_, _ :: _) => .error .illFormed
  | .error fault => .error fault

def read (text : String) : Except JsonFault Json := readWithin nestingLimit text

/-- A token as it is seen by a reader who passes over a value: faults that leave
the token whole do not matter. -/
def blurred : Token → Token
  | .number none => .word .null
  | .text none => .text (some "")
  | token => token

def skip (tokens : List Token) : Except JsonFault (List Token) :=
  match readFront tokens.length (tokens.map blurred) with
  | .ok (_, rest) => .ok (tokens.drop (tokens.length - rest.length))
  | .error fault => .error fault

end Json
end CompactSchema
