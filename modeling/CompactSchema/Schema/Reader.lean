import CompactSchema.Schema.Basic
import CompactSchema.Schema.Error

/-
Reading schemas from their stored form.

A node is read in two steps.  The shallow step reads the node's own fields and leaves
the child schemas as they are stored; the full step goes on to the children.  A
constraint whose value is `null` counts as absent.  The tag stands under `type`, or
else under `kind`; fields that do not belong to the kind are ignored.
-/

namespace CompactSchema

/-! ### Fields -/

namespace SchemaFields

/-- The value of a field; a `null` counts as absent. -/
def present? (name : String) (fields : List (String × Json)) : Option Json :=
  match fields.lookup name with
  | some .null => none
  | found => found

def lengthLimit : UInt64 := 2 ^ 63 - 1

/-- The length that a number denotes: a natural number, or a float that is one.
Beyond the 64-bit words it is the greatest of these. -/
def lengthOf? : Number → Option UInt64
  | .integer n _ => if 0 ≤ n then some (UInt64.ofNat n.toNat) else none
  | .float x =>
      if x.isNonNegative && x.isIntegral then
        some (UInt64.ofNat (min x.signedUnits.toNat ((2 ^ 64 - 1) * unitsPerOne) / unitsPerOne))
      else
        none

def length (name : String) (fields : List (String × Json)) : Except SchemaError (Option UInt64) :=
  match present? name fields with
  | none => .ok none
  | some (.number n) =>
      match lengthOf? n with
      | none => .error (.atField name .lengthExpected)
      | some length =>
          if length ≤ lengthLimit then .ok (some length)
          else .error (.atField name (.lengthTooLarge length))
  | some _ => .error (.atField name .lengthExpected)

/-- Reads two lengths, the first not above the second. -/
def lengthBounds (leastName mostName : String) (fields : List (String × Json)) :
    Except SchemaError LengthBounds := do
  let least ← length leastName fields
  let most ← length mostName fields
  match least, most with
  | some lo, some hi =>
      if hi < lo then .error (.atNode (.lengthsInverted leastName lo mostName hi))
      else .ok { least, most }
  | _, _ => .ok { least, most }

def number (name : String) (fields : List (String × Json)) : Except SchemaError (Option Binary64) :=
  match present? name fields with
  | none => .ok none
  | some (.number n) => .ok (some n.toBinary64)
  | some _ => .error (.atField name .numberExpected)

def string (name : String) (fields : List (String × Json)) : Except SchemaError (Option String) :=
  match present? name fields with
  | none => .ok none
  | some (.string s) => .ok (some s)
  | some _ => .error (.atField name .stringExpected)

def elements? {α : Type} (read? : Json → Option α) : List Json → Option (List α)
  | [] => some []
  | element :: rest =>
      match read? element, elements? read? rest with
      | some value, some values => some (value :: values)
      | _, _ => none

def string? : Json → Option String
  | .string s => some s
  | _ => none

def number? : Json → Option Binary64
  | .number n => some n.toBinary64
  | _ => none

def strings (name : String) (fields : List (String × Json)) :
    Except SchemaError (Option (List String)) :=
  match present? name fields with
  | none => .ok none
  | some (.array elements) =>
      match elements? string? elements with
      | some strings => .ok (some strings)
      | none => .error (.atField name .stringsExpected)
  | some _ => .error (.atField name .stringsExpected)

def numbers (name : String) (fields : List (String × Json)) :
    Except SchemaError (Option (List Binary64)) :=
  match present? name fields with
  | none => .ok none
  | some (.array elements) =>
      match elements? number? elements with
      | some numbers => .ok (some numbers)
      | none => .error (.atField name .numbersExpected)
  | some _ => .error (.atField name .arrayExpected)

def pattern (name : String) (fields : List (String × Json)) : Except SchemaError (Option Pattern) := do
  match ← string name fields with
  | none => .ok none
  | some source =>
      match Pattern.ofSource? source with
      | some pattern => .ok (some pattern)
      | none => .error (.atField name (.patternInvalid source))

/-- Reads the properties of an object schema without looking at their schemas. -/
def properties (name : String) (fields : List (String × Json)) :
    Except SchemaError (List (String × Json)) :=
  match present? name fields with
  | none => .ok []
  | some (.object members) => .ok members
  | some _ => .error (.atField name .objectExpected)

def tag (fields : List (String × Json)) : Except SchemaError String :=
  match (fields.lookup "type").or (fields.lookup "kind") with
  | none => .error (.atNode .tagMissing)
  | some (.string tag) => .ok tag
  | some _ => .error (.atNode .tagNotString)

end SchemaFields

/-! ### Nodes -/

/-- A node whose own fields are read and whose children are still in their stored
form. -/
inductive ShallowNode where
  | leaf (schema : Schema)
  | array (items : Json) (count : LengthBounds)
  | object (properties : List (String × Json)) (required : List String)

namespace ShallowNode

open SchemaFields

def readString (fields : List (String × Json)) : Except SchemaError ShallowNode := do
  let length ← lengthBounds "minLength" "maxLength" fields
  let pattern ← pattern "pattern" fields
  let members ← strings "enum" fields
  let format ← string "format" fields
  return .leaf (.string { length, pattern, members, format := format.map .ofName })

def readNumber (fields : List (String × Json)) : Except SchemaError ShallowNode := do
  let least ← number "min" fields
  let most ← number "max" fields
  match least, most with
  | some lo, some hi => if hi.lt lo then throw (.atNode (.numbersInverted lo hi))
  | _, _ => pure ()
  let members ← numbers "enum" fields
  return .leaf (.number { least, most, members })

def readId (fields : List (String × Json)) : Except SchemaError ShallowNode := do
  let format ← string "format" fields
  return .leaf (.id (format.map .ofName))

def readArray (fields : List (String × Json)) : Except SchemaError ShallowNode :=
  match present? "items" fields with
  | none => .error (.atNode .itemsMissing)
  | some items => do
      let count ← lengthBounds "minItems" "maxItems" fields
      return .array items count

def readObject (fields : List (String × Json)) : Except SchemaError ShallowNode := do
  let properties ← properties "properties" fields
  let required ← strings "required" fields
  return .object properties (required.getD [])

def readTagged (tag : String) (fields : List (String × Json)) : Except SchemaError ShallowNode :=
  match tag with
  | "string" => readString fields
  | "number" => readNumber fields
  | "boolean" => .ok (.leaf .boolean)
  | "null" => .ok (.leaf .null)
  | "id" => readId fields
  | "array" => readArray fields
  | "object" => readObject fields
  | tag => .error (.unsupportedType tag)

def read : Json → Except SchemaError ShallowNode
  | .object fields => do readTagged (← tag fields) fields
  | other => .error (.atNode (.notAnObject other.typeName))

end ShallowNode

/-! ### Trees -/

namespace Schema

def childError {α : Type} (step : SchemaStep) (result : Except SchemaError α) : Except SchemaError α :=
  result.mapError (·.within step)

def readProperties (readNode : Json → Except SchemaError Schema) :
    List (String × Json) → Except SchemaError (List (String × Schema))
  | [] => .ok []
  | (name, stored) :: rest => do
      let schema ← childError (.property name) (readNode stored)
      let schemas ← readProperties readNode rest
      return (name, schema) :: schemas

/-- Reads a node with its children.  The second number counts the levels that may
still follow, of `limit` levels in all. -/
def readNode (limit : Nat) : Nat → Json → Except SchemaError Schema
  | 0, _ => .error (.atNode (.tooDeep limit))
  | left + 1, stored => do
      match ← ShallowNode.read stored with
      | .leaf schema => return schema
      | .array items count =>
          return .array (← childError .items (readNode limit left items)) count
      | .object properties required =>
          return .object (← readProperties (readNode limit left) properties) required

def defaultDepthLimit : Nat := 1024

def read (limit : Nat) (stored : Json) : Except SchemaError Schema := readNode limit limit stored

def ofJson (stored : Json) : Except SchemaError Schema := read defaultDepthLimit stored

end Schema
end CompactSchema
