import CompactSchema.Json.Value
import CompactSchema.Pattern

/-
Schemas.

A schema describes JSON values of one of seven kinds.  Schemas are trees: arrays have
one schema for all elements, objects have one for each declared property.  The
properties stand in the order of their names, each name once, as `Schema.Ordered`
states.

Constraints are independent of each other here.  A schema that is built rather than
read may have inverted or infinite bounds.
-/

namespace CompactSchema

inductive StringFormat where
  | email
  | phoneNumber
  | date
  | dateTime
  | uuid
  /-- Any other name, which constrains nothing. -/
  | other (name : String)
  deriving DecidableEq

namespace StringFormat

def ofName (name : String) : StringFormat :=
  match name with
  | "email" => .email
  | "phoneNumber" => .phoneNumber
  | "date" => .date
  | "date-time" => .dateTime
  | "uuid" => .uuid
  | name => .other name

def name : StringFormat → String
  | .email => "email"
  | .phoneNumber => "phoneNumber"
  | .date => "date"
  | .dateTime => "date-time"
  | .uuid => "uuid"
  | .other name => name

end StringFormat

inductive IdFormat where
  | number
  | uuid
  /-- Any other name, which no value meets. -/
  | other (name : String)
  deriving DecidableEq

namespace IdFormat

def ofName (name : String) : IdFormat :=
  match name with
  | "number" => .number
  | "uuid" => .uuid
  | name => .other name

def name : IdFormat → String
  | .number => "number"
  | .uuid => "uuid"
  | .other name => name

end IdFormat

structure LengthBounds where
  least : Option UInt64 := none
  most : Option UInt64 := none
  deriving DecidableEq

structure StringConstraints where
  length : LengthBounds := {}
  pattern : Option Pattern := none
  members : Option (List String) := none
  format : Option StringFormat := none
  deriving DecidableEq

structure NumberConstraints where
  least : Option Binary64 := none
  most : Option Binary64 := none
  members : Option (List Binary64) := none
  deriving DecidableEq

inductive Schema where
  | string (constraints : StringConstraints)
  | number (constraints : NumberConstraints)
  | boolean
  | null
  | array (items : Schema) (count : LengthBounds)
  /-- Required names need not be declared. -/
  | object (properties : List (String × Schema)) (required : List String)
  | id (format : Option IdFormat)

namespace Schema

instance : Inhabited Schema := ⟨.null⟩

def kindName : Schema → String
  | .string _ => "string"
  | .number _ => "number"
  | .boolean => "boolean"
  | .null => "null"
  | .array _ _ => "array"
  | .object _ _ => "object"
  | .id _ => "id"

mutual

def Ordered : Schema → Prop
  | .array items _ => items.Ordered
  | .object properties _ => Json.NamesIncrease properties ∧ PropertiesOrdered properties
  | _ => True

def PropertiesOrdered : List (String × Schema) → Prop
  | [] => True
  | (_, schema) :: rest => schema.Ordered ∧ PropertiesOrdered rest

end

mutual

def levels : Schema → Nat
  | .array items _ => items.levels + 1
  | .object properties _ => propertyLevels properties + 1
  | _ => 1

def propertyLevels : List (String × Schema) → Nat
  | [] => 0
  | (_, schema) :: rest => max schema.levels (propertyLevels rest)

end

def sameBound : Option Binary64 → Option Binary64 → Bool
  | none, none => true
  | some x, some y => x.same y
  | _, _ => false

def sameNumbers : List Binary64 → List Binary64 → Bool
  | [], [] => true
  | x :: xs, y :: ys => x.same y && sameNumbers xs ys
  | _, _ => false

def sameNumberConstraints (left right : NumberConstraints) : Bool :=
  sameBound left.least right.least && sameBound left.most right.most &&
    (match left.members, right.members with
     | none, none => true
     | some xs, some ys => sameNumbers xs ys
     | _, _ => false)

mutual

/-- Equality part by part.  Numbers are compared as numbers, so a NaN differs from
itself and the zeros are equal; patterns are compared by their source. -/
def same : Schema → Schema → Bool
  | .string left, .string right => decide (left = right)
  | .number left, .number right => sameNumberConstraints left right
  | .boolean, .boolean => true
  | .null, .null => true
  | .array items count, .array items' count' => items.same items' && decide (count = count')
  | .object properties required, .object properties' required' =>
      sameProperties properties properties' && decide (required = required')
  | .id format, .id format' => decide (format = format')
  | _, _ => false

def sameProperties : List (String × Schema) → List (String × Schema) → Bool
  | [], [] => true
  | (name, schema) :: rest, (name', schema') :: rest' =>
      decide (name = name') && schema.same schema' && sameProperties rest rest'
  | _, _ => false

end

end Schema
end CompactSchema
