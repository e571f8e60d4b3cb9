import CompactSchema.Schema.Basic

/-
The stored form of a schema.

A schema is stored as a JSON object whose `type` is the tag of its kind.  Constraints
that are absent are left out, and so is an empty list of required names.
-/

namespace CompactSchema

/-- A number in its stored form: an integer where possible, and `null` when it is not
finite. -/
def numberValue : Binary64 → Json
  | .finite x =>
      if whole : x.isIntegral ∧ (x.signedUnits / (unitsPerOne : Int)).natAbs < 2 ^ 63 then
        .number (.integer (x.signedUnits / (unitsPerOne : Int)) (fitsWord_of_natAbs_lt whole.2))
      else
        .number (.float x)
  | _ => .null

namespace Schema

def optional (name : String) (value : Option Json) : List (String × Json) :=
  match value with
  | some value => [(name, value)]
  | none => []

def lengthValue (length : UInt64) : Json := .number (.ofUInt64 length)

def stringList (strings : List String) : Json := .array (strings.map .string)

mutual

def toJson : Schema → Json
  | .string constraints =>
      .object <|
        optional "enum" (constraints.members.map stringList) ++
        optional "format" (constraints.format.map fun format => .string format.name) ++
        optional "maxLength" (constraints.length.most.map lengthValue) ++
        optional "minLength" (constraints.length.least.map lengthValue) ++
        optional "pattern" (constraints.pattern.map fun pattern => .string pattern.source) ++
        [("type", .string "string")]
  | .number constraints =>
      .object <|
        optional "enum" (constraints.members.map fun members => .array (members.map numberValue)) ++
        optional "max" (constraints.most.map numberValue) ++
        optional "min" (constraints.least.map numberValue) ++
        [("type", .string "number")]
  | .boolean => .object [("type", .string "boolean")]
  | .null => .object [("type", .string "null")]
  | .array items count =>
      .object <|
        ("items", items.toJson) ::
        (optional "maxItems" (count.most.map lengthValue) ++
        optional "minItems" (count.least.map lengthValue) ++
        [("type", .string "array")])
  | .object properties required =>
      .object <|
        ("properties", .object (propertiesToJson properties)) ::
        ((if required.isEmpty then [] else [("required", stringList required)]) ++
        [("type", .string "object")])
  | .id format =>
      .object <|
        optional "format" (format.map fun format => .string format.name) ++
        [("type", .string "id")]

def propertiesToJson : List (String × Schema) → List (String × Json)
  | [] => []
  | (name, schema) :: rest => (name, schema.toJson) :: propertiesToJson rest

end

end Schema
end CompactSchema
