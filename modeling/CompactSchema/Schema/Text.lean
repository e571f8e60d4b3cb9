import CompactSchema.Json.Reader
import CompactSchema.Json.Writer
import CompactSchema.Schema.Reader
import CompactSchema.Schema.Stored

/-
Schemas as text.

A schema is written as the compact text of its stored form, and read from text in one
pass: the stored form is read as soon as it is complete, and only then the text behind
it is looked at.
-/

namespace CompactSchema

inductive SchemaTextError where
  /-- The text holds a JSON value that is not a schema. -/
  | schema (error : SchemaError)
  | text (fault : JsonFault)

namespace Schema

def text (schema : Schema) : String := schema.toJson.text

/-- Reads a schema from text.  A fault of the schema counts before characters that
follow it. -/
def ofText (text : String) : Except SchemaTextError Schema :=
  match Json.readFront Json.nestingLimit (tokens text) with
  | .error fault => .error (.text fault)
  | .ok (stored, rest) =>
      match ofJson stored with
      | .error error => .error (.schema error)
      | .ok schema =>
          match rest with
          | [] => .ok schema
          | _ :: _ => .error (.text .illFormed)

end Schema
end CompactSchema
