import CompactSchema.Format
import CompactSchema.Validation.Violation

/-
Validation.

A datum conforms to a schema if its type is that of the schema's kind and it meets
every constraint that is present.  Checking goes through the datum in a fixed order
and reports the first violation: a value before its parts, required names before
properties, properties in the order of their names, elements in their order.
-/

namespace CompactSchema

abbrev Verdict := Except Violation Unit

namespace Verdict

def pass : Verdict := .ok ()

def fail (problem : Problem) : Verdict := .error (.here problem)

def ensure (condition : Bool) (problem : Problem) : Verdict :=
  if condition then pass else fail problem

def within (step : DataStep) (schemaStep : SchemaStep) (verdict : Verdict) : Verdict :=
  verdict.mapError (·.within step schemaStep)

def isPass (verdict : Verdict) : Bool := verdict.isOk

end Verdict

namespace Check

open Verdict

def typeMismatch (expected : String) (value : Json) : Verdict :=
  fail (.wrongType expected value.typeName)

def bound {α : Type} (bound : Option α) (meets : α → Bool) (problem : α → Problem) : Verdict :=
  match bound with
  | none => pass
  | some bound => ensure (meets bound) (problem bound)

def string (constraints : StringConstraints) (text : String) : Verdict := do
  let length := text.length
  bound constraints.length.least (fun least => least.toNat ≤ length) (.tooShort · length)
  bound constraints.length.most (fun most => length ≤ most.toNat) (.tooLong · length)
  bound constraints.members (fun members => members.contains text) (.notMember · text)
  bound constraints.pattern (fun pattern => pattern.isMatch text) (.noMatch · text)
  bound constraints.format (fun format => format.accepts text) (.wrongFormat · text)

def number (constraints : NumberConstraints) (value : Binary64) : Verdict := do
  bound constraints.least (fun least => !value.lt least) (.tooSmall · value)
  bound constraints.most (fun most => !most.lt value) (.tooLarge · value)
  bound constraints.members (fun members => members.any (·.same value)) (.notAmong · value)

def count (bounds : LengthBounds) (items : Nat) : Verdict := do
  bound bounds.least (fun least => least.toNat ≤ items) (.tooFewItems · items)
  bound bounds.most (fun most => items ≤ most.toNat) (.tooManyItems · items)

def id (format : Option IdFormat) (value : Json) : Verdict :=
  match format with
  | some .uuid =>
      match value with
      | .string text => ensure (Format.isUuid text) (.notUuid text)
      | value => typeMismatch "uuid string" value
  | some .number =>
      match value with
      | .number _ => pass
      | value => typeMismatch "number" value
  | some (.other name) => fail (.idFormatUnknown name)
  | none => fail .idFormatMissing

/-- Every required name has a member; the first that has none is reported. -/
def required (members : List (String × Json)) : List String → Verdict
  | [] => pass
  | name :: rest =>
      if (members.lookup name).isSome then required members rest
      else .error ⟨[.key name], .missing⟩

def elements (check : Json → Verdict) : Nat → List Json → Verdict
  | _, [] => pass
  | i, element :: rest => do
      within (.index i) .items (check element)
      elements check (i + 1) rest

def property (check : Json → Verdict) (members : List (String × Json)) (name : String) : Verdict :=
  match members.lookup name with
  | some value => within (.key name) (.property name) (check value)
  | none => pass

end Check

namespace Schema

open Verdict

mutual

def check : Schema → Json → Verdict
  | .string constraints, value =>
      match value with
      | .string text => Check.string constraints text
      | value => Check.typeMismatch "string" value
  | .number constraints, value =>
      match value with
      | .number n => Check.number constraints n.toBinary64
      | value => Check.typeMismatch "number" value
  | .boolean, value =>
      match value with
      | .boolean _ => pass
      | value => Check.typeMismatch "boolean" value
  | .null, value =>
      match value with
      | .null => pass
      | value => Check.typeMismatch "null" value
  | .array items count, value =>
      match value with
      | .array elements => do
          Check.count count elements.length
          Check.elements items.check 0 elements
      | value => Check.typeMismatch "array" value
  | .object properties required, value =>
      match value with
      | .object members => do
          Check.required members required
          checkProperties properties members
      | value => Check.typeMismatch "object" value
  | .id format, value => Check.id format value

def checkProperties : List (String × Schema) → List (String × Json) → Verdict
  | [], _ => pass
  | (name, schema) :: rest, members => do
      Check.property schema.check members name
      checkProperties rest members

end

def accepts (schema : Schema) (value : Json) : Bool := (schema.check value).isPass

end Schema
end CompactSchema
