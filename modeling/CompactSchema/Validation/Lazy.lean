import CompactSchema.Schema.Reader
import CompactSchema.Validation.Check

/-
Validation against a schema in its stored form.

Each schema node is read when the datum reaches it, and its children are left alone
until then.  A node that makes no sense is a violation of every datum that reaches
it, and of no other.
-/

namespace CompactSchema
namespace StoredSchema

open Verdict

def checkProperties (check : Json → Json → Verdict) (members : List (String × Json)) :
    List (String × Json) → Verdict
  | [] => pass
  | (name, stored) :: rest => do
      Check.property (check stored) members name
      checkProperties check members rest

/-- Checks a value against a stored node, where the first number counts the levels of
schema nodes that may still follow. -/
def checkNode (limit : Nat) : Nat → Json → Json → Verdict
  | 0, _, _ => fail (.badSchema (.atNode (.tooDeep limit)))
  | left + 1, stored, value =>
      match ShallowNode.read stored with
      | .error error => fail (.badSchema error)
      | .ok (.leaf schema) => schema.check value
      | .ok (.array items count) =>
          match value with
          | .array elements => do
              Check.count count elements.length
              Check.elements (checkNode limit left items) 0 elements
          | value => Check.typeMismatch "array" value
      | .ok (.object properties required) =>
          match value with
          | .object members => do
              Check.required members required
              checkProperties (checkNode limit left) members properties
          | value => Check.typeMismatch "object" value

def check (stored value : Json) : Verdict :=
  checkNode Schema.defaultDepthLimit Schema.defaultDepthLimit stored value

def accepts (stored value : Json) : Bool := (check stored value).isPass

end StoredSchema
end CompactSchema
