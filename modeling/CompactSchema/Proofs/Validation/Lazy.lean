import CompactSchema.Proofs.Schema.Reading
import CompactSchema.Validation.Lazy
import Mathlib

/-
Validation against a stored schema that can be read.

Both ways of checking a datum go through it in the same order, so they agree not only
on the verdict but on the violation that is reported.
-/

namespace CompactSchema
namespace StoredSchema

open Schema (NodeRead PropertiesRead)

theorem checkProperties_eq {check : Json → Json → Verdict}
    {readNode : Json → Except SchemaError Schema}
    (agree : ∀ stored schema, readNode stored = .ok schema → check stored = schema.check)
    {stored : List (String × Json)} {properties : List (String × Schema)}
    (read : PropertiesRead readNode stored properties) (members : List (String × Json)) :
    checkProperties check members stored = Schema.checkProperties properties members := by
  induction read with
  | nil => rfl
  | cons first others ih =>
      simp only [checkProperties, Schema.checkProperties]
      rw [agree _ _ first, ih]

/-- A stored node is checked like the schema that it is read as. -/
theorem checkNode_eq_check {limit left : Nat} {stored : Json} {schema : Schema}
    (read : Schema.readNode limit left stored = .ok schema) :
    checkNode limit left stored = schema.check := by
  induction left generalizing stored schema with
  | zero => exact absurd read Schema.readNode_zero_ne_ok
  | succ left ih =>
      obtain ⟨node, fields, children⟩ := Schema.readNode_succ_eq_ok_iff.1 read
      funext value
      cases children with
      | leaf => simp only [checkNode, fields]
      | array count readItems =>
          have items := ih readItems
          cases value with
          | array elements => simp only [checkNode, fields, Schema.check, items]
          | _ => simp only [checkNode, fields, Schema.check]
      | object required readOnes =>
          have properties := checkProperties_eq (fun _ _ readOne => ih readOne) readOnes
          cases value with
          | object members => simp only [checkNode, fields, Schema.check, properties]
          | _ => simp only [checkNode, fields, Schema.check]

/-- Against a stored schema that can be read, the lazy check gives the same result as
the check against the schema: the same verdict, and the same violation with its path,
its expectation and its finding. -/
theorem check_eq_check_of_read (stored : Json) (schema : Schema)
    (read : Schema.ofJson stored = .ok schema) (value : Json) :
    StoredSchema.check stored value = schema.check value ∧
      StoredSchema.accepts stored value = schema.accepts value := by
  have same : StoredSchema.check stored value = schema.check value := by
    unfold StoredSchema.check
    rw [checkNode_eq_check read]
  refine ⟨same, ?_⟩
  unfold StoredSchema.accepts Schema.accepts
  rw [same]

/-- A name that is too short is reported alike. -/
theorem check_eq_check_of_short_name :
    StoredSchema.check
      (.object [("items", .object [("minLength", .number (.ofUInt64 2)), ("type", .string "string")]),
        ("maxItems", .null), ("type", .string "array")]) (.array [.string "ab", .string "c"]) =
      (Schema.array (.string { length := { least := some 2 } }) {}).check
        (.array [.string "ab", .string "c"]) ∧
    (Schema.array (.string { length := { least := some 2 } }) {}).check
      (.array [.string "ab", .string "c"]) = .error ⟨[.index 1], .tooShort 2 1⟩ := by
  have read : Schema.ofJson
      (.object [("items", .object [("minLength", .number (.ofUInt64 2)), ("type", .string "string")]),
        ("maxItems", .null), ("type", .string "array")]) =
      .ok (.array (.string { length := { least := some 2 } }) {}) := by
    cbv
  exact ⟨(check_eq_check_of_read _ _ read _).1, rfl⟩

end StoredSchema
end CompactSchema
