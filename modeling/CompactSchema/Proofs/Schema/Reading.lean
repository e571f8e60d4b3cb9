import CompactSchema.Proofs.Results
import CompactSchema.Schema.Reader

/-
How reading a schema succeeds.

A node is read exactly when its own fields are read and, one level further down, its
children are.
-/

namespace CompactSchema

namespace Schema

theorem childError_eq_ok_iff {α : Type} {step : SchemaStep} {result : Except SchemaError α} {a : α} :
    childError step result = .ok a ↔ result = .ok a :=
  mapError_eq_ok_iff

/-- Properties are read one by one under their names. -/
inductive PropertiesRead (readNode : Json → Except SchemaError Schema) :
    List (String × Json) → List (String × Schema) → Prop
  | nil : PropertiesRead readNode [] []
  | cons {name : String} {stored : Json} {schema : Schema} {rest : List (String × Json)}
      {schemas : List (String × Schema)} (first : readNode stored = .ok schema)
      (others : PropertiesRead readNode rest schemas) :
      PropertiesRead readNode ((name, stored) :: rest) ((name, schema) :: schemas)

theorem readProperties_eq_ok_iff {readNode : Json → Except SchemaError Schema}
    {stored : List (String × Json)} {schemas : List (String × Schema)} :
    readProperties readNode stored = .ok schemas ↔ PropertiesRead readNode stored schemas := by
  induction stored generalizing schemas with
  | nil =>
      constructor
      · intro read
        cases read
        exact .nil
      · intro read
        cases read
        rfl
  | cons property rest ih =>
      obtain ⟨name, stored⟩ := property
      simp only [readProperties, bind_eq_ok_iff, childError_eq_ok_iff]
      constructor
      · rintro ⟨schema, first, others, readOthers, same⟩
        cases same
        exact .cons first (ih.1 readOthers)
      · intro read
        cases read with
        | cons first others => exact ⟨_, first, _, ih.2 others, rfl⟩

/-- The schema of a node that has been read, with its children at the next level. -/
inductive NodeRead (readNode : Json → Except SchemaError Schema) : ShallowNode → Schema → Prop
  | leaf (schema : Schema) : NodeRead readNode (.leaf schema) schema
  | array {stored : Json} {items : Schema} (count : LengthBounds) (read : readNode stored = .ok items) :
      NodeRead readNode (.array stored count) (.array items count)
  | object {stored : List (String × Json)} {properties : List (String × Schema)}
      (required : List String) (read : PropertiesRead readNode stored properties) :
      NodeRead readNode (.object stored required) (.object properties required)

theorem readNode_zero_ne_ok {limit : Nat} {stored : Json} {schema : Schema} :
    readNode limit 0 stored ≠ .ok schema := by
  intro impossible
  cases impossible

theorem readNode_of_array {limit left : Nat} {stored items : Json} {count : LengthBounds}
    (node : ShallowNode.read stored = .ok (.array items count)) :
    readNode limit (left + 1) stored = (do
      let items ← childError .items (readNode limit left items)
      return .array items count) := by
  rw [readNode, node]
  rfl

theorem readNode_of_object {limit left : Nat} {stored : Json} {properties : List (String × Json)}
    {required : List String} (node : ShallowNode.read stored = .ok (.object properties required)) :
    readNode limit (left + 1) stored = (do
      let properties ← readProperties (readNode limit left) properties
      return .object properties required) := by
  rw [readNode, node]
  rfl

theorem readNode_succ_eq_ok_iff {limit left : Nat} {stored : Json} {schema : Schema} :
    readNode limit (left + 1) stored = .ok schema ↔
      ∃ node, ShallowNode.read stored = .ok node ∧ NodeRead (readNode limit left) node schema := by
  unfold readNode
  rw [bind_eq_ok_iff]
  constructor
  · rintro ⟨node, fields, rest⟩
    refine ⟨node, fields, ?_⟩
    cases node with
    | leaf schema' =>
        cases rest
        exact .leaf _
    | array items count =>
        obtain ⟨items', readItems, same⟩ := bind_eq_ok_iff.1 rest
        cases same
        exact .array count (childError_eq_ok_iff.1 readItems)
    | object properties required =>
        obtain ⟨properties', readOnes, same⟩ := bind_eq_ok_iff.1 rest
        cases same
        exact .object required (readProperties_eq_ok_iff.1 readOnes)
  · rintro ⟨node, fields, read⟩
    refine ⟨node, fields, ?_⟩
    cases read with
    | leaf => rfl
    | array count readItems =>
        exact bind_eq_ok_iff.2 ⟨_, childError_eq_ok_iff.2 readItems, rfl⟩
    | object required readOnes =>
        exact bind_eq_ok_iff.2 ⟨_, readProperties_eq_ok_iff.2 readOnes, rfl⟩

end Schema
end CompactSchema
