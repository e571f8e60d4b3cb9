import CompactSchema.Proofs.Schema.Grammar
import CompactSchema.Validation.Lazy
import Mathlib.Logic.Relation

/-
Edits of a stored schema that change nothing.

A node may have its tag under `type` or under `kind`, may have members that its kind does
not know, and may have constraints that are `null`.  Edits of this sort, of any number of
nodes at any depth, change neither what the schema is read as, with its errors, nor which
data it accepts.
-/

namespace CompactSchema
namespace StoredSchema

open Json (insertMember)
open SchemaFields (present?)

def without (name : String) (fields : List (String × Json)) : List (String × Json) :=
  fields.filter fun field => field.1 ≠ name

/-- The tag of the node stands under the name, or would if the name were there. -/
def IsTagName (fields : List (String × Json)) (name : String) : Prop :=
  name = "type" ∨ name = "kind" ∧ fields.lookup "type" = none

/-- The name is a constraint of the node's kind.  A node without a kind has none. -/
def IsConstraint (fields : List (String × Json)) (name : String) : Prop :=
  ∃ tag, HasTag fields tag ∧ name ∈ ShallowNode.fieldNames tag

/-- An edit of the fields of one node. -/
inductive NodeEdit (fields : List (String × Json)) : List (String × Json) → Prop
  | renameTag {value : Json} (typed : fields.lookup "type" = some value) :
      NodeEdit fields (insertMember "kind" value (without "type" fields))
  | putKind {tag : Json} (typed : fields.lookup "type" = some tag) (value : Json) :
      NodeEdit fields (insertMember "kind" value fields)
  | put {name : String} (noTag : ¬ IsTagName fields name) (noConstraint : ¬ IsConstraint fields name)
      (value : Json) : NodeEdit fields (insertMember name value fields)
  | remove {name : String} (noTag : ¬ IsTagName fields name) (noConstraint : ¬ IsConstraint fields name) :
      NodeEdit fields (without name fields)
  | putNull {name : String} (constraint : IsConstraint fields name) (absent : fields.lookup name = none) :
      NodeEdit fields (insertMember name .null fields)
  | removeNull {name : String} (constraint : IsConstraint fields name)
      (null : fields.lookup name = some .null) : NodeEdit fields (without name fields)

/-- An edit of one schema node, which is the root, the items of an array node, or a
property of an object node.  What stands under `properties` is no node, and its names are
no fields. -/
inductive Edit : Json → Json → Prop
  | node {fields fields' : List (String × Json)} (edit : NodeEdit fields fields') :
      Edit (.object fields) (.object fields')
  | items {fields : List (String × Json)} {items items' : Json} (tagged : HasTag fields "array")
      (present : fields.lookup "items" = some items) (edit : Edit items items') :
      Edit (.object fields) (.object (insertMember "items" items' fields))
  | property {fields before after : List (String × Json)} {name : String} {child child' : Json}
      (tagged : HasTag fields "object")
      (present : fields.lookup "properties" = some (.object (before ++ (name, child) :: after)))
      (edit : Edit child child') :
      Edit (.object fields)
        (.object (insertMember "properties" (.object (before ++ (name, child') :: after)) fields))

theorem lookup_without (name key : String) (fields : List (String × Json)) :
    (without name fields).lookup key = if key = name then none else fields.lookup key := by
  unfold without
  rw [Json.lookup_filter fun other => decide (other ≠ name)]
  by_cases here : key = name
  · rw [if_neg (by simpa using here), if_pos here]
  · rw [if_pos (by simpa using here), if_neg here]

def AgreeApart (name : String) (fields fields' : List (String × Json)) : Prop :=
  ∀ key, key ≠ name → fields'.lookup key = fields.lookup key

theorem agreeApart_insertMember (name : String) (value : Json) (fields : List (String × Json)) :
    AgreeApart name fields (insertMember name value fields) := by
  intro key different
  rw [Json.lookup_insertMember, if_neg different]

theorem agreeApart_without (name : String) (fields : List (String × Json)) :
    AgreeApart name fields (without name fields) := by
  intro key different
  rw [lookup_without, if_neg different]

section

variable {fields fields' : List (String × Json)} {name : String}

theorem AgreeApart.present? (agree : AgreeApart name fields fields') {key : String} (different : key ≠ name) :
    SchemaFields.present? key fields' = SchemaFields.present? key fields := by
  unfold SchemaFields.present?
  rw [agree key different]

theorem AgreeApart.tag (agree : AgreeApart name fields fields') (noTag : ¬ IsTagName fields name) :
    SchemaFields.tag fields' = SchemaFields.tag fields := by
  have sameType : fields'.lookup "type" = fields.lookup "type" :=
    agree "type" fun same => noTag (.inl same.symm)
  unfold SchemaFields.tag
  rw [sameType]
  cases typed : fields.lookup "type" with
  | some value => rfl
  | none => rw [agree "kind" fun same => noTag (.inr ⟨same.symm, typed⟩)]

/-- No constraint has the name of a tag. -/
theorem not_isTagName_of_mem_fieldNames {tag : String} (named : name ∈ ShallowNode.fieldNames tag) :
    name ≠ "type" ∧ name ≠ "kind" := by
  have apart : "type" ∉ ShallowNode.fieldNames tag ∧ "kind" ∉ ShallowNode.fieldNames tag := by
    unfold ShallowNode.fieldNames
    split <;> decide
  exact ⟨fun same => apart.1 (same ▸ named), fun same => apart.2 (same ▸ named)⟩

theorem IsConstraint.not_isTagName (constraint : IsConstraint fields name) : ¬ IsTagName fields name := by
  obtain ⟨tag, _, named⟩ := constraint
  obtain ⟨notType, notKind⟩ := not_isTagName_of_mem_fieldNames named
  rintro (isType | ⟨isKind, _⟩)
  · exact notType isType
  · exact notKind isKind

theorem read_congr (sameTag : SchemaFields.tag fields' = SchemaFields.tag fields)
    (agree : ∀ tag, HasTag fields tag → FieldsAgree (ShallowNode.fieldNames tag) fields' fields) :
    ShallowNode.read (.object fields') = ShallowNode.read (.object fields) := by
  unfold ShallowNode.read
  dsimp only
  rw [sameTag]
  cases found : SchemaFields.tag fields with
  | error error => rfl
  | ok tag => exact ShallowNode.readTagged_congr (agree tag (tag_eq_ok_iff.1 found))

/-- A member that is no tag matters only as a constraint, and then by what it states. -/
theorem read_of_agreeApart (agree : AgreeApart name fields fields') (noTag : ¬ IsTagName fields name)
    (idle : IsConstraint fields name → SchemaFields.present? name fields' = SchemaFields.present? name fields) :
    ShallowNode.read (.object fields') = ShallowNode.read (.object fields) := by
  refine read_congr (agree.tag noTag) fun tag tagged key named => ?_
  by_cases here : key = name
  · subst here
    exact idle ⟨tag, tagged, named⟩
  · exact agree.present? here

theorem present?_eq_none_of_null (null : fields.lookup name = none ∨ fields.lookup name = some .null) :
    SchemaFields.present? name fields = none := by
  unfold SchemaFields.present?
  rcases null with absent | null
  · rw [absent]
  · rw [null]

theorem read_of_nodeEdit (edit : NodeEdit fields fields') :
    ShallowNode.read (.object fields') = ShallowNode.read (.object fields) := by
  cases edit with
  | @renameTag value typed =>
      have noType : (insertMember "kind" value (without "type" fields)).lookup "type" = none := by
        rw [Json.lookup_insertMember, if_neg (by decide), lookup_without, if_pos rfl]
      have newKind : (insertMember "kind" value (without "type" fields)).lookup "kind" = some value := by
        rw [Json.lookup_insertMember, if_pos rfl]
      refine read_congr ?_ fun tag tagged key named => ?_
      · unfold SchemaFields.tag
        rw [noType, newKind, typed]
        rfl
      · obtain ⟨notType, notKind⟩ := not_isTagName_of_mem_fieldNames named
        rw [(agreeApart_insertMember "kind" value _).present? notKind,
          (agreeApart_without "type" fields).present? notType]
  | putKind typed value =>
      refine read_of_agreeApart (agreeApart_insertMember "kind" value fields) ?_ ?_
      · rintro (impossible | ⟨_, untyped⟩)
        · exact absurd impossible (by decide)
        · rw [typed] at untyped
          cases untyped
      · rintro ⟨tag, _, named⟩
        exact absurd rfl (not_isTagName_of_mem_fieldNames named).2
  | put noTag noConstraint value =>
      exact read_of_agreeApart (agreeApart_insertMember _ value fields) noTag fun constraint =>
        absurd constraint noConstraint
  | remove noTag noConstraint =>
      exact read_of_agreeApart (agreeApart_without _ fields) noTag fun constraint =>
        absurd constraint noConstraint
  | putNull constraint absent =>
      refine read_of_agreeApart (agreeApart_insertMember _ .null fields) constraint.not_isTagName fun _ => ?_
      rw [present?_eq_none_of_null (.inl absent), present?_eq_none_of_null]
      exact .inr (by rw [Json.lookup_insertMember, if_pos rfl])
  | removeNull constraint null =>
      refine read_of_agreeApart (agreeApart_without _ fields) constraint.not_isTagName fun _ => ?_
      rw [present?_eq_none_of_null (.inr null), present?_eq_none_of_null]
      exact .inl (by rw [lookup_without, if_pos rfl])

end

/-- The two stored schemas are read alike at every level, and so are data checked. -/
structure Alike (stored stored' : Json) : Prop where
  read : ∀ limit left, Schema.readNode limit left stored' = Schema.readNode limit left stored
  check : ∀ limit left, checkNode limit left stored' = checkNode limit left stored

theorem alike_of_read_eq {stored stored' : Json} (same : ShallowNode.read stored' = ShallowNode.read stored) :
    Alike stored stored' := by
  constructor
  · intro limit left
    cases left with
    | zero => rfl
    | succ left => rw [Schema.readNode, Schema.readNode, same]
  · intro limit left
    funext value
    cases left with
    | zero => rfl
    | succ left => rw [checkNode, checkNode, same]

theorem alike_of_items {stored stored' items items' : Json} {count : LengthBounds}
    (node : ShallowNode.read stored = .ok (.array items count))
    (node' : ShallowNode.read stored' = .ok (.array items' count)) (alike : Alike items items') :
    Alike stored stored' := by
  constructor
  · intro limit left
    cases left with
    | zero => rfl
    | succ left =>
        rw [Schema.readNode_of_array node, Schema.readNode_of_array node', alike.read limit left]
  · intro limit left
    funext value
    cases left with
    | zero => rfl
    | succ left => simp only [checkNode, node, node', alike.check limit left]

section

variable {before after : List (String × Json)} {name : String} {child child' : Json}

theorem readProperties_replace {read : Json → Except SchemaError Schema} (same : read child' = read child) :
    Schema.readProperties read (before ++ (name, child') :: after) =
      Schema.readProperties read (before ++ (name, child) :: after) := by
  induction before with
  | nil => rw [List.nil_append, List.nil_append, Schema.readProperties, Schema.readProperties, same]
  | cons first rest ih =>
      rw [List.cons_append, List.cons_append, Schema.readProperties, Schema.readProperties, ih]

theorem checkProperties_replace {check : Json → Json → Verdict} (same : check child' = check child)
    (members : List (String × Json)) :
    checkProperties check members (before ++ (name, child') :: after) =
      checkProperties check members (before ++ (name, child) :: after) := by
  induction before with
  | nil => rw [List.nil_append, List.nil_append, checkProperties, checkProperties, same]
  | cons first rest ih =>
      rw [List.cons_append, List.cons_append, checkProperties, checkProperties, ih]

theorem alike_of_property {stored stored' : Json} {required : List String}
    (node : ShallowNode.read stored = .ok (.object (before ++ (name, child) :: after) required))
    (node' : ShallowNode.read stored' = .ok (.object (before ++ (name, child') :: after) required))
    (alike : Alike child child') : Alike stored stored' := by
  constructor
  · intro limit left
    cases left with
    | zero => rfl
    | succ left =>
        rw [Schema.readNode_of_object node, Schema.readNode_of_object node',
          readProperties_replace (alike.read limit left)]
  · intro limit left
    funext value
    cases left with
    | zero => rfl
    | succ left =>
        simp only [checkNode, node, node', checkProperties_replace (alike.check limit left)]

end

/-- Only objects are edited. -/
theorem Edit.exists_object {stored stored' : Json} (edit : Edit stored stored') :
    ∃ fields fields', stored = .object fields ∧ stored' = .object fields' := by
  cases edit with
  | node => exact ⟨_, _, rfl, rfl⟩
  | items => exact ⟨_, _, rfl, rfl⟩
  | property => exact ⟨_, _, rfl, rfl⟩

/-- Putting a member that is no tag keeps the tag. -/
theorem hasTag_insertMember {fields : List (String × Json)} {tag name : String} (tagged : HasTag fields tag)
    (named : name ∈ ShallowNode.fieldNames tag) (value : Json) :
    HasTag (insertMember name value fields) tag := by
  have constraint : IsConstraint fields name := ⟨tag, tagged, named⟩
  rw [← tag_eq_ok_iff, (agreeApart_insertMember name value fields).tag constraint.not_isTagName]
  exact tag_eq_ok_iff.2 tagged

theorem present?_insertMember {fields : List (String × Json)} {name : String} {value : Json}
    (notNull : value ≠ .null) : SchemaFields.present? name (insertMember name value fields) = some value := by
  rw [present?_eq_some_iff, Json.lookup_insertMember, if_pos rfl]
  exact ⟨rfl, notNull⟩

theorem alike_insertMember_items {fields : List (String × Json)} {items items' : Json}
    (tagged : HasTag fields "array") (present : fields.lookup "items" = some items)
    (notNull : items ≠ .null) (notNull' : items' ≠ .null) (alike : Alike items items') :
    Alike (.object fields) (.object (insertMember "items" items' fields)) := by
  have others := agreeApart_insertMember "items" items' fields
  have count : SchemaFields.lengthBounds "minItems" "maxItems" (insertMember "items" items' fields) =
      SchemaFields.lengthBounds "minItems" "maxItems" fields :=
    SchemaFields.lengthBounds_congr (others.present? (by decide)) (others.present? (by decide))
  have read : ShallowNode.read (.object fields) = (do
      let count ← SchemaFields.lengthBounds "minItems" "maxItems" fields
      return .array items count) := by
    rw [read_of_hasTag tagged, ShallowNode.readTagged, ShallowNode.readArray,
      present?_eq_some_iff.2 ⟨present, notNull⟩]
  have read' : ShallowNode.read (.object (insertMember "items" items' fields)) = (do
      let count ← SchemaFields.lengthBounds "minItems" "maxItems" fields
      return .array items' count) := by
    rw [read_of_hasTag (hasTag_insertMember tagged (by decide) items'), ShallowNode.readTagged,
      ShallowNode.readArray, present?_insertMember notNull', count]
  cases bounds : SchemaFields.lengthBounds "minItems" "maxItems" fields with
  | error error =>
      rw [bounds] at read read'
      exact alike_of_read_eq (read'.trans read.symm)
  | ok bound =>
      rw [bounds] at read read'
      exact alike_of_items read read' alike

theorem alike_insertMember_properties {fields before after : List (String × Json)} {name : String}
    {child child' : Json} (tagged : HasTag fields "object")
    (present : fields.lookup "properties" = some (.object (before ++ (name, child) :: after)))
    (alike : Alike child child') :
    Alike (.object fields)
      (.object (insertMember "properties" (.object (before ++ (name, child') :: after)) fields)) := by
  have others := agreeApart_insertMember "properties" (.object (before ++ (name, child') :: after)) fields
  have names : SchemaFields.strings "required"
      (insertMember "properties" (.object (before ++ (name, child') :: after)) fields) =
      SchemaFields.strings "required" fields :=
    SchemaFields.strings_congr (others.present? (by decide))
  have read : ShallowNode.read (.object fields) = (do
      let required ← SchemaFields.strings "required" fields
      return .object (before ++ (name, child) :: after) (required.getD [])) := by
    rw [read_of_hasTag tagged, ShallowNode.readTagged, ShallowNode.readObject, SchemaFields.properties,
      present?_eq_some_iff.2 ⟨present, Json.noConfusion⟩]
    rfl
  have read' : ShallowNode.read
      (.object (insertMember "properties" (.object (before ++ (name, child') :: after)) fields)) = (do
        let required ← SchemaFields.strings "required" fields
        return .object (before ++ (name, child') :: after) (required.getD [])) := by
    rw [read_of_hasTag (hasTag_insertMember tagged (by decide) _), ShallowNode.readTagged,
      ShallowNode.readObject, SchemaFields.properties, present?_insertMember Json.noConfusion, names]
    rfl
  cases required : SchemaFields.strings "required" fields with
  | error error =>
      rw [required] at read read'
      exact alike_of_read_eq (read'.trans read.symm)
  | ok found =>
      rw [required] at read read'
      exact alike_of_property read read' alike

theorem alike_of_edit {stored stored' : Json} (edit : Edit stored stored') : Alike stored stored' := by
  induction edit with
  | node edit => exact alike_of_read_eq (read_of_nodeEdit edit)
  -- An edited child is an object before and after, so that `items` is as present as it was.
  | items tagged present edit ih =>
      obtain ⟨inner, inner', rfl, rfl⟩ := edit.exists_object
      exact alike_insertMember_items tagged present Json.noConfusion Json.noConfusion ih
  | property tagged present edit ih => exact alike_insertMember_properties tagged present ih

theorem alike_of_edits {stored edited : Json} (edits : Relation.ReflTransGen Edit stored edited) :
    Alike stored edited := by
  induction edits with
  | refl => exact ⟨fun _ _ => rfl, fun _ _ => rfl⟩
  | tail _ edit ih =>
      have last := alike_of_edit edit
      constructor
      · intro limit left
        rw [last.read, ih.read]
      · intro limit left
        rw [last.check, ih.check]

/-- Edits that touch nothing that the kinds of the edited nodes know, or only write the tag
or an absent constraint in another way, change no result of reading, under any limit, and no
verdict on any datum. -/
theorem read_and_accepts_of_edits {stored edited : Json} (edits : Relation.ReflTransGen Edit stored edited) :
    (∀ limit, Schema.read limit edited = Schema.read limit stored) ∧
    ∀ value, StoredSchema.check edited value = StoredSchema.check stored value ∧
      StoredSchema.accepts edited value = StoredSchema.accepts stored value := by
  have alike := alike_of_edits edits
  refine ⟨fun limit => alike.read limit limit, fun value => ?_⟩
  have same : StoredSchema.check edited value = StoredSchema.check stored value :=
    congrFun (alike.check Schema.defaultDepthLimit Schema.defaultDepthLimit) value
  refine ⟨same, ?_⟩
  unfold StoredSchema.accepts
  rw [same]

/-- The schema of a property that is called `type` loses a bound that is `null`, and then
the root writes its tag under `kind`. -/
theorem read_and_accepts_of_tag_renamed :
    (∀ limit, Schema.read limit
      (.object [("kind", .string "object"), ("properties", .object [("type", .object
        [("kind", .string "id"), ("type", .string "string")])])]) =
      Schema.read limit (.object [("properties", .object [("type", .object [("kind", .string "id"),
        ("minLength", .null), ("type", .string "string")])]), ("type", .string "object")])) ∧
    StoredSchema.accepts
      (.object [("kind", .string "object"), ("properties", .object [("type", .object
        [("kind", .string "id"), ("type", .string "string")])])]) (.object [("type", .string "")]) =
      StoredSchema.accepts (.object [("properties", .object [("type", .object [("kind", .string "id"),
        ("minLength", .null), ("type", .string "string")])]), ("type", .string "object")])
        (.object [("type", .string "")]) := by
  have inner : Edit (.object [("kind", .string "id"), ("minLength", .null), ("type", .string "string")])
      (.object [("kind", .string "id"), ("type", .string "string")]) := by
    have constraint : IsConstraint [("kind", .string "id"), ("minLength", .null), ("type", .string "string")]
        "minLength" :=
      ⟨"string", .inl rfl, by decide⟩
    exact .node (.removeNull constraint rfl)
  have first : Edit
      (.object [("properties", .object [("type", .object [("kind", .string "id"), ("minLength", .null),
        ("type", .string "string")])]), ("type", .string "object")])
      (.object [("properties", .object [("type", .object [("kind", .string "id"),
        ("type", .string "string")])]), ("type", .string "object")]) :=
    @Edit.property _ [] [] _ _ _ (.inl rfl) rfl inner
  have second : Edit
      (.object [("properties", .object [("type", .object [("kind", .string "id"),
        ("type", .string "string")])]), ("type", .string "object")])
      (.object [("kind", .string "object"), ("properties", .object [("type", .object
        [("kind", .string "id"), ("type", .string "string")])])]) :=
    .node (.renameTag rfl)
  obtain ⟨read, accepts⟩ := read_and_accepts_of_edits (.tail (.single first) second)
  exact ⟨read, (accepts _).2⟩

end StoredSchema
end CompactSchema
