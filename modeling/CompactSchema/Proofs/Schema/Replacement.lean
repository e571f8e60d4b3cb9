import CompactSchema.Proofs.Schema.Fields

/-
Replacing a child of a stored schema.

A child schema is known by the steps to it from the root.  Putting another value in its
place changes the child of the node above and nothing else that is read of that node.
-/

namespace CompactSchema
namespace StoredSchema

/-! ### Replacing values -/

def mapMember (name : String) (change : Json → Json) (members : List (String × Json)) :
    List (String × Json) :=
  members.map fun member => if member.1 = name then (member.1, change member.2) else member

def mapPresent (change : Json → Json) : Json → Json
  | .null => .null
  | value => change value

def mapMembers (change : List (String × Json) → List (String × Json)) : Json → Json
  | .object members => .object (change members)
  | value => value

/-- Puts a value in the place of the child schema that some steps lead to.  An absent
child is left absent, and so are `items` that are `null`. -/
def replaceAt (new : Json) : List SchemaStep → Json → Json
  | [], _ => new
  | .items :: steps, stored =>
      mapMembers (mapMember "items" (mapPresent (replaceAt new steps))) stored
  | .property name :: steps, stored =>
      mapMembers (mapMember "properties" (mapMembers (mapMember name (replaceAt new steps)))) stored

/-! ### Looking up -/

theorem lookup_mapMember (name key : String) (change : Json → Json) (members : List (String × Json)) :
    (mapMember name change members).lookup key =
      if key = name then (members.lookup key).map change else members.lookup key := by
  induction members with
  | nil => simp [mapMember]
  | cons member rest ih =>
      obtain ⟨other, value⟩ := member
      unfold mapMember at ih ⊢
      rw [List.map_cons, Json.lookup_cons]
      by_cases same : other = name
      · rw [if_pos same, Json.lookup_cons, ih, same]
        by_cases here : key = name
        · simp only [if_pos here, Option.map_some]
        · simp only [if_neg here]
      · rw [if_neg same, Json.lookup_cons, ih]
        by_cases here : key = other
        · have different : key ≠ name := fun equal => same (here.symm.trans equal)
          rw [if_pos here, if_pos here, if_neg different]
        · rw [if_neg here, if_neg here]

theorem present?_mapMember_of_ne {name key : String} (different : key ≠ name)
    (change : Json → Json) (fields : List (String × Json)) :
    SchemaFields.present? key (mapMember name change fields) = SchemaFields.present? key fields := by
  unfold SchemaFields.present?
  rw [lookup_mapMember, if_neg different]

/-- A change that keeps what counts as present changes the value that is present. -/
theorem present?_mapMember (name : String) {change : Json → Json}
    (keeps : ∀ value, change value = .null ↔ value = .null) (fields : List (String × Json)) :
    SchemaFields.present? name (mapMember name change fields) =
      (SchemaFields.present? name fields).map change := by
  unfold SchemaFields.present?
  rw [lookup_mapMember, if_pos rfl]
  cases fields.lookup name with
  | none => rfl
  | some value =>
      by_cases null : value = .null
      · subst null
        rw [Option.map_some, (keeps .null).2 rfl]
        rfl
      · have changed : change value ≠ .null := fun isNull => null ((keeps value).1 isNull)
        rw [Option.map_some]
        split
        · rename_i found
          exact absurd (Option.some.inj found) changed
        · split
          · rename_i found
            exact absurd (Option.some.inj found) null
          · rfl

theorem present?_ne_null {name : String} {fields : List (String × Json)} :
    SchemaFields.present? name fields ≠ some .null := by
  unfold SchemaFields.present?
  split
  · intro impossible
    cases impossible
  · rename_i notNull
    exact notNull

theorem map_mapPresent_present? (name : String) (change : Json → Json) (fields : List (String × Json)) :
    (SchemaFields.present? name fields).map (mapPresent change) =
      (SchemaFields.present? name fields).map change := by
  cases found : SchemaFields.present? name fields with
  | none => rfl
  | some value =>
      cases value with
      | null => exact absurd found present?_ne_null
      | _ => rfl

theorem mapMembers_eq_null_iff (change : List (String × Json) → List (String × Json)) (value : Json) :
    mapMembers change value = .null ↔ value = .null := by
  cases value <;> simp [mapMembers]

/-- A replaced child is not `null` unless it was, or stands at the place itself. -/
theorem mapPresent_replaceAt_eq_null_iff {new : Json} {steps : List SchemaStep}
    (proper : steps = [] → new ≠ .null) (value : Json) :
    mapPresent (replaceAt new steps) value = .null ↔ value = .null := by
  by_cases null : value = .null
  · subst null
    simp [mapPresent]
  · have changed : mapPresent (replaceAt new steps) value = replaceAt new steps value := by
      cases value <;> first | rfl | exact absurd rfl null
    rw [changed]
    cases steps with
    | nil => simp [replaceAt, proper rfl, null]
    | cons step steps => cases step <;> simp [replaceAt, mapMembers_eq_null_iff]

end StoredSchema

/-! ### Reading the node above -/

namespace ShallowNode

open SchemaFields StoredSchema

def mapChild (step : SchemaStep) (change : Json → Json) : ShallowNode → ShallowNode
  | .array items count =>
      match step with
      | .items => .array (change items) count
      | .property _ => .array items count
  | .object properties required =>
      match step with
      | .items => .object properties required
      | .property name => .object (mapMember name change properties) required
  | .leaf schema => .leaf schema

theorem map_mapChild_of_leaf {step : SchemaStep} {change : Json → Json}
    {result : Except SchemaError ShallowNode}
    (leaf : ∀ node, result = .ok node → ∃ schema, node = .leaf schema) :
    result.map (mapChild step change) = result := by
  cases result with
  | error e => rfl
  | ok node =>
      obtain ⟨schema, same⟩ := leaf node rfl
      subst same
      rfl

variable {fields left right : List (String × Json)}

theorem leaf_of_readString (node : ShallowNode) (read : readString fields = .ok node) :
    ∃ schema, node = .leaf schema := by
  obtain ⟨_, _, _, _, _, _, _, _, same⟩ := readString_eq_ok_iff.1 read
  exact ⟨_, same⟩

theorem leaf_of_readNumber (node : ShallowNode) (read : readNumber fields = .ok node) :
    ∃ schema, node = .leaf schema := by
  obtain ⟨_, _, _, _, _, _, _, same⟩ := readNumber_eq_ok_iff.1 read
  exact ⟨_, same⟩

theorem leaf_of_readId (node : ShallowNode) (read : readId fields = .ok node) :
    ∃ schema, node = .leaf schema := by
  obtain ⟨_, _, same⟩ := readId_eq_ok_iff.1 read
  exact ⟨_, same⟩

theorem readArray_items {change : Json → Json}
    (items : present? "items" right = (present? "items" left).map change)
    (others : FieldsAgree ["minItems", "maxItems"] right left) :
    readArray right = (readArray left).map (mapChild .items change) := by
  unfold readArray
  rw [items, lengthBounds_congr (others "minItems" (by decide)) (others "maxItems" (by decide))]
  cases present? "items" left with
  | none => rfl
  | some stored =>
      simp only [Option.map_some]
      cases lengthBounds "minItems" "maxItems" left <;> rfl

theorem readArray_map {step : SchemaStep} {change : Json → Json} (notItems : step ≠ .items) :
    (readArray fields).map (mapChild step change) = readArray fields := by
  cases read : readArray fields with
  | error e => rfl
  | ok node =>
      obtain ⟨items, count, _, _, same⟩ := readArray_eq_ok_iff.1 read
      subst same
      cases step with
      | items => exact absurd rfl notItems
      | property name => rfl

theorem readObject_map_items {change : Json → Json} :
    (readObject fields).map (mapChild .items change) = readObject fields := by
  cases read : readObject fields with
  | error e => rfl
  | ok node =>
      obtain ⟨properties, required, _, _, same⟩ := readObject_eq_ok_iff.1 read
      subst same
      rfl

theorem readObject_properties {name : String} {change : Json → Json}
    (properties : present? "properties" right =
      (present? "properties" left).map (mapMembers (mapMember name change)))
    (others : FieldsAgree ["required"] right left) :
    readObject right = (readObject left).map (mapChild (.property name) change) := by
  unfold readObject SchemaFields.properties
  rw [properties, strings_congr (others "required" (by decide))]
  cases present? "properties" left with
  | none => cases strings "required" left <;> rfl
  | some stored =>
      simp only [Option.map_some]
      cases stored with
      | object members => cases strings "required" left <;> rfl
      | _ => rfl

theorem readTagged_items {change : Json → Json} (tag : String)
    (items : present? "items" right = (present? "items" left).map change)
    (others : ∀ name, name ≠ "items" → present? name right = present? name left) :
    readTagged tag right = (readTagged tag left).map (mapChild .items change) := by
  have agree (names : List String) (apart : "items" ∉ names) : FieldsAgree names right left := by
    intro name inside
    exact others name fun same => apart (same ▸ inside)
  unfold readTagged
  split
  · rw [map_mapChild_of_leaf leaf_of_readString, readString_congr (agree _ (by decide))]
  · rw [map_mapChild_of_leaf leaf_of_readNumber, readNumber_congr (agree _ (by decide))]
  · rfl
  · rfl
  · rw [map_mapChild_of_leaf leaf_of_readId, readId_congr (agree _ (by decide))]
  · exact readArray_items items (agree _ (by decide))
  · rw [readObject_map_items, readObject_congr (agree _ (by decide))]
  · rfl

theorem readTagged_properties {name : String} {change : Json → Json} (tag : String)
    (properties : present? "properties" right =
      (present? "properties" left).map (mapMembers (mapMember name change)))
    (others : ∀ name, name ≠ "properties" → present? name right = present? name left) :
    readTagged tag right = (readTagged tag left).map (mapChild (.property name) change) := by
  have agree (names : List String) (apart : "properties" ∉ names) : FieldsAgree names right left := by
    intro name inside
    exact others name fun same => apart (same ▸ inside)
  unfold readTagged
  split
  · rw [map_mapChild_of_leaf leaf_of_readString, readString_congr (agree _ (by decide))]
  · rw [map_mapChild_of_leaf leaf_of_readNumber, readNumber_congr (agree _ (by decide))]
  · rfl
  · rfl
  · rw [map_mapChild_of_leaf leaf_of_readId, readId_congr (agree _ (by decide))]
  · rw [readArray_map SchemaStep.noConfusion, readArray_congr (agree _ (by decide))]
  · exact readObject_properties properties (agree _ (by decide))
  · rfl

theorem tag_mapMember {name : String} (notType : "type" ≠ name) (notKind : "kind" ≠ name)
    (change : Json → Json) (fields : List (String × Json)) :
    tag (mapMember name change fields) = tag fields := by
  unfold tag
  rw [lookup_mapMember, lookup_mapMember, if_neg notType, if_neg notKind]

/-- A node is read as before when a child below it is replaced, but for the child. -/
theorem read_replaceAt {new : Json} {step : SchemaStep} {steps : List SchemaStep}
    (proper : step = .items → steps = [] → new ≠ .null) (stored : Json) :
    read (replaceAt new (step :: steps) stored) =
      (read stored).map (mapChild step (replaceAt new steps)) := by
  cases stored with
  | object fields =>
      cases step with
      | items =>
          have items := present?_mapMember "items"
            (mapPresent_replaceAt_eq_null_iff (proper rfl)) fields
          rw [map_mapPresent_present?] at items
          simp only [replaceAt, mapMembers, read]
          rw [tag_mapMember (by decide) (by decide)]
          cases tag fields with
          | error e => rfl
          | ok tag =>
              exact readTagged_items tag items fun _ different => present?_mapMember_of_ne different _ _
      | property name =>
          have properties := present?_mapMember "properties"
            (mapMembers_eq_null_iff (mapMember name (replaceAt new steps))) fields
          simp only [replaceAt, mapMembers, read]
          rw [tag_mapMember (by decide) (by decide)]
          cases tag fields with
          | error e => rfl
          | ok tag =>
              exact readTagged_properties tag properties
                fun _ different => present?_mapMember_of_ne different _ _
  | _ => cases step <;> rfl

end ShallowNode
end CompactSchema
