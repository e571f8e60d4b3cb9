import CompactSchema.Proofs.Schema.Fields
import CompactSchema.Proofs.Schema.Grammar

/-
What a node by itself is blamed for.

A node that cannot be read has a tag of no kind, or is wrong as a whole, or states a
constraint of its kind that means nothing.  The error carries the tag, or names the node
or that one field.
-/

namespace CompactSchema

/-! ### Fields -/

namespace SchemaFields

/-- An error of the node as a whole, or of one of some fields that the node states. -/
inductive OwnError (names : List String) (fields : List (String × Json)) : SchemaError → Prop
  | node (defect : Defect) : OwnError names fields (.atNode defect)
  | field {name : String} {value : Json} (named : name ∈ names)
      (stated : present? name fields = some value) (defect : Defect) :
      OwnError names fields (.atField name defect)

/-- If there is no result, the node or one of the fields is blamed. -/
def BlamesOwn {α : Type} (names : List String) (fields : List (String × Json))
    (result : Except SchemaError α) : Prop :=
  ∀ error, result = .error error → OwnError names fields error

section

variable {α β : Type} {names : List String} {fields : List (String × Json)} {name : String}

theorem blamesOwn_ok (a : α) : BlamesOwn names fields (.ok a) := by
  intro error impossible
  cases impossible

theorem blamesOwn_node (defect : Defect) :
    BlamesOwn names fields (.error (.atNode defect) : Except SchemaError α) := by
  intro error found
  cases found
  exact .node defect

theorem blamesOwn_field (named : name ∈ names) {value : Json} (stated : present? name fields = some value)
    (defect : Defect) : BlamesOwn names fields (.error (.atField name defect) : Except SchemaError α) := by
  intro error found
  cases found
  exact .field named stated defect

theorem BlamesOwn.mono {names' : List String} {result : Except SchemaError α}
    (blames : BlamesOwn names fields result) (wider : ∀ name ∈ names, name ∈ names') :
    BlamesOwn names' fields result := by
  intro error found
  cases blames error found with
  | node defect => exact .node defect
  | field named stated defect => exact .field (wider _ named) stated defect

theorem BlamesOwn.bind {result : Except SchemaError α} {next : α → Except SchemaError β}
    (first : BlamesOwn names fields result)
    (second : ∀ a, result = .ok a → BlamesOwn names fields (next a)) :
    BlamesOwn names fields (result >>= next) := by
  cases result with
  | error own =>
      intro error found
      cases found
      exact first own rfl
  | ok a => exact second a rfl

theorem length_blamesOwn (named : name ∈ names) : BlamesOwn names fields (length name fields) := by
  unfold length
  split
  · exact blamesOwn_ok _
  · rename_i number stated
    split
    · exact blamesOwn_field named stated _
    · split
      · exact blamesOwn_ok _
      · exact blamesOwn_field named stated _
  · rename_i stated
    exact blamesOwn_field named stated _

theorem lengthBounds_blamesOwn {leastName mostName : String} (least : leastName ∈ names)
    (most : mostName ∈ names) : BlamesOwn names fields (lengthBounds leastName mostName fields) := by
  refine .bind (length_blamesOwn least) fun lo _ => .bind (length_blamesOwn most) fun hi _ => ?_
  split
  · split
    · exact blamesOwn_node _
    · exact blamesOwn_ok _
  · exact blamesOwn_ok _

theorem number_blamesOwn (named : name ∈ names) : BlamesOwn names fields (number name fields) := by
  unfold number
  split
  · exact blamesOwn_ok _
  · exact blamesOwn_ok _
  · rename_i stated
    exact blamesOwn_field named stated _

theorem string_blamesOwn (named : name ∈ names) : BlamesOwn names fields (string name fields) := by
  unfold string
  split
  · exact blamesOwn_ok _
  · exact blamesOwn_ok _
  · rename_i stated
    exact blamesOwn_field named stated _

theorem strings_blamesOwn (named : name ∈ names) : BlamesOwn names fields (strings name fields) := by
  unfold strings
  split
  · exact blamesOwn_ok _
  · rename_i stated
    split
    · exact blamesOwn_ok _
    · exact blamesOwn_field named stated _
  · rename_i stated
    exact blamesOwn_field named stated _

theorem numbers_blamesOwn (named : name ∈ names) : BlamesOwn names fields (numbers name fields) := by
  unfold numbers
  split
  · exact blamesOwn_ok _
  · rename_i stated
    split
    · exact blamesOwn_ok _
    · exact blamesOwn_field named stated _
  · rename_i stated
    exact blamesOwn_field named stated _

theorem properties_blamesOwn (named : name ∈ names) : BlamesOwn names fields (properties name fields) := by
  unfold properties
  split
  · exact blamesOwn_ok _
  · exact blamesOwn_ok _
  · rename_i stated
    exact blamesOwn_field named stated _

theorem pattern_blamesOwn (named : name ∈ names) : BlamesOwn names fields (pattern name fields) := by
  refine .bind (string_blamesOwn named) fun found isText => ?_
  cases found with
  | none => exact blamesOwn_ok _
  | some source =>
      have stated : present? name fields = some (.string source) := by
        cases StoredSchema.string_eq_ok_iff.1 isText with
        | something present notNull text =>
            cases text
            exact StoredSchema.present?_eq_some_iff.2 ⟨present, notNull⟩
      dsimp only
      split
      · exact blamesOwn_ok _
      · exact blamesOwn_field named stated _

theorem exists_atNode_of_tag {error : SchemaError} (failed : tag fields = .error error) :
    ∃ defect, error = .atNode defect := by
  unfold tag at failed
  split at failed
  · cases failed
    exact ⟨_, rfl⟩
  · cases failed
  · cases failed
    exact ⟨_, rfl⟩

end

end SchemaFields

/-! ### Nodes -/

namespace ShallowNode

open SchemaFields

variable {fields : List (String × Json)}

theorem readString_blamesOwn : BlamesOwn (fieldNames "string") fields (readString fields) := by
  refine .bind (lengthBounds_blamesOwn (by decide) (by decide)) fun length _ => ?_
  refine .bind (pattern_blamesOwn (by decide)) fun pattern _ => ?_
  refine .bind (strings_blamesOwn (by decide)) fun members _ => ?_
  exact .bind (string_blamesOwn (by decide)) fun format _ => blamesOwn_ok _

theorem readNumber_blamesOwn : BlamesOwn (fieldNames "number") fields (readNumber fields) := by
  refine .bind (number_blamesOwn (by decide)) fun least _ => ?_
  refine .bind (number_blamesOwn (by decide)) fun most _ => ?_
  have rest : BlamesOwn (fieldNames "number") fields (do
      let members ← numbers "enum" fields
      return ShallowNode.leaf (.number { least, most, members })) :=
    .bind (numbers_blamesOwn (by decide)) fun members _ => blamesOwn_ok _
  split
  · split
    · exact blamesOwn_node _
    · exact rest
  · exact rest

theorem readId_blamesOwn : BlamesOwn (fieldNames "id") fields (readId fields) :=
  .bind (string_blamesOwn (by decide)) fun format _ => blamesOwn_ok _

/-- An array schema without items is wrong as a whole; only a length of it is blamed as a
field. -/
theorem readArray_blamesLengths : BlamesOwn ["minItems", "maxItems"] fields (readArray fields) := by
  unfold readArray
  split
  · exact blamesOwn_node _
  · exact .bind (lengthBounds_blamesOwn (by decide) (by decide)) fun count _ => blamesOwn_ok _

theorem readArray_blamesOwn : BlamesOwn (fieldNames "array") fields (readArray fields) :=
  readArray_blamesLengths.mono (by decide)

theorem readObject_blamesOwn : BlamesOwn (fieldNames "object") fields (readObject fields) := by
  refine .bind (properties_blamesOwn (by decide)) fun properties _ => ?_
  exact .bind (strings_blamesOwn (by decide)) fun required _ => blamesOwn_ok _

/-- An error of a stored node by itself. -/
inductive NodeError : Json → SchemaError → Prop
  /-- The tag is that of no kind. -/
  | tag {fields : List (String × Json)} {tag : String} (tagged : StoredSchema.HasTag fields tag)
      (unknown : ∀ schema : Schema, schema.kindName ≠ tag) : NodeError (.object fields) (.unsupportedType tag)
  | node (stored : Json) (defect : Defect) : NodeError stored (.atNode defect)
  /-- A constraint of the node's kind is stated and means nothing. -/
  | field {fields : List (String × Json)} {tag name : String} {value : Json}
      (tagged : StoredSchema.HasTag fields tag) (named : name ∈ fieldNames tag)
      (stated : fields.lookup name = some value) (notNull : value ≠ .null) (defect : Defect) :
      NodeError (.object fields) (.atField name defect)

theorem nodeError_of_ownError {tag : String} {error : SchemaError} (tagged : StoredSchema.HasTag fields tag)
    (own : OwnError (fieldNames tag) fields error) : NodeError (.object fields) error := by
  cases own with
  | node defect => exact .node _ defect
  | field named stated defect =>
      obtain ⟨here, notNull⟩ := StoredSchema.present?_eq_some_iff.1 stated
      exact .field tagged named here notNull defect

/-- A node that cannot be read is blamed by its tag, as a whole, or for one field. -/
theorem nodeError_of_read {stored : Json} {error : SchemaError} (failed : read stored = .error error) :
    NodeError stored error := by
  cases stored with
  | object fields =>
      cases found : SchemaFields.tag fields with
      | error tagError =>
          obtain ⟨defect, rfl⟩ := exists_atNode_of_tag found
          rw [read, found] at failed
          cases failed
          exact .node _ defect
      | ok tag =>
          have tagged := StoredSchema.tag_eq_ok_iff.1 found
          have failed : readTagged tag fields = .error error := by
            rw [read, found] at failed
            exact failed
          unfold readTagged at failed
          split at failed
          · exact nodeError_of_ownError tagged (readString_blamesOwn error failed)
          · exact nodeError_of_ownError tagged (readNumber_blamesOwn error failed)
          · cases failed
          · cases failed
          · exact nodeError_of_ownError tagged (readId_blamesOwn error failed)
          · exact nodeError_of_ownError tagged (readArray_blamesOwn error failed)
          · exact nodeError_of_ownError tagged (readObject_blamesOwn error failed)
          · rename_i notString notNumber notBoolean notNull notId notArray notObject
            cases failed
            refine .tag tagged fun schema same => ?_
            cases schema with
            | string => exact notString same.symm
            | number => exact notNumber same.symm
            | boolean => exact notBoolean same.symm
            | null => exact notNull same.symm
            | array => exact notArray same.symm
            | object => exact notObject same.symm
            | id => exact notId same.symm
  | _ =>
      cases failed
      exact .node _ _

theorem tag_eq_array_of_items {tag : String} (named : "items" ∈ fieldNames tag) : tag = "array" := by
  revert named
  unfold fieldNames
  split
  · decide
  · decide
  · decide
  · exact fun _ => rfl
  · decide
  · exact fun impossible => absurd impossible List.not_mem_nil

/-- No field is called like the step to a child, or has a dot in its name. -/
theorem field_of_read {stored : Json} {name : String} {defect : Defect}
    (failed : read stored = .error (.atField name defect)) : '.' ∉ name.toList ∧ name ≠ "items" := by
  cases nodeError_of_read failed with
  | @field fields tag name value tagged named stated notNull defect =>
      have undotted : ∀ name ∈ fieldNames tag, '.' ∉ name.toList := by
        unfold fieldNames
        split <;> decide
      refine ⟨undotted name named, ?_⟩
      rintro rfl
      cases tag_eq_array_of_items named
      rw [StoredSchema.read_of_hasTag tagged] at failed
      cases readArray_blamesLengths _ failed with
      | field named' => exact absurd named' (by decide)

end ShallowNode
end CompactSchema
