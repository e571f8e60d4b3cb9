import CompactSchema.Proofs.Schema.StoredFields

/-
Reading the stored form of a schema.

A storable schema of no more levels than the limit is read back from its stored form.
Every schema that has been read is of this kind, so reading, storing and reading again
gives the same schema, and storing it again the same stored form.
-/

namespace CompactSchema

theorem StringFormat.ofName_name {format : StringFormat} (storable : format.Storable) :
    ofName format.name = format := by
  cases format with
  | other name => exact storable
  | _ => rfl

theorem StringFormat.map_ofName_name {format : Option StringFormat}
    (storable : ∀ f, format = some f → f.Storable) : (format.map name).map ofName = format := by
  cases format with
  | none => rfl
  | some format => exact congrArg some (ofName_name (storable format rfl))

theorem IdFormat.ofName_name {format : IdFormat} (storable : format.Storable) :
    ofName format.name = format := by
  cases format with
  | other name => exact storable
  | _ => rfl

theorem IdFormat.map_ofName_name {format : Option IdFormat}
    (storable : ∀ f, format = some f → f.Storable) : (format.map name).map ofName = format := by
  cases format with
  | none => rfl
  | some format => exact congrArg some (ofName_name (storable format rfl))

namespace ShallowNode

open SchemaFields Schema

theorem read_of_tag {fields : List (String × Json)} (name : String)
    (tagged : fields.lookup "type" = some (.string name)) :
    read (.object fields) = readTagged name fields := by
  have found : tag fields = .ok name := by
    unfold tag
    rw [tagged]
    rfl
  show (tag fields >>= fun tag => readTagged tag fields) = _
  rw [found]
  rfl

theorem read_string {constraints : StringConstraints} (storable : (Schema.string constraints).Storable) :
    read (Schema.string constraints).toJson = .ok (.leaf (.string constraints)) := by
  obtain ⟨length, pattern, members, format⟩ := constraints
  obtain ⟨lengthStorable, formatStorable⟩ := storable
  rw [toJson, read_of_tag "string" (by simp)]
  refine readString_eq_ok_iff.2 ⟨length, pattern, members, format.map StringFormat.name, ?_, ?_, ?_, ?_, ?_⟩
  · exact lengthBounds_of_written lengthStorable (by simp) (by simp)
  · exact pattern_of_written (by simp)
  · exact strings_of_written (by simp)
  · exact string_of_written (by simp [Function.comp_def])
  · rw [StringFormat.map_ofName_name formatStorable]

theorem read_id {format : Option IdFormat} (storable : (Schema.id format).Storable) :
    read (Schema.id format).toJson = .ok (.leaf (.id format)) := by
  rw [toJson, read_of_tag "id" (by simp)]
  refine readId_eq_ok_iff.2 ⟨format.map IdFormat.name, ?_, ?_⟩
  · exact string_of_written (by simp [Function.comp_def])
  · rw [IdFormat.map_ofName_name storable]

theorem read_array {items : Schema} {count : LengthBounds} (storable : count.Storable) :
    read (Schema.array items count).toJson = .ok (.array items.toJson count) := by
  rw [toJson, read_of_tag "array" (by simp [List.lookup_cons])]
  refine readArray_eq_ok_iff.2 ⟨items.toJson, count, ?_, ?_, rfl⟩
  · rw [present?_cons, if_pos rfl]
    split
    · rename_i null
      exact absurd null items.toJson_ne_null
    · rfl
  · exact lengthBounds_of_written storable (by simp) (by simp)

theorem read_object (properties : List (String × Schema)) (required : List String) :
    read (Schema.object properties required).toJson =
      .ok (.object (propertiesToJson properties) required) := by
  have tagged : ((("properties", Json.object (propertiesToJson properties)) ::
      ((if required.isEmpty then [] else [("required", stringList required)]) ++
        [("type", .string "object")])).lookup "type") = some (.string "object") := by
    cases required <;> simp [List.lookup_cons]
  rw [toJson, read_of_tag "object" tagged]
  cases required with
  | nil => exact readObject_eq_ok_iff.2 ⟨propertiesToJson properties, none, rfl, rfl, rfl⟩
  | cons first rest =>
      exact readObject_eq_ok_iff.2 ⟨propertiesToJson properties, some (first :: rest), rfl,
        strings_of_written rfl, rfl⟩

theorem numbersOrdered_of_same {least most least' most' : Option Binary64}
    (ordered : NumbersOrdered least most) (sameLeast : sameBound least least' = true)
    (sameMost : sameBound most most' = true) : NumbersOrdered least' most' := by
  intro lo' hi' isLeast isMost
  subst isLeast
  subst isMost
  cases least with
  | none => cases sameLeast
  | some lo =>
      cases most with
      | none => cases sameMost
      | some hi =>
          rw [← Binary64.lt_congr_left sameMost, ← Binary64.lt_congr_right sameLeast]
          exact ordered lo hi rfl rfl

theorem exists_readNumber_of_written {constraints : NumberConstraints}
    (storable : constraints.Storable) {fields : List (String × Json)}
    (least : present? "min" fields = constraints.least.map numberValue)
    (most : present? "max" fields = constraints.most.map numberValue)
    (members : present? "enum" fields =
      constraints.members.map fun members => .array (members.map numberValue)) :
    ∃ again, readNumber fields = .ok (.leaf (.number again)) ∧
      sameNumberConstraints constraints again = true := by
  obtain ⟨lo, hi, held⟩ := constraints
  obtain ⟨least', readLeast, sameLeast⟩ := number_of_written least storable.least
  obtain ⟨most', readMost, sameMost⟩ := number_of_written most storable.most
  obtain ⟨members', readMembers, sameMembers⟩ := numbers_of_written members storable.members
  have ordered := numbersOrdered_of_same storable.ordered sameLeast sameMost
  refine ⟨⟨least', most', members'⟩, ?_, ?_⟩
  · exact readNumber_eq_ok_iff.2
      ⟨least', most', members', readLeast, readMost, ordered, readMembers, rfl⟩
  · unfold sameNumberConstraints
    rw [sameLeast, sameMost]
    cases sameMembers with
    | none => rfl
    | some same => exact same

theorem map_numberValue_ne_null {bound : Option Binary64}
    (finite : ∀ x, bound = some x → x.isFinite = true) : bound.map numberValue ≠ some .null := by
  intro written
  obtain ⟨x, here, null⟩ := Option.map_eq_some_iff.1 written
  exact numberValue_ne_null (finite x here) null

theorem exists_read_number {constraints : NumberConstraints} (storable : constraints.Storable) :
    ∃ again, read (Schema.number constraints).toJson = .ok (.leaf (.number again)) ∧
      sameNumberConstraints constraints again = true := by
  have leastNotNull := map_numberValue_ne_null storable.least
  have mostNotNull := map_numberValue_ne_null storable.most
  rw [toJson, read_of_tag "number" (by simp)]
  refine exists_readNumber_of_written storable ?_ ?_ ?_
  · simp [present?_optional_append_self leastNotNull]
  · simp [present?_optional_append_self mostNotNull]
  · simp

end ShallowNode

namespace Schema

mutual

/-- The stored form of a storable schema is read as a schema equal part by part. -/
theorem exists_readNode_toJson (limit : Nat) {left : Nat} (schema : Schema)
    (few : schema.levels ≤ left) (storable : schema.Storable) :
    ∃ again, readNode limit left schema.toJson = .ok again ∧ schema.same again = true := by
  cases left with
  | zero => cases schema <;> simp [levels] at few
  | succ left =>
      simp only [readNode_succ_eq_ok_iff]
      cases schema with
      | string constraints =>
          exact ⟨_, ⟨_, ShallowNode.read_string storable, .leaf _⟩, decide_eq_true rfl⟩
      | number constraints =>
          obtain ⟨again, read, same⟩ := ShallowNode.exists_read_number storable
          exact ⟨_, ⟨_, read, .leaf _⟩, same⟩
      | boolean => exact ⟨.boolean, ⟨_, rfl, .leaf _⟩, rfl⟩
      | null => exact ⟨.null, ⟨_, rfl, .leaf _⟩, rfl⟩
      | array items count =>
          obtain ⟨again, read, same⟩ :=
            exists_readNode_toJson limit items (Nat.le_of_succ_le_succ few) storable.1
          refine ⟨_, ⟨_, ShallowNode.read_array storable.2, .array count read⟩, ?_⟩
          simp [Schema.same, same]
      | object properties required =>
          obtain ⟨again, read, same⟩ :=
            exists_propertiesRead_toJson limit properties (Nat.le_of_succ_le_succ few) storable
          refine ⟨_, ⟨_, ShallowNode.read_object properties required, .object required read⟩, ?_⟩
          simp [Schema.same, same]
      | id format =>
          exact ⟨_, ⟨_, ShallowNode.read_id storable, .leaf _⟩, decide_eq_true rfl⟩

theorem exists_propertiesRead_toJson (limit : Nat) {left : Nat} (properties : List (String × Schema))
    (few : propertyLevels properties ≤ left) (storable : PropertiesStorable properties) :
    ∃ again, PropertiesRead (readNode limit left) (propertiesToJson properties) again ∧
      sameProperties properties again = true := by
  cases properties with
  | nil => exact ⟨[], .nil, rfl⟩
  | cons property rest =>
      obtain ⟨name, schema⟩ := property
      obtain ⟨fewHere, fewLater⟩ := Nat.max_le.1 few
      obtain ⟨again, read, same⟩ := exists_readNode_toJson limit schema fewHere storable.1
      obtain ⟨others, readOthers, sameOthers⟩ :=
        exists_propertiesRead_toJson limit rest fewLater storable.2
      refine ⟨(name, again) :: others, .cons read readOthers, ?_⟩
      simp [sameProperties, same, sameOthers]

end

theorem numberValue_eq_of_same {x y : Binary64} (same : x.same y = true) :
    numberValue x = numberValue y := by
  cases x with
  | nan => cases same
  | infinite negative => cases y <;> simp_all [Binary64.same, numberValue]
  | finite x =>
      cases y with
      | finite y => exact numberValue_eq_of_signedUnits_eq (of_decide_eq_true same)
      | _ => cases same

theorem map_numberValue_eq_of_same {left right : Option Binary64} (same : sameBound left right = true) :
    left.map numberValue = right.map numberValue := by
  cases left with
  | none =>
      cases right with
      | none => rfl
      | some y => cases same
  | some x =>
      cases right with
      | none => cases same
      | some y => exact congrArg some (numberValue_eq_of_same same)

theorem map_numberValue_eq_of_sameNumbers {left right : List Binary64}
    (same : sameNumbers left right = true) : left.map numberValue = right.map numberValue := by
  induction left generalizing right with
  | nil => cases right <;> simp_all [sameNumbers]
  | cons x xs ih =>
      cases right with
      | nil => cases same
      | cons y ys =>
          obtain ⟨first, others⟩ := Bool.and_eq_true_iff.1 same
          rw [List.map_cons, List.map_cons, numberValue_eq_of_same first, ih others]

theorem toJson_number_eq_of_same {left right : NumberConstraints}
    (same : sameNumberConstraints left right = true) :
    (Schema.number left).toJson = (Schema.number right).toJson := by
  obtain ⟨least, most, members⟩ := left
  obtain ⟨least', most', members'⟩ := right
  obtain ⟨bounds, sameMembers⟩ := Bool.and_eq_true_iff.1 same
  obtain ⟨sameLeast, sameMost⟩ := Bool.and_eq_true_iff.1 bounds
  simp only [toJson, map_numberValue_eq_of_same sameLeast, map_numberValue_eq_of_same sameMost]
  cases members with
  | none =>
      cases members' with
      | none => rfl
      | some ys => cases sameMembers
  | some xs =>
      cases members' with
      | none => cases sameMembers
      | some ys => simp only [Option.map_some, map_numberValue_eq_of_sameNumbers sameMembers]

mutual

theorem toJson_eq_of_same (left right : Schema) (same : left.same right = true) :
    left.toJson = right.toJson := by
  cases left with
  | string constraints => cases right <;> simp_all [Schema.same]
  | number constraints =>
      cases right with
      | number constraints' => exact toJson_number_eq_of_same same
      | _ => cases same
  | boolean => cases right <;> simp_all [Schema.same]
  | null => cases right <;> simp_all [Schema.same]
  | array items count =>
      cases right with
      | array items' count' =>
          obtain ⟨sameItems, sameCount⟩ := Bool.and_eq_true_iff.1 same
          rw [toJson, toJson, toJson_eq_of_same items items' sameItems, of_decide_eq_true sameCount]
      | _ => cases same
  | object properties required =>
      cases right with
      | object properties' required' =>
          obtain ⟨sameOnes, sameRequired⟩ := Bool.and_eq_true_iff.1 same
          rw [toJson, toJson, propertiesToJson_eq_of_same properties properties' sameOnes,
            of_decide_eq_true sameRequired]
      | _ => cases same
  | id format => cases right <;> simp_all [Schema.same]

theorem propertiesToJson_eq_of_same (left right : List (String × Schema))
    (same : sameProperties left right = true) : propertiesToJson left = propertiesToJson right := by
  cases left with
  | nil => cases right <;> simp_all [sameProperties]
  | cons property rest =>
      cases right with
      | nil => cases same
      | cons property' rest' =>
          obtain ⟨name, schema⟩ := property
          obtain ⟨name', schema'⟩ := property'
          obtain ⟨first, others⟩ := Bool.and_eq_true_iff.1 same
          obtain ⟨sameName, sameSchema⟩ := Bool.and_eq_true_iff.1 first
          rw [propertiesToJson, propertiesToJson, of_decide_eq_true sameName,
            toJson_eq_of_same schema schema' sameSchema,
            propertiesToJson_eq_of_same rest rest' others]

end

/-- Under every limit, storable schemas that keep to it are read back from their stored
form, and the schemas that are read from any stored form are just of this kind.  So
what has been read comes back when it is stored, and is stored alike again. -/
theorem read_toJson_and_storable_of_read (limit : Nat) :
    (∀ schema : Schema, schema.levels ≤ limit → schema.Storable →
      ∃ again, read limit schema.toJson = .ok again ∧ schema.same again = true) ∧
    (∀ (stored : Json) (schema : Schema), read limit stored = .ok schema →
      schema.levels ≤ limit ∧ schema.Storable ∧
        ∃ again, read limit schema.toJson = .ok again ∧ schema.same again = true ∧
          again.toJson = schema.toJson) := by
  constructor
  · intro schema few storable
    exact exists_readNode_toJson limit schema few storable
  · intro stored schema found
    obtain ⟨storable, few⟩ := storable_of_readNode found
    obtain ⟨again, readAgain, same⟩ := exists_readNode_toJson limit schema few storable
    exact ⟨few, storable, again, readAgain, same, (toJson_eq_of_same schema again same).symm⟩

/-- A tag under `kind`, a bound that is `null` and an empty list of members are stored
as `type`, nothing and an empty list. -/
theorem stored_again_of_members_empty :
    read 2 (.object [("items", .object [("enum", .array []), ("kind", .string "number"),
      ("min", .null)]), ("kind", .string "array")]) = .ok (.array (.number { members := some [] }) {}) ∧
    ∃ again, read 2 (Schema.array (.number { members := some [] }) {}).toJson = .ok again ∧
      (Schema.array (.number { members := some [] }) {}).same again = true ∧
      again.toJson = (Schema.array (.number { members := some [] }) {}).toJson := by
  have found : read 2 (.object [("items", .object [("enum", .array []), ("kind", .string "number"),
      ("min", .null)]), ("kind", .string "array")]) =
      .ok (.array (.number { members := some [] }) {}) := by
    rfl
  exact ⟨found, ((read_toJson_and_storable_of_read 2).2 _ _ found).2.2⟩

end Schema
end CompactSchema
