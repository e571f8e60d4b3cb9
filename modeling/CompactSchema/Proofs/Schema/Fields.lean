import CompactSchema.Proofs.Results
import CompactSchema.Schema.Reader

/-
Which fields of a node matter.

A node's tag is read from `type` and `kind`, and what follows depends on the fields of
its kind only, each by its value, where `null` is no value.
-/

namespace CompactSchema

def FieldsAgree (names : List String) (left right : List (String × Json)) : Prop :=
  ∀ name ∈ names, SchemaFields.present? name left = SchemaFields.present? name right

namespace SchemaFields

variable {left right : List (String × Json)}

theorem length_congr {name : String} (agree : present? name left = present? name right) :
    length name left = length name right := by
  unfold length
  rw [agree]

theorem lengthBounds_congr {leastName mostName : String}
    (least : present? leastName left = present? leastName right)
    (most : present? mostName left = present? mostName right) :
    lengthBounds leastName mostName left = lengthBounds leastName mostName right := by
  unfold lengthBounds
  rw [length_congr least, length_congr most]

theorem number_congr {name : String} (agree : present? name left = present? name right) :
    number name left = number name right := by
  unfold number
  rw [agree]

theorem string_congr {name : String} (agree : present? name left = present? name right) :
    string name left = string name right := by
  unfold string
  rw [agree]

theorem strings_congr {name : String} (agree : present? name left = present? name right) :
    strings name left = strings name right := by
  unfold strings
  rw [agree]

theorem numbers_congr {name : String} (agree : present? name left = present? name right) :
    numbers name left = numbers name right := by
  unfold numbers
  rw [agree]

theorem pattern_congr {name : String} (agree : present? name left = present? name right) :
    pattern name left = pattern name right := by
  unfold pattern
  rw [string_congr agree]

theorem properties_congr {name : String} (agree : present? name left = present? name right) :
    properties name left = properties name right := by
  unfold properties
  rw [agree]

end SchemaFields

namespace ShallowNode

open SchemaFields

variable {left right : List (String × Json)}

def fieldNames : String → List String
  | "string" => ["minLength", "maxLength", "pattern", "enum", "format"]
  | "number" => ["min", "max", "enum"]
  | "id" => ["format"]
  | "array" => ["items", "minItems", "maxItems"]
  | "object" => ["properties", "required"]
  | _ => []

theorem readString_eq_ok_iff {fields : List (String × Json)} {node : ShallowNode} :
    readString fields = .ok node ↔
      ∃ length pattern members format,
        lengthBounds "minLength" "maxLength" fields = .ok length ∧
        SchemaFields.pattern "pattern" fields = .ok pattern ∧
        strings "enum" fields = .ok members ∧
        SchemaFields.string "format" fields = .ok format ∧
        node = .leaf (.string { length, pattern, members, format := format.map .ofName }) := by
  unfold readString
  simp only [bind_eq_ok_iff]
  constructor
  · rintro ⟨length, readLength, pattern, readPattern, members, readMembers, format, readFormat, same⟩
    cases same
    exact ⟨length, pattern, members, format, readLength, readPattern, readMembers, readFormat, rfl⟩
  · rintro ⟨length, pattern, members, format, readLength, readPattern, readMembers, readFormat, same⟩
    subst same
    exact ⟨length, readLength, pattern, readPattern, members, readMembers, format, readFormat, rfl⟩

theorem readId_eq_ok_iff {fields : List (String × Json)} {node : ShallowNode} :
    readId fields = .ok node ↔
      ∃ format, SchemaFields.string "format" fields = .ok format ∧
        node = .leaf (.id (format.map .ofName)) := by
  unfold readId
  simp only [bind_eq_ok_iff]
  constructor
  · rintro ⟨format, readFormat, same⟩
    cases same
    exact ⟨format, readFormat, rfl⟩
  · rintro ⟨format, readFormat, same⟩
    subst same
    exact ⟨format, readFormat, rfl⟩

theorem readArray_eq_ok_iff {fields : List (String × Json)} {node : ShallowNode} :
    readArray fields = .ok node ↔
      ∃ items count, present? "items" fields = some items ∧
        lengthBounds "minItems" "maxItems" fields = .ok count ∧ node = .array items count := by
  unfold readArray
  cases found : present? "items" fields with
  | none =>
      constructor
      · intro impossible
        cases impossible
      · rintro ⟨items, count, impossible, _⟩
        cases impossible
  | some items =>
      simp only [bind_eq_ok_iff]
      constructor
      · rintro ⟨count, readCount, same⟩
        cases same
        exact ⟨items, count, rfl, readCount, rfl⟩
      · rintro ⟨items', count, here, readCount, same⟩
        cases here
        subst same
        exact ⟨count, readCount, rfl⟩

theorem readObject_eq_ok_iff {fields : List (String × Json)} {node : ShallowNode} :
    readObject fields = .ok node ↔
      ∃ properties required,
        SchemaFields.properties "properties" fields = .ok properties ∧
        strings "required" fields = .ok required ∧
        node = .object properties (required.getD []) := by
  unfold readObject
  simp only [bind_eq_ok_iff]
  constructor
  · rintro ⟨properties, readProperties, required, readRequired, same⟩
    cases same
    exact ⟨properties, required, readProperties, readRequired, rfl⟩
  · rintro ⟨properties, required, readProperties, readRequired, same⟩
    subst same
    exact ⟨properties, readProperties, required, readRequired, rfl⟩

/-- The least number, if there is one, is not above the greatest. -/
def NumbersOrdered (least most : Option Binary64) : Prop :=
  ∀ lo hi, least = some lo → most = some hi → hi.lt lo = false

theorem numbersOrdered_some_iff {lo hi : Binary64} :
    NumbersOrdered (some lo) (some hi) ↔ hi.lt lo = false := by
  constructor
  · intro ordered
    exact ordered lo hi rfl rfl
  · intro ordered lo' hi' left right
    cases left
    cases right
    exact ordered

theorem readNumber_eq_ok_iff {fields : List (String × Json)} {node : ShallowNode} :
    readNumber fields = .ok node ↔
      ∃ least most members,
        SchemaFields.number "min" fields = .ok least ∧ SchemaFields.number "max" fields = .ok most ∧
        NumbersOrdered least most ∧ numbers "enum" fields = .ok members ∧
        node = .leaf (.number { least, most, members }) := by
  unfold readNumber
  simp only [bind_eq_ok_iff]
  constructor
  · rintro ⟨least, readLeast, most, readMost, rest⟩
    have ordered : NumbersOrdered least most ∧
        ∃ members, numbers "enum" fields = .ok members ∧
          node = .leaf (.number { least, most, members }) := by
      split at rest
      · rename_i lo hi
        split at rest
        · cases rest
        · rename_i notLess
          obtain ⟨members, readMembers, same⟩ := bind_eq_ok_iff.1 rest
          cases same
          exact ⟨numbersOrdered_some_iff.2 (Bool.eq_false_iff.2 notLess), members, readMembers, rfl⟩
      · rename_i notBoth
        obtain ⟨members, readMembers, same⟩ := bind_eq_ok_iff.1 rest
        cases same
        exact ⟨fun lo hi left right => absurd right (notBoth lo hi left), members, readMembers, rfl⟩
    obtain ⟨ordered, members, readMembers, same⟩ := ordered
    exact ⟨least, most, members, readLeast, readMost, ordered, readMembers, same⟩
  · rintro ⟨least, most, members, readLeast, readMost, ordered, readMembers, same⟩
    subst same
    refine ⟨least, readLeast, most, readMost, ?_⟩
    split
    · rename_i lo hi
      rw [if_neg (Bool.eq_false_iff.1 (numbersOrdered_some_iff.1 ordered))]
      exact bind_eq_ok_iff.2 ⟨members, readMembers, rfl⟩
    · exact bind_eq_ok_iff.2 ⟨members, readMembers, rfl⟩

theorem readString_congr (agree : FieldsAgree (fieldNames "string") left right) :
    readString left = readString right := by
  unfold readString
  rw [lengthBounds_congr (agree "minLength" (by decide)) (agree "maxLength" (by decide)),
    pattern_congr (agree "pattern" (by decide)), strings_congr (agree "enum" (by decide)),
    string_congr (agree "format" (by decide))]

theorem readNumber_congr (agree : FieldsAgree (fieldNames "number") left right) :
    readNumber left = readNumber right := by
  unfold readNumber
  rw [number_congr (agree "min" (by decide)), number_congr (agree "max" (by decide)),
    numbers_congr (agree "enum" (by decide))]

theorem readId_congr (agree : FieldsAgree (fieldNames "id") left right) :
    readId left = readId right := by
  unfold readId
  rw [string_congr (agree "format" (by decide))]

theorem readArray_congr (agree : FieldsAgree (fieldNames "array") left right) :
    readArray left = readArray right := by
  unfold readArray
  rw [agree "items" (by decide),
    lengthBounds_congr (agree "minItems" (by decide)) (agree "maxItems" (by decide))]

theorem readObject_congr (agree : FieldsAgree (fieldNames "object") left right) :
    readObject left = readObject right := by
  unfold readObject
  rw [properties_congr (agree "properties" (by decide)), strings_congr (agree "required" (by decide))]

theorem readTagged_congr {tag : String} (agree : FieldsAgree (fieldNames tag) left right) :
    readTagged tag left = readTagged tag right := by
  unfold readTagged
  split
  · exact readString_congr agree
  · exact readNumber_congr agree
  · rfl
  · rfl
  · exact readId_congr agree
  · exact readArray_congr agree
  · exact readObject_congr agree
  · rfl

end ShallowNode
end CompactSchema
