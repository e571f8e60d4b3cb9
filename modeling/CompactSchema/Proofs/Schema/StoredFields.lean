import CompactSchema.Proofs.Schema.Fields
import CompactSchema.Proofs.Schema.Storable

/-
Reading the fields that a stored schema writes.

A constraint that is written is read back, and one that is left out is read as absent.
Numbers come back equal as numbers, everything else comes back as it was.
-/

namespace CompactSchema

namespace SchemaFields

@[simp] theorem present?_cons (key name : String) (value : Json) (rest : List (String × Json)) :
    present? key ((name, value) :: rest) =
      if key = name then (match value with | .null => none | value => some value)
      else present? key rest := by
  unfold present?
  rw [Json.lookup_cons]
  by_cases here : key = name
  · rw [if_pos here, if_pos here]
    cases value <;> rfl
  · rw [if_neg here, if_neg here]

@[simp] theorem present?_optional_append_of_ne {key name : String} (different : key ≠ name)
    (value : Option Json) (rest : List (String × Json)) :
    present? key (Schema.optional name value ++ rest) = present? key rest := by
  cases value with
  | none => rfl
  | some value => exact (present?_cons key name value rest).trans (if_neg different)

/-- A member that is left out does not count, one that is written hides later ones. -/
@[simp] theorem present?_optional_append_self {value : Option Json} (notNull : value ≠ some .null)
    (name : String) (rest : List (String × Json)) :
    present? name (Schema.optional name value ++ rest) = value.or (present? name rest) := by
  cases value with
  | none => rfl
  | some value =>
      refine (present?_cons name name value rest).trans ?_
      rw [if_pos rfl, Option.some_or]
      cases value with
      | null => exact absurd rfl notNull
      | _ => rfl

@[simp] theorem present?_nil (key : String) : present? key [] = none := rfl

end SchemaFields

namespace Schema

@[simp] theorem lookup_optional_append_of_ne {key name : String} (different : key ≠ name)
    (value : Option Json) (rest : List (String × Json)) :
    (optional name value ++ rest).lookup key = rest.lookup key := by
  cases value with
  | none => rfl
  | some value => exact (Json.lookup_cons key name value rest).trans (if_neg different)

@[simp] theorem lengthValue_ne_null (length : UInt64) : lengthValue length ≠ .null := by
  intro impossible
  cases impossible

@[simp] theorem stringList_ne_null (strings : List String) : stringList strings ≠ .null := by
  intro impossible
  cases impossible

/-- Every schema is stored as an object. -/
@[simp] theorem toJson_ne_null (schema : Schema) : schema.toJson ≠ .null := by
  cases schema <;> simp [toJson]

end Schema

namespace SchemaFields

variable {name : String} {fields : List (String × Json)}

theorem lengthOf?_ofUInt64 (length : UInt64) : lengthOf? (.ofUInt64 length) = some length := by
  unfold lengthOf? Number.ofUInt64
  simp

theorem length_of_written {length : Option UInt64}
    (written : present? name fields = length.map Schema.lengthValue)
    (small : ∀ l, length = some l → l ≤ lengthLimit) :
    SchemaFields.length name fields = .ok length := by
  unfold SchemaFields.length
  rw [written]
  cases length with
  | none => rfl
  | some length =>
      simp only [Option.map_some, Schema.lengthValue, lengthOf?_ofUInt64]
      exact if_pos (small length rfl)

theorem lengthBounds_of_written {leastName mostName : String} {bounds : LengthBounds}
    (storable : bounds.Storable)
    (least : present? leastName fields = bounds.least.map Schema.lengthValue)
    (most : present? mostName fields = bounds.most.map Schema.lengthValue) :
    lengthBounds leastName mostName fields = .ok bounds := by
  obtain ⟨smallLeast, smallMost, ordered⟩ := storable
  refine bind_eq_ok_iff.2 ⟨_, length_of_written least smallLeast, ?_⟩
  refine bind_eq_ok_iff.2 ⟨_, length_of_written most smallMost, ?_⟩
  split
  · rename_i lo hi isLeast isMost
    rw [if_neg (UInt64.not_lt.2 (ordered lo hi isLeast isMost))]
  · rfl

theorem string_of_written {text : Option String}
    (written : present? name fields = text.map Json.string) :
    SchemaFields.string name fields = .ok text := by
  unfold SchemaFields.string
  rw [written]
  cases text <;> rfl

theorem elements?_string (strings : List String) :
    elements? string? (strings.map .string) = some strings := by
  induction strings with
  | nil => rfl
  | cons first rest ih =>
      simp only [List.map_cons, elements?, string?, ih]

theorem strings_of_written {members : Option (List String)}
    (written : present? name fields = members.map Schema.stringList) :
    strings name fields = .ok members := by
  unfold strings
  rw [written]
  cases members with
  | none => rfl
  | some members =>
      simp only [Option.map_some, Schema.stringList, elements?_string]

theorem ofSource?_source (pattern : Pattern) : Pattern.ofSource? pattern.source = some pattern := by
  unfold Pattern.ofSource?
  split
  · exact congrArg some (Pattern.eq_of_source_eq rfl)
  · rename_i missing
    rw [pattern.compiled] at missing
    cases missing

theorem pattern_of_written {pattern : Option Pattern}
    (written : present? name fields = pattern.map fun pattern => .string pattern.source) :
    SchemaFields.pattern name fields = .ok pattern := by
  refine bind_eq_ok_iff.2 ⟨pattern.map Pattern.source, string_of_written ?_, ?_⟩
  · rw [written, Option.map_map]
    rfl
  · cases pattern with
    | none => rfl
    | some pattern =>
        simp only [Option.map_some, ofSource?_source]

theorem numberValue_ne_null {x : Binary64} (finite : x.isFinite = true) : numberValue x ≠ .null := by
  obtain ⟨n, written, _⟩ := exists_numberValue_same finite
  rw [written]
  intro impossible
  cases impossible

theorem number_of_written {bound : Option Binary64}
    (written : present? name fields = bound.map numberValue)
    (finite : ∀ x, bound = some x → x.isFinite = true) :
    ∃ again, number name fields = .ok again ∧ Schema.sameBound bound again = true := by
  unfold number
  rw [written]
  cases bound with
  | none => exact ⟨none, rfl, rfl⟩
  | some x =>
      obtain ⟨n, value, same⟩ := exists_numberValue_same (finite x rfl)
      rw [Option.map_some, value]
      exact ⟨some n.toBinary64, rfl, same⟩

theorem exists_elements?_number {members : List Binary64}
    (finite : ∀ member ∈ members, member.isFinite = true) :
    ∃ again, elements? number? (members.map numberValue) = some again ∧
      Schema.sameNumbers members again = true := by
  induction members with
  | nil => exact ⟨[], rfl, rfl⟩
  | cons first rest ih =>
      obtain ⟨n, value, same⟩ := exists_numberValue_same (finite first List.mem_cons_self)
      obtain ⟨others, readOthers, sameOthers⟩ :=
        ih fun member inside => finite member (List.mem_cons_of_mem _ inside)
      refine ⟨n.toBinary64 :: others, ?_, ?_⟩
      · simp only [List.map_cons, elements?, value, number?, readOthers]
      · simp only [Schema.sameNumbers, same, sameOthers, Bool.and_self]

theorem numbers_of_written {members : Option (List Binary64)}
    (written : present? name fields = members.map fun members => .array (members.map numberValue))
    (finite : ∀ held, members = some held → ∀ member ∈ held, member.isFinite = true) :
    ∃ again, numbers name fields = .ok again ∧
      Option.Rel (fun left right => Schema.sameNumbers left right = true) members again := by
  unfold numbers
  rw [written]
  cases members with
  | none => exact ⟨none, rfl, .none⟩
  | some held =>
      obtain ⟨again, readMembers, same⟩ := exists_elements?_number (finite held rfl)
      simp only [Option.map_some, readMembers]
      exact ⟨some again, rfl, .some same⟩

end SchemaFields
end CompactSchema
