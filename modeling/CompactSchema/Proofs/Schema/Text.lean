import CompactSchema.Proofs.Json.ReadBack
import CompactSchema.Proofs.Schema.Order
import CompactSchema.Proofs.Schema.RoundTrip
import CompactSchema.Schema.Text

/-
Schemas written as text and read again.

The stored form of a schema that has been read from an ordered value is ordered itself,
and it is free of doubles if the numbers of the schema are integers.  Its text is then
read back as the schema, unless it nests more deeply than a document may.
-/

namespace CompactSchema

open Json (NamesIncrease OrderedMembers)

/-! ### Integers -/

/-- The double is an integer of less than 2^63 in magnitude. -/
def Binary64.IsSmallInteger (x : Binary64) : Prop :=
  ∃ (n : Int) (y : Finite64), n.natAbs < 2 ^ 63 ∧ x = .finite y ∧ y.signedUnits = n * unitsPerOne

theorem exact_numberValue {x : Binary64} (small : x.IsSmallInteger) : (numberValue x).Exact := by
  obtain ⟨n, y, below, rfl, exact⟩ := small
  have one : (unitsPerOne : Int) ≠ 0 := Int.natCast_ne_zero.2 (Nat.pos_iff_ne_zero.1 unitsPerOne_pos)
  have whole : y.isIntegral = true := y.isIntegral_iff.2 ⟨n, by rw [exact, Int.mul_comm]⟩
  have value : y.signedUnits / (unitsPerOne : Int) = n := by
    rw [exact, Int.mul_ediv_cancel n one]
  unfold numberValue
  dsimp only
  rw [dif_pos ⟨whole, by rwa [value]⟩]
  exact ⟨trivial, trivial⟩

namespace Schema

mutual

/-- The bounds and members of every number node are integers of less than 2^63 in
magnitude. -/
def NumbersSmallIntegers : Schema → Prop
  | .number constraints =>
      (∀ x, constraints.least = some x → x.IsSmallInteger) ∧
      (∀ x, constraints.most = some x → x.IsSmallInteger) ∧
      ∀ members, constraints.members = some members → ∀ x ∈ members, x.IsSmallInteger
  | .array items _ => items.NumbersSmallIntegers
  | .object properties _ => PropertiesSmallIntegers properties
  | _ => True

def PropertiesSmallIntegers : List (String × Schema) → Prop
  | [] => True
  | (_, schema) :: rest => schema.NumbersSmallIntegers ∧ PropertiesSmallIntegers rest

end

/-! ### Stored forms that their text keeps -/

theorem forall_mem_optional_append {name : String} {value : Option Json}
    {rest : List (String × Json)} {promise : Json → Prop} :
    (∀ member ∈ optional name value ++ rest, promise member.2) ↔
      (∀ held, value = some held → promise held) ∧ ∀ member ∈ rest, promise member.2 := by
  cases value with
  | none => simp [optional]
  | some held => simp [optional]

theorem names_optional_append_sublist {name : String} (value : Option Json)
    {rest : List (String × Json)} {names : List String} (others : (rest.map (·.1)).Sublist names) :
    ((optional name value ++ rest).map (·.1)).Sublist (name :: names) := by
  cases value with
  | none => exact others.cons name
  | some held => exact others.cons_cons name

theorem exact_stringList (strings : List String) : (stringList strings).Exact := by
  refine Json.exact_array_iff.2 fun element inside => ?_
  obtain ⟨s, _, rfl⟩ := List.mem_map.1 inside
  exact ⟨trivial, trivial⟩

theorem exact_string (s : String) : (Json.string s).Exact := ⟨trivial, trivial⟩

theorem exact_lengthValue (length : UInt64) : (lengthValue length).Exact := ⟨trivial, trivial⟩

theorem exact_numbers {members : List Binary64} (small : ∀ x ∈ members, x.IsSmallInteger) :
    (Json.array (members.map numberValue)).Exact := by
  refine Json.exact_array_iff.2 fun element inside => ?_
  obtain ⟨x, member, rfl⟩ := List.mem_map.1 inside
  exact exact_numberValue (small x member)

theorem exact_string_toJson (constraints : StringConstraints) :
    (Schema.string constraints).toJson.Exact := by
  simp only [toJson, List.append_assoc]
  refine Json.exact_object_iff.2 ⟨?_, ?_⟩
  · have names : ["enum", "format", "maxLength", "minLength", "pattern", "type"].Pairwise (· < ·) := by
      decide
    refine namesIncrease_iff.2 (names.sublist ?_)
    repeat apply names_optional_append_sublist
    exact .refl _
  · simp only [forall_mem_optional_append, Option.map_eq_some_iff, forall_exists_index, and_imp,
      forall_apply_eq_imp_iff₂, List.mem_singleton, forall_eq]
    exact ⟨fun _ _ => exact_stringList _, fun _ _ => exact_string _, fun _ _ => exact_lengthValue _,
      fun _ _ => exact_lengthValue _, fun _ _ => exact_string _, exact_string _⟩

theorem exact_number_toJson {constraints : NumberConstraints}
    (small : (Schema.number constraints).NumbersSmallIntegers) :
    (Schema.number constraints).toJson.Exact := by
  obtain ⟨least, most, members⟩ := small
  simp only [toJson, List.append_assoc]
  refine Json.exact_object_iff.2 ⟨?_, ?_⟩
  · have names : ["enum", "max", "min", "type"].Pairwise (· < ·) := by
      decide
    refine namesIncrease_iff.2 (names.sublist ?_)
    repeat apply names_optional_append_sublist
    exact .refl _
  · simp only [forall_mem_optional_append, Option.map_eq_some_iff, forall_exists_index, and_imp,
      forall_apply_eq_imp_iff₂, List.mem_singleton, forall_eq]
    exact ⟨fun listed here => exact_numbers (members listed here),
      fun x here => exact_numberValue (most x here), fun x here => exact_numberValue (least x here),
      exact_string _⟩

theorem exact_array_toJson {items : Schema} (inner : items.toJson.Exact) (count : LengthBounds) :
    (Schema.array items count).toJson.Exact := by
  simp only [toJson, List.append_assoc]
  refine Json.exact_object_iff.2 ⟨?_, ?_⟩
  · have names : ["items", "maxItems", "minItems", "type"].Pairwise (· < ·) := by
      decide
    refine namesIncrease_iff.2 (names.sublist (.cons_cons "items" ?_))
    repeat apply names_optional_append_sublist
    exact .refl _
  · simp only [List.forall_mem_cons, forall_mem_optional_append, Option.map_eq_some_iff,
      forall_exists_index, and_imp, forall_apply_eq_imp_iff₂, List.not_mem_nil, false_implies,
      implies_true, and_true]
    exact ⟨inner, fun _ _ => exact_lengthValue _, fun _ _ => exact_lengthValue _, exact_string _⟩

theorem exact_object_toJson {properties : List (String × Schema)}
    (inner : (Json.object (propertiesToJson properties)).Exact) (required : List String) :
    (Schema.object properties required).toJson.Exact := by
  rw [toJson]
  have names : ["properties", "required", "type"].Pairwise (· < ·) := by
    decide
  cases required with
  | nil =>
      refine Json.exact_object_iff.2 ⟨?_, ?_⟩
      · exact namesIncrease_iff.2 (names.sublist (.cons_cons _ (.cons _ (.refl _))))
      · exact List.forall_mem_cons.2 ⟨inner, List.forall_mem_singleton.2 (exact_string _)⟩
  | cons first others =>
      refine Json.exact_object_iff.2 ⟨?_, ?_⟩
      · exact namesIncrease_iff.2 names
      · exact List.forall_mem_cons.2 ⟨inner, List.forall_mem_cons.2
          ⟨exact_stringList _, List.forall_mem_singleton.2 (exact_string _)⟩⟩

theorem exact_id_toJson (format : Option IdFormat) : (Schema.id format).toJson.Exact := by
  rw [toJson]
  refine Json.exact_object_iff.2 ⟨?_, ?_⟩
  · have names : ["format", "type"].Pairwise (· < ·) := by
      decide
    exact namesIncrease_iff.2 (names.sublist (names_optional_append_sublist _ (.refl _)))
  · simp only [forall_mem_optional_append, Option.map_eq_some_iff, forall_exists_index, and_imp,
      forall_apply_eq_imp_iff₂, List.mem_singleton, forall_eq]
    exact ⟨fun _ _ => exact_string _, exact_string _⟩

theorem names_propertiesToJson (properties : List (String × Schema)) :
    (propertiesToJson properties).map (·.1) = properties.map (·.1) := by
  induction properties with
  | nil => rfl
  | cons property rest ih => rw [propertiesToJson, List.map_cons, List.map_cons, ih]

mutual

theorem exact_toJson (schema : Schema) (ordered : schema.Ordered)
    (small : schema.NumbersSmallIntegers) : schema.toJson.Exact := by
  cases schema with
  | string constraints => exact exact_string_toJson constraints
  | number constraints => exact exact_number_toJson small
  | boolean => exact Json.exact_object_iff.2 ⟨List.pairwise_singleton _ _, by simp [exact_string]⟩
  | null => exact Json.exact_object_iff.2 ⟨List.pairwise_singleton _ _, by simp [exact_string]⟩
  | array items count => exact exact_array_toJson (exact_toJson items ordered small) count
  | object properties required =>
      obtain ⟨increasing, inner⟩ := ordered
      refine exact_object_toJson (Json.exact_object_iff.2 ⟨?_, ?_⟩) required
      · rw [namesIncrease_iff, names_propertiesToJson, ← namesIncrease_iff]
        exact increasing
      · exact exact_propertiesToJson properties inner small
  | id format => exact exact_id_toJson format

theorem exact_propertiesToJson (properties : List (String × Schema))
    (ordered : PropertiesOrdered properties) (small : PropertiesSmallIntegers properties) :
    ∀ member ∈ propertiesToJson properties, member.2.Exact := by
  cases properties with
  | nil => exact List.forall_mem_nil _
  | cons property rest =>
      exact List.forall_mem_cons.2
        ⟨exact_toJson property.2 ordered.1 small.1, exact_propertiesToJson rest ordered.2 small.2⟩

end

/-! ### Text -/

/-- A schema without fractions that has been read is read back from its own text, unless
its stored form opens more arrays and objects at once than a document may: then its text
is refused, although the stored form is read. -/
theorem ofText_text_of_read {stored : Json} {schema : Schema} (ordered : stored.Ordered)
    (found : ofJson stored = .ok schema) (small : schema.NumbersSmallIntegers) :
    (schema.toJson.nesting ≤ 127 →
      ∃ again, ofText schema.text = .ok again ∧ schema.same again = true) ∧
    (128 ≤ schema.toJson.nesting →
      ofText schema.text = .error (.text .illFormed) ∧ schema.levels ≤ 1024 ∧
        ∃ again, ofJson schema.toJson = .ok again ∧ schema.same again = true) := by
  obtain ⟨storable, few⟩ := storable_of_readNode found
  obtain ⟨again, readAgain, same⟩ := exists_readNode_toJson defaultDepthLimit schema few storable
  have front : Json.readFront Json.nestingLimit (tokens schema.text) =
      if schema.toJson.nesting ≤ 127 then .ok (schema.toJson, []) else .error .illFormed :=
    Json.readFront_text Json.nestingLimit
      (exact_toJson schema (ordered_of_readNode ordered found) small)
  constructor
  · intro shallow
    rw [if_pos shallow] at front
    refine ⟨again, ?_, same⟩
    have formRead : ofJson schema.toJson = .ok again := readAgain
    simp only [ofText, front, formRead]
  · intro deep
    rw [if_neg (Nat.not_le.2 deep)] at front
    refine ⟨?_, few, again, readAgain, same⟩
    simp only [ofText, front]

/-! ### Deep schemas -/

def insideArrays (schema : Schema) : Nat → Schema
  | 0 => schema
  | depth + 1 => .array (schema.insideArrays depth) {}

/-- Every array around a schema opens one object more. -/
theorem nesting_insideArrays (schema : Schema) (depth : Nat) :
    (schema.insideArrays depth).toJson.nesting = schema.toJson.nesting + depth := by
  induction depth with
  | zero => rfl
  | succ depth ih =>
      show max (schema.insideArrays depth).toJson.nesting 0 + 1 = _
      rw [ih, Nat.max_zero, Nat.add_assoc]

theorem readNode_insideArrays {schema : Schema} {limit left : Nat}
    (read : readNode limit left schema.toJson = .ok schema) (depth : Nat) :
    readNode limit (left + depth) (schema.insideArrays depth).toJson =
      .ok (schema.insideArrays depth) := by
  induction depth with
  | zero => exact read
  | succ depth ih =>
      have unbounded : ({} : LengthBounds).Storable := ⟨nofun, nofun, nofun⟩
      exact readNode_succ_eq_ok_iff.2 ⟨_, ShallowNode.read_array unbounded, .array {} ih⟩

theorem ordered_insideArrays (schema : Schema) (ordered : schema.Ordered) (depth : Nat) :
    (schema.insideArrays depth).Ordered := by
  induction depth with
  | zero => exact ordered
  | succ depth ih => exact ih

theorem numbersSmallIntegers_insideArrays (schema : Schema) (small : schema.NumbersSmallIntegers) (depth : Nat) :
    (schema.insideArrays depth).NumbersSmallIntegers := by
  induction depth with
  | zero => exact small
  | succ depth ih => exact ih

theorem isSmallInteger_three : (Binary64.ofInt (-3)).IsSmallInteger := by
  have held : Representable (3 * unitsPerOne) := by decide +kernel
  refine ⟨-3, ⟨true, 3 * unitsPerOne, held⟩, by decide, by decide +revert +kernel, ?_⟩
  rw [Finite64.signedUnits, if_pos rfl, Int.natCast_mul]
  exact (Int.neg_mul _ _).symm

def sizeAndWord : Schema :=
  .object [("size", .number { least := some (.ofInt (-3)) }),
    ("word", .string { members := some ["a\n", "\"é"] })] []

def storedSizeAndWord : Json :=
  .object [("properties", .object [
    ("size", .object [("kind", .string "number"), ("min", .number (.integer (-3) (by decide)))]),
    ("word", .object [("enum", .array [.string "a\n", .string "\"é"]), ("kind", .string "string")])]),
    ("type", .string "object")]

/-- Bounds and words are read back, a truth value inside 127 arrays is refused. -/
theorem ofText_text_of_words_and_depth :
    (∃ again, ofText sizeAndWord.text = .ok again ∧ sizeAndWord.same again = true) ∧
      ofText (boolean.insideArrays 127).text = .error (.text .illFormed) := by
  constructor
  · have found : ofJson storedSizeAndWord = .ok sizeAndWord := rfl
    have ordered : storedSizeAndWord.Ordered := by
      simp only [storedSizeAndWord, Json.Ordered, OrderedMembers, Json.OrderedElements,
        NamesIncrease]
      decide
    have small : sizeAndWord.NumbersSmallIntegers := by
      simp [sizeAndWord, NumbersSmallIntegers, PropertiesSmallIntegers, isSmallInteger_three]
    exact (ofText_text_of_read ordered found small).1 (by decide +kernel)
  · have read : readNode 1024 897 boolean.toJson = .ok boolean := rfl
    have ordered : (boolean.insideArrays 127).Ordered := ordered_insideArrays boolean trivial 127
    have small : (boolean.insideArrays 127).NumbersSmallIntegers :=
      numbersSmallIntegers_insideArrays boolean trivial 127
    have deep : 128 ≤ (boolean.insideArrays 127).toJson.nesting :=
      Nat.le_of_eq (nesting_insideArrays boolean 127).symm
    exact ((ofText_text_of_read (exact_toJson _ ordered small).1 (readNode_insideArrays read 127)
      small).2 deep).1

end Schema
end CompactSchema
