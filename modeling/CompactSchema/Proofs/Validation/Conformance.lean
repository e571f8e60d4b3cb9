import CompactSchema.Validation.Check

/-
What a schema asks for, apart from the order of checks.

A datum conforms to a schema if it meets the constraints of every node that it
reaches.  Checking passes exactly the data that conform.
-/

namespace CompactSchema

structure LengthBounds.Allow (bounds : LengthBounds) (length : Nat) : Prop where
  least : ∀ least, bounds.least = some least → least.toNat ≤ length
  most : ∀ most, bounds.most = some most → length ≤ most.toNat

structure StringConstraints.Allow (constraints : StringConstraints) (text : String) : Prop where
  length : constraints.length.Allow text.length
  members : ∀ members, constraints.members = some members → text ∈ members
  pattern : ∀ pattern, constraints.pattern = some pattern → pattern.isMatch text = true
  format : ∀ format, constraints.format = some format → format.accepts text = true

structure NumberConstraints.Within (constraints : NumberConstraints) (value : Binary64) : Prop where
  least : ∀ least, constraints.least = some least → value.lt least = false
  most : ∀ most, constraints.most = some most → most.lt value = false

structure NumberConstraints.Allow (constraints : NumberConstraints) (value : Binary64) : Prop
    extends constraints.Within value where
  members : ∀ members, constraints.members = some members →
    ∃ member ∈ members, member.same value = true

/-- A value is an identifier of the form; without a form that is known there is none. -/
def IdFormat.Allow : Option IdFormat → Json → Prop
  | some .uuid, value => ∃ text, value = .string text ∧ Format.isUuid text = true
  | some .number, value => ∃ n, value = .number n
  | some (.other _), _ | none, _ => False

def HasRequired (members : List (String × Json)) (required : List String) : Prop :=
  ∀ name ∈ required, (members.lookup name).isSome = true

namespace Schema

mutual

def Conforms : Schema → Json → Prop
  | .string constraints, value => ∃ text, value = .string text ∧ constraints.Allow text
  | .number constraints, value => ∃ n, value = .number n ∧ constraints.Allow n.toBinary64
  | .boolean, value => ∃ b, value = .boolean b
  | .null, value => value = .null
  | .array items count, value =>
      ∃ elements, value = .array elements ∧ count.Allow elements.length ∧
        ∀ element ∈ elements, items.Conforms element
  | .object properties required, value =>
      ∃ members, value = .object members ∧ HasRequired members required ∧
        PropertiesConform properties members
  | .id format, value => IdFormat.Allow format value

def PropertiesConform : List (String × Schema) → List (String × Json) → Prop
  | [], _ => True
  | (name, schema) :: rest, members =>
      (∀ value, members.lookup name = some value → schema.Conforms value) ∧
        PropertiesConform rest members

end

theorem propertiesConform_iff {properties : List (String × Schema)} {members : List (String × Json)} :
    PropertiesConform properties members ↔
      ∀ property ∈ properties, ∀ value, members.lookup property.1 = some value →
        property.2.Conforms value := by
  induction properties with
  | nil => simp [PropertiesConform]
  | cons property rest ih =>
      obtain ⟨name, schema⟩ := property
      rw [PropertiesConform, ih, List.forall_mem_cons]

end Schema

namespace Verdict

@[simp] theorem isPass_pass : pass.isPass = true := rfl

@[simp] theorem isPass_fail (problem : Problem) : (fail problem).isPass = false := rfl

@[simp] theorem isPass_error (violation : Violation) :
    isPass (.error violation : Verdict) = false := rfl

@[simp] theorem isPass_ensure (condition : Bool) (problem : Problem) :
    (ensure condition problem).isPass = condition := by
  cases condition <;> rfl

@[simp] theorem isPass_within (step : DataStep) (schemaStep : SchemaStep) (verdict : Verdict) :
    (within step schemaStep verdict).isPass = verdict.isPass := by
  cases verdict <;> rfl

@[simp] theorem isPass_bind (verdict : Verdict) (next : Unit → Verdict) :
    isPass (verdict >>= next : Verdict) = (verdict.isPass && (next ()).isPass) := by
  cases verdict <;> rfl

end Verdict

namespace Check

open Verdict

@[simp] theorem isPass_typeMismatch (expected : String) (value : Json) :
    (typeMismatch expected value).isPass = false := rfl

theorem isPass_bound {α : Type} (limit : Option α) (meets : α → Bool) (problem : α → Problem) :
    (bound limit meets problem).isPass = true ↔ ∀ a, limit = some a → meets a = true := by
  cases limit with
  | none => simp [bound]
  | some a => simp [bound]

theorem count_isPass_iff (bounds : LengthBounds) (items : Nat) :
    (count bounds items).isPass = true ↔ bounds.Allow items := by
  unfold count
  simp only [isPass_bind, Bool.and_eq_true, isPass_bound, decide_eq_true_eq]
  constructor
  · rintro ⟨least, most⟩
    exact ⟨least, most⟩
  · rintro ⟨least, most⟩
    exact ⟨least, most⟩

theorem string_isPass_iff (constraints : StringConstraints) (text : String) :
    (string constraints text).isPass = true ↔ constraints.Allow text := by
  unfold string
  simp only [isPass_bind, Bool.and_eq_true, isPass_bound, decide_eq_true_eq,
    List.contains_iff_mem]
  constructor
  · rintro ⟨least, most, members, pattern, format⟩
    exact ⟨⟨least, most⟩, members, pattern, format⟩
  · rintro ⟨⟨least, most⟩, members, pattern, format⟩
    exact ⟨least, most, members, pattern, format⟩

theorem number_isPass_iff (constraints : NumberConstraints) (value : Binary64) :
    (number constraints value).isPass = true ↔ constraints.Allow value := by
  unfold number
  simp only [isPass_bind, Bool.and_eq_true, isPass_bound, Bool.not_eq_true', List.any_eq_true]
  constructor
  · rintro ⟨least, most, members⟩
    exact ⟨⟨least, most⟩, members⟩
  · rintro ⟨⟨least, most⟩, members⟩
    exact ⟨least, most, members⟩

theorem id_isPass_iff (format : Option IdFormat) (value : Json) :
    (id format value).isPass = true ↔ IdFormat.Allow format value := by
  cases format with
  | none => simp [id, IdFormat.Allow]
  | some format =>
      cases format with
      | number => cases value <;> simp [id, IdFormat.Allow]
      | uuid => cases value <;> simp [id, IdFormat.Allow]
      | other name => simp [id, IdFormat.Allow]

/-- A check of elements depends on their verdicts only. -/
theorem elements_eq {check check' : Json → Verdict} {values values' : List Json}
    (same : values.map check = values'.map check') (start : Nat) :
    elements check start values = elements check' start values' := by
  induction values generalizing values' start with
  | nil =>
      rw [List.map_nil, eq_comm, List.map_eq_nil_iff] at same
      rw [same]
      rfl
  | cons value rest ih =>
      obtain ⟨value', rest', rfl, first, others⟩ := List.map_eq_cons_iff.1 same.symm
      unfold elements
      rw [first, ih others.symm]

theorem required_isPass_iff (members : List (String × Json)) (names : List String) :
    (required members names).isPass = true ↔ HasRequired members names := by
  unfold HasRequired
  induction names with
  | nil => simp [required]
  | cons name rest ih =>
      rw [required, List.forall_mem_cons]
      split
      · rename_i present
        rw [ih, and_iff_right present]
      · rename_i absent
        rw [isPass_error]
        simp [absent]

theorem elements_isPass_iff (check : Json → Verdict) (start : Nat) (values : List Json) :
    (elements check start values).isPass = true ↔ ∀ value ∈ values, (check value).isPass = true := by
  induction values generalizing start with
  | nil => simp [elements]
  | cons value rest ih =>
      rw [elements, isPass_bind, isPass_within, Bool.and_eq_true, List.forall_mem_cons, ih]

theorem property_isPass_iff (check : Json → Verdict) (members : List (String × Json)) (name : String) :
    (property check members name).isPass = true ↔
      ∀ value, members.lookup name = some value → (check value).isPass = true := by
  unfold property
  cases members.lookup name with
  | none => simp
  | some value => simp

end Check

namespace Schema

open Verdict

mutual

theorem check_isPass_iff (schema : Schema) (value : Json) :
    (schema.check value).isPass = true ↔ schema.Conforms value := by
  cases schema with
  | string constraints =>
      cases value <;> simp [check, Conforms, Check.string_isPass_iff]
  | number constraints =>
      cases value <;> simp [check, Conforms, Check.number_isPass_iff]
  | boolean => cases value <;> simp [check, Conforms]
  | null => cases value <;> simp [check, Conforms]
  | array items count =>
      cases value with
      | array elements =>
          simp only [check, Conforms, isPass_bind, Bool.and_eq_true, Check.count_isPass_iff,
            Check.elements_isPass_iff, Json.array.injEq, exists_eq_left']
          rw [forall_congr' fun element => imp_congr_right fun _ => check_isPass_iff items element]
      | _ => simp [check, Conforms]
  | object properties required =>
      cases value with
      | object members =>
          simp only [check, Conforms, isPass_bind, Bool.and_eq_true, Check.required_isPass_iff,
            checkProperties_isPass_iff properties members, Json.object.injEq, exists_eq_left']
      | _ => simp [check, Conforms]
  | id format => exact Check.id_isPass_iff format value

theorem checkProperties_isPass_iff (properties : List (String × Schema))
    (members : List (String × Json)) :
    (checkProperties properties members).isPass = true ↔ PropertiesConform properties members := by
  cases properties with
  | nil => simp [checkProperties, PropertiesConform]
  | cons property rest =>
      obtain ⟨name, schema⟩ := property
      rw [checkProperties, PropertiesConform, isPass_bind, Bool.and_eq_true,
        checkProperties_isPass_iff rest members, Check.property_isPass_iff]
      rw [forall_congr' fun value => imp_congr_right fun _ => check_isPass_iff schema value]

end

theorem accepts_iff_conforms (schema : Schema) (value : Json) :
    schema.accepts value = true ↔ schema.Conforms value :=
  check_isPass_iff schema value

end Schema
end CompactSchema
