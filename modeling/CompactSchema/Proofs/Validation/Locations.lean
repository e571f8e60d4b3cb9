import CompactSchema.Proofs.Schema.FirstError
import CompactSchema.Proofs.Text.Segments
import CompactSchema.Proofs.Validation.Reports
import CompactSchema.Validation.Lazy
import Mathlib.Data.List.Basic

/-
Locations in data and their paths.

A path spells the steps from the root: a key behind a dot, an index in brackets.  Steps
whose keys hold neither a dot nor an opening bracket can be read back from it.  A check,
lazy or not, reports locations of the value that it is given, and a lazy check blames the
schema only for a node that cannot be read.
-/

namespace CompactSchema

namespace DataStep

/-- The key of the step holds nothing that begins another step. -/
def Plain : DataStep → Prop
  | .key name => '.' ∉ name.toList ∧ '[' ∉ name.toList
  | .index _ => True

def IsMark (c : Char) : Prop := c = '.' ∨ c = '['

theorem toList_text_key (name : String) : (key name).text.toList = '.' :: name.toList := by
  rw [text, String.toList_append]
  rfl

theorem toList_text_index (i : Nat) : (index i).text.toList = '[' :: (Nat.toDigits 10 i ++ [']']) := by
  have spelled : (index i).text = "[" ++ i.repr ++ "]" := rfl
  rw [spelled, String.toList_append, String.toList_append, Nat.toList_repr]
  rfl

theorem isSegment_text {step : DataStep} (plain : step.Plain) : IsSegment IsMark step.text.toList := by
  cases step with
  | key name =>
      refine ⟨'.', name.toList, toList_text_key name, .inl rfl, ?_⟩
      rintro c inside (rfl | rfl)
      · exact plain.1 inside
      · exact plain.2 inside
  | index i =>
      refine ⟨'[', _, toList_text_index i, .inr rfl, ?_⟩
      intro c inside marked
      rw [List.mem_append, List.mem_singleton] at inside
      rcases inside with digit | rfl
      · have isDigit := Nat.isDigit_of_mem_toDigits (by decide) (by decide) digit
        rcases marked with rfl | rfl <;> exact absurd isDigit (by decide)
      · rcases marked with same | same <;> exact absurd same (by decide)

theorem toList_text_injective : Function.Injective fun step : DataStep => step.text.toList := by
  intro step step' same
  dsimp only at same
  cases step with
  | key name =>
      cases step' with
      | key name' =>
          rw [toList_text_key, toList_text_key] at same
          rw [String.toList_injective (List.tail_eq_of_cons_eq same)]
      | index i' =>
          rw [toList_text_key, toList_text_index] at same
          exact absurd (List.head_eq_of_cons_eq same) (by decide)
  | index i =>
      cases step' with
      | key name' =>
          rw [toList_text_key, toList_text_index] at same
          exact absurd (List.head_eq_of_cons_eq same) (by decide)
      | index i' =>
          rw [toList_text_index, toList_text_index] at same
          have digits := List.append_cancel_right (List.tail_eq_of_cons_eq same)
          have sameIndex := congrArg (Nat.ofDigitChars 10 · 0) digits
          rw [Nat.ofDigitChars_toDigits (by decide) (by decide),
            Nat.ofDigitChars_toDigits (by decide) (by decide)] at sameIndex
          rw [sameIndex]

end DataStep

theorem toList_dataPath (steps : List DataStep) :
    (dataPath steps).toList = '$' :: (steps.map fun step => step.text.toList).flatten := by
  rw [dataPath, toList_foldl_append]
  rfl

/-- The path of a location without dots and brackets in its keys is that of no other. -/
theorem steps_eq_of_dataPath_eq {steps steps' : List DataStep} (plain : ∀ step ∈ steps, step.Plain)
    (plain' : ∀ step ∈ steps', step.Plain) (same : dataPath steps = dataPath steps') : steps = steps' := by
  have allSegments {steps : List DataStep} (plain : ∀ step ∈ steps, step.Plain) :
      ∀ segment ∈ steps.map fun step => step.text.toList, IsSegment DataStep.IsMark segment := by
    intro segment inside
    obtain ⟨step, taken, rfl⟩ := List.mem_map.1 inside
    exact DataStep.isSegment_text (plain step taken)
  have chars := congrArg String.toList same
  rw [toList_dataPath, toList_dataPath] at chars
  have words := segments_eq_of_flatten_eq (allSegments plain) (allSegments plain') (List.tail_eq_of_cons_eq chars)
  exact List.map_injective_iff.2 DataStep.toList_text_injective words

namespace Json

/-- The part of a value behind a step. -/
def part? : Json → DataStep → Option Json
  | .object members, .key name => members.lookup name
  | .array elements, .index i => elements[i]?
  | _, _ => none

/-- The steps lead to a part of the value, or to a key that an object in it lacks. -/
inductive HasLocation : Json → List DataStep → Prop
  | here (value : Json) : HasLocation value []
  | missing {members : List (String × Json)} {name : String} (absent : members.lookup name = none) :
      HasLocation (.object members) [.key name]
  | part {value part : Json} {step : DataStep} {steps : List DataStep} (inside : value.part? step = some part)
      (rest : HasLocation part steps) : HasLocation value (step :: steps)

end Json

/-- The violation is at a location of the value, and blames the schema for such errors
only. -/
structure Violation.Concerns (value : Json) (blames : SchemaError → Prop) (violation : Violation) : Prop where
  location : value.HasLocation violation.steps
  error : ∀ error, violation.problem = .badSchema error → blames error

namespace Violation.Concerns

variable {value : Json} {blames : SchemaError → Prop}

theorem of_isOwn {violation : Violation} (location : value.HasLocation violation.steps)
    (own : violation.problem.IsOwn) : violation.Concerns value blames := by
  refine ⟨location, fun error same => ?_⟩
  rw [same] at own
  exact own.elim

theorem here {problem : Problem} (own : problem.IsOwn) : (Violation.here problem).Concerns value blames :=
  of_isOwn (.here value) own

theorem badSchema {error : SchemaError} (blamed : blames error) :
    (Violation.here (.badSchema error)).Concerns value blames := by
  refine ⟨.here value, ?_⟩
  rintro _ ⟨⟩
  exact blamed

theorem missing {members : List (String × Json)} {name : String} (absent : members.lookup name = none) :
    Violation.Concerns (.object members) blames ⟨[.key name], .missing⟩ :=
  of_isOwn (.missing absent) trivial

theorem within {part : Json} {blames' : SchemaError → Prop} {inner : Violation} {step : DataStep}
    {schemaStep : SchemaStep} (inside : value.part? step = some part) (concerns : inner.Concerns part blames')
    (seen : ∀ error, blames' error → blames (error.within schemaStep)) :
    (inner.within step schemaStep).Concerns value blames := by
  refine ⟨.part inside concerns.location, fun error same => ?_⟩
  obtain ⟨steps, problem⟩ := inner
  cases problem with
  | badSchema own =>
      cases same
      exact seen own (concerns.error own rfl)
  | _ => cases same

end Violation.Concerns

namespace Schema

mutual

theorem check_concerns (schema : Schema) (value : Json) :
    (schema.check value).Reports (Violation.Concerns value fun _ => False) := by
  cases schema with
  | string constraints =>
      unfold check
      split
      · exact Check.string_reports fun _ => .here
      · exact Check.typeMismatch_reports fun _ => .here
  | number constraints =>
      unfold check
      split
      · exact Check.number_reports fun _ => .here
      · exact Check.typeMismatch_reports fun _ => .here
  | boolean =>
      unfold check
      split
      · exact .pass
      · exact Check.typeMismatch_reports fun _ => .here
  | null =>
      unfold check
      split
      · exact .pass
      · exact Check.typeMismatch_reports fun _ => .here
  | array items count =>
      unfold check
      split
      · refine .bind (Check.count_reports fun _ => .here) <|
          Check.elements_reports fun i element inner inside failed => ?_
        exact .within inside (check_concerns items element inner failed) fun _ => False.elim
      · exact Check.typeMismatch_reports fun _ => .here
  | object properties required =>
      unfold check
      split
      · rename_i members
        refine .bind (Check.required_reports fun name => .missing) ?_
        refine Check.properties_report (checkProperties · members) rfl (fun _ _ _ => rfl)
          fun name child declared => ?_
        refine Check.property_reports fun part inner present failed => ?_
        exact .within present (checkProperties_concerns properties name child declared part inner failed)
          fun _ => False.elim
      · exact Check.typeMismatch_reports fun _ => .here
  | id format => exact Check.id_reports fun _ => .here

theorem checkProperties_concerns (properties : List (String × Schema)) (name : String) (child : Schema)
    (declared : (name, child) ∈ properties) (value : Json) :
    (child.check value).Reports (Violation.Concerns value fun _ => False) := by
  cases properties with
  | nil => cases declared
  | cons property rest =>
      obtain ⟨first, schema⟩ := property
      rcases List.mem_cons.1 declared with same | later
      · have isChild : child = schema := congrArg Prod.snd same
        rw [isChild]
        exact check_concerns schema value
      · exact checkProperties_concerns rest name child later value

end

end Schema

namespace StoredSchema

/-- A lazy check reports locations of the value, and blames the schema for nodes that
fail. -/
theorem checkNode_concerns {limit left depth : Nat} (levels : depth + left = limit) (stored value : Json) :
    (checkNode limit left stored value).Reports
      (Violation.Concerns value fun error => ∃ steps, FailsBelow limit depth stored steps error) := by
  -- The check counts the levels that are left, a failure the levels above it, as in reading.
  induction left generalizing depth stored value with
  | zero => exact .fail (.badSchema ⟨[], .root (.tooDeep (Nat.le_of_eq levels.symm))⟩)
  | succ left ih =>
      have above : depth < limit := by omega
      have below : depth + 1 + left = limit := by omega
      have seen {step : SchemaStep} {child : Json} (first : Child stored step child) (error : SchemaError) :
          (∃ steps, FailsBelow limit (depth + 1) child steps error) →
            ∃ steps, FailsBelow limit depth stored steps (error.within step) := by
        rintro ⟨steps, failed⟩
        exact ⟨step :: steps, .within first failed⟩
      unfold checkNode
      cases read : ShallowNode.read stored with
      | error own => exact .fail (.badSchema ⟨[], .root (.unreadable above read)⟩)
      | ok shallow =>
          cases shallow with
          | leaf schema =>
              refine (schema.check_concerns value).mono fun violation concerns => ?_
              exact ⟨concerns.location, fun error same => (concerns.error error same).elim⟩
          | array items count =>
              cases value with
              | array elements =>
                  refine .bind (Check.count_reports fun _ => .here) <|
                    Check.elements_reports fun i element inner inside failed => ?_
                  exact .within inside (ih below items element inner failed) (seen (.items read))
              | _ => exact Check.typeMismatch_reports fun _ => .here
          | object properties required =>
              cases value with
              | object members =>
                  refine .bind (Check.required_reports fun name => .missing) ?_
                  refine Check.properties_report (checkProperties (checkNode limit left) members) rfl
                    (fun _ _ _ => rfl) fun name child declared => ?_
                  refine Check.property_reports fun part inner present failed => ?_
                  exact .within present (ih below child part inner failed) (seen (.property read declared))
              | _ => exact Check.typeMismatch_reports fun _ => .here

end StoredSchema
end CompactSchema
