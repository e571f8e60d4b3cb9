import CompactSchema.Validation.Check

/-
What checks report.

A check that goes through several parts reports what one of them reports, seen from the
whole, and a check of a value itself reports a problem of the value.
-/

namespace CompactSchema

/-- The problem is one of the datum, not of the schema. -/
def Problem.IsOwn : Problem → Prop
  | .badSchema _ => False
  | _ => True

/-- The violation, if there is one, is of some kind. -/
def Verdict.Reports (verdict : Verdict) (kind : Violation → Prop) : Prop :=
  ∀ violation, verdict = .error violation → kind violation

namespace Verdict.Reports

variable {kind : Violation → Prop}

theorem pass : Verdict.pass.Reports kind := by
  intro violation impossible
  cases impossible

theorem fail {problem : Problem} (here : kind (.here problem)) : (Verdict.fail problem).Reports kind := by
  intro violation found
  cases found
  exact here

theorem ensure {condition : Bool} {problem : Problem} (here : kind (.here problem)) :
    (Verdict.ensure condition problem).Reports kind := by
  cases condition with
  | false => exact fail here
  | true => exact pass

theorem bind {verdict : Verdict} {next : Unit → Verdict} (first : verdict.Reports kind)
    (rest : (next ()).Reports kind) : Reports (verdict >>= next) kind := by
  cases verdict with
  | error violation => exact first
  | ok passed => exact rest

theorem mono {verdict : Verdict} {wider : Violation → Prop} (reports : verdict.Reports kind)
    (implies : ∀ violation, kind violation → wider violation) : verdict.Reports wider :=
  fun violation found => implies violation (reports violation found)

theorem within {verdict : Verdict} {step : DataStep} {schemaStep : SchemaStep}
    (each : ∀ inner, verdict = .error inner → kind (inner.within step schemaStep)) :
    (Verdict.within step schemaStep verdict).Reports kind := by
  intro violation found
  cases verdict with
  | error inner =>
      cases found
      exact each inner rfl
  | ok passed => cases found

end Verdict.Reports

namespace Check

open Verdict

variable {kind : Violation → Prop}

theorem bound_reports {α : Type} {limit : Option α} {meets : α → Bool} {problem : α → Problem}
    (here : ∀ a, kind (.here (problem a))) : (bound limit meets problem).Reports kind := by
  cases limit with
  | none => exact .pass
  | some a => exact .ensure (here a)

section

variable (here : ∀ problem : Problem, problem.IsOwn → kind (.here problem))
include here

theorem typeMismatch_reports {expected : String} {value : Json} :
    (typeMismatch expected value).Reports kind :=
  .fail (here _ trivial)

theorem string_reports {constraints : StringConstraints} {text : String} :
    (string constraints text).Reports kind :=
  .bind (bound_reports fun _ => here _ trivial) <| .bind (bound_reports fun _ => here _ trivial) <|
    .bind (bound_reports fun _ => here _ trivial) <| .bind (bound_reports fun _ => here _ trivial)
      (bound_reports fun _ => here _ trivial)

theorem number_reports {constraints : NumberConstraints} {value : Binary64} :
    (number constraints value).Reports kind :=
  .bind (bound_reports fun _ => here _ trivial) <| .bind (bound_reports fun _ => here _ trivial)
    (bound_reports fun _ => here _ trivial)

theorem count_reports {bounds : LengthBounds} {items : Nat} : (count bounds items).Reports kind :=
  .bind (bound_reports fun _ => here _ trivial) (bound_reports fun _ => here _ trivial)

theorem id_reports {format : Option IdFormat} {value : Json} : (id format value).Reports kind := by
  unfold id
  split
  · split
    · exact .ensure (here _ trivial)
    · exact typeMismatch_reports here
  · split
    · exact .pass
    · exact typeMismatch_reports here
  · exact .fail (here _ trivial)
  · exact .fail (here _ trivial)

end

theorem required_reports {members : List (String × Json)} {names : List String}
    (each : ∀ name, members.lookup name = none → kind ⟨[.key name], .missing⟩) :
    (required members names).Reports kind := by
  induction names with
  | nil => exact .pass
  | cons name rest ih =>
      unfold required
      cases found : members.lookup name with
      | some value => exact ih
      | none =>
          intro violation failed
          cases failed
          exact each name found

theorem elements_reports {check : Json → Verdict} {start : Nat} {values : List Json}
    (each : ∀ i value inner, values[i]? = some value → check value = .error inner →
      kind (inner.within (.index (i + start)) .items)) : (elements check start values).Reports kind := by
  induction values generalizing start with
  | nil => exact .pass
  | cons value others ih =>
      refine .bind (.within fun inner failed => ?_) (ih fun i value' inner inside failed => ?_)
      · have first := each 0 value inner rfl failed
        rwa [Nat.zero_add] at first
      · have later := each (i + 1) value' inner inside failed
        rwa [Nat.add_right_comm] at later

theorem property_reports {check : Json → Verdict} {members : List (String × Json)} {name : String}
    (each : ∀ value inner, members.lookup name = some value → check value = .error inner →
      kind (inner.within (.key name) (.property name))) : (property check members name).Reports kind := by
  unfold property
  cases found : members.lookup name with
  | none => exact .pass
  | some value => exact .within fun inner failed => each value inner found failed

theorem properties_report {α : Type} {check : α → Json → Verdict} {members : List (String × Json)}
    (run : List (String × α) → Verdict) (done : run [] = pass)
    (next : ∀ name child rest,
      run ((name, child) :: rest) = (do property (check child) members name; run rest))
    {properties : List (String × α)}
    (each : ∀ name child, (name, child) ∈ properties → (property (check child) members name).Reports kind) :
    (run properties).Reports kind := by
  induction properties with
  | nil =>
      rw [done]
      exact .pass
  | cons first rest ih =>
      obtain ⟨name, child⟩ := first
      rw [next]
      exact .bind (each name child List.mem_cons_self)
        (ih fun name child inside => each name child (List.mem_cons_of_mem _ inside))

end Check

end CompactSchema
