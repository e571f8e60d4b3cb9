/-
The first fault of a tree in pre-order.

A place in a tree is known by the turns that lead to it, and of two places that which
comes first in the lexicographic order of turns is the earlier one: a node stands before
all that is below it, and what is below an earlier turn before what is below a later one.
A result reports the first fault if it is an error that names the first faulty place, or
a value where no place is faulty.
-/

namespace CompactSchema

variable {τ ε ε' α β : Type}

/-- The place is faulty, and every other faulty place is later. -/
structure IsFirst (before : τ → τ → Prop) (faulty : List τ → Prop) (place : List τ) : Prop where
  here : faulty place
  least : ∀ other, faulty other → other = place ∨ List.Lex before place other

theorem IsFirst.not_faulty_of_lex {before : τ → τ → Prop} {faulty : List τ → Prop} {place earlier : List τ}
    (asymm : ∀ {turn turn'}, before turn turn' → ¬ before turn' turn)
    (first : IsFirst before faulty place) (precedes : List.Lex before earlier place) : ¬ faulty earlier := by
  intro there
  rcases first.least earlier there with same | later
  · subst same
    exact List.lex_asymm asymm precedes precedes
  · exact List.lex_asymm asymm precedes later

/-- The error names the first faulty place; there is a value only if no place is
faulty. -/
inductive ReportsFirst (before : τ → τ → Prop) (names : List τ → ε → Prop) (faulty : List τ → Prop) :
    Except ε α → Prop
  | ok {a : α} (sound : ∀ place, ¬ faulty place) : ReportsFirst before names faulty (.ok a)
  | error {place : List τ} {error : ε} (named : names place error) (first : IsFirst before faulty place) :
      ReportsFirst before names faulty (.error error)

namespace ReportsFirst

variable {before : τ → τ → Prop} {names : List τ → ε → Prop} {faulty faulty' : List τ → Prop}

theorem congr (same : ∀ place, faulty place ↔ faulty' place) {result : Except ε α}
    (reports : ReportsFirst before names faulty result) : ReportsFirst before names faulty' result := by
  have equal : faulty = faulty' := funext fun place => propext (same place)
  rw [← equal]
  exact reports

theorem root {error : ε} (here : faulty []) (named : names [] error) :
    ReportsFirst before names faulty (.error error : Except ε α) := by
  refine .error named ⟨here, fun other _ => ?_⟩
  cases other with
  | nil => exact .inl rfl
  | cons turn rest => exact .inr .nil

/-- What is done first reports its own faults, which come before those of the rest. -/
theorem bind {result : Except ε α} {next : α → Except ε β}
    (first : ReportsFirst before names faulty result)
    (second : ∀ a, result = .ok a → ReportsFirst before names faulty' (next a))
    (apart : ∀ place later, faulty place → faulty' later → List.Lex before place later) :
    ReportsFirst before names (fun place => faulty place ∨ faulty' place) (result >>= next) := by
  cases first with
  | @ok a sound =>
      refine (second a rfl).congr fun place => ?_
      exact (or_iff_right (sound place)).symm
  | @error place error named first =>
      refine .error named ⟨.inl first.here, fun other there => ?_⟩
      rcases there with early | late
      · exact first.least other early
      · exact .inr (apart place other first.here late)

theorem bind_pure {result : Except ε α} (reports : ReportsFirst before names faulty result) (f : α → β) :
    ReportsFirst before names faulty (result >>= fun a => pure (f a)) := by
  cases reports with
  | ok sound => exact .ok sound
  | error named first => exact .error named first

/-- The faults below a turn, with the errors as they are seen from above it. -/
theorem below {names' : List τ → ε' → Prop} {turn : τ} {see : ε → ε'}
    (seen : ∀ place error, names place error → names' (turn :: place) (see error))
    {result : Except ε α} (reports : ReportsFirst before names faulty result) :
    ReportsFirst before names' (fun place => ∃ rest, place = turn :: rest ∧ faulty rest)
      (result.mapError see) := by
  cases reports with
  | ok sound =>
      refine .ok ?_
      rintro _ ⟨rest, rfl, there⟩
      exact sound rest there
  | @error place error named first =>
      refine .error (seen place error named) ⟨⟨place, rfl, first.here⟩, ?_⟩
      rintro _ ⟨rest, rfl, there⟩
      rcases first.least rest there with same | later
      · exact .inl (congrArg (turn :: ·) same)
      · exact .inr (.cons later)

theorem exists_error_iff {result : Except ε α} (reports : ReportsFirst before names faulty result) :
    (∃ error, result = .error error) ↔ ∃ place, faulty place := by
  cases reports with
  | ok sound =>
      constructor
      · rintro ⟨error, impossible⟩
        cases impossible
      · rintro ⟨place, there⟩
        exact absurd there (sound place)
  | @error place error named first => exact iff_of_true ⟨error, rfl⟩ ⟨place, first.here⟩

theorem exists_first {error : ε} (reports : ReportsFirst before names faulty (.error error : Except ε α)) :
    ∃ place, names place error ∧ IsFirst before faulty place := by
  cases reports with
  | @error place _ named first => exact ⟨place, named, first⟩

end ReportsFirst
end CompactSchema
