/-
Results that may be errors.

A sequence of steps succeeds exactly when each step does, and seeing an error from
another place makes no success of it.
-/

namespace CompactSchema

theorem bind_eq_ok_iff {ε α β : Type} {result : Except ε α} {next : α → Except ε β} {b : β} :
    (result >>= next) = .ok b ↔ ∃ a, result = .ok a ∧ next a = .ok b := by
  cases result with
  | error e =>
      constructor
      · intro impossible
        cases impossible
      · rintro ⟨a, impossible, _⟩
        cases impossible
  | ok a =>
      constructor
      · intro rest
        exact ⟨a, rfl, rest⟩
      · rintro ⟨a', same, rest⟩
        cases same
        exact rest

theorem mapError_eq_ok_iff {ε ε' α : Type} {f : ε → ε'} {result : Except ε α} {a : α} :
    result.mapError f = .ok a ↔ result = .ok a := by
  cases result with
  | error e =>
      constructor
      · intro impossible
        cases impossible
      · intro impossible
        cases impossible
  | ok a' =>
      constructor
      · intro same
        cases same
        rfl
      · intro same
        cases same
        rfl

end CompactSchema
