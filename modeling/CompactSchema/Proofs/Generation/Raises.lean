import CompactSchema.Proofs.Generation.Returns

/-
What generations raise.

An error that a generation ends in comes from one of its parts, seen from where the part
stands.  A generation that raises nothing ends in a value, and one that returns nothing
in an error.
-/

namespace CompactSchema

variable {σ α β : Type}

namespace Generation

/-- Whatever the state, an error that the generation ends in is of some kind. -/
def Raises (action : Generation σ α) (kind : SchemaError → Prop) : Prop :=
  ∀ state error after, action.run.run state = (.error error, after) → kind error

namespace Raises

variable {kind : SchemaError → Prop}

theorem pure (value : α) : Raises (σ := σ) (Pure.pure value) kind := by
  intro state error after ended
  cases ended

theorem throw {error : SchemaError} (here : kind error) :
    Raises (σ := σ) (α := α) (MonadExcept.throw error) kind := by
  intro state error' after ended
  cases ended
  exact here

theorem bind {action : Generation σ α} {next : α → Generation σ β} (first : Raises action kind)
    (rest : ∀ value, Raises (next value) kind) : Raises (action >>= next) kind := by
  intro state error after ended
  rw [Returns.run_bind] at ended
  cases begun : action.run.run state with
  | mk result between =>
      rw [begun] at ended
      cases result with
      | error error' =>
          cases ended
          exact first state _ _ begun
      | ok value => exact rest value between error after ended

theorem mono {action : Generation σ α} {wider : SchemaError → Prop} (raises : Raises action kind)
    (implies : ∀ error, kind error → wider error) : Raises action wider :=
  fun state error after ended => implies error (raises state error after ended)

theorem draw (draw : StateM σ α) : Raises (liftM draw : Generation σ α) kind := by
  intro state error after ended
  cases ended

theorem within {step : SchemaStep} {action : Generation σ α} (raises : Raises action kind) :
    Raises (Generate.within step action) fun error =>
      ∃ inner, kind inner ∧ error = inner.within step := by
  intro state error after ended
  have run : (Generate.within step action).run.run state =
      ((action.run.run state).1.mapError (·.within step), (action.run.run state).2) := rfl
  rw [run] at ended
  cases begun : action.run.run state with
  | mk result between =>
      rw [begun] at ended
      cases result with
      | error inner =>
          cases ended
          exact ⟨inner, raises state inner between begun, rfl⟩
      | ok value => cases ended

theorem settle (result : Except Defect α) :
    Raises (σ := σ) (Generate.settle result) fun error =>
      ∃ defect, result = .error defect ∧ error = .atNode defect := by
  cases result with
  | ok value => exact pure value
  | error defect => exact throw ⟨defect, rfl, rfl⟩

theorem times {action : Generation σ α} (raises : Raises action kind) (n : Nat) :
    Raises (CompactSchema.times action n) kind := by
  induction n with
  | zero => exact pure []
  | succ n ih => exact bind raises fun first => bind ih fun others => pure _

end Raises

theorem exists_ok_of_raises {action : Generation σ α} (raises : Raises action fun _ => False) (state : σ) :
    ∃ value after, action.run.run state = (.ok value, after) := by
  cases ended : action.run.run state with
  | mk result after =>
      cases result with
      | ok value => exact ⟨value, after, rfl⟩
      | error error => exact (raises state error after ended).elim

theorem exists_error_of_returns {action : Generation σ α} (returns : Returns action fun _ => False)
    (state : σ) : ∃ error after, action.run.run state = (.error error, after) := by
  cases ended : action.run.run state with
  | mk result after =>
      cases result with
      | ok value => exact (returns state value after ended).elim
      | error error => exact ⟨error, after, rfl⟩

end Generation
end CompactSchema
