import CompactSchema.Generation.Basic
import CompactSchema.Proofs.Results

/-
What generations return.

A draw always ends in an answer, a generation in a value or an error.  A property is
returned if it holds of the answer or the value in every state; how it passes through
sequences and repetitions is settled here once.
-/

namespace CompactSchema

variable {σ α β : Type}

/-- Whatever the state, the answer is good. -/
def Answers (draw : StateM σ α) (good : α → Prop) : Prop := ∀ state, good (draw.run state).1

namespace Answers

theorem any (draw : StateM σ α) : Answers draw fun _ => True := fun _ => trivial

theorem pure {value : α} {good : α → Prop} (here : good value) :
    Answers (σ := σ) (Pure.pure value) good :=
  fun _ => here

theorem bind {draw : StateM σ α} {next : α → StateM σ β} {good : α → Prop} {better : β → Prop}
    (first : Answers draw good) (rest : ∀ value, good value → Answers (next value) better) :
    Answers (draw >>= next) better :=
  fun state => rest _ (first state) _

theorem mono {draw : StateM σ α} {good better : α → Prop} (answers : Answers draw good)
    (implies : ∀ value, good value → better value) : Answers draw better :=
  fun state => implies _ (answers state)

theorem times {draw : StateM σ α} {good : α → Prop} (answers : Answers draw good) (n : Nat) :
    Answers (CompactSchema.times draw n)
      fun values => values.length = n ∧ ∀ value ∈ values, good value := by
  induction n with
  | zero => exact pure ⟨rfl, nofun⟩
  | succ n ih =>
      refine bind answers fun first here => bind ih fun others there => pure ⟨?_, ?_⟩
      · rw [List.length_cons, there.1]
      · exact List.forall_mem_cons.2 ⟨here, there.2⟩

end Answers

/-- Whatever the state, a value that the generation ends in is good. -/
def Generation.Returns (action : Generation σ α) (good : α → Prop) : Prop :=
  ∀ state value after, action.run.run state = (.ok value, after) → good value

namespace Generation
namespace Returns

theorem any (action : Generation σ α) : Returns action fun _ => True := fun _ _ _ _ => trivial

theorem pure {value : α} {good : α → Prop} (here : good value) :
    Returns (σ := σ) (Pure.pure value) good := by
  intro state value' after ended
  cases ended
  exact here

theorem throw (error : SchemaError) (good : α → Prop) :
    Returns (σ := σ) (MonadExcept.throw error) good := by
  intro state value after ended
  cases ended

/-- A sequence goes on from a value in the state behind it, and ends with an error. -/
theorem run_bind (action : Generation σ α) (next : α → Generation σ β) (state : σ) :
    (action >>= next).run.run state =
      match (action.run.run state).1 with
      | .ok value => (next value).run.run (action.run.run state).2
      | .error error => (.error error, (action.run.run state).2) := by
  rw [ExceptT.run_bind, StateT.run_bind]
  generalize action.run.run state = ended
  obtain ⟨result, between⟩ := ended
  cases result <;> rfl

theorem bind {action : Generation σ α} {next : α → Generation σ β} {good : α → Prop}
    {better : β → Prop} (first : Returns action good)
    (rest : ∀ value, good value → Returns (next value) better) : Returns (action >>= next) better := by
  intro state value after ended
  rw [run_bind] at ended
  cases begun : action.run.run state with
  | mk result between =>
      rw [begun] at ended
      cases result with
      | error error => cases ended
      | ok value' => exact rest value' (first state value' between begun) between value after ended

theorem mono {action : Generation σ α} {good better : α → Prop} (returns : Returns action good)
    (implies : ∀ value, good value → better value) : Returns action better :=
  fun state value after ended => implies value (returns state value after ended)

theorem draw {draw : StateM σ α} {good : α → Prop} (answers : Answers draw good) :
    Returns (liftM draw : Generation σ α) good := by
  intro state value after ended
  cases ended
  exact answers state

theorem within {step : SchemaStep} {action : Generation σ α} {good : α → Prop}
    (returns : Returns action good) : Returns (Generate.within step action) good := by
  intro state value after ended
  have run : (Generate.within step action).run.run state =
      ((action.run.run state).1.mapError (·.within step), (action.run.run state).2) := rfl
  rw [run] at ended
  obtain ⟨result, same⟩ := Prod.mk.inj ended
  exact returns state value _ (Prod.ext (mapError_eq_ok_iff.1 result) same)

theorem settle (result : Except Defect α) :
    Returns (σ := σ) (Generate.settle result) fun value => result = .ok value := by
  cases result with
  | ok value => exact pure rfl
  | error defect => exact throw _ _

theorem times {action : Generation σ α} {good : α → Prop} (returns : Returns action good) (n : Nat) :
    Returns (CompactSchema.times action n)
      fun values => values.length = n ∧ ∀ value ∈ values, good value := by
  induction n with
  | zero => exact pure ⟨rfl, nofun⟩
  | succ n ih =>
      refine bind returns fun first here => bind ih fun others there => pure ⟨?_, ?_⟩
      · rw [List.length_cons, there.1]
      · exact List.forall_mem_cons.2 ⟨here, there.2⟩

end Returns
end Generation
end CompactSchema
