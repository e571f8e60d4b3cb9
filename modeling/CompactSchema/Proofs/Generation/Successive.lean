import CompactSchema.Proofs.Generation.Returns

/-
Generations performed one after the other.

A repeated generation goes through its states one by one: each call starts where the one
before it left the source, and the first error ends them all.  So calls that are asked for
behind others change nothing of what the others did.
-/

namespace CompactSchema
namespace Generation

variable {σ α β : Type} {action : Generation σ α} {state after : σ}

theorem run_bind_eq_ok_iff {next : α → Generation σ β} {result : β} :
    (action >>= next).run.run state = (.ok result, after) ↔
      ∃ value between, action.run.run state = (.ok value, between) ∧
        (next value).run.run between = (.ok result, after) := by
  rw [Returns.run_bind]
  cases begun : action.run.run state with
  | mk ended middle =>
      cases ended with
      | error error =>
          constructor
          · intro impossible
            cases impossible
          · intro sequence
            obtain ⟨value, between, impossible, -⟩ := sequence
            cases impossible
      | ok value =>
          constructor
          · intro rest
            exact ⟨value, middle, rfl, rest⟩
          · intro sequence
            obtain ⟨value', between, same, rest⟩ := sequence
            cases same
            exact rest

theorem run_bind_eq_error_iff {next : α → Generation σ β} {error : SchemaError} :
    (action >>= next).run.run state = (.error error, after) ↔
      action.run.run state = (.error error, after) ∨
        ∃ value between, action.run.run state = (.ok value, between) ∧
          (next value).run.run between = (.error error, after) := by
  rw [Returns.run_bind]
  cases begun : action.run.run state with
  | mk ended middle =>
      cases ended with
      | error fault =>
          constructor
          · intro failed
            cases failed
            exact .inl rfl
          · intro sequence
            rcases sequence with failed | ⟨value, between, impossible, -⟩
            · cases failed
              rfl
            · cases impossible
      | ok value =>
          constructor
          · intro rest
            exact .inr ⟨value, middle, rfl, rest⟩
          · intro sequence
            rcases sequence with impossible | ⟨value', between, same, rest⟩
            · cases impossible
            · cases same
              exact rest

/-- Calls in a row, from a first state to a last one, that end in these values. -/
inductive Successive (action : Generation σ α) : σ → List α → σ → Prop
  | nil (state : σ) : Successive action state [] state
  | cons {state between after : σ} {value : α} {values : List α}
      (first : action.run.run state = (.ok value, between))
      (others : Successive action between values after) :
      Successive action state (value :: values) after

variable {values : List α}

theorem Successive.exists_take (calls : Successive action state values after) (n : Nat) :
    ∃ between, Successive action state (values.take n) between := by
  induction calls generalizing n with
  | nil state =>
      rw [List.take_nil]
      exact ⟨state, .nil state⟩
  | @cons state _ _ value values first _ ih =>
      cases n with
      | zero => exact ⟨state, .nil state⟩
      | succ n =>
          obtain ⟨between, others⟩ := ih n
          exact ⟨between, .cons first others⟩

theorem run_times_succ_eq_ok_iff {n : Nat} :
    (times action (n + 1)).run.run state = (.ok values, after) ↔
      ∃ value between others, action.run.run state = (.ok value, between) ∧
        (times action n).run.run between = (.ok others, after) ∧ value :: others = values := by
  rw [times, run_bind_eq_ok_iff]
  simp only [run_bind_eq_ok_iff]
  constructor
  · intro ended
    obtain ⟨value, between, first, others, last, rest, done⟩ := ended
    cases done
    exact ⟨value, between, others, first, rest, rfl⟩
  · intro ended
    obtain ⟨value, between, others, first, rest, same⟩ := ended
    subst same
    exact ⟨value, between, first, others, after, rest, rfl⟩

theorem run_times_succ_eq_error_iff {n : Nat} {error : SchemaError} :
    (times action (n + 1)).run.run state = (.error error, after) ↔
      action.run.run state = (.error error, after) ∨
        ∃ value between, action.run.run state = (.ok value, between) ∧
          (times action n).run.run between = (.error error, after) := by
  rw [times, run_bind_eq_error_iff]
  simp only [run_bind_eq_error_iff]
  constructor
  · intro ended
    rcases ended with failed | ⟨value, between, first, failed | ⟨others, last, -, impossible⟩⟩
    · exact .inl failed
    · exact .inr ⟨value, between, first, failed⟩
    · cases impossible
  · intro ended
    rcases ended with failed | ⟨value, between, first, failed⟩
    · exact .inl failed
    · exact .inr ⟨value, between, first, .inl failed⟩

theorem run_times_eq_ok_iff {n : Nat} :
    (times action n).run.run state = (.ok values, after) ↔
      Successive action state values after ∧ values.length = n := by
  induction n generalizing state values with
  | zero =>
      constructor
      · intro ended
        cases ended
        exact ⟨.nil _, rfl⟩
      · intro empty
        cases List.eq_nil_of_length_eq_zero empty.2
        cases empty.1
        rfl
  | succ n ih =>
      rw [run_times_succ_eq_ok_iff]
      constructor
      · intro ended
        obtain ⟨value, between, others, first, rest, same⟩ := ended
        subst same
        obtain ⟨calls, length⟩ := ih.1 rest
        exact ⟨.cons first calls, congrArg Nat.succ length⟩
      · intro whole
        obtain ⟨calls, length⟩ := whole
        cases calls with
        | nil => cases length
        | cons first others => exact ⟨_, _, _, first, ih.2 ⟨others, Nat.succ.inj length⟩, rfl⟩

/-- An error is that of the first call that fails, and the calls before it have succeeded. -/
theorem run_times_eq_error_iff {n : Nat} {error : SchemaError} :
    (times action n).run.run state = (.error error, after) ↔
      ∃ values between, Successive action state values between ∧ values.length < n ∧
        action.run.run between = (.error error, after) := by
  induction n generalizing state with
  | zero =>
      constructor
      · intro ended
        cases ended
      · intro failed
        obtain ⟨values, between, -, impossible, -⟩ := failed
        exact absurd impossible (Nat.not_lt_zero _)
  | succ n ih =>
      rw [run_times_succ_eq_error_iff]
      constructor
      · intro ended
        rcases ended with failed | ⟨value, between, first, rest⟩
        · exact ⟨[], state, .nil state, Nat.succ_pos n, failed⟩
        · obtain ⟨values, place, calls, fewer, failed⟩ := ih.1 rest
          exact ⟨value :: values, place, .cons first calls, Nat.succ_lt_succ fewer, failed⟩
      · intro failed
        obtain ⟨values, place, calls, fewer, failed⟩ := failed
        cases calls with
        | nil => exact .inl failed
        | cons first others =>
            exact .inr ⟨_, _, first, ih.2 ⟨_, _, others, Nat.lt_of_succ_lt_succ fewer, failed⟩⟩

end Generation
end CompactSchema
