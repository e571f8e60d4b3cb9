import CompactSchema.Proofs.Generation.Returns
import CompactSchema.Random.Words
import Mathlib.Data.List.GetD

/-
Choices from random words.

A word that is accepted is scaled down to a choice below the count, and a choice that
runs out of words is zero.  So every choice is among the values that it is made from,
whatever the words are.
-/

namespace CompactSchema
namespace WordSource

variable {σ : Type}

theorem scale_lt {bits zone count word value : Nat} (positive : 0 < count) (small : word < 2 ^ bits)
    (accepted : scale bits zone count word = some value) : value < count := by
  unfold scale at accepted
  split at accepted
  · cases accepted
    exact Nat.div_lt_of_lt_mul (Nat.mul_lt_mul_of_pos_right small positive)
  · cases accepted

/-- A choice is zero or the value of an accepted word. -/
theorem firstAccepted_answers {draw : StateM σ Nat} {accept : Nat → Option Nat} {drawn good : Nat → Prop}
    (words : Answers draw drawn) (zero : good 0)
    (accepted : ∀ word value, drawn word → accept word = some value → good value) (attempts : Nat) :
    Answers (firstAccepted draw accept attempts) good := by
  induction attempts with
  | zero => exact .pure zero
  | succ attempts ih =>
      refine Answers.bind words fun word here => ?_
      cases found : accept word with
      | some value => exact .pure (accepted word value here found)
      | none => exact ih

theorem choose64_answers (words : WordSource σ) {count : Nat} (positive : 0 < count) :
    Answers (words.choose64 count) (· < count) := by
  have drawn : Answers (do return (← words.word64).toNat) (· < 2 ^ 64) :=
    Answers.bind (.any _) fun word _ => .pure word.toNat_lt
  exact firstAccepted_answers drawn positive (fun _ _ small accepted => scale_lt positive small accepted) _

theorem choose32_answers (words : WordSource σ) {count : Nat} (positive : 0 < count) :
    Answers (words.choose32 count) (· < count) := by
  have drawn : Answers (do return (← words.word32).toNat) (· < 2 ^ 32) :=
    Answers.bind (.any _) fun word _ => .pure word.toNat_lt
  exact firstAccepted_answers drawn positive (fun _ _ small accepted => scale_lt positive small accepted) _

theorem pick_answers {α : Type} (words : WordSource σ) (absent : α) {options : List α}
    (some : options ≠ []) :
    Answers (words.pick absent options) (· ∈ options) := by
  refine Answers.bind (words.choose64_answers (List.length_pos_iff.2 some)) fun i less => .pure ?_
  rw [List.getD_eq_getElem _ _ less]
  exact List.getElem_mem less

end WordSource
end CompactSchema
