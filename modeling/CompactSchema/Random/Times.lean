/-
Repeating an action.
-/

namespace CompactSchema

def times {m : Type → Type} [Monad m] {α : Type} (action : m α) : Nat → m (List α)
  | 0 => pure []
  | n + 1 => do
      let first ← action
      let others ← times action n
      return first :: others

end CompactSchema
