import CompactSchema.Log.Event

/-
Activities that report events.

A threshold is in force at every moment.  An event is held against it when it is
reported: one that lies below it is dropped at once, any other is written behind those
that are written already.
-/

namespace CompactSchema

/-- What an activity leaves behind: its result, the events that it has written, and the
threshold in force at its end. -/
structure Written (α : Type) where
  result : α
  events : List LogEvent
  threshold : Severity

def Written.lines {α : Type} (written : Written α) : List String := written.events.map LogEvent.line

def Logged (α : Type) : Type := Severity → Written α

namespace Logged

variable {α β : Type}

def run (activity : Logged α) (threshold : Severity) : Written α := activity threshold

def silent (result : α) : Logged α := fun threshold => ⟨result, [], threshold⟩

def andThen (first : Logged α) (next : α → Logged β) : Logged β := fun threshold =>
  let before := first.run threshold
  let after := (next before.result).run before.threshold
  ⟨after.result, before.events ++ after.events, after.threshold⟩

instance : Monad Logged where
  pure := silent
  bind := andThen

instance : LawfulMonad Logged :=
  LawfulMonad.mk' Logged
    (by
      intro α first
      funext threshold
      simp [Functor.map, andThen, silent, run])
    (by
      intro α β value next
      funext threshold
      simp [pure, bind, andThen, silent, run])
    (by
      intro α β γ first next last
      funext threshold
      simp [bind, andThen, run])

def report (severity : Severity) (name : String) (fields : List (String × String)) : Logged Unit :=
  fun threshold =>
    ⟨(), if severity.meets threshold then [⟨severity, name, fields⟩] else [], threshold⟩

def setThreshold (threshold : Severity) : Logged Unit := fun _ => ⟨(), [], threshold⟩

theorem run_bind (first : Logged α) (next : α → Logged β) (threshold : Severity) :
    (first >>= next).run threshold =
      let before := first.run threshold
      let after := (next before.result).run before.threshold
      ⟨after.result, before.events ++ after.events, after.threshold⟩ := rfl

end Logged
end CompactSchema
