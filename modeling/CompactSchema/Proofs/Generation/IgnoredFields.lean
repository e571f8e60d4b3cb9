import CompactSchema.Proofs.Generation.Draws
import CompactSchema.Proofs.Generation.Least

/-
Fields that generation ignores.

A list of members hides every other constraint, a known format hides the length and the
pattern, required names are not looked at, and every form of an identifier but that of a
UUID is a number.  Two schemas that differ in such fields only, at whatever nodes, are
generated for by the same draws.
-/

namespace CompactSchema

/-- The constraints are the same, or one list of members or one known format hides the
others of both. -/
inductive StringConstraints.Agrees : StringConstraints → StringConstraints → Prop
  | same (constraints : StringConstraints) : Agrees constraints constraints
  | listed {left right : StringConstraints} {members : List String}
      (leftListed : left.members = some members) (rightListed : right.members = some members) :
      Agrees left right
  | formatted {left right : StringConstraints} {format : StringFormat}
      (leftUnlisted : left.members = none) (rightUnlisted : right.members = none)
      (leftAsked : left.format = some format) (rightAsked : right.format = some format)
      (known : format.IsKnown) : Agrees left right

inductive NumberConstraints.Agrees : NumberConstraints → NumberConstraints → Prop
  | same (constraints : NumberConstraints) : Agrees constraints constraints
  | listed {left right : NumberConstraints} {members : List Binary64}
      (leftListed : left.members = some members) (rightListed : right.members = some members) :
      Agrees left right

inductive IdFormat.Agrees : Option IdFormat → Option IdFormat → Prop
  | same (format : Option IdFormat) : Agrees format format
  | number {left right : Option IdFormat} (leftOther : left ≠ some .uuid)
      (rightOther : right ≠ some .uuid) : Agrees left right

namespace Schema

mutual

/-- The schemas have the same nodes, and differ at most in what generation ignores. -/
inductive Agrees : Schema → Schema → Prop
  | string {left right : StringConstraints} (constraints : left.Agrees right) :
      Agrees (.string left) (.string right)
  | number {left right : NumberConstraints} (constraints : left.Agrees right) :
      Agrees (.number left) (.number right)
  | boolean : Agrees .boolean .boolean
  | null : Agrees .null .null
  | array {left right : Schema} (items : Agrees left right) (count : LengthBounds) :
      Agrees (.array left count) (.array right count)
  | object {left right : List (String × Schema)} (properties : PropertiesAgree left right)
      (leftRequired rightRequired : List String) :
      Agrees (.object left leftRequired) (.object right rightRequired)
  | id {left right : Option IdFormat} (format : IdFormat.Agrees left right) :
      Agrees (.id left) (.id right)

inductive PropertiesAgree : List (String × Schema) → List (String × Schema) → Prop
  | nil : PropertiesAgree [] []
  | cons {left right : Schema} {leftRest rightRest : List (String × Schema)} (name : String)
      (first : Agrees left right) (others : PropertiesAgree leftRest rightRest) :
      PropertiesAgree ((name, left) :: leftRest) ((name, right) :: rightRest)

end

end Schema

namespace Generate

variable {σ : Type} (source : RandomSource σ)

theorem string_eq_of_agrees {left right : StringConstraints} (agrees : left.Agrees right) :
    Generate.string source left = Generate.string source right := by
  cases agrees with
  | same => rfl
  | listed leftListed rightListed =>
      unfold Generate.string
      rw [leftListed, rightListed]
  | @formatted _ format leftUnlisted rightUnlisted leftAsked rightAsked known =>
      unfold Generate.string
      rw [leftUnlisted, rightUnlisted, leftAsked, rightAsked]
      -- Only a format without draws of its own goes on to the length and the pattern.
      cases format with
      | other name => exact known.elim
      | _ => rfl

theorem number_eq_of_agrees {left right : NumberConstraints} (agrees : left.Agrees right) :
    Generate.number source left = Generate.number source right := by
  cases agrees with
  | same => rfl
  | listed leftListed rightListed =>
      unfold Generate.number
      rw [leftListed, rightListed]

theorem id_eq_of_ne_uuid {format : Option IdFormat} (other : format ≠ some .uuid) :
    Generate.id source format = Generate.id source none := by
  unfold Generate.id
  split
  · exact absurd rfl other
  · rfl

theorem id_eq_of_agrees {left right : Option IdFormat} (agrees : IdFormat.Agrees left right) :
    Generate.id source left = Generate.id source right := by
  cases agrees with
  | same => rfl
  | number leftOther rightOther =>
      rw [id_eq_of_ne_uuid source leftOther, id_eq_of_ne_uuid source rightOther]

end Generate

namespace Schema

variable {σ : Type} (source : RandomSource σ)

mutual

theorem generate_eq_of_agrees {left right : Schema} (agrees : left.Agrees right) :
    left.generate source = right.generate source := by
  cases agrees with
  | string constraints => rw [generate, generate, Generate.string_eq_of_agrees source constraints]
  | number constraints => rw [generate, generate, Generate.number_eq_of_agrees source constraints]
  | boolean => rfl
  | null => rfl
  | array items count => rw [generate, generate, generate_eq_of_agrees items]
  | object properties leftRequired rightRequired =>
      rw [generate, generate, generateProperties_eq_of_agree properties]
  | id format => rw [generate, generate, Generate.id_eq_of_agrees source format]

theorem generateProperties_eq_of_agree {left right : List (String × Schema)}
    (agree : PropertiesAgree left right) :
    generateProperties source left = generateProperties source right := by
  cases agree with
  | nil => rfl
  | cons name first others =>
      rw [generateProperties, generateProperties, generate_eq_of_agrees first,
        generateProperties_eq_of_agree others]

end

/-- Generation for two schemas that differ in ignored fields, from one state of a source,
makes the same requests, ends in the same value or the same error, and leaves the source
in the same state. -/
theorem generate_ignores {left right : Schema} (agrees : left.Agrees right) {σ : Type}
    (source : RandomSource σ) (state : σ) (record : List Request) :
    (left.generate source).run.run state = (right.generate source).run.run state ∧
      (left.generate source.recording).run.run (state, record) =
        (right.generate source.recording).run.run (state, record) := by
  constructor
  · rw [generate_eq_of_agrees source agrees]
  · rw [generate_eq_of_agrees source.recording agrees]

/-- A thing with its size and days, with none of the fields that are ignored. -/
def purchase : Schema :=
  .object
    [("days", .array (.string { format := some .date }) { most := some 2 }),
      ("number", .id none),
      ("size", .number { members := some [1, 2] }),
      ("thing", .string { members := some ["cup", "plate"] })] []

/-- The same purchase with some of each of them. -/
def strictPurchase : Schema :=
  .object
    [("days", .array (.string { format := some .date, length := { least := some 10 } }) { most := some 2 }),
      ("number", .id (some .number)),
      ("size", .number { least := some 2, members := some [1, 2] }),
      ("thing", .string { members := some ["cup", "plate"], format := some .email, length := { most := some 4 } })]
    ["thing", "colour"]

/-- Purchases drawn from the least source. -/
theorem generate_ignores_strictPurchase :
    (purchase.generate RandomSource.least).run.run () = (strictPurchase.generate RandomSource.least).run.run () ∧
      (purchase.generate RandomSource.least.recording).run.run ((), []) =
        (strictPurchase.generate RandomSource.least.recording).run.run ((), []) := by
  have known : StringFormat.date.IsKnown := trivial
  have days : Agrees (.array (.string { format := some .date }) { most := some 2 })
      (.array (.string { format := some .date, length := { least := some 10 } }) { most := some 2 }) :=
    .array (.string (.formatted rfl rfl rfl rfl known)) _
  have number : Agrees (.id none) (.id (some .number)) := .id (.number (by decide) (by decide))
  have agrees : purchase.Agrees strictPurchase :=
    .object (.cons _ days (.cons _ number (.cons _ (.number (.listed rfl rfl))
      (.cons _ (.string (.listed rfl rfl)) .nil)))) _ _
  exact generate_ignores agrees RandomSource.least () []

end Schema
end CompactSchema
