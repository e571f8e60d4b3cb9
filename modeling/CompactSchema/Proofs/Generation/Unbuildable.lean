import CompactSchema.Proofs.Generation.Draws
import CompactSchema.Proofs.Generation.Least
import CompactSchema.Proofs.Generation.Raises
import CompactSchema.Proofs.Schema.Storable

/-
Schemas for which generation fails.

A node is unbuildable if it has an empty list of members or a range that holds nothing.
An error names the place of such a node, and a schema without one never fails.  Whether
a node is reached depends on the lengths that are drawn; one that only arrays with at
least one element stand before is always reached.
-/

namespace CompactSchema

namespace Schema

/-- A node of a schema by the steps to it, where the counts of all arrays on the way
meet a condition. -/
inductive Along (passes : LengthBounds → Prop) : Schema → List SchemaStep → Schema → Prop
  | here (schema : Schema) : Along passes schema [] schema
  | items {items node : Schema} {count : LengthBounds} {steps : List SchemaStep} (passed : passes count)
      (rest : Along passes items steps node) :
      Along passes (.array items count) (.items :: steps) node
  | property {properties : List (String × Schema)} {required : List String} {name : String}
      {child node : Schema} {steps : List SchemaStep} (declared : (name, child) ∈ properties)
      (rest : Along passes child steps node) :
      Along passes (.object properties required) (.property name :: steps) node

abbrev At : Schema → List SchemaStep → Schema → Prop := Along fun _ => True

end Schema

/-- The least length is above the greatest, or above 10000. -/
def LengthBounds.Unmeetable (bounds : LengthBounds) : Prop :=
  ∃ least, bounds.least = some least ∧
    ((∃ most, bounds.most = some most ∧ most < least) ∨ 10000 < least.toNat)

/-- The bounds, with the defaults for those that are absent, are not both finite or are
inverted. -/
def NumberConstraints.Unmeetable (constraints : NumberConstraints) : Prop :=
  ¬ (constraints.effectiveLeast.isFinite = true ∧ constraints.effectiveMost.isFinite = true ∧
    constraints.effectiveLeast.le constraints.effectiveMost = true)

/-- No format that is known stands in for the length. -/
def StringConstraints.IsPlain (constraints : StringConstraints) : Prop :=
  constraints.members = none ∧ ∀ format, constraints.format = some format → ¬ format.IsKnown

namespace Schema

def HasNoMember : Schema → Prop
  | .string constraints => constraints.members = some []
  | .number constraints => constraints.members = some []
  | _ => False

/-- The range that is drawn from holds nothing. -/
def HasNoRange : Schema → Prop
  | .string constraints => constraints.IsPlain ∧ constraints.length.Unmeetable
  | .number constraints => constraints.members = none ∧ constraints.Unmeetable
  | .array _ count => count.Unmeetable
  | _ => False

/-- No value is ever built for the node itself. -/
def Unbuildable (schema : Schema) : Prop := schema.HasNoMember ∨ schema.HasNoRange

def IsTooLong : Schema → Prop
  | .string constraints =>
      constraints.IsPlain ∧ ∃ least, constraints.length.least = some least ∧ 10000 < least.toNat
  | .array _ count => ∃ least, count.least = some least ∧ 10000 < least.toNat
  | _ => False

end Schema

theorem le_max_word (x y : UInt64) : x ≤ max x y := by
  show x ≤ if x ≤ y then y else x
  split
  · assumption
  · exact UInt64.le_refl x

namespace LengthBounds

variable {bounds : LengthBounds} {defaults : LengthDefaults}

/-- A default never turns a range upside down, so both bounds are there if it is. -/
theorem effectiveMost_lt_iff :
    bounds.effectiveMost defaults < bounds.effectiveLeast defaults ↔
      ∃ least most, bounds.least = some least ∧ bounds.most = some most ∧ most < least := by
  cases isMost : bounds.most with
  | none =>
      have most : bounds.effectiveMost defaults = max (bounds.effectiveLeast defaults) defaults.most := by
        rw [effectiveMost, isMost]
      have notLess : ¬ bounds.effectiveMost defaults < bounds.effectiveLeast defaults := by
        rw [most]
        exact UInt64.not_lt.2 (le_max_word _ _)
      simp [notLess]
  | some most =>
      have effective : bounds.effectiveMost defaults = most := by
        rw [effectiveMost, isMost]
      rw [effective]
      cases isLeast : bounds.least with
      | none =>
          have lowered : bounds.effectiveLeast defaults = min most defaults.least := by
            rw [effectiveLeast, isLeast, isMost]
          have notLess : ¬ most < bounds.effectiveLeast defaults := by
            rw [lowered]
            exact UInt64.not_lt.2 Std.min_le_left
          simp [notLess]
      | some least =>
          have effective : bounds.effectiveLeast defaults = least := by
            rw [effectiveLeast, isLeast]
          simp [effective]

theorem lt_effectiveLeast_iff (small : defaults.least.toNat ≤ 10000) :
    10000 < (bounds.effectiveLeast defaults).toNat ↔
      ∃ least, bounds.least = some least ∧ 10000 < least.toNat := by
  cases isLeast : bounds.least with
  | none =>
      have low : bounds.effectiveLeast defaults ≤ defaults.least := by
        cases isMost : bounds.most with
        | none =>
            rw [effectiveLeast, isLeast, isMost]
            exact UInt64.le_refl _
        | some most =>
            rw [effectiveLeast, isLeast, isMost]
            exact Std.min_le_right
      have notLong : ¬ 10000 < (bounds.effectiveLeast defaults).toNat := by
        rw [UInt64.le_iff_toNat_le] at low
        omega
      simp [notLong]
  | some least =>
      have effective : bounds.effectiveLeast defaults = least := by
        rw [effectiveLeast, isLeast]
      simp [effective]

theorem range_eq_error_iff (small : defaults.least.toNat ≤ 10000) :
    (∃ defect, bounds.range defaults = .error defect) ↔ bounds.Unmeetable := by
  have outside : (∃ defect, bounds.range defaults = .error defect) ↔
      bounds.effectiveMost defaults < bounds.effectiveLeast defaults ∨
        10000 < (bounds.effectiveLeast defaults).toNat := by
    unfold LengthBounds.range
    dsimp only
    by_cases ordered : bounds.effectiveLeast defaults ≤ bounds.effectiveMost defaults
    · have notInverted := UInt64.not_lt.2 ordered
      by_cases limited : (bounds.effectiveLeast defaults).toNat ≤ lengthLimit
      · have notLong : ¬ 10000 < (bounds.effectiveLeast defaults).toNat := Nat.not_lt.2 limited
        simp [ordered, limited, notInverted, notLong]
      · have long : 10000 < (bounds.effectiveLeast defaults).toNat := Nat.not_le.1 limited
        simp [ordered, limited, long]
    · have inverted := UInt64.not_le.1 ordered
      simp [ordered, inverted]
  rw [outside, effectiveMost_lt_iff, lt_effectiveLeast_iff small]
  constructor
  · rintro (⟨least, most, isLeast, isMost, inverted⟩ | ⟨least, isLeast, long⟩)
    · exact ⟨least, isLeast, .inl ⟨most, isMost, inverted⟩⟩
    · exact ⟨least, isLeast, .inr long⟩
  · rintro ⟨least, isLeast, ⟨most, isMost, inverted⟩ | long⟩
    · exact .inl ⟨least, most, isLeast, isMost, inverted⟩
    · exact .inr ⟨least, isLeast, long⟩

end LengthBounds

theorem Binary64.exists_finite_of_isFinite {x : Binary64} (finite : x.isFinite = true) :
    ∃ value, x = .finite value := by
  cases x with
  | finite value => exact ⟨value, rfl⟩
  | _ => cases finite

theorem NumberConstraints.range_eq_error_iff {constraints : NumberConstraints} :
    (∃ defect, constraints.range = .error defect) ↔ constraints.Unmeetable := by
  unfold NumberConstraints.range NumberConstraints.Unmeetable
  split
  · rename_i least most isLeast isMost
    rw [isLeast, isMost, Binary64.le_finite_iff]
    by_cases ordered : least.signedUnits ≤ most.signedUnits
    · simp [ordered, Binary64.isFinite]
    · simp [ordered]
  · rename_i notBoth
    have notFinite : ¬ (constraints.effectiveLeast.isFinite = true ∧
        constraints.effectiveMost.isFinite = true ∧
        constraints.effectiveLeast.le constraints.effectiveMost = true) := by
      rintro ⟨finiteLeast, finiteMost, _⟩
      obtain ⟨least, isLeast⟩ := Binary64.exists_finite_of_isFinite finiteLeast
      obtain ⟨most, isMost⟩ := Binary64.exists_finite_of_isFinite finiteMost
      exact notBoth least most isLeast isMost
    exact iff_of_true ⟨_, rfl⟩ notFinite

/-- The error is one of an unbuildable node, at its place. -/
def Schema.Blames (schema : Schema) (error : SchemaError) : Prop :=
  ∃ steps node defect, schema.At steps node ∧ node.Unbuildable ∧
    error = .malformed { steps } defect

namespace Schema

theorem blames_atNode {schema : Schema} {defect : Defect} (unbuildable : schema.Unbuildable) :
    schema.Blames (.atNode defect) :=
  ⟨[], schema, defect, .here schema, unbuildable, rfl⟩

theorem blames_items {items : Schema} {count : LengthBounds} {error : SchemaError}
    (blames : items.Blames error) : (Schema.array items count).Blames (error.within .items) := by
  obtain ⟨steps, node, defect, there, unbuildable, rfl⟩ := blames
  exact ⟨.items :: steps, node, defect, .items trivial there, unbuildable, rfl⟩

theorem blames_property {properties : List (String × Schema)} {required : List String} {name : String}
    {child : Schema} {error : SchemaError} (declared : (name, child) ∈ properties)
    (blames : child.Blames error) :
    (Schema.object properties required).Blames (error.within (.property name)) := by
  obtain ⟨steps, node, defect, there, unbuildable, rfl⟩ := blames
  exact ⟨.property name :: steps, node, defect, .property declared there, unbuildable, rfl⟩

end Schema

namespace Generate

open Generation (Raises Returns)

variable {σ : Type} {source : RandomSource σ}

theorem member_raises {α : Type} (members : List α) :
    Raises (member source members) fun error => members = [] ∧ ∃ defect, error = .atNode defect := by
  cases members with
  | nil => exact .throw ⟨rfl, _, rfl⟩
  | cons first others => exact .bind (.draw _) fun i => .pure _

/-- A text is drawn plainly if no format that is known stands in for the length. -/
theorem bind_formatted_eq_none_iff {format : Option StringFormat} :
    format.bind (formatted source) = none ↔ ∀ f, format = some f → ¬ f.IsKnown := by
  cases format with
  | none => simp
  | some format => cases format <;> simp [formatted, StringFormat.IsKnown]

theorem string_raises (constraints : StringConstraints) :
    Raises (Generate.string source constraints) (Schema.string constraints).Blames := by
  unfold Generate.string
  split
  · rename_i members listed
    refine (member_raises members).mono ?_
    rintro error ⟨rfl, defect, rfl⟩
    exact Schema.blames_atNode (.inl listed)
  · rename_i unlisted
    split
    · exact .draw _
    · rename_i notDrawn
      unfold plainText
      refine .bind ((Raises.settle _).mono ?_) fun range => ?_
      · rintro error ⟨defect, failed, rfl⟩
        have plain : constraints.IsPlain := ⟨unlisted, bind_formatted_eq_none_iff.1 notDrawn⟩
        have unmeetable := (LengthBounds.range_eq_error_iff (by decide)).1 ⟨defect, failed⟩
        exact Schema.blames_atNode (.inr ⟨plain, unmeetable⟩)
      · split
        · exact .draw _
        · exact .draw _

theorem number_raises (constraints : NumberConstraints) :
    Raises (Generate.number source constraints) (Schema.number constraints).Blames := by
  unfold Generate.number
  split
  · rename_i members listed
    refine .bind ((member_raises members).mono ?_) fun member => .pure _
    rintro error ⟨rfl, defect, rfl⟩
    exact Schema.blames_atNode (.inl listed)
  · rename_i unlisted
    refine .bind ((Raises.settle _).mono ?_) fun range => .draw _
    rintro error ⟨defect, failed, rfl⟩
    have unmeetable := NumberConstraints.range_eq_error_iff.1 ⟨defect, failed⟩
    exact Schema.blames_atNode (.inr ⟨unlisted, unmeetable⟩)

end Generate

namespace Schema

open Generate
open Generation (Raises Returns)

variable {σ : Type} {source : RandomSource σ}

mutual

theorem generate_raises (schema : Schema) : Raises (schema.generate source) schema.Blames := by
  cases schema with
  | string constraints => exact .bind (string_raises constraints) fun text => .pure _
  | number constraints => exact number_raises constraints
  | boolean => exact .bind (.draw _) fun b => .pure _
  | null => exact .pure _
  | array items count =>
      refine .bind ((Raises.settle _).mono ?_) fun range => .bind (.draw _) fun n =>
        .bind (.times ((generate_raises items).within.mono ?_) n) fun elements => .pure _
      · rintro error ⟨defect, failed, rfl⟩
        have unmeetable := (LengthBounds.range_eq_error_iff (by decide)).1 ⟨defect, failed⟩
        exact blames_atNode (.inr unmeetable)
      · rintro error ⟨inner, blames, rfl⟩
        exact blames_items blames
  | object properties required =>
      refine .bind ((generateProperties_raises properties).mono ?_) fun members => .pure _
      rintro error ⟨name, child, inner, declared, blames, rfl⟩
      exact blames_property declared blames
  | id format => exact .draw _

theorem generateProperties_raises (properties : List (String × Schema)) :
    Raises (generateProperties source properties) fun error =>
      ∃ name child inner, (name, child) ∈ properties ∧ child.Blames inner ∧
        error = inner.within (.property name) := by
  cases properties with
  | nil => exact .pure _
  | cons property rest =>
      obtain ⟨name, child⟩ := property
      refine .bind ((generate_raises child).within.mono ?_) fun value =>
        .bind ((generateProperties_raises rest).mono ?_) fun members => .pure _
      · rintro error ⟨inner, blames, rfl⟩
        exact ⟨name, child, inner, List.mem_cons_self, blames, rfl⟩
      · rintro error ⟨name', child', inner, declared, blames, rfl⟩
        exact ⟨name', child', inner, List.mem_cons_of_mem _ declared, blames, rfl⟩

end

end Schema

namespace Generate

open Generation (Returns)

variable {σ : Type} {source : RandomSource σ}

/-- A range that cannot be settled returns nothing. -/
theorem settle_returns_nothing {α : Type} {result : Except Defect α}
    (failed : ∃ defect, result = .error defect) :
    Returns (σ := σ) (settle result) fun _ => False := by
  obtain ⟨defect, rfl⟩ := failed
  exact .throw _ _

theorem string_returns_nothing {constraints : StringConstraints}
    (unbuildable : (Schema.string constraints).Unbuildable) :
    Returns (Generate.string source constraints) fun _ => False := by
  unfold Generate.string
  rcases unbuildable with listed | ⟨plain, unmeetable⟩
  · have listed : constraints.members = some [] := listed
    rw [listed]
    exact .throw _ _
  · have failed : ∃ defect, constraints.length.range .text = .error defect :=
      (LengthBounds.range_eq_error_iff (by decide)).2 unmeetable
    rw [plain.1, bind_formatted_eq_none_iff.2 plain.2]
    exact .bind (settle_returns_nothing failed) fun _ impossible => impossible.elim

theorem number_returns_nothing {constraints : NumberConstraints}
    (unbuildable : (Schema.number constraints).Unbuildable) :
    Returns (Generate.number source constraints) fun _ => False := by
  unfold Generate.number
  rcases unbuildable with listed | ⟨unlisted, unmeetable⟩
  · have listed : constraints.members = some [] := listed
    rw [listed]
    exact .bind (.throw _ fun _ => False) fun _ impossible => impossible.elim
  · have failed := NumberConstraints.range_eq_error_iff.2 unmeetable
    rw [unlisted]
    exact .bind (settle_returns_nothing failed) fun _ impossible => impossible.elim

end Generate

namespace Schema

open Generate
open Generation (Returns)

variable {σ : Type} {source : RandomSource σ}

theorem generate_returns_nothing_of_unbuildable {schema : Schema} (unbuildable : schema.Unbuildable) :
    Returns (schema.generate source) fun _ => False := by
  cases schema with
  | string constraints =>
      exact .bind (string_returns_nothing unbuildable) fun _ impossible => impossible.elim
  | number constraints => exact number_returns_nothing unbuildable
  | array items count =>
      have unmeetable : count.Unmeetable := unbuildable.resolve_left not_false
      have failed : ∃ defect, count.range .array = .error defect :=
        (LengthBounds.range_eq_error_iff (by decide)).2 unmeetable
      exact .bind (settle_returns_nothing failed) fun _ impossible => impossible.elim
  | _ => exact absurd unbuildable (by simp [Unbuildable, HasNoMember, HasNoRange])

theorem generateProperties_returns_nothing {properties : List (String × Schema)} {name : String}
    {child : Schema} (declared : (name, child) ∈ properties)
    (nothing : Returns (child.generate source) fun _ => False) :
    Returns (generateProperties source properties) fun _ => False := by
  induction properties with
  | nil => cases declared
  | cons property rest ih =>
      obtain ⟨name', child'⟩ := property
      rcases List.mem_cons.1 declared with same | later
      · cases same
        exact .bind nothing.within fun _ impossible => impossible.elim
      · exact .bind (.any _) fun value _ => .bind (ih later) fun _ impossible => impossible.elim

/-- Nothing is returned either for a schema with such a node that no array without
elements can hide. -/
theorem generate_returns_nothing (contract : source.Contract) {schema node : Schema}
    {steps : List SchemaStep}
    (along : schema.Along (fun count => 1 ≤ (count.effectiveLeast .array).toNat) steps node)
    (unbuildable : node.Unbuildable) : Returns (schema.generate source) fun _ => False := by
  induction along with
  | here schema => exact generate_returns_nothing_of_unbuildable unbuildable
  | items filled rest ih =>
      refine .bind (.settle _) fun range found => ?_
      refine .bind (.draw (length_answers contract range)) fun n within => ?_
      refine .bind (.times (ih unbuildable).within n) fun elements all => ?_
      -- The array has an element, and no element is ever returned.
      have least := (LengthBounds.ends_of_range found).1
      cases elements with
      | nil =>
          have empty : 0 = n := all.1
          omega
      | cons first others => exact (all.2 first List.mem_cons_self).elim
  | property declared rest ih =>
      exact .bind (generateProperties_returns_nothing declared (ih unbuildable))
        fun _ impossible => impossible.elim

end Schema

namespace Binary64

theorem finite_minNumber {x y : Binary64} (finiteLeft : x.isFinite = true)
    (finiteRight : y.isFinite = true) :
    (x.minNumber y).isFinite = true ∧ (x.minNumber y).le x = true := by
  obtain ⟨x, rfl⟩ := exists_finite_of_isFinite finiteLeft
  obtain ⟨y, rfl⟩ := exists_finite_of_isFinite finiteRight
  show (if lt (.finite x) (.finite y) = true then Binary64.finite x else .finite y).isFinite = true ∧
    (if lt (.finite x) (.finite y) = true then Binary64.finite x else .finite y).le (.finite x) = true
  split
  · exact ⟨rfl, le_finite_iff.2 (Int.le_refl _)⟩
  · rename_i notLess
    exact ⟨rfl, le_finite_iff.2 (by simpa [lt] using notLess)⟩

theorem finite_maxNumber {x y : Binary64} (finiteLeft : x.isFinite = true)
    (finiteRight : y.isFinite = true) :
    (x.maxNumber y).isFinite = true ∧ x.le (x.maxNumber y) = true := by
  obtain ⟨x, rfl⟩ := exists_finite_of_isFinite finiteLeft
  obtain ⟨y, rfl⟩ := exists_finite_of_isFinite finiteRight
  show (if lt (.finite y) (.finite x) = true then Binary64.finite x else .finite y).isFinite = true ∧
    le (.finite x) (if lt (.finite y) (.finite x) = true then Binary64.finite x else .finite y) = true
  split
  · exact ⟨rfl, le_finite_iff.2 (Int.le_refl _)⟩
  · rename_i notLess
    exact ⟨rfl, le_finite_iff.2 (by simpa [lt] using notLess)⟩

theorem isFinite_ofNat (n : Nat) (small : n ≤ 2 ^ 64) : (ofNat n).isFinite = true := by
  obtain ⟨x, rounded, _⟩ := exists_ofInt_eq (n := n) (by omega)
  rw [ofNat, rounded]
  rfl

end Binary64

/-- A range of numbers from a stored schema holds something: a default is put beyond the
bound that is there. -/
theorem NumberConstraints.not_unmeetable_of_storable {constraints : NumberConstraints}
    (storable : constraints.Storable) : ¬ constraints.Unmeetable := by
  have one : (1 : Binary64).isFinite = true := Binary64.isFinite_ofNat 1 (by decide)
  have hundred : (100 : Binary64).isFinite = true := Binary64.isFinite_ofNat 100 (by decide)
  obtain ⟨least, most, members⟩ := constraints
  obtain ⟨finiteLeast, finiteMost, ordered, _⟩ := storable
  simp only at finiteLeast finiteMost ordered
  intro unmeetable
  apply unmeetable
  cases most with
  | none =>
      have finite : (effectiveLeast ⟨least, none, members⟩).isFinite = true := by
        cases least with
        | none => exact one
        | some least => exact finiteLeast least rfl
      obtain ⟨finiteMost, above⟩ := Binary64.finite_maxNumber finite hundred
      exact ⟨finite, finiteMost, above⟩
  | some most =>
      have finite := finiteMost most rfl
      cases least with
      | none =>
          obtain ⟨finiteLeast, below⟩ := Binary64.finite_minNumber finite one
          exact ⟨finiteLeast, finite, below⟩
      | some least =>
          have finite' := finiteLeast least rfl
          have notAbove := (Binary64.le_iff_lt_eq_false finite' finite).2 (ordered least most rfl rfl)
          exact ⟨finite', finite, notAbove⟩

theorem LengthBounds.long_of_storable {bounds : LengthBounds} (storable : bounds.Storable)
    (unmeetable : bounds.Unmeetable) : ∃ least, bounds.least = some least ∧ 10000 < least.toNat := by
  obtain ⟨least, isLeast, ⟨most, isMost, inverted⟩ | long⟩ := unmeetable
  · exact absurd (storable.ordered least most isLeast isMost) (UInt64.not_le.2 inverted)
  · exact ⟨least, isLeast, long⟩

namespace Schema

theorem storable_of_mem {properties : List (String × Schema)} (storable : PropertiesStorable properties)
    {name : String} {child : Schema} (declared : (name, child) ∈ properties) : child.Storable := by
  induction properties with
  | nil => cases declared
  | cons property rest ih =>
      rcases List.mem_cons.1 declared with same | later
      · cases same
        exact storable.1
      · exact ih storable.2 later

theorem storable_of_along {passes : LengthBounds → Prop} {schema node : Schema} {steps : List SchemaStep}
    (along : schema.Along passes steps node) (storable : schema.Storable) : node.Storable := by
  induction along with
  | here schema => exact storable
  | items passed rest ih => exact ih storable.1
  | property declared rest ih => exact ih (storable_of_mem storable declared)

/-- In a schema that can be stored, an unbuildable node has an empty list of members or
a least length that is too great. -/
theorem hasNoMember_or_isTooLong {node : Schema} (storable : node.Storable)
    (unbuildable : node.Unbuildable) : node.HasNoMember ∨ node.IsTooLong := by
  rcases unbuildable with noMember | noRange
  · exact .inl noMember
  · right
    cases node with
    | string constraints => exact ⟨noRange.1, LengthBounds.long_of_storable storable.1 noRange.2⟩
    | number constraints => exact absurd noRange.2 (NumberConstraints.not_unmeetable_of_storable storable)
    | array items count => exact LengthBounds.long_of_storable storable.2 noRange
    | _ => exact noRange

open Generation (Raises)

/-- Generation from a source that keeps its promises ends in a value where no node is
unbuildable; an error is that of an unbuildable node and names its place; and it always
ends in an error where no array that may be empty stands before an unbuildable node.  In
a schema that has been read, only empty lists of members and least lengths above 10000
make a node unbuildable. -/
theorem generate_fails_at_unbuildable [Diagnosis] {σ : Type} {source : RandomSource σ}
    (contract : source.Contract) (schema : Schema) :
    ((∀ steps node, schema.At steps node → ¬ node.Unbuildable) →
      ∀ state, ∃ value after, (schema.generate source).run.run state = (.ok value, after)) ∧
    (∀ state error after, (schema.generate source).run.run state = (.error error, after) →
      ∃ steps node defect, schema.At steps node ∧ node.Unbuildable ∧
        error = .malformed { steps } defect ∧
        error.message = SchemaErrorKind.malformed.message (SchemaPlace.nodePath steps) defect.message) ∧
    (∀ steps node, schema.Along (fun count => 1 ≤ (count.effectiveLeast .array).toNat) steps node →
      node.Unbuildable →
        ∀ state, ∃ error after, (schema.generate source).run.run state = (.error error, after)) ∧
    (∀ limit stored, read limit stored = .ok schema → ∀ steps node, schema.At steps node →
      node.Unbuildable → node.HasNoMember ∨ node.IsTooLong) := by
  have raises : Raises (schema.generate source) schema.Blames := generate_raises schema
  refine ⟨?_, ?_, ?_, ?_⟩
  · intro buildable state
    refine Generation.exists_ok_of_raises (raises.mono ?_) state
    rintro error ⟨steps, node, defect, there, unbuildable, _⟩
    exact buildable steps node there unbuildable
  · intro state error after failed
    obtain ⟨steps, node, defect, there, unbuildable, rfl⟩ := raises state error after failed
    exact ⟨steps, node, defect, there, unbuildable, rfl, rfl⟩
  · intro steps node along unbuildable state
    exact Generation.exists_error_of_returns (generate_returns_nothing contract along unbuildable) state
  · intro limit stored found steps node there unbuildable
    exact hasNoMember_or_isTooLong (storable_of_along there (storable_of_readNode found).1) unbuildable

/-- An array of texts from an empty list inside an object, and one of nulls, drawn from
the least source. -/
theorem generate_fails_at_empty_days :
    let _ : Diagnosis := .brief
    (∃ value after,
      ((Schema.array .null {}).generate RandomSource.least).run.run () = (.ok value, after)) ∧
    (∃ steps node defect,
      (Schema.object [("days", .array (.string { members := some [] }) {})] []).At steps node ∧
        node.Unbuildable ∧
        SchemaError.malformed ⟨[.property "days", .items], none⟩ .membersEmpty = .malformed { steps } defect ∧
        (SchemaError.malformed ⟨[.property "days", .items], none⟩ .membersEmpty).message =
          SchemaErrorKind.malformed.message (SchemaPlace.nodePath steps) defect.message) ∧
    (∃ error after,
      ((Schema.object [("days", .array (.string { members := some [] }) {})] []).generate
        RandomSource.least).run.run () = (.error error, after)) ∧
    ((Schema.string { members := some [] }).HasNoMember ∨
      (Schema.string { members := some [] }).IsTooLong) := by
  intro diagnosis
  have there (passes : LengthBounds → Prop) (passed : passes {}) :
      (Schema.object [("days", .array (.string { members := some [] }) {})] []).Along passes
        [.property "days", .items] (.string { members := some [] }) :=
    .property List.mem_cons_self (.items passed (.here _))
  have unbuildable : (Schema.string { members := some [] }).Unbuildable := .inl rfl
  have read : Schema.read 3 (.object [("properties", .object [("days", .object [("items", .object
      [("enum", .array []), ("type", .string "string")]), ("type", .string "array")])]),
      ("type", .string "object")]) =
      .ok (.object [("days", .array (.string { members := some [] }) {})] []) := by
    rfl
  refine ⟨?_, ?_, ?_, ?_⟩
  · refine (generate_fails_at_unbuildable RandomSource.least_contract (.array .null {})).1 ?_ ()
    intro steps node along
    cases along with
    | here schema =>
        rintro (noMember | ⟨least, isLeast, _⟩)
        · exact noMember
        · cases isLeast
    | items passed rest =>
        cases rest with
        | here schema => rintro (impossible | impossible) <;> exact impossible
  · exact (generate_fails_at_unbuildable RandomSource.least_contract _).2.1 () _ () rfl
  · exact (generate_fails_at_unbuildable RandomSource.least_contract _).2.2.1 _ _
      (there _ (by decide)) unbuildable ()
  · exact (generate_fails_at_unbuildable RandomSource.least_contract _).2.2.2 3 _ read _ _
      (there _ trivial) unbuildable

end Schema
end CompactSchema
