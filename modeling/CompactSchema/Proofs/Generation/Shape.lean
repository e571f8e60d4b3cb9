import CompactSchema.Proofs.Generation.Conforming
import CompactSchema.Proofs.Generation.Unbuildable

/-
The shape of generated values.

Whatever a schema asks for, and even if its constraints contradict each other, a value that
is generated for it has its shape: every declared property is there and no other, lengths
and numbers come from the range that is drawn from, and a text without a list of members
and without a known format is made of letters.
-/

namespace CompactSchema

namespace LengthBounds

/-- The least length, or else a short one that is not above the greatest length. -/
def shortest (bounds : LengthBounds) (short : Nat) : Nat :=
  (bounds.least.map UInt64.toNat).getD (min short ((bounds.most.map UInt64.toNat).getD short))

/-- The greatest length, or else a long one that is not below the least length. -/
def longest (bounds : LengthBounds) (short long : Nat) : Nat :=
  (bounds.most.map UInt64.toNat).getD (max long (bounds.shortest short))

/-- The length lies in the range of the bounds, of which only what is not above 10000 is
drawn from. -/
def Spans (bounds : LengthBounds) (short long length : Nat) : Prop :=
  bounds.shortest short ≤ length ∧ length ≤ min (bounds.longest short long) 10000

end LengthBounds

/-- The range of the bounds: an absent least number is one unless the greatest is smaller,
an absent greatest is a hundred unless the least is greater. -/
structure NumberConstraints.Span (constraints : NumberConstraints) (lo hi : Finite64) : Prop where
  least : .finite lo = constraints.least.getD ((constraints.most.map fun most => most.minNumber 1).getD 1)
  most : .finite hi = constraints.most.getD (Binary64.maxNumber (.finite lo) 100)

/-- A member of the list if there is one, else a text of a known format if one is asked for,
and else letters. -/
inductive StringConstraints.Shapes (constraints : StringConstraints) : String → Prop
  | member {members : List String} {text : String} (listed : constraints.members = some members)
      (inside : text ∈ members) : Shapes constraints text
  | formatted {format : StringFormat} {text : String} (unlisted : constraints.members = none)
      (asked : constraints.format = some format) (known : format.IsKnown)
      (accepted : format.accepts text = true) : Shapes constraints text
  | letters {text : String} (plain : constraints.IsPlain) (letters : ∀ c ∈ text.toList, IsLetter c)
      (length : constraints.length.Spans 3 10 text.length) : Shapes constraints text

/-- A member of the list if there is one, and else a number that as a double lies in the
range.  It is an integer if the range holds one and its ends, rounded into it, fit a
signed word.  There 2^63 counts as fitting, and stands for the integer below it. -/
inductive NumberConstraints.Shapes (constraints : NumberConstraints) : Json → Prop
  | member {members : List Binary64} {x : Binary64} (listed : constraints.members = some members)
      (inside : x ∈ members) : Shapes constraints (numberValue x)
  | ranged {lo hi x : Finite64} {n : Number} (unlisted : constraints.members = none)
      (span : constraints.Span lo hi) (double : n.toBinary64 = .finite x)
      (notLess : lo.signedUnits ≤ x.signedUnits) (notMore : x.signedUnits ≤ hi.signedUnits)
      (integer : (∃ k : Int, lo.signedUnits ≤ k * unitsPerOne ∧ k * unitsPerOne ≤ hi.signedUnits) →
        -2 ^ 63 ≤ lo.ceil → hi.floor ≤ 2 ^ 63 →
        ∃ k fits, n = .integer k fits ∧ min lo.ceil (2 ^ 63 - 1) ≤ k ∧ k ≤ min hi.floor (2 ^ 63 - 1)) :
      Shapes constraints (.number n)

/-- A text if the form is that of a UUID, and else an integer from 1 to 100000. -/
inductive IdFormat.Shapes : Option IdFormat → Json → Prop
  | uuid {text : String} (valid : Format.isUuid text = true) : Shapes (some .uuid) (.string text)
  | number {format : Option IdFormat} {k : Int} {fits : FitsWord k} (other : format ≠ some .uuid)
      (positive : 1 ≤ k) (small : k ≤ 100000) : Shapes format (.number (.integer k fits))

namespace Schema

mutual

/-- The value is built as the schema says, node by node. -/
def Shapes : Schema → Json → Prop
  | .string constraints, value => ∃ text, value = .string text ∧ constraints.Shapes text
  | .number constraints, value => constraints.Shapes value
  | .boolean, value => ∃ b, value = .boolean b
  | .null, value => value = .null
  | .array items count, value =>
      ∃ elements, value = .array elements ∧ count.Spans 3 4 elements.length ∧
        ∀ element ∈ elements, items.Shapes element
  | .object properties _, value => ∃ members, value = .object members ∧ PropertiesShape properties members
  | .id format, value => IdFormat.Shapes format value

/-- The members have the names of the properties, in the same order and no others. -/
def PropertiesShape : List (String × Schema) → List (String × Json) → Prop
  | [], [] => True
  | (name, schema) :: rest, (name', value) :: others =>
      name' = name ∧ schema.Shapes value ∧ PropertiesShape rest others
  | _, _ => False

end

end Schema

namespace LengthBounds

variable {bounds : LengthBounds} {defaults : LengthDefaults}

theorem toNat_effectiveLeast :
    (bounds.effectiveLeast defaults).toNat = bounds.shortest defaults.least.toNat := by
  unfold effectiveLeast shortest
  split
  · rename_i least isLeast
    rw [isLeast]
    rfl
  · rename_i most isLeast isMost
    rw [isLeast, isMost, UInt64.toNat_min, Nat.min_comm]
    rfl
  · rename_i isLeast isMost
    rw [isLeast, isMost]
    exact (Nat.min_self _).symm

theorem toNat_effectiveMost :
    (bounds.effectiveMost defaults).toNat =
      bounds.longest defaults.least.toNat defaults.most.toNat := by
  unfold effectiveMost longest
  split
  · rename_i most isMost
    rw [isMost]
    rfl
  · rename_i isMost
    rw [isMost, UInt64.toNat_max, toNat_effectiveLeast, Nat.max_comm]
    rfl

theorem spans_of_range {range : LengthRange} (found : bounds.range defaults = .ok range) {length : Nat}
    (low : range.least ≤ length) (high : length ≤ range.most) :
    bounds.Spans defaults.least.toNat defaults.most.toNat length := by
  obtain ⟨leastIs, mostIs⟩ := ends_of_range found
  rw [leastIs, toNat_effectiveLeast] at low
  rw [mostIs, toNat_effectiveMost] at high
  exact ⟨low, high⟩

end LengthBounds

theorem NumberConstraints.span_of_range {constraints : NumberConstraints} {range : NumberRange}
    (found : constraints.range = .ok range) : constraints.Span range.least range.most := by
  unfold NumberConstraints.range at found
  split at found
  · rename_i least most isLeast isMost
    split at found
    · cases found
      obtain ⟨givenLeast, givenMost, members⟩ := constraints
      constructor
      · rw [← isLeast]
        cases givenLeast with
        | some x => rfl
        | none =>
            cases givenMost with
            | some y => rfl
            | none => rfl
      · cases givenMost with
        | some y => exact isMost.symm
        | none =>
            rw [← isMost, ← isLeast]
            rfl
    · cases found
  · cases found

namespace NumberRange

theorem ceil_le_floor {range : NumberRange} {k : Int} (low : range.least.signedUnits ≤ k * unitsPerOne)
    (high : k * unitsPerOne ≤ range.most.signedUnits) : range.least.ceil ≤ range.most.floor := by
  have unit : (0 : Int) < unitsPerOne := Int.natCast_pos.2 unitsPerOne_pos
  have below : k ≤ range.most.floor := Int.le_ediv_of_mul_le unit high
  have above : -k ≤ -range.least.signedUnits / (unitsPerOne : Int) := by
    apply Int.le_ediv_of_mul_le unit
    rw [Int.neg_mul]
    omega
  unfold Finite64.ceil
  omega

end NumberRange

namespace Generate

open Generation (Returns)

variable {σ : Type} {source : RandomSource σ}

theorem numberWithin_integer (contract : source.Contract) {range : NumberRange} {k : Int}
    (low : range.least.signedUnits ≤ k * unitsPerOne) (high : k * unitsPerOne ≤ range.most.signedUnits)
    (notBelow : -2 ^ 63 ≤ range.least.ceil) (notAbove : range.most.floor ≤ 2 ^ 63) :
    Answers (numberWithin source range) fun value => ∃ k fits, value = .number (.integer k fits) ∧
      min range.least.ceil (2 ^ 63 - 1) ≤ k ∧ k ≤ min range.most.floor (2 ^ 63 - 1) := by
  have guard : range.least.ceil ≤ range.most.floor ∧ -2 ^ 63 ≤ range.least.ceil ∧ range.most.floor ≤ 2 ^ 63 :=
    ⟨NumberRange.ceil_le_floor low high, notBelow, notAbove⟩
  unfold numberWithin
  cases integers : range.integers? with
  | none =>
      unfold NumberRange.integers? at integers
      dsimp only at integers
      rw [if_pos guard] at integers
      cases integers
  | some ends =>
      obtain ⟨leastIs, mostIs, _⟩ := NumberRange.toInt_of_integers integers
      have drawn : Answers (source.intInRange ends.1 ends.2) fun n => ends.1 ≤ n ∧ n ≤ ends.2 :=
        fun state => contract.intInRange _ _ state (NumberRange.le_of_integers integers)
      refine drawn.bind fun n within => .pure ⟨n.toInt, _, rfl, ?_, ?_⟩
      · rw [← leastIs]
        exact Int64.le_iff_toInt_le.1 within.1
      · rw [← mostIs]
        exact Int64.le_iff_toInt_le.1 within.2

theorem number_shapes (contract : source.Contract) (constraints : NumberConstraints) :
    Returns (Generate.number source constraints) constraints.Shapes := by
  unfold Generate.number
  split
  · rename_i members listed
    exact .bind (member_returns contract members) fun member inside => .pure (.member listed inside)
  · rename_i unlisted
    refine .bind (.settle _) fun range found => .draw fun state => ?_
    have span := NumberConstraints.span_of_range found
    obtain ⟨n, x, same, double, notLess, notMore⟩ := numberWithin_answers contract range state
    rw [same]
    apply NumberConstraints.Shapes.ranged unlisted span double notLess notMore
    rintro ⟨k, low, high⟩ notBelow notAbove
    obtain ⟨k', fits, integer, within⟩ := numberWithin_integer contract low high notBelow notAbove state
    rw [same] at integer
    cases integer
    exact ⟨k', fits, rfl, within⟩

/-- Whichever candidate is taken, it is one of those that are drawn. -/
theorem firstAccepted_drawn {draw : StateM σ String} {good : String → Prop} (drawn : Answers draw good)
    (accept : String → Bool) (others : Nat) : Answers (firstAccepted draw accept others) good := by
  induction others with
  | zero => exact drawn
  | succ others ih =>
      refine Answers.bind drawn fun candidate here => ?_
      cases accept candidate with
      | true => exact .pure here
      | false => exact ih

theorem string_shapes (contract : source.Contract) (constraints : StringConstraints) :
    Returns (Generate.string source constraints) constraints.Shapes := by
  unfold Generate.string
  split
  · rename_i members listed
    exact (member_returns contract members).mono fun text inside => .member listed inside
  · rename_i unlisted
    split
    · rename_i draw found
      obtain ⟨format, asked, drawn⟩ := Option.bind_eq_some_iff.1 found
      obtain ⟨known, answers⟩ := formatted_answers contract drawn
      exact (Returns.draw answers).mono fun text accepted => .formatted unlisted asked known accepted
    · rename_i notDrawn
      have plain : constraints.IsPlain := ⟨unlisted, bind_formatted_eq_none_iff.1 notDrawn⟩
      unfold plainText
      refine .bind (.settle _) fun range found => ?_
      have shaped : Answers (letters source range) constraints.Shapes := by
        refine (letters_answers contract range).mono ?_
        rintro text ⟨⟨low, high⟩, letters⟩
        exact .letters plain letters (LengthBounds.spans_of_range found low high)
      split
      · exact .draw shaped
      · exact .draw (firstAccepted_drawn shaped _ _)

theorem id_shapes (contract : source.Contract) (format : Option IdFormat) :
    Answers (Generate.id source format) (IdFormat.Shapes format) := by
  unfold Generate.id
  split
  · exact fun state => .uuid (contract.uuid state)
  · rename_i other
    intro state
    obtain ⟨low, high⟩ := contract.intInRange leastId mostId state (by decide)
    rw [Int64.le_iff_toInt_le] at low high
    exact .number other low high

end Generate

namespace Schema

open Generate
open Generation (Returns)

variable {σ : Type} {source : RandomSource σ}

mutual

theorem generate_shapes (contract : source.Contract) (schema : Schema) :
    Returns (schema.generate source) schema.Shapes := by
  cases schema with
  | string constraints =>
      exact .bind (string_shapes contract constraints) fun text shaped => .pure ⟨text, rfl, shaped⟩
  | number constraints => exact number_shapes contract constraints
  | boolean => exact .bind (.any _) fun b _ => .pure ⟨b, rfl⟩
  | null => exact .pure rfl
  | array items count =>
      refine .bind (.settle _) fun range found => ?_
      refine .bind (.draw (length_answers contract range)) fun n within => ?_
      refine .bind (.times (generate_shapes contract items).within n) fun elements all => ?_
      -- The range speaks of the number that is drawn, which is that of the elements.
      have span := LengthBounds.spans_of_range found within.1 within.2
      rw [← all.1] at span
      exact .pure ⟨elements, rfl, span, all.2⟩
  | object properties required =>
      exact .bind (generateProperties_shapes contract properties) fun members shaped =>
        .pure ⟨members, rfl, shaped⟩
  | id format => exact .draw (id_shapes contract format)

theorem generateProperties_shapes (contract : source.Contract) (properties : List (String × Schema)) :
    Returns (generateProperties source properties) (PropertiesShape properties) := by
  cases properties with
  | nil => exact .pure trivial
  | cons property rest =>
      obtain ⟨name, schema⟩ := property
      refine .bind (generate_shapes contract schema).within fun value shaped => ?_
      exact .bind (generateProperties_shapes contract rest) fun members others =>
        .pure ⟨rfl, shaped, others⟩

end

/-- A value that is generated for a schema, contradictory or not, from any state of a source
that keeps its promises, has the shape of the schema. -/
theorem shapes_of_generate {σ : Type} {source : RandomSource σ} (contract : source.Contract)
    (schema : Schema) (state after : σ) (value : Json)
    (generated : (schema.generate source).run.run state = (.ok value, after)) : schema.Shapes value :=
  generate_shapes contract schema state value after generated

/-- A required name that is not declared, a member that is too short, another that is too
small, and a date of no letters, drawn from the least source. -/
theorem shapes_of_generate_contradictory :
    (Schema.object
      [("code", .string { members := some ["a"], length := { least := some 5 } }),
        ("days", .array (.string { format := some .date, length := { most := some 0 } }) { most := some 1 }),
        ("kind", .string { format := some (.other "hex") }),
        ("number", .id none),
        ("size", .number { least := some 5, members := some [2] })] ["missing"]).Shapes
      (.object
        [("code", .string "a"), ("days", .array [.string "1970-01-01"]), ("kind", .string "aaa"),
          ("number", .number (.ofInt64 1)), ("size", numberValue 2)]) := by
  apply shapes_of_generate RandomSource.least_contract _ () ()
  rfl

end Schema
end CompactSchema
