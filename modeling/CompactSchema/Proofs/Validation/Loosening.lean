import CompactSchema.Proofs.Json.Number
import CompactSchema.Proofs.Validation.Conformance

/-
Looser schemas.

A schema is loosened by dropping or widening constraints of its nodes, by asking for fewer
names and by declaring fewer properties.  Whatever conforms to a schema conforms to every
looser one.  Two schemas that differ only in how their lists of names and members are
written are each looser than the other, so that they accept the same values.
-/

namespace CompactSchema

/-! ### Constraints -/

/-- Bounds that are at least as wide.  A bound that is absent is the widest. -/
structure LengthBounds.Looser (loose strict : LengthBounds) : Prop where
  least : ∀ least, loose.least = some least → least ≤ strict.least.getD 0
  most : ∀ most, loose.most = some most → ∃ most', strict.most = some most' ∧ most' ≤ most

structure StringConstraints.Looser (loose strict : StringConstraints) : Prop where
  length : loose.length.Looser strict.length
  pattern : ∀ pattern, loose.pattern = some pattern →
    ∃ pattern', strict.pattern = some pattern' ∧ pattern'.source = pattern.source
  members : ∀ members, loose.members = some members →
    ∃ members', strict.members = some members' ∧ members' ⊆ members
  format : ∀ format, loose.format = some format →
    (∃ name, format = .other name) ∨ strict.format = some format

/-- Bounds and members are compared as numbers, so that a NaN is no wider than anything; it
may only stay where it is. -/
structure NumberConstraints.Looser (loose strict : NumberConstraints) : Prop where
  least : ∀ least, loose.least = some least →
    strict.least = some least ∨ least.le (strict.least.getD (.infinite true)) = true
  most : ∀ most, loose.most = some most →
    strict.most = some most ∨ (strict.most.getD (.infinite false)).le most = true
  members : ∀ members, loose.members = some members →
    ∃ members', strict.members = some members' ∧
      ∀ member' ∈ members', member' ∈ members ∨ ∃ member ∈ members, member.same member' = true

theorem LengthBounds.Looser.allow {loose strict : LengthBounds} (looser : loose.Looser strict) {length : Nat}
    (allowed : strict.Allow length) : loose.Allow length := by
  constructor
  · intro least present
    have wider := UInt64.le_iff_toNat_le.1 (looser.least least present)
    cases bound : strict.least with
    | none =>
        rw [bound] at wider
        exact Nat.le_trans wider (Nat.zero_le length)
    | some least' =>
        rw [bound] at wider
        exact Nat.le_trans wider (allowed.least least' bound)
  · intro most present
    obtain ⟨most', bound, wider⟩ := looser.most most present
    exact Nat.le_trans (allowed.most most' bound) (UInt64.le_iff_toNat_le.1 wider)

theorem StringConstraints.Looser.allow {loose strict : StringConstraints} (looser : loose.Looser strict)
    {text : String} (allowed : strict.Allow text) : loose.Allow text := by
  refine ⟨looser.length.allow allowed.length, ?_, ?_, ?_⟩
  · intro members present
    obtain ⟨members', listed, subset⟩ := looser.members members present
    exact subset (allowed.members members' listed)
  · intro pattern present
    obtain ⟨pattern', asked, source⟩ := looser.pattern pattern present
    rw [← Pattern.eq_of_source_eq source]
    exact allowed.pattern pattern' asked
  · intro format present
    rcases looser.format format present with ⟨name, rfl⟩ | asked
    · rfl
    · exact allowed.format format asked

/-- A number within bounds is not beyond the infinite ones that stand for absent bounds. -/
theorem NumberConstraints.Within.least_getD {constraints : NumberConstraints} {x : Binary64}
    (within : constraints.Within x) : x.lt (constraints.least.getD (.infinite true)) = false := by
  cases bound : constraints.least with
  | none => rcases x with _ | (_ | _) | x <;> rfl
  | some least => exact within.least least bound

theorem NumberConstraints.Within.most_getD {constraints : NumberConstraints} {x : Binary64}
    (within : constraints.Within x) : (constraints.most.getD (.infinite false)).lt x = false := by
  cases bound : constraints.most with
  | none => cases x <;> rfl
  | some most => exact within.most most bound

theorem NumberConstraints.Looser.within {loose strict : NumberConstraints} (looser : loose.Looser strict)
    {x : Binary64} (within : strict.Within x) : loose.Within x := by
  constructor
  · intro least present
    rcases looser.least least present with same | wider
    · exact within.least least same
    · apply Bool.eq_false_iff.2
      intro below
      have beyond := Binary64.lt_of_lt_of_le below wider
      rw [within.least_getD] at beyond
      cases beyond
  · intro most present
    rcases looser.most most present with same | wider
    · exact within.most most same
    · apply Bool.eq_false_iff.2
      intro above
      have beyond := Binary64.lt_of_le_of_lt wider above
      rw [within.most_getD] at beyond
      cases beyond

theorem NumberConstraints.Looser.allow {loose strict : NumberConstraints} (looser : loose.Looser strict)
    {x : Binary64} (allowed : strict.Allow x) : loose.Allow x := by
  refine ⟨looser.within allowed.toWithin, ?_⟩
  intro members present
  obtain ⟨members', listed, superset⟩ := looser.members members present
  obtain ⟨member', inside, same⟩ := allowed.members members' listed
  rcases superset member' inside with kept | ⟨member, inside', equal⟩
  · exact ⟨member', kept, same⟩
  · exact ⟨member, inside', Binary64.same_trans equal same⟩

/-! ### Schemas -/

namespace Schema

mutual

/-- The first schema asks for no more than the second.  Boolean, null and id schemas are
looser only than themselves. -/
inductive Looser : Schema → Schema → Prop
  | equal (schema : Schema) : Looser schema schema
  | string {loose strict : StringConstraints} (constraints : loose.Looser strict) :
      Looser (.string loose) (.string strict)
  | number {loose strict : NumberConstraints} (constraints : loose.Looser strict) :
      Looser (.number loose) (.number strict)
  | array {loose strict : Schema} {count count' : LengthBounds} (items : Looser loose strict)
      (bounds : count.Looser count') : Looser (.array loose count) (.array strict count')
  | object {loose strict : List (String × Schema)} {required required' : List String}
      (properties : PropertiesLooser loose strict) (fewer : required ⊆ required') :
      Looser (.object loose required) (.object strict required')

/-- Every property that is declared is also declared by the others, and looser here. -/
inductive PropertiesLooser : List (String × Schema) → List (String × Schema) → Prop
  | nil {strict : List (String × Schema)} : PropertiesLooser [] strict
  | cons {name : String} {loose child : Schema} {rest strict : List (String × Schema)}
      (declared : (name, child) ∈ strict) (first : Looser loose child)
      (others : PropertiesLooser rest strict) : PropertiesLooser ((name, loose) :: rest) strict

end

mutual

theorem conforms_of_looser {loose strict : Schema} (looser : loose.Looser strict) {value : Json}
    (conforms : strict.Conforms value) : loose.Conforms value := by
  cases looser with
  | equal => exact conforms
  | string constraints =>
      obtain ⟨text, same, allowed⟩ := conforms
      exact ⟨text, same, constraints.allow allowed⟩
  | number constraints =>
      obtain ⟨n, same, allowed⟩ := conforms
      exact ⟨n, same, constraints.allow allowed⟩
  | array items bounds =>
      obtain ⟨elements, same, allowed, each⟩ := conforms
      refine ⟨elements, same, bounds.allow allowed, ?_⟩
      intro element inside
      exact conforms_of_looser items (each element inside)
  | object properties fewer =>
      obtain ⟨members, same, present, conform⟩ := conforms
      refine ⟨members, same, ?_, propertiesConform_of_looser properties conform⟩
      intro name asked
      exact present name (fewer asked)

theorem propertiesConform_of_looser {loose strict : List (String × Schema)}
    (looser : PropertiesLooser loose strict) {members : List (String × Json)}
    (conform : PropertiesConform strict members) : PropertiesConform loose members := by
  cases looser with
  | nil => exact trivial
  | cons declared first others =>
      refine ⟨?_, propertiesConform_of_looser others conform⟩
      intro value present
      exact conforms_of_looser first (propertiesConform_iff.1 conform _ declared value present)

end

end Schema

/-! ### Order and repetition -/

/-- Lists of the same things, in any order and each any number of times. -/
def SameMembers {α : Type} (left right : List α) : Prop := left ⊆ right ∧ right ⊆ left

inductive StringConstraints.Rearranged : StringConstraints → StringConstraints → Prop
  | equal (constraints : StringConstraints) : Rearranged constraints constraints
  | members (constraints : StringConstraints) {left right : List String} (same : SameMembers left right) :
      Rearranged { constraints with members := some left } { constraints with members := some right }

inductive NumberConstraints.Rearranged : NumberConstraints → NumberConstraints → Prop
  | equal (constraints : NumberConstraints) : Rearranged constraints constraints
  | members (constraints : NumberConstraints) {left right : List Binary64} (same : SameMembers left right) :
      Rearranged { constraints with members := some left } { constraints with members := some right }

theorem LengthBounds.looser_self (bounds : LengthBounds) : bounds.Looser bounds := by
  constructor
  · intro least present
    rw [present]
    exact UInt64.le_refl least
  · intro most present
    exact ⟨most, present, UInt64.le_refl most⟩

theorem StringConstraints.looser_of_members (constraints : StringConstraints) {left right : List String}
    (subset : right ⊆ left) :
    Looser { constraints with members := some left } { constraints with members := some right } := by
  refine ⟨constraints.length.looser_self, ?_, ?_, ?_⟩
  · intro pattern present
    exact ⟨pattern, present, rfl⟩
  · intro members present
    cases present
    exact ⟨right, rfl, subset⟩
  · intro format present
    exact .inr present

theorem NumberConstraints.looser_of_members (constraints : NumberConstraints) {left right : List Binary64}
    (subset : right ⊆ left) :
    Looser { constraints with members := some left } { constraints with members := some right } := by
  refine ⟨fun least present => .inl present, fun most present => .inl present, ?_⟩
  intro members present
  cases present
  exact ⟨right, rfl, fun member inside => .inl (subset inside)⟩

namespace Schema

mutual

/-- The schemas have the same nodes, with required names and members listed in any order and
any number of times. -/
inductive Rearranged : Schema → Schema → Prop
  | equal (schema : Schema) : Rearranged schema schema
  | string {left right : StringConstraints} (constraints : left.Rearranged right) :
      Rearranged (.string left) (.string right)
  | number {left right : NumberConstraints} (constraints : left.Rearranged right) :
      Rearranged (.number left) (.number right)
  | array {left right : Schema} (items : Rearranged left right) (count : LengthBounds) :
      Rearranged (.array left count) (.array right count)
  | object {left right : List (String × Schema)} {required required' : List String}
      (properties : PropertiesRearranged left right) (names : SameMembers required required') :
      Rearranged (.object left required) (.object right required')

inductive PropertiesRearranged : List (String × Schema) → List (String × Schema) → Prop
  | nil : PropertiesRearranged [] []
  | cons {left right : Schema} {leftRest rightRest : List (String × Schema)} (name : String)
      (first : Rearranged left right) (others : PropertiesRearranged leftRest rightRest) :
      PropertiesRearranged ((name, left) :: leftRest) ((name, right) :: rightRest)

end

theorem PropertiesLooser.mono {loose strict strict' : List (String × Schema)}
    (looser : PropertiesLooser loose strict) (subset : strict ⊆ strict') : PropertiesLooser loose strict' := by
  induction loose with
  | nil => exact .nil
  | cons property rest ih =>
      cases looser with
      | cons declared first others => exact .cons (subset declared) first (ih others)

mutual

theorem looser_of_rearranged {left right : Schema} (rearranged : left.Rearranged right) :
    left.Looser right ∧ right.Looser left := by
  cases rearranged with
  | equal => exact ⟨.equal _, .equal _⟩
  | string constraints =>
      cases constraints with
      | equal => exact ⟨.equal _, .equal _⟩
      | members constraints same =>
          exact ⟨.string (constraints.looser_of_members same.2),
            .string (constraints.looser_of_members same.1)⟩
  | number constraints =>
      cases constraints with
      | equal => exact ⟨.equal _, .equal _⟩
      | members constraints same =>
          exact ⟨.number (constraints.looser_of_members same.2),
            .number (constraints.looser_of_members same.1)⟩
  | array items count =>
      obtain ⟨looser, looser'⟩ := looser_of_rearranged items
      exact ⟨.array looser count.looser_self, .array looser' count.looser_self⟩
  | object properties names =>
      obtain ⟨looser, looser'⟩ := propertiesLooser_of_rearranged properties
      exact ⟨.object looser names.1, .object looser' names.2⟩

theorem propertiesLooser_of_rearranged {left right : List (String × Schema)}
    (rearranged : PropertiesRearranged left right) :
    PropertiesLooser left right ∧ PropertiesLooser right left := by
  cases rearranged with
  | nil => exact ⟨.nil, .nil⟩
  | cons name first others =>
      obtain ⟨looser, looser'⟩ := looser_of_rearranged first
      obtain ⟨rest, rest'⟩ := propertiesLooser_of_rearranged others
      exact ⟨.cons List.mem_cons_self looser (rest.mono (List.subset_cons_self _ _)),
        .cons List.mem_cons_self looser' (rest'.mono (List.subset_cons_self _ _))⟩

end

/-- What a schema accepts is accepted by every looser one, and the order and the repetition
of required names and members do not matter. -/
theorem accepts_of_looser (loose strict : Schema) (value : Json) :
    (loose.Looser strict → strict.accepts value = true → loose.accepts value = true) ∧
      (loose.Rearranged strict → loose.accepts value = strict.accepts value) := by
  have loosened {loose strict : Schema} (looser : loose.Looser strict) :
      strict.accepts value = true → loose.accepts value = true := by
    rw [accepts_iff_conforms, accepts_iff_conforms]
    exact conforms_of_looser looser
  refine ⟨loosened, ?_⟩
  intro rearranged
  obtain ⟨looser, looser'⟩ := looser_of_rearranged rearranged
  exact Bool.eq_iff_iff.2 ⟨loosened looser', loosened looser⟩

def parcel : Schema :=
  .object
    [("codes", .array (.string { length := { least := some 2 }, members := some ["ab", "cde"] }) { most := some 2 }),
      ("weight", .number { least := some 1, most := some 5 })]
    ["codes", "weight"]

/-- The parcel with its lists written in another way. -/
def rewrittenParcel : Schema :=
  .object
    [("codes",
        .array (.string { length := { least := some 2 }, members := some ["cde", "ab", "ab"] }) { most := some 2 }),
      ("weight", .number { least := some 1, most := some 5 })]
    ["weight", "codes", "weight"]

/-- The parcel with a shorter list of names, more codes and no greatest weight. -/
def lightParcel : Schema :=
  .object
    [("codes",
        .array (.string { members := some ["x", "cde", "ab"], format := some (.other "code") }) { most := some 7 }),
      ("weight", .number { least := some 0 })]
    ["weight"]

def smallParcel : Json := .object [("codes", .array [.string "ab"]), ("weight", .number (.ofInt64 3))]

theorem accepts_of_looser_parcel :
    parcel.accepts smallParcel = true ∧ lightParcel.accepts smallParcel = true ∧
      rewrittenParcel.accepts smallParcel = parcel.accepts smallParcel := by
  have accepted : parcel.accepts smallParcel = true := by decide +kernel
  have codes : (Schema.string { members := some ["x", "cde", "ab"], format := some (.other "code") }).Looser
      (.string { length := { least := some 2 }, members := some ["ab", "cde"] }) := by
    refine .string ⟨⟨nofun, nofun⟩, nofun, ?_, ?_⟩
    · rintro _ ⟨⟩
      exact ⟨_, rfl, by decide⟩
    · rintro _ ⟨⟩
      exact .inl ⟨"code", rfl⟩
  have count : LengthBounds.Looser { most := some 7 } { most := some 2 } := by
    refine ⟨nofun, ?_⟩
    rintro _ ⟨⟩
    exact ⟨2, rfl, by decide⟩
  have weight : (Schema.number { least := some 0 }).Looser (.number { least := some 1, most := some 5 }) := by
    have zero : Binary64.le 0 1 = true := by decide +kernel
    refine .number ⟨?_, ?_, ?_⟩
    · intro least present
      rw [← Option.some.inj present]
      exact .inr zero
    · intro most absent
      cases absent
    · intro members absent
      cases absent
  have looser : lightParcel.Looser parcel :=
    .object (.cons (.head _) (.array codes count) (.cons (.tail _ (.head _)) weight .nil)) (by decide)
  have listed : SameMembers ["cde", "ab", "ab"] ["ab", "cde"] := ⟨by decide, by decide⟩
  have names : SameMembers ["weight", "codes", "weight"] ["codes", "weight"] := ⟨by decide, by decide⟩
  have rearranged : rewrittenParcel.Rearranged parcel :=
    .object
      (.cons _ (.array (.string (.members { length := { least := some 2 } } listed)) _)
        (.cons _ (.equal _) .nil))
      names
  exact ⟨accepted, (accepts_of_looser lightParcel parcel smallParcel).1 looser accepted,
    (accepts_of_looser rewrittenParcel parcel smallParcel).2 rearranged⟩

end Schema
end CompactSchema
