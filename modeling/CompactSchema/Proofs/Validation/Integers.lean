import CompactSchema.Proofs.Binary64.Order
import CompactSchema.Proofs.Schema.Grammar
import CompactSchema.Proofs.Validation.Conformance

/-
Integers held against integers.

A number schema rounds its bounds and members when it is read, and a datum when it is
checked, each by itself.  Where all of them are integers, a datum that meets what is
written is accepted whatever its size, and one below 2^53 is accepted only then.
-/

namespace CompactSchema

/-- Constraints on numbers that are integers, before any rounding. -/
structure IntegerConstraints where
  least : Option Int := none
  most : Option Int := none
  members : Option (List Int) := none

namespace IntegerConstraints

structure Allow (integers : IntegerConstraints) (n : Int) : Prop where
  least : ∀ least, integers.least = some least → least ≤ n
  most : ∀ most, integers.most = some most → n ≤ most
  members : ∀ members, integers.members = some members → n ∈ members

instance (integers : IntegerConstraints) (n : Int) : Decidable (integers.Allow n) :=
  decidable_of_iff
    ((∀ least ∈ integers.least, least ≤ n) ∧ (∀ most ∈ integers.most, n ≤ most) ∧
      ∀ members ∈ integers.members, n ∈ members)
    ⟨fun ⟨least, most, members⟩ => ⟨least, most, members⟩,
      fun ⟨least, most, members⟩ => ⟨least, most, members⟩⟩

/-- The constraints are met when they and the integer are rounded. -/
structure AllowRounded (integers : IntegerConstraints) (n : Int) : Prop where
  least : ∀ least, integers.least = some least → roundedUnits least ≤ roundedUnits n
  most : ∀ most, integers.most = some most → roundedUnits n ≤ roundedUnits most
  members : ∀ members, integers.members = some members → ∃ member ∈ members, roundedUnits member = roundedUnits n

variable {integers : IntegerConstraints} {n : Int}

theorem allowRounded_of_allow (allowed : integers.Allow n) : integers.AllowRounded n := by
  constructor
  · intro least present
    exact roundedUnits_mono (allowed.least least present)
  · intro most present
    exact roundedUnits_mono (allowed.most most present)
  · intro members present
    exact ⟨n, allowed.members members present, rfl⟩

theorem allow_of_allowRounded (small : n.natAbs < 2 ^ 53) (allowed : integers.AllowRounded n) :
    integers.Allow n := by
  constructor
  · intro least present
    exact (roundedUnits_le_iff (.inr small)).1 (allowed.least least present)
  · intro most present
    exact (roundedUnits_le_iff (.inl small)).1 (allowed.most most present)
  · intro members present
    obtain ⟨member, inside, same⟩ := allowed.members members present
    rw [(roundedUnits_inj (.inr small)).1 same] at inside
    exact inside

end IntegerConstraints

/-- The double nearest to an integer, or another of the same value. -/
def RoundsTo (n : Int) (x : Binary64) : Prop :=
  ∃ y : Finite64, x = .finite y ∧ y.signedUnits = roundedUnits n

section

variable {m n : Int} {x y : Binary64}

theorem RoundsTo.lt_eq_false_iff (left : RoundsTo m x) (right : RoundsTo n y) :
    x.lt y = false ↔ roundedUnits n ≤ roundedUnits m := by
  obtain ⟨x, rfl, value⟩ := left
  obtain ⟨y, rfl, value'⟩ := right
  rw [Binary64.lt, value, value', decide_eq_false_iff_not, Int.not_lt]

theorem RoundsTo.same_iff (left : RoundsTo m x) (right : RoundsTo n y) :
    x.same y = true ↔ roundedUnits m = roundedUnits n := by
  obtain ⟨x, rfl, value⟩ := left
  obtain ⟨y, rfl, value'⟩ := right
  rw [Binary64.same, value, value', decide_eq_true_eq]

/-- However an integer is written, it stands for the double nearest to it. -/
theorem StoredSchema.roundsTo_of_isInteger {number : Number} (written : IsInteger n number) :
    RoundsTo n number.toBinary64 := by
  cases number with
  | integer value fits =>
      have same : value = n := written
      subst same
      exact exists_ofInt_eq_roundedUnits (natAbs_le_of_fitsWord fits)
  | float x => exact ⟨x, rfl, (roundedUnits_of_double written).symm⟩

end

/-- Two options of which one is absent just when the other is make the same demand if their
values do. -/
theorem forall_some_iff_of_rel {α β : Type} {related : α → β → Prop} {p : α → Prop} {q : β → Prop}
    {left : Option α} {right : Option β} (rel : Option.Rel related left right)
    (agree : ∀ a b, related a b → (p a ↔ q b)) :
    (∀ a, left = some a → p a) ↔ ∀ b, right = some b → q b := by
  cases rel with
  | none => simp
  | some here => simpa using agree _ _ here

theorem exists_mem_iff_of_forall₂ {α β : Type} {related : α → β → Prop} {p : α → Prop} {q : β → Prop}
    {left : List α} {right : List β} (rel : List.Forall₂ related left right)
    (agree : ∀ a b, related a b → (p a ↔ q b)) :
    (∃ a ∈ left, p a) ↔ ∃ b ∈ right, q b := by
  induction rel with
  | nil => simp
  | cons here _ ih => simp only [List.exists_mem_cons_iff, agree _ _ here, ih]

namespace IntegerConstraints

/-- Each bound and each member is rounded by itself. -/
structure RoundTo (integers : IntegerConstraints) (constraints : NumberConstraints) : Prop where
  least : Option.Rel RoundsTo integers.least constraints.least
  most : Option.Rel RoundsTo integers.most constraints.most
  members : Option.Rel (List.Forall₂ RoundsTo) integers.members constraints.members

theorem RoundTo.allow_iff {integers : IntegerConstraints} {constraints : NumberConstraints} {n : Int}
    {x : Binary64} (rounded : integers.RoundTo constraints) (datum : RoundsTo n x) :
    constraints.Allow x ↔ integers.AllowRounded n := by
  have least := forall_some_iff_of_rel rounded.least fun bound double here =>
    (datum.lt_eq_false_iff here).symm
  have most := forall_some_iff_of_rel rounded.most fun bound double here =>
    (here.lt_eq_false_iff datum).symm
  have members := forall_some_iff_of_rel rounded.members fun listed doubles each =>
    exists_mem_iff_of_forall₂ each fun member double here => (here.same_iff datum).symm
  constructor
  · intro allowed
    exact ⟨least.2 allowed.least, most.2 allowed.most, members.2 allowed.members⟩
  · intro allowed
    exact ⟨⟨least.1 allowed.least, most.1 allowed.most⟩, members.1 allowed.members⟩

end IntegerConstraints

namespace StoredSchema

/-- The value is an integer, with or without a point. -/
def IsWritten (value : Json) (n : Int) : Prop := ∃ number, value = .number number ∧ IsInteger n number

/-- What a number node states, all of it integers. -/
structure StatesIntegers (fields : List (String × Json)) (integers : IntegerConstraints) : Prop where
  least : States IsWritten "min" fields integers.least
  most : States IsWritten "max" fields integers.most
  members : States (IsList IsWritten) "enum" fields integers.members

theorem roundsTo_of_isWritten {value : Json} {n : Int} {x : Binary64} (written : IsWritten value n)
    (read : IsDouble value x) : RoundsTo n x := by
  obtain ⟨number, rfl, isInteger⟩ := written
  obtain ⟨number', same, rfl⟩ := read
  cases same
  exact roundsTo_of_isInteger isInteger

section

variable {α β : Type} {means : Json → α → Prop} {means' : Json → β → Prop} {related : α → β → Prop}

theorem rel_of_states (meanings : ∀ value a b, means value a → means' value b → related a b)
    {name : String} {fields : List (String × Json)} {left : Option α} {right : Option β}
    (states : States means name fields left) (states' : States means' name fields right) :
    Option.Rel related left right := by
  cases states with
  | nothing absent =>
      cases states' with
      | nothing => exact .none
      | something present notNull => exact absurd (absent _ present) notNull
  | something present notNull meaning =>
      cases states' with
      | nothing absent => exact absurd (absent _ present) notNull
      | something present' _ meaning' =>
          rw [present] at present'
          cases present'
          exact .some (meanings _ _ _ meaning meaning')

theorem forall₂_of_isList (meanings : ∀ value a b, means value a → means' value b → related a b)
    (value : Json) (left : List α) (right : List β) (list : IsList means value left)
    (list' : IsList means' value right) : List.Forall₂ related left right := by
  obtain ⟨elements, rfl, each⟩ := list
  obtain ⟨elements', same, each'⟩ := list'
  cases same
  induction each generalizing right with
  | nil =>
      cases each'
      exact .nil
  | cons first _ ih =>
      cases each' with
      | cons first' others' => exact .cons (meanings _ _ _ first first') (ih _ others')

end

theorem roundTo_of_states {fields : List (String × Json)} {integers : IntegerConstraints}
    {constraints : NumberConstraints} (written : StatesIntegers fields integers)
    (read : StatesNumber fields constraints) : integers.RoundTo constraints := by
  have meanings (value : Json) (n : Int) (x : Binary64) : IsWritten value n → IsDouble value x → RoundsTo n x :=
    roundsTo_of_isWritten
  exact ⟨rel_of_states meanings written.least read.least, rel_of_states meanings written.most read.most,
    rel_of_states (forall₂_of_isList meanings) written.members read.members⟩

theorem exists_number_of_read {fields : List (String × Json)} (tagged : HasTag fields "number") {limit : Nat}
    {schema : Schema} (read : Schema.read limit (.object fields) = .ok schema) :
    ∃ constraints, schema = .number constraints ∧ StatesNumber fields constraints := by
  cases limit with
  | zero => exact absurd read Schema.readNode_zero_ne_ok
  | succ limit =>
      obtain ⟨node, own, children⟩ := Schema.readNode_succ_eq_ok_iff.1 read
      rw [read_of_hasTag tagged] at own
      obtain ⟨constraints, states, rfl⟩ := readNumber_eq_ok_iff.1 own
      cases children
      exact ⟨constraints, rfl, states⟩

/-- A number schema in integers, held against an integer: what is written decides below 2^53,
and beyond that nothing that meets it is refused. -/
theorem accepts_integer_of_read {fields : List (String × Json)} (tagged : HasTag fields "number")
    {integers : IntegerConstraints} (states : StatesIntegers fields integers) {limit : Nat} {schema : Schema}
    (read : Schema.read limit (.object fields) = .ok schema) {n : Int} {number : Number}
    (written : IsInteger n number) :
    (integers.Allow n → schema.accepts (.number number) = true) ∧
      (n.natAbs < 2 ^ 53 → (schema.accepts (.number number) = true ↔ integers.Allow n)) := by
  obtain ⟨constraints, rfl, statesNumber⟩ := exists_number_of_read tagged read
  have accepted : (Schema.number constraints).accepts (.number number) = true ↔ integers.AllowRounded n := by
    rw [← (roundTo_of_states states statesNumber).allow_iff (roundsTo_of_isInteger written),
      Schema.accepts_iff_conforms, Schema.Conforms]
    simp
  rw [accepted]
  constructor
  · exact IntegerConstraints.allowRounded_of_allow
  · intro small
    exact ⟨IntegerConstraints.allow_of_allowRounded small, IntegerConstraints.allowRounded_of_allow⟩

/-- Two identifiers, one below 2^53 and one above it, between a least and a greatest number. -/
def identifierFields : List (String × Json) :=
  [("enum", .array [.number (.integer (2 ^ 53 - 1) (by decide)), .number (.integer (2 ^ 53 + 1) (by decide))]),
    ("max", .number (.integer (2 ^ 64 - 1) (by decide))),
    ("min", .number (.integer (2 ^ 53 - 1) (by decide))),
    ("type", .string "number")]

/-- The identifiers are accepted, and the number before the first of them is not. -/
theorem accepts_integer_of_identifiers :
    ∃ schema, Schema.read 1 (.object identifierFields) = .ok schema ∧
      schema.accepts (.number (.integer (2 ^ 53 - 1) (by decide))) = true ∧
      schema.accepts (.number (.integer (2 ^ 53 + 1) (by decide))) = true ∧
      schema.accepts (.number (.integer (2 ^ 53 - 2) (by decide))) = false := by
  let integers : IntegerConstraints :=
    { least := some (2 ^ 53 - 1), most := some (2 ^ 64 - 1), members := some [2 ^ 53 - 1, 2 ^ 53 + 1] }
  have tagged : HasTag identifierFields "number" := .inl rfl
  have states : StatesIntegers identifierFields integers :=
    ⟨.something rfl nofun ⟨_, rfl, rfl⟩, .something rfl nofun ⟨_, rfl, rfl⟩,
      .something rfl nofun ⟨_, rfl, .cons ⟨_, rfl, rfl⟩ (.cons ⟨_, rfl, rfl⟩ .nil)⟩⟩
  have readable : (Schema.read 1 (.object identifierFields)).isOk = true := by decide +kernel
  cases read : Schema.read 1 (.object identifierFields) with
  | error error =>
      rw [read] at readable
      cases readable
  | ok schema =>
      have written {n : Int} (fits : FitsWord n) : IsInteger n (.integer n fits) := rfl
      have decided {n : Int} (fits : FitsWord n) := accepts_integer_of_read tagged states read (written fits)
      refine ⟨schema, rfl, ?_, ?_, ?_⟩
      · exact (decided _).1 (by decide)
      · exact (decided _).1 (by decide)
      · rw [Bool.eq_false_iff, ne_eq, (decided _).2 (by decide)]
        decide

/-- From 2^53 on a number may be taken for a member that it is not. -/
example : (Schema.number { members := some [.ofInt (2 ^ 53 + 1)] }).accepts
    (.number (.integer (2 ^ 53) (by decide))) = true := by
  decide +kernel

end StoredSchema
end CompactSchema
