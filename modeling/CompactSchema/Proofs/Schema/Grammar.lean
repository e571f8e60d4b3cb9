import CompactSchema.Proofs.Schema.StoredFields
import Mathlib.Data.List.Forall2

/-
The grammar of stored schemas.

A stored schema is a tree of JSON objects.  Each node has the tag of one of the seven
kinds, and under the names of its kind it states constraints that mean something; a
constraint that is missing or `null` is not stated.  Reading accepts just these trees,
up to the limit of levels, and finds the schema that they denote.
-/

namespace CompactSchema
namespace StoredSchema

/-! ### Meanings of values -/

/-- The number is the integer `n`, whether it is written as an integer or as a float. -/
def IsInteger (n : Int) : Number → Prop
  | .integer value _ => value = n
  | .float x => x.signedUnits = n * unitsPerOne

/-- A number from 0 to 2^63 - 1 that is an integer. -/
def IsLength (value : Json) (length : UInt64) : Prop :=
  ∃ number, value = .number number ∧ IsInteger length.toNat number ∧ length.toNat ≤ 2 ^ 63 - 1

def IsDouble (value : Json) (x : Binary64) : Prop :=
  ∃ number, value = .number number ∧ x = number.toBinary64

def IsNamed {α : Type} (ofName : String → α) (value : Json) (a : α) : Prop :=
  ∃ name, value = .string name ∧ a = ofName name

def IsString (value : Json) (text : String) : Prop := value = .string text

/-- A string that compiles as a regular expression. -/
def IsPattern (value : Json) (pattern : Pattern) : Prop := value = .string pattern.source

/-- An array all of whose elements mean something. -/
def IsList {α : Type} (means : Json → α → Prop) (value : Json) (meanings : List α) : Prop :=
  ∃ elements, value = .array elements ∧ List.Forall₂ means elements meanings

def IsObject (value : Json) (members : List (String × Json)) : Prop := value = .object members

/-! ### Nodes -/

/-- The tag of a node stands under `type` if that name is there, and else under `kind`. -/
def HasTag (fields : List (String × Json)) (tag : String) : Prop :=
  fields.lookup "type" = some (.string tag) ∨
    fields.lookup "type" = none ∧ fields.lookup "kind" = some (.string tag)

/-- What a node states under a name.  A value that is neither missing nor `null` has to
mean something. -/
inductive States {α : Type} (means : Json → α → Prop) (name : String) (fields : List (String × Json)) :
    Option α → Prop
  | nothing (absent : ∀ value, fields.lookup name = some value → value = .null) :
      States means name fields none
  | something {value : Json} {a : α} (present : fields.lookup name = some value) (notNull : value ≠ .null)
      (meaning : means value a) : States means name fields (some a)

/-- Two lengths, the first not above the second. -/
structure StatesLengths (leastName mostName : String) (fields : List (String × Json))
    (bounds : LengthBounds) : Prop where
  least : States IsLength leastName fields bounds.least
  most : States IsLength mostName fields bounds.most
  ordered : ∀ least most, bounds.least = some least → bounds.most = some most → least ≤ most

structure StatesString (fields : List (String × Json)) (constraints : StringConstraints) : Prop where
  length : StatesLengths "minLength" "maxLength" fields constraints.length
  pattern : States IsPattern "pattern" fields constraints.pattern
  members : States (IsList IsString) "enum" fields constraints.members
  format : States (IsNamed StringFormat.ofName) "format" fields constraints.format

structure StatesNumber (fields : List (String × Json)) (constraints : NumberConstraints) : Prop where
  least : States IsDouble "min" fields constraints.least
  most : States IsDouble "max" fields constraints.most
  ordered : ∀ least most, constraints.least = some least → constraints.most = some most →
    least.le most = true
  members : States (IsList IsDouble) "enum" fields constraints.members

/-- The node by itself is one of the seven kinds, with constraints that mean something.
What it says of its children is left as it is stored. -/
inductive IsNode (fields : List (String × Json)) : ShallowNode → Prop
  | string {constraints : StringConstraints} (tagged : HasTag fields "string")
      (states : StatesString fields constraints) : IsNode fields (.leaf (.string constraints))
  | number {constraints : NumberConstraints} (tagged : HasTag fields "number")
      (states : StatesNumber fields constraints) : IsNode fields (.leaf (.number constraints))
  | boolean (tagged : HasTag fields "boolean") : IsNode fields (.leaf .boolean)
  | null (tagged : HasTag fields "null") : IsNode fields (.leaf .null)
  | id {format : Option IdFormat} (tagged : HasTag fields "id")
      (states : States (IsNamed IdFormat.ofName) "format" fields format) :
      IsNode fields (.leaf (.id format))
  | array {items : Json} {count : LengthBounds} (tagged : HasTag fields "array")
      (present : fields.lookup "items" = some items) (notNull : items ≠ .null)
      (states : StatesLengths "minItems" "maxItems" fields count) : IsNode fields (.array items count)
  | object {properties : Option (List (String × Json))} {required : Option (List String)}
      (tagged : HasTag fields "object") (members : States IsObject "properties" fields properties)
      (names : States (IsList IsString) "required" fields required) :
      IsNode fields (.object (properties.getD []) (required.getD []))

/-! ### Trees -/

/-- A tree of nodes with at most so many levels. -/
inductive IsTree : Nat → Json → Prop
  | leaf {levels : Nat} {fields : List (String × Json)} {schema : Schema}
      (node : IsNode fields (.leaf schema)) : IsTree (levels + 1) (.object fields)
  | array {levels : Nat} {fields : List (String × Json)} {items : Json} {count : LengthBounds}
      (node : IsNode fields (.array items count)) (inner : IsTree levels items) :
      IsTree (levels + 1) (.object fields)
  | object {levels : Nat} {fields properties : List (String × Json)} {required : List String}
      (node : IsNode fields (.object properties required))
      (inner : ∀ name child, (name, child) ∈ properties → IsTree levels child) :
      IsTree (levels + 1) (.object fields)

mutual

/-- The tree has at most so many levels and denotes the schema. -/
inductive Denotes : Nat → Json → Schema → Prop
  | leaf {levels : Nat} {fields : List (String × Json)} {schema : Schema}
      (node : IsNode fields (.leaf schema)) : Denotes (levels + 1) (.object fields) schema
  | array {levels : Nat} {fields : List (String × Json)} {items : Json} {schema : Schema}
      {count : LengthBounds} (node : IsNode fields (.array items count))
      (inner : Denotes levels items schema) :
      Denotes (levels + 1) (.object fields) (.array schema count)
  | object {levels : Nat} {fields stored : List (String × Json)} {properties : List (String × Schema)}
      {required : List String} (node : IsNode fields (.object stored required))
      (inner : DenoteProperties levels stored properties) :
      Denotes (levels + 1) (.object fields) (.object properties required)

inductive DenoteProperties : Nat → List (String × Json) → List (String × Schema) → Prop
  | nil {levels : Nat} : DenoteProperties levels [] []
  | cons {levels : Nat} {name : String} {stored : Json} {schema : Schema} {rest : List (String × Json)}
      {schemas : List (String × Schema)} (first : Denotes levels stored schema)
      (others : DenoteProperties levels rest schemas) :
      DenoteProperties levels ((name, stored) :: rest) ((name, schema) :: schemas)

end

/-! ### Lengths that are read -/

/-- A float is a natural number if it is not below zero, is whole, and has the number as
its integer part. -/
theorem isInteger_float_iff {x : Finite64} {n : Nat} :
    IsInteger n (.float x) ↔
      x.isNonNegative = true ∧ x.isIntegral = true ∧ x.signedUnits.toNat / unitsPerOne = n := by
  have unit := unitsPerOne_pos
  have size := x.natAbs_signedUnits
  have whole : x.isIntegral = true ↔ unitsPerOne ∣ x.units := by
    unfold Finite64.isIntegral
    rw [beq_iff_eq, Nat.dvd_iff_mod_eq_zero]
  rw [whole, Finite64.isNonNegative, decide_eq_true_eq]
  constructor
  · intro same
    have same : x.signedUnits = (n * unitsPerOne : Nat) := same
    have notNegative : 0 ≤ x.signedUnits := by omega
    have count : x.signedUnits.toNat = n * unitsPerOne := by omega
    have units : x.units = n * unitsPerOne := by omega
    refine ⟨notNegative, ?_, ?_⟩
    · rw [units]
      exact Nat.dvd_mul_left _ _
    · rw [count, Nat.mul_div_cancel n unit]
  · rintro ⟨notNegative, multiple, quotient⟩
    have count : x.signedUnits.toNat = x.units := by omega
    rw [count] at quotient
    have units : x.units = n * unitsPerOne := by
      rw [← quotient, Nat.div_mul_cancel multiple]
    show x.signedUnits = (n * unitsPerOne : Nat)
    omega

/-- A quotient that is small was not cut off. -/
theorem div_min_eq_iff {units length : Nat} (small : length < 2 ^ 64 - 1) :
    min units ((2 ^ 64 - 1) * unitsPerOne) / unitsPerOne = length ↔ units / unitsPerOne = length := by
  have unit := unitsPerOne_pos
  by_cases few : units ≤ (2 ^ 64 - 1) * unitsPerOne
  · rw [Nat.min_eq_left few]
  · have many : 2 ^ 64 - 1 ≤ units / unitsPerOne :=
      (Nat.le_div_iff_mul_le unit).2 (by omega)
    rw [Nat.min_eq_right (by omega), Nat.mul_div_cancel _ unit]
    omega

theorem toNat_lengthLimit : SchemaFields.lengthLimit.toNat = 2 ^ 63 - 1 := by
  decide +kernel

/-- A length that is small enough is read off a number exactly when the number is that
integer. -/
theorem isInteger_iff_lengthOf? {number : Number} {length : UInt64} (small : length.toNat < 2 ^ 64 - 1) :
    IsInteger length.toNat number ↔ SchemaFields.lengthOf? number = some length := by
  cases number with
  | integer value fits =>
      have bound : value.toNat < 2 ^ 64 := by
        obtain ⟨low, high⟩ := fits
        omega
      show value = length.toNat ↔ (if 0 ≤ value then some (UInt64.ofNat value.toNat) else none) = some length
      rw [Option.ite_none_right_eq_some, Option.some.injEq, ← UInt64.toNat_inj,
        UInt64.toNat_ofNat_of_lt' bound]
      omega
  | float x =>
      have cut : min x.signedUnits.toNat ((2 ^ 64 - 1) * unitsPerOne) / unitsPerOne < 2 ^ 64 := by
        have most := Nat.div_le_div_right (c := unitsPerOne)
          (Nat.min_le_right x.signedUnits.toNat ((2 ^ 64 - 1) * unitsPerOne))
        rw [Nat.mul_div_cancel _ unitsPerOne_pos] at most
        omega
      show _ ↔ (if (x.isNonNegative && x.isIntegral) = true then
        some (UInt64.ofNat (min x.signedUnits.toNat ((2 ^ 64 - 1) * unitsPerOne) / unitsPerOne))
        else none) = some length
      rw [Option.ite_none_right_eq_some, Option.some.injEq, ← UInt64.toNat_inj,
        UInt64.toNat_ofNat_of_lt' cut, div_min_eq_iff small, Bool.and_eq_true, and_assoc]
      exact isInteger_float_iff

theorem isLength_number_iff {number : Number} {length : UInt64} :
    IsLength (.number number) length ↔
      SchemaFields.lengthOf? number = some length ∧ length ≤ SchemaFields.lengthLimit := by
  rw [UInt64.le_iff_toNat_le, toNat_lengthLimit]
  constructor
  · rintro ⟨number', same, denoted, small⟩
    cases same
    exact ⟨(isInteger_iff_lengthOf? (by omega)).1 denoted, small⟩
  · rintro ⟨read, small⟩
    exact ⟨number, rfl, (isInteger_iff_lengthOf? (by omega)).2 read, small⟩

/-! ### Fields that are read -/

section Fields

variable {α : Type} {means : Json → α → Prop} {name : String} {fields : List (String × Json)}

theorem present?_eq_some_iff {value : Json} :
    SchemaFields.present? name fields = some value ↔ fields.lookup name = some value ∧ value ≠ .null := by
  unfold SchemaFields.present?
  split
  · rename_i null
    simp [null, eq_comm]
  · rename_i notNull
    refine ⟨fun present => ⟨present, ?_⟩, fun present => present.1⟩
    rintro rfl
    exact notNull present

theorem states_of_present?_eq_none (absent : SchemaFields.present? name fields = none)
    {found : Option α} :
    States means name fields found ↔ found = none := by
  constructor
  · intro states
    cases states with
    | nothing => rfl
    | something here notNull =>
        rw [present?_eq_some_iff.2 ⟨here, notNull⟩] at absent
        cases absent
  · intro nothing
    subst nothing
    refine .nothing fun value here => Classical.byContradiction fun notNull => ?_
    rw [present?_eq_some_iff.2 ⟨here, notNull⟩] at absent
    cases absent

theorem states_of_present?_eq_some {value : Json} (present : SchemaFields.present? name fields = some value)
    {found : Option α} : States means name fields found ↔ ∃ a, means value a ∧ some a = found := by
  obtain ⟨here, notNull⟩ := present?_eq_some_iff.1 present
  constructor
  · intro states
    cases states with
    | nothing absent => exact absurd (absent value here) notNull
    | something here' _ meaning =>
        rw [here] at here'
        cases here'
        exact ⟨_, meaning, rfl⟩
  · rintro ⟨a, meaning, rfl⟩
    exact .something here notNull meaning

/-- A reader that passes over what is not stated and reads the rest by its meaning finds
just what is stated. -/
theorem states_iff {found : Option α} {result : Except SchemaError (Option α)}
    (nothing : SchemaFields.present? name fields = none → result = .ok none)
    (something : ∀ value, SchemaFields.present? name fields = some value →
      (result = .ok found ↔ ∃ a, means value a ∧ some a = found)) :
    result = .ok found ↔ States means name fields found := by
  cases here : SchemaFields.present? name fields with
  | none =>
      rw [nothing here, states_of_present?_eq_none here, Except.ok.injEq]
      exact eq_comm
  | some value => rw [something value here, states_of_present?_eq_some here]

theorem length_eq_ok_iff {found : Option UInt64} :
    SchemaFields.length name fields = .ok found ↔ States IsLength name fields found := by
  refine states_iff (fun absent => ?_) fun value present => ?_
  · rw [SchemaFields.length, absent]
  · rw [SchemaFields.length, present]
    cases value with
    | number number =>
        simp only [isLength_number_iff]
        cases SchemaFields.lengthOf? number with
        | none => simp
        | some length =>
            by_cases small : length ≤ SchemaFields.lengthLimit
            · simp [small]
            · simp [small]
    | _ => simp [IsLength]

theorem number_eq_ok_iff {found : Option Binary64} :
    SchemaFields.number name fields = .ok found ↔ States IsDouble name fields found := by
  refine states_iff (fun absent => ?_) fun value present => ?_
  · rw [SchemaFields.number, absent]
  · rw [SchemaFields.number, present]
    cases value <;> simp [IsDouble]

theorem string_eq_ok_iff {found : Option String} :
    SchemaFields.string name fields = .ok found ↔ States IsString name fields found := by
  refine states_iff (fun absent => ?_) fun value present => ?_
  · rw [SchemaFields.string, absent]
  · rw [SchemaFields.string, present]
    cases value <;> simp [IsString]

theorem states_isNamed_iff {ofName : String → α} {found : Option α} :
    States (IsNamed ofName) name fields found ↔
      ∃ text, States IsString name fields text ∧ found = text.map ofName := by
  constructor
  · intro states
    cases states with
    | nothing absent => exact ⟨none, .nothing absent, rfl⟩
    | something present notNull meaning =>
        obtain ⟨text, same, named⟩ := meaning
        exact ⟨some text, .something present notNull same, congrArg some named⟩
  · rintro ⟨text, states, named⟩
    subst named
    cases states with
    | nothing absent => exact .nothing absent
    | something present notNull meaning => exact .something present notNull ⟨_, meaning, rfl⟩

theorem source_of_ofSource? {source : String} {pattern : Pattern}
    (compiled : Pattern.ofSource? source = some pattern) : pattern.source = source := by
  unfold Pattern.ofSource? at compiled
  split at compiled
  · cases compiled
    rfl
  · cases compiled

theorem pattern_eq_ok_iff {found : Option Pattern} :
    SchemaFields.pattern name fields = .ok found ↔ States IsPattern name fields found := by
  refine states_iff (fun absent => ?_) fun value present => ?_
  · rw [SchemaFields.pattern, SchemaFields.string, absent]
    rfl
  · rw [SchemaFields.pattern, SchemaFields.string, present]
    cases value with
    | string source =>
        dsimp only [bind, Except.bind]
        cases compiled : Pattern.ofSource? source with
        | none =>
            simp only [reduceCtorEq, IsPattern, Json.string.injEq, false_iff]
            rintro ⟨pattern, same, _⟩
            rw [same, SchemaFields.ofSource?_source pattern] at compiled
            cases compiled
        | some pattern =>
            have same : pattern.source = source := source_of_ofSource? compiled
            simp only [IsPattern, Json.string.injEq, Except.ok.injEq]
            constructor
            · intro here
              exact ⟨pattern, same.symm, here⟩
            · rintro ⟨pattern', same', here⟩
              rw [← here, Pattern.eq_of_source_eq (same.trans same')]
    | _ =>
        simp only [IsPattern, reduceCtorEq, false_and, exists_false, iff_false]
        intro impossible
        cases impossible

theorem elements?_eq_some_iff {read? : Json → Option α}
    (agree : ∀ value a, read? value = some a ↔ means value a) {elements : List Json} {values : List α} :
    SchemaFields.elements? read? elements = some values ↔ List.Forall₂ means elements values := by
  induction elements generalizing values with
  | nil =>
      rw [List.forall₂_nil_left_iff]
      simp [SchemaFields.elements?, eq_comm]
  | cons element rest ih =>
      rw [List.forall₂_cons_left_iff]
      unfold SchemaFields.elements?
      constructor
      · intro read
        split at read
        · rename_i value others readFirst readOthers
          cases read
          exact ⟨value, others, (agree element value).1 readFirst, ih.1 readOthers, rfl⟩
        · cases read
      · rintro ⟨value, others, first, rest, rfl⟩
        rw [(agree element value).2 first, ih.2 rest]

theorem strings_eq_ok_iff {found : Option (List String)} :
    SchemaFields.strings name fields = .ok found ↔ States (IsList IsString) name fields found := by
  have agree (value : Json) (text : String) :
      SchemaFields.string? value = some text ↔ IsString value text := by
    cases value <;> simp [SchemaFields.string?, IsString]
  refine states_iff (fun absent => ?_) fun value present => ?_
  · rw [SchemaFields.strings, absent]
  · rw [SchemaFields.strings, present]
    cases value with
    | array elements =>
        simp only [IsList, Json.array.injEq, exists_eq_left', ← elements?_eq_some_iff agree]
        cases SchemaFields.elements? SchemaFields.string? elements <;> simp
    | _ => simp [IsList]

theorem numbers_eq_ok_iff {found : Option (List Binary64)} :
    SchemaFields.numbers name fields = .ok found ↔ States (IsList IsDouble) name fields found := by
  have agree (value : Json) (x : Binary64) :
      SchemaFields.number? value = some x ↔ IsDouble value x := by
    cases value <;> simp [SchemaFields.number?, IsDouble, eq_comm]
  refine states_iff (fun absent => ?_) fun value present => ?_
  · rw [SchemaFields.numbers, absent]
  · rw [SchemaFields.numbers, present]
    cases value with
    | array elements =>
        simp only [IsList, Json.array.injEq, exists_eq_left', ← elements?_eq_some_iff agree]
        cases SchemaFields.elements? SchemaFields.number? elements <;> simp
    | _ => simp [IsList]

theorem properties_eq_ok_iff {found : List (String × Json)} :
    SchemaFields.properties name fields = .ok found ↔
      ∃ members, States IsObject name fields members ∧ found = members.getD [] := by
  unfold SchemaFields.properties
  cases here : SchemaFields.present? name fields with
  | none => simp [states_of_present?_eq_none here, eq_comm]
  | some value =>
      simp only [states_of_present?_eq_some here, IsObject]
      cases value <;> simp [eq_comm]

end Fields

/-! ### Nodes that are read -/

variable {fields : List (String × Json)}

theorem lengthBounds_eq_ok_iff {leastName mostName : String} {bounds : LengthBounds} :
    SchemaFields.lengthBounds leastName mostName fields = .ok bounds ↔
      StatesLengths leastName mostName fields bounds := by
  unfold SchemaFields.lengthBounds
  simp only [bind_eq_ok_iff, length_eq_ok_iff]
  constructor
  · rintro ⟨least, statesLeast, most, statesMost, rest⟩
    split at rest
    · split at rest
      · cases rest
      · rename_i notInverted
        cases rest
        refine ⟨statesLeast, statesMost, ?_⟩
        intro lo hi left right
        cases left
        cases right
        exact UInt64.not_lt.1 notInverted
    · rename_i notBoth
      cases rest
      exact ⟨statesLeast, statesMost, fun lo hi left right => absurd right (notBoth lo hi left)⟩
  · rintro ⟨least, most, ordered⟩
    refine ⟨bounds.least, least, bounds.most, most, ?_⟩
    split
    · rename_i lo hi isLeast isMost
      rw [if_neg (UInt64.not_lt.2 (ordered lo hi isLeast isMost))]
    · rfl

theorem isFinite_of_states {name : String} {x : Binary64} (states : States IsDouble name fields (some x)) :
    x.isFinite = true := by
  cases states with
  | something present notNull meaning =>
      obtain ⟨number, _, same⟩ := meaning
      rw [same]
      exact SchemaFields.isFinite_toBinary64 number

theorem numbersOrdered_iff {least most : Option Binary64} (statesLeast : States IsDouble "min" fields least)
    (statesMost : States IsDouble "max" fields most) :
    ShallowNode.NumbersOrdered least most ↔
      ∀ lo hi, least = some lo → most = some hi → lo.le hi = true := by
  constructor
  · intro ordered lo hi left right
    subst left
    subst right
    exact (Binary64.le_iff_lt_eq_false (isFinite_of_states statesLeast)
      (isFinite_of_states statesMost)).2 (ordered lo hi rfl rfl)
  · intro ordered lo hi left right
    subst left
    subst right
    exact (Binary64.le_iff_lt_eq_false (isFinite_of_states statesLeast)
      (isFinite_of_states statesMost)).1 (ordered lo hi rfl rfl)

theorem tag_eq_ok_iff {tag : String} : SchemaFields.tag fields = .ok tag ↔ HasTag fields tag := by
  unfold SchemaFields.tag HasTag
  cases fields.lookup "type" with
  | none =>
      cases fields.lookup "kind" with
      | none => simp
      | some value => cases value <;> simp
  | some value => cases value <;> simp

theorem read_of_hasTag {tag : String} (tagged : HasTag fields tag) :
    ShallowNode.read (.object fields) = ShallowNode.readTagged tag fields := by
  unfold ShallowNode.read
  dsimp only
  rw [tag_eq_ok_iff.2 tagged]
  rfl

theorem readString_eq_ok_iff {node : ShallowNode} :
    ShallowNode.readString fields = .ok node ↔
      ∃ constraints, StatesString fields constraints ∧ node = .leaf (.string constraints) := by
  simp only [ShallowNode.readString_eq_ok_iff, lengthBounds_eq_ok_iff, pattern_eq_ok_iff,
    strings_eq_ok_iff, string_eq_ok_iff]
  constructor
  · rintro ⟨length, pattern, members, format, statesLength, statesPattern, statesMembers, statesFormat, same⟩
    exact ⟨_, ⟨statesLength, statesPattern, statesMembers,
      states_isNamed_iff.2 ⟨format, statesFormat, rfl⟩⟩, same⟩
  · rintro ⟨⟨length, pattern, members, format⟩, states, same⟩
    obtain ⟨name, statesName, named⟩ := states_isNamed_iff.1 states.format
    cases named
    exact ⟨length, pattern, members, name, states.length, states.pattern, states.members, statesName, same⟩

theorem readNumber_eq_ok_iff {node : ShallowNode} :
    ShallowNode.readNumber fields = .ok node ↔
      ∃ constraints, StatesNumber fields constraints ∧ node = .leaf (.number constraints) := by
  simp only [ShallowNode.readNumber_eq_ok_iff, number_eq_ok_iff, numbers_eq_ok_iff]
  constructor
  · rintro ⟨least, most, members, statesLeast, statesMost, ordered, statesMembers, same⟩
    exact ⟨_, ⟨statesLeast, statesMost, (numbersOrdered_iff statesLeast statesMost).1 ordered,
      statesMembers⟩, same⟩
  · rintro ⟨⟨least, most, members⟩, states, same⟩
    exact ⟨least, most, members, states.least, states.most,
      (numbersOrdered_iff states.least states.most).2 states.ordered, states.members, same⟩

/-- A node is read as what it is by itself. -/
theorem read_eq_ok_iff {stored : Json} {node : ShallowNode} :
    ShallowNode.read stored = .ok node ↔ ∃ fields, stored = .object fields ∧ IsNode fields node := by
  constructor
  · intro found
    unfold ShallowNode.read at found
    split at found
    · rename_i fields
      refine ⟨fields, rfl, ?_⟩
      obtain ⟨tag, tagged, found⟩ := bind_eq_ok_iff.1 found
      rw [tag_eq_ok_iff] at tagged
      unfold ShallowNode.readTagged at found
      split at found
      · obtain ⟨constraints, states, rfl⟩ := readString_eq_ok_iff.1 found
        exact .string tagged states
      · obtain ⟨constraints, states, rfl⟩ := readNumber_eq_ok_iff.1 found
        exact .number tagged states
      · cases found
        exact .boolean tagged
      · cases found
        exact .null tagged
      · obtain ⟨format, readFormat, rfl⟩ := ShallowNode.readId_eq_ok_iff.1 found
        exact .id tagged (states_isNamed_iff.2 ⟨format, string_eq_ok_iff.1 readFormat, rfl⟩)
      · obtain ⟨items, count, present, readCount, rfl⟩ := ShallowNode.readArray_eq_ok_iff.1 found
        obtain ⟨here, notNull⟩ := present?_eq_some_iff.1 present
        exact .array tagged here notNull (lengthBounds_eq_ok_iff.1 readCount)
      · obtain ⟨properties, required, readOnes, readNames, rfl⟩ :=
          ShallowNode.readObject_eq_ok_iff.1 found
        obtain ⟨members, states, rfl⟩ := properties_eq_ok_iff.1 readOnes
        exact .object tagged states (strings_eq_ok_iff.1 readNames)
      · cases found
    · cases found
  · rintro ⟨fields, rfl, node⟩
    cases node with
    | string tagged states =>
        exact bind_eq_ok_iff.2 ⟨"string", tag_eq_ok_iff.2 tagged, readString_eq_ok_iff.2 ⟨_, states, rfl⟩⟩
    | number tagged states =>
        exact bind_eq_ok_iff.2 ⟨"number", tag_eq_ok_iff.2 tagged, readNumber_eq_ok_iff.2 ⟨_, states, rfl⟩⟩
    | boolean tagged => exact bind_eq_ok_iff.2 ⟨"boolean", tag_eq_ok_iff.2 tagged, rfl⟩
    | null tagged => exact bind_eq_ok_iff.2 ⟨"null", tag_eq_ok_iff.2 tagged, rfl⟩
    | id tagged states =>
        obtain ⟨format, statesFormat, rfl⟩ := states_isNamed_iff.1 states
        exact bind_eq_ok_iff.2 ⟨"id", tag_eq_ok_iff.2 tagged,
          ShallowNode.readId_eq_ok_iff.2 ⟨format, string_eq_ok_iff.2 statesFormat, rfl⟩⟩
    | array tagged present notNull states =>
        exact bind_eq_ok_iff.2 ⟨"array", tag_eq_ok_iff.2 tagged,
          ShallowNode.readArray_eq_ok_iff.2 ⟨_, _, present?_eq_some_iff.2 ⟨present, notNull⟩,
            lengthBounds_eq_ok_iff.2 states, rfl⟩⟩
    | object tagged members names =>
        exact bind_eq_ok_iff.2 ⟨"object", tag_eq_ok_iff.2 tagged,
          ShallowNode.readObject_eq_ok_iff.2 ⟨_, _, properties_eq_ok_iff.2 ⟨_, members, rfl⟩,
            strings_eq_ok_iff.2 names, rfl⟩⟩

/-! ### Trees that are read -/

open Schema (PropertiesRead readNode)

theorem propertiesRead_iff {levels : Nat} {read : Json → Except SchemaError Schema}
    (agree : ∀ stored schema, read stored = .ok schema ↔ Denotes levels stored schema)
    {stored : List (String × Json)} {schemas : List (String × Schema)} :
    PropertiesRead read stored schemas ↔ DenoteProperties levels stored schemas := by
  constructor
  · intro found
    induction found with
    | nil => exact .nil
    | cons first others ih => exact .cons ((agree _ _).1 first) ih
  · intro denoted
    induction stored generalizing schemas with
    | nil =>
        cases denoted
        exact .nil
    | cons property rest ih =>
        cases denoted with
        | cons first others => exact .cons ((agree _ _).2 first) (ih others)

/-- By induction on the levels, a tree is read as what it denotes. -/
theorem readNode_eq_ok_iff {limit levels : Nat} {stored : Json} {schema : Schema} :
    readNode limit levels stored = .ok schema ↔ Denotes levels stored schema := by
  induction levels generalizing stored schema with
  | zero =>
      constructor
      · intro impossible
        cases impossible
      · intro impossible
        cases impossible
  | succ levels ih =>
      have properties := @propertiesRead_iff levels (readNode limit levels) fun _ _ => ih
      rw [Schema.readNode_succ_eq_ok_iff]
      constructor
      · rintro ⟨node, found, children⟩
        obtain ⟨fields, rfl, own⟩ := read_eq_ok_iff.1 found
        cases children with
        | leaf => exact .leaf own
        | array count readItems => exact .array own (ih.1 readItems)
        | object required readOnes => exact .object own (properties.1 readOnes)
      · intro denoted
        cases denoted with
        | leaf own => exact ⟨_, read_eq_ok_iff.2 ⟨_, rfl, own⟩, .leaf _⟩
        | array own inner => exact ⟨_, read_eq_ok_iff.2 ⟨_, rfl, own⟩, .array _ (ih.2 inner)⟩
        | object own inner => exact ⟨_, read_eq_ok_iff.2 ⟨_, rfl, own⟩, .object _ (properties.2 inner)⟩

theorem exists_denoteProperties_iff {levels : Nat} {stored : List (String × Json)} :
    (∃ schemas, DenoteProperties levels stored schemas) ↔
      ∀ name child, (name, child) ∈ stored → ∃ schema, Denotes levels child schema := by
  induction stored with
  | nil =>
      constructor
      · intro _ name child impossible
        cases impossible
      · intro _
        exact ⟨[], .nil⟩
  | cons property rest ih =>
      obtain ⟨name, child⟩ := property
      constructor
      · rintro ⟨schemas, denoted⟩ name' child' inside
        cases denoted with
        | cons first others =>
            rcases List.mem_cons.1 inside with same | later
            · cases same
              exact ⟨_, first⟩
            · exact ih.1 ⟨_, others⟩ name' child' later
      · intro all
        obtain ⟨schema, first⟩ := all name child List.mem_cons_self
        obtain ⟨schemas, others⟩ :=
          ih.2 fun name' child' later => all name' child' (List.mem_cons_of_mem _ later)
        exact ⟨(name, schema) :: schemas, .cons first others⟩

/-- Every tree denotes a schema, and only trees do. -/
theorem exists_denotes_iff_isTree {levels : Nat} {stored : Json} :
    (∃ schema, Denotes levels stored schema) ↔ IsTree levels stored := by
  induction levels generalizing stored with
  | zero =>
      constructor
      · rintro ⟨schema, impossible⟩
        cases impossible
      · intro impossible
        cases impossible
  | succ levels ih =>
      constructor
      · rintro ⟨schema, denoted⟩
        cases denoted with
        | leaf own => exact .leaf own
        | array own inner => exact .array own (ih.1 ⟨_, inner⟩)
        | object own inner =>
            exact .object own fun name child inside =>
              ih.1 (exists_denoteProperties_iff.1 ⟨_, inner⟩ name child inside)
      · intro tree
        cases tree with
        | leaf own => exact ⟨_, .leaf own⟩
        | array own inner =>
            obtain ⟨schema, denoted⟩ := ih.2 inner
            exact ⟨_, .array own denoted⟩
        | object own inner =>
            obtain ⟨schemas, denoted⟩ :=
              exists_denoteProperties_iff.2 fun name child inside => ih.2 (inner name child inside)
            exact ⟨_, .object own denoted⟩

/-- Under every limit, reading a stored schema succeeds exactly for the trees of no more
levels than the limit, and finds exactly what they denote. -/
theorem read_eq_ok_iff_denotes (limit : Nat) (stored : Json) :
    ((∃ schema, Schema.read limit stored = .ok schema) ↔ IsTree limit stored) ∧
      ∀ schema, Schema.read limit stored = .ok schema ↔ Denotes limit stored schema := by
  have agree (schema : Schema) : Schema.read limit stored = .ok schema ↔ Denotes limit stored schema :=
    readNode_eq_ok_iff
  refine ⟨?_, agree⟩
  rw [← exists_denotes_iff_isTree]
  exact exists_congr agree

end StoredSchema
end CompactSchema
