import CompactSchema.Proofs.Preorder
import CompactSchema.Proofs.Schema.Order
import CompactSchema.Proofs.Validation.Conformance
import CompactSchema.Proofs.Validation.Reports

/-
Which violation is reported.

A schema is held against a value by following both at once: a property into the member of
its name, the schema of elements into each element.  A violation is a value that does not
meet its own node, or a required name without a member.  A check reports the violation
that comes first when each node is taken before its children, required names in the order
of the list before properties, properties in the order of their names and elements in
their order.
-/

namespace CompactSchema

/-- A turn that a check takes at a value: to the question whether there is a member of a
required name, which has a rank in its list, or into a part. -/
inductive CheckTurn where
  | required (rank : Nat) (name : String)
  | part (step : DataStep)

namespace CheckTurn

/-- The turn as a step of a location. -/
def step : CheckTurn → DataStep
  | .required _ name => .key name
  | .part step => step

/-- The order of turns at one value. -/
inductive Before : CheckTurn → CheckTurn → Prop
  | required {rank rank' : Nat} (less : rank < rank') (name name' : String) :
      Before (.required rank name) (.required rank' name')
  | part (rank : Nat) (name : String) (step : DataStep) : Before (.required rank name) (.part step)
  | key {name name' : String} (less : name < name') : Before (.part (.key name)) (.part (.key name'))
  | index {i i' : Nat} (less : i < i') : Before (.part (.index i)) (.part (.index i'))

theorem Before.asymm {turn turn' : CheckTurn} (first : Before turn turn') : ¬ Before turn' turn := by
  intro second
  cases first with
  | required less =>
      cases second with
      | required less' => omega
  | part => cases second
  | key less =>
      cases second with
      | key less' => exact String.lt_asymm less less'
  | index less =>
      cases second with
      | index less' => omega

def location (turns : List CheckTurn) : List DataStep := turns.map step

def Names (turns : List CheckTurn) (violation : Violation) : Prop := violation.steps = location turns

end CheckTurn

namespace Schema

/-- The value is of the right type and meets the constraints of the node itself.  Required
names and parts are not looked at. -/
def MeetsItself : Schema → Json → Prop
  | .array _ count, value => ∃ elements, value = .array elements ∧ count.Allow elements.length
  | .object _ _, value => ∃ members, value = .object members
  | schema, value => schema.Conforms value

/-- A part of a value, with the child of the schema that stands for it. -/
inductive Part : Schema → Json → DataStep → Schema → Json → Prop
  | element {items : Schema} {count : LengthBounds} {elements : List Json} {i : Nat} {element : Json}
      (inside : elements[i]? = some element) :
      Part (.array items count) (.array elements) (.index i) items element
  | member {properties : List (String × Schema)} {required : List String} {members : List (String × Json)}
      {name : String} {child : Schema} {value : Json} (declared : properties.lookup name = some child)
      (present : members.lookup name = some value) :
      Part (.object properties required) (.object members) (.key name) child value

/-- Schema and value, followed along some turns, arrive at a violation. -/
inductive Violates : Schema → Json → List CheckTurn → Prop
  | own {schema : Schema} {value : Json} (unmet : ¬ schema.MeetsItself value) : Violates schema value []
  | missing {properties : List (String × Schema)} {required : List String} {members : List (String × Json)}
      {rank : Nat} {name : String} (asked : required[rank]? = some name)
      (absent : members.lookup name = none) :
      Violates (.object properties required) (.object members) [.required rank name]
  | within {schema child : Schema} {value part : Json} {step : DataStep} {turns : List CheckTurn}
      (first : Part schema value step child part) (rest : Violates child part turns) :
      Violates schema value (.part step :: turns)

/-- A schema and a value whose parts are followed. -/
def Opens : Schema → Json → Prop
  | .array _ _, .array _ | .object _ _, .object _ => True
  | _, _ => False

/-- Where no part is followed, only the value itself can be at fault. -/
theorem violates_iff_of_not_opens {schema : Schema} {value : Json} (closed : ¬ schema.Opens value)
    {turns : List CheckTurn} :
    schema.Violates value turns ↔ turns = [] ∧ ¬ schema.MeetsItself value := by
  constructor
  · intro violates
    cases violates with
    | own unmet => exact ⟨rfl, unmet⟩
    | missing => exact absurd trivial closed
    | within first =>
        cases first with
        | element => exact absurd trivial closed
        | member => exact absurd trivial closed
  · rintro ⟨rfl, unmet⟩
    exact .own unmet

theorem violates_array_iff {items : Schema} {count : LengthBounds} {elements : List Json}
    {turns : List CheckTurn} :
    (Schema.array items count).Violates (.array elements) turns ↔
      (turns = [] ∧ ¬ count.Allow elements.length) ∨
        ∃ i element rest, elements[i]? = some element ∧ turns = .part (.index i) :: rest ∧
          items.Violates element rest := by
  constructor
  · intro violates
    cases violates with
    | own unmet =>
        refine .inl ⟨rfl, fun allowed => unmet ⟨elements, rfl, allowed⟩⟩
    | within first rest =>
        cases first with
        | element inside => exact .inr ⟨_, _, _, inside, rfl, rest⟩
  · rintro (⟨rfl, unmet⟩ | ⟨i, element, rest, inside, rfl, violates⟩)
    · refine .own ?_
      rintro ⟨elements', same, allowed⟩
      cases same
      exact unmet allowed
    · exact .within (.element inside) violates

theorem violates_object_iff {properties : List (String × Schema)} (increase : Json.NamesIncrease properties)
    {required : List String} {members : List (String × Json)} {turns : List CheckTurn} :
    (Schema.object properties required).Violates (.object members) turns ↔
      (∃ rank name, required[rank]? = some name ∧ turns = [.required rank name] ∧
        members.lookup name = none) ∨
        ∃ name child value rest, (name, child) ∈ properties ∧ members.lookup name = some value ∧
          turns = .part (.key name) :: rest ∧ child.Violates value rest := by
  constructor
  · intro violates
    cases violates with
    | own unmet => exact absurd ⟨members, rfl⟩ unmet
    | @missing _ _ _ rank name asked absent => exact .inl ⟨rank, name, asked, rfl, absent⟩
    | within first rest =>
        cases first with
        | member declared present =>
            exact .inr ⟨_, _, _, _, (Json.lookup_eq_some_iff_mem increase).1 declared, present, rfl, rest⟩
  · rintro (⟨rank, name, asked, rfl, absent⟩ | ⟨name, child, value, rest, declared, present, rfl, violates⟩)
    · exact .missing asked absent
    · exact .within (.member ((Json.lookup_eq_some_iff_mem increase).2 declared) present) violates

end Schema

namespace Verdict

def IsHere (verdict : Verdict) : Prop := ∀ violation, verdict = .error violation → violation.steps = []

theorem isHere_pass : pass.IsHere := Reports.pass

theorem isHere_fail (problem : Problem) : (fail problem).IsHere := Reports.fail rfl

end Verdict

namespace Check

theorem isHere_count (bounds : LengthBounds) (items : Nat) : (count bounds items).IsHere :=
  count_reports fun _ _ => rfl

theorem isHere_string (constraints : StringConstraints) (text : String) :
    (string constraints text).IsHere :=
  string_reports fun _ _ => rfl

theorem isHere_number (constraints : NumberConstraints) (value : Binary64) :
    (number constraints value).IsHere :=
  number_reports fun _ _ => rfl

theorem isHere_id (format : Option IdFormat) (value : Json) : (id format value).IsHere :=
  id_reports fun _ _ => rfl

end Check

section Order

open CheckTurn (Before Names)

/-- A check of the value itself reports it if it does not pass. -/
theorem reportsFirst_of_isHere {verdict : Verdict} {meets : Prop} (here : verdict.IsHere)
    (passes : verdict.isPass = true ↔ meets) :
    ReportsFirst Before Names (fun turns => turns = [] ∧ ¬ meets) verdict := by
  cases verdict with
  | error violation =>
      have unmet : ¬ meets := by
        rw [← passes, Verdict.isPass_error]
        exact Bool.false_ne_true
      exact .root ⟨rfl, unmet⟩ (here violation rfl)
  | ok passed =>
      refine .ok ?_
      rintro turns ⟨_, unmet⟩
      exact unmet (passes.1 rfl)

theorem within_reportsFirst {verdict : Verdict} {faulty : List CheckTurn → Prop}
    (reports : ReportsFirst Before Names faulty verdict) (step : DataStep) (schemaStep : SchemaStep) :
    ReportsFirst Before Names (fun turns => ∃ rest, turns = .part step :: rest ∧ faulty rest)
      (Verdict.within step schemaStep verdict) := by
  refine reports.below fun turns violation named => ?_
  have deeper : step :: violation.steps = step :: CheckTurn.location turns := congrArg (step :: ·) named
  exact deeper

namespace Check

theorem required_reportsFirst (members : List (String × Json)) (names : List String) (start : Nat) :
    ReportsFirst Before Names
      (fun turns => ∃ rank name, names[rank]? = some name ∧ turns = [.required (rank + start) name] ∧
        members.lookup name = none)
      (required members names) := by
  -- The rank of a name counts from the head of the whole list, `start` names before this one.
  induction names generalizing start with
  | nil =>
      refine .ok ?_
      rintro turns ⟨rank, name, impossible, _⟩
      cases impossible
  | cons first rest ih =>
      unfold required
      cases present : members.lookup first with
      | some value =>
          refine (ih (start + 1)).congr fun turns => ?_
          constructor
          · rintro ⟨rank, name, asked, rfl, absent⟩
            exact ⟨rank + 1, name, asked, by rw [Nat.add_right_comm, Nat.add_assoc], absent⟩
          · rintro ⟨rank, name, asked, rfl, absent⟩
            cases rank with
            | zero =>
                cases asked
                rw [present] at absent
                cases absent
            | succ rank => exact ⟨rank, name, asked, by rw [Nat.add_right_comm, Nat.add_assoc], absent⟩
      | none =>
          have named : Names [.required (0 + start) first] ⟨[.key first], .missing⟩ := rfl
          refine .error named ⟨⟨0, first, rfl, rfl, present⟩, ?_⟩
          rintro _ ⟨rank, name, asked, rfl, absent⟩
          cases rank with
          | zero =>
              cases asked
              exact .inl rfl
          | succ rank => exact .inr (.rel (.required (by omega) _ _))

theorem elements_reportsFirst {check : Json → Verdict} {faulty : Json → List CheckTurn → Prop}
    (reports : ∀ value, ReportsFirst Before Names (faulty value) (check value)) (start : Nat)
    (values : List Json) :
    ReportsFirst Before Names
      (fun turns => ∃ i value rest, values[i]? = some value ∧ turns = .part (.index (i + start)) :: rest ∧
        faulty value rest)
      (elements check start values) := by
  induction values generalizing start with
  | nil =>
      refine .ok ?_
      rintro turns ⟨i, value, rest, impossible, _⟩
      cases impossible
  | cons value others ih =>
      have first := within_reportsFirst (reports value) (.index start) .items
      refine (first.bind (fun _ _ => ih (start + 1)) ?_).congr fun turns => ?_
      · rintro _ _ ⟨rest, rfl, _⟩ ⟨i, value', rest', _, rfl, _⟩
        exact .rel (.index (by omega))
      · constructor
        · rintro (⟨rest, rfl, there⟩ | ⟨i, value', rest, inside, rfl, there⟩)
          · exact ⟨0, value, rest, rfl, by rw [Nat.zero_add], there⟩
          · exact ⟨i + 1, value', rest, inside, by rw [Nat.add_right_comm, Nat.add_assoc], there⟩
        · rintro ⟨i, value', rest, inside, rfl, there⟩
          cases i with
          | zero =>
              cases inside
              exact .inl ⟨rest, by rw [Nat.zero_add], there⟩
          | succ i => exact .inr ⟨i, value', rest, inside, by rw [Nat.add_right_comm, Nat.add_assoc], there⟩

theorem property_reportsFirst {check : Json → Verdict} {faulty : Json → List CheckTurn → Prop}
    (reports : ∀ value, ReportsFirst Before Names (faulty value) (check value))
    (members : List (String × Json)) (name : String) :
    ReportsFirst Before Names
      (fun turns => ∃ rest, turns = .part (.key name) :: rest ∧
        ∃ value, members.lookup name = some value ∧ faulty value rest)
      (property check members name) := by
  unfold property
  cases present : members.lookup name with
  | none =>
      refine .ok ?_
      rintro turns ⟨rest, _, value, impossible, _⟩
      cases impossible
  | some value =>
      refine (within_reportsFirst (reports value) (.key name) (.property name)).congr fun turns => ?_
      simp only [Option.some.injEq, exists_eq_left']

end Check

namespace Schema

theorem isHere_check_of_not_opens {schema : Schema} {value : Json} (closed : ¬ schema.Opens value) :
    (schema.check value).IsHere := by
  cases schema with
  | string constraints =>
      unfold check
      split
      · exact Check.isHere_string _ _
      · exact Verdict.isHere_fail _
  | number constraints =>
      unfold check
      split
      · exact Check.isHere_number _ _
      · exact Verdict.isHere_fail _
  | boolean =>
      unfold check
      split
      · exact Verdict.isHere_pass
      · exact Verdict.isHere_fail _
  | null =>
      unfold check
      split
      · exact Verdict.isHere_pass
      · exact Verdict.isHere_fail _
  | array items count =>
      unfold check
      split
      · exact absurd trivial closed
      · exact Verdict.isHere_fail _
  | object properties required =>
      unfold check
      split
      · exact absurd trivial closed
      · exact Verdict.isHere_fail _
  | id format => exact Check.isHere_id format value

theorem check_isPass_iff_of_not_opens {schema : Schema} {value : Json} (closed : ¬ schema.Opens value) :
    (schema.check value).isPass = true ↔ schema.MeetsItself value := by
  rw [check_isPass_iff]
  cases schema with
  | array items count =>
      cases value with
      | array elements => exact absurd trivial closed
      | _ => simp [Conforms, MeetsItself]
  | object properties required =>
      cases value with
      | object members => exact absurd trivial closed
      | _ => simp [Conforms, MeetsItself]
  | _ => rfl

theorem check_reportsFirst_of_not_opens {schema : Schema} {value : Json} (closed : ¬ schema.Opens value) :
    ReportsFirst Before Names (schema.Violates value) (schema.check value) := by
  have own := reportsFirst_of_isHere (isHere_check_of_not_opens closed) (check_isPass_iff_of_not_opens closed)
  exact own.congr fun _ => (violates_iff_of_not_opens closed).symm

mutual

theorem check_reportsFirst (schema : Schema) (ordered : schema.Ordered) (value : Json) :
    ReportsFirst Before Names (schema.Violates value) (schema.check value) := by
  cases schema with
  | array items count =>
      cases value with
      | array elements =>
          have own := reportsFirst_of_isHere (Check.isHere_count count elements.length)
            (Check.count_isPass_iff count elements.length)
          have parts := Check.elements_reportsFirst (check_reportsFirst items ordered) 0 elements
          refine (own.bind (fun _ _ => parts) ?_).congr fun _ => violates_array_iff.symm
          -- The count is a matter of the array itself, whose place comes before its elements.
          rintro _ _ ⟨rfl, _⟩ ⟨i, element, rest, _, rfl, _⟩
          exact .nil
      | _ => exact check_reportsFirst_of_not_opens not_false
  | object properties required =>
      cases value with
      | object members =>
          have own := Check.required_reportsFirst members required 0
          have parts := checkProperties_reportsFirst properties ordered.1 ordered.2 members
          refine (own.bind (fun _ _ => parts) ?_).congr fun _ => (violates_object_iff ordered.1).symm
          rintro _ _ ⟨rank, name, _, rfl, _⟩ ⟨name', child, value, rest, _, _, rfl, _⟩
          exact .rel (.part _ _ _)
      | _ => exact check_reportsFirst_of_not_opens not_false
  | _ => exact check_reportsFirst_of_not_opens not_false

theorem checkProperties_reportsFirst (properties : List (String × Schema))
    (increase : Json.NamesIncrease properties) (ordered : PropertiesOrdered properties)
    (members : List (String × Json)) :
    ReportsFirst Before Names
      (fun turns => ∃ name child value rest, (name, child) ∈ properties ∧ members.lookup name = some value ∧
        turns = .part (.key name) :: rest ∧ child.Violates value rest)
      (checkProperties properties members) := by
  cases properties with
  | nil =>
      refine .ok ?_
      rintro turns ⟨name, child, value, rest, impossible, _⟩
      cases impossible
  | cons property others =>
      obtain ⟨name, child⟩ := property
      obtain ⟨less, increase⟩ := List.pairwise_cons.1 increase
      have first := Check.property_reportsFirst (check_reportsFirst child ordered.1) members name
      have later := checkProperties_reportsFirst others increase ordered.2 members
      refine (first.bind (fun _ _ => later) ?_).congr fun turns => ?_
      · -- All below one property comes before all below the next, however deep it is.
        rintro _ _ ⟨rest, rfl, _⟩ ⟨name', child', value', rest', inside, _, rfl, _⟩
        exact .rel (.key (less _ inside))
      · constructor
        · rintro (⟨rest, rfl, value, present, violates⟩ | ⟨name', child', value, rest, inside, present, rfl, violates⟩)
          · exact ⟨name, child, value, rest, List.mem_cons_self, present, rfl, violates⟩
          · exact ⟨name', child', value, rest, List.mem_cons_of_mem _ inside, present, rfl, violates⟩
        · rintro ⟨name', child', value, rest, inside, present, rfl, violates⟩
          rcases List.mem_cons.1 inside with same | later
          · cases same
            exact .inl ⟨rest, rfl, value, present, violates⟩
          · exact .inr ⟨name', child', value, rest, later, present, rfl, violates⟩

end

/-- A check that fails names the location of a violation, before which there is none and
after which all others are.  It passes exactly when there is no violation at all. -/
theorem check_error_is_first_violation (schema : Schema) (ordered : schema.Ordered) (value : Json) :
    (∀ violation, schema.check value = .error violation →
      ∃ turns, violation.path = dataPath (CheckTurn.location turns) ∧ schema.Violates value turns ∧
        (∀ earlier, List.Lex Before earlier turns → ¬ schema.Violates value earlier) ∧
        ∀ other, schema.Violates value other → other = turns ∨ List.Lex Before turns other) ∧
    (schema.check value = .ok () ↔ ∀ turns, ¬ schema.Violates value turns) := by
  have reports := check_reportsFirst schema ordered value
  constructor
  · intro violation failed
    rw [failed] at reports
    obtain ⟨turns, named, first⟩ := reports.exists_first
    refine ⟨turns, congrArg dataPath named, first.here, ?_, first.least⟩
    intro earlier precedes
    exact first.not_faulty_of_lex Before.asymm precedes
  · rw [← not_exists, ← reports.exists_error_iff]
    cases schema.check value with
    | ok passed => simp
    | error violation => simp

/-- Of a tag that is too short, a tag that is no text and a flag that is none, the short
tag comes first. -/
theorem check_error_is_short_tag :
    ∃ turns, "$.tags[1]" = dataPath (CheckTurn.location turns) ∧
      (Schema.object [("tags", .array (.string { length := { least := some 2 } }) {}), ("urgent", .boolean)]
        ["tags"]).Violates
        (.object [("tags", .array [.string "ab", .string "c", .null]), ("urgent", .null)]) turns ∧
      ∀ earlier, List.Lex Before earlier turns →
        ¬ (Schema.object [("tags", .array (.string { length := { least := some 2 } }) {}),
          ("urgent", .boolean)] ["tags"]).Violates
          (.object [("tags", .array [.string "ab", .string "c", .null]), ("urgent", .null)]) earlier := by
  have ordered : (Schema.object [("tags", .array (.string { length := { least := some 2 } }) {}),
      ("urgent", .boolean)] ["tags"]).Ordered := by
    simp only [Ordered, PropertiesOrdered, Json.NamesIncrease]
    decide
  have failed : (Schema.object [("tags", .array (.string { length := { least := some 2 } }) {}),
      ("urgent", .boolean)] ["tags"]).check
      (.object [("tags", .array [.string "ab", .string "c", .null]), ("urgent", .null)]) =
      .error ⟨[.key "tags", .index 1], .tooShort 2 1⟩ := by
    rfl
  obtain ⟨turns, path, violates, none, _⟩ :=
    (check_error_is_first_violation _ ordered _).1 _ failed
  exact ⟨turns, path, violates, none⟩

end Schema

end Order

end CompactSchema
