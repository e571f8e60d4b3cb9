import CompactSchema.Proofs.Preorder
import CompactSchema.Proofs.Schema.Order
import CompactSchema.Proofs.Schema.OwnError

/-
Which node a schema that cannot be read is blamed on.

The nodes of a stored schema are the root and the children of every node that can be read
by itself.  A node is broken if it lies below the limit of levels or cannot be read by
itself.  Reading reports the first broken node in pre-order, where properties go by the
order of their names, and the error says where that node is.
-/

namespace CompactSchema

namespace SchemaStep

/-- The order of the steps to the children of one node. -/
inductive Before : SchemaStep → SchemaStep → Prop
  | property {name name' : String} (less : name < name') : Before (.property name) (.property name')

theorem Before.asymm {step step' : SchemaStep} (first : Before step step') : ¬ Before step' step := by
  intro second
  cases first with
  | property less =>
      cases second with
      | property less' => exact String.lt_asymm less less'

end SchemaStep

/-- The error of a node seen from the root that some steps lead from. -/
def SchemaError.seenFrom (steps : List SchemaStep) (error : SchemaError) : SchemaError :=
  steps.foldr SchemaError.within error

namespace SchemaError

theorem seenFrom_unsupportedType (steps : List SchemaStep) (tag : String) :
    (unsupportedType tag).seenFrom steps = .unsupportedType tag := by
  induction steps with
  | nil => rfl
  | cons step rest ih =>
      have inner : seenFrom (step :: rest) (unsupportedType tag) =
          (seenFrom rest (unsupportedType tag)).within step := rfl
      rw [inner, ih]
      rfl

theorem seenFrom_malformed (steps : List SchemaStep) (field : Option String) (defect : Defect) :
    (malformed { steps := [], field } defect).seenFrom steps = .malformed { steps, field } defect := by
  induction steps with
  | nil => rfl
  | cons step rest ih =>
      have inner : seenFrom (step :: rest) (malformed { steps := [], field } defect) =
          (seenFrom rest (malformed { steps := [], field } defect)).within step := rfl
      rw [inner, ih]
      rfl

theorem seenFrom_atNode (steps : List SchemaStep) (defect : Defect) :
    (atNode defect).seenFrom steps = .malformed { steps } defect :=
  seenFrom_malformed steps none defect

theorem seenFrom_atField (steps : List SchemaStep) (name : String) (defect : Defect) :
    (atField name defect).seenFrom steps = .malformed { steps, field := some name } defect :=
  seenFrom_malformed steps (some name) defect

end SchemaError

namespace StoredSchema

open SchemaStep (Before)

/-- A child of a stored node that can be read by itself. -/
inductive Child : Json → SchemaStep → Json → Prop
  | items {stored items : Json} {count : LengthBounds}
      (node : ShallowNode.read stored = .ok (.array items count)) : Child stored .items items
  | property {stored child : Json} {properties : List (String × Json)} {required : List String}
      {name : String} (node : ShallowNode.read stored = .ok (.object properties required))
      (declared : (name, child) ∈ properties) : Child stored (.property name) child

/-- A node of a stored schema by the steps to it.  Nodes below the limit of levels count;
each of them comes after the node at the limit that it is below. -/
inductive Node : Json → List SchemaStep → Json → Prop
  | root (stored : Json) : Node stored [] stored
  | next {stored child node : Json} {step : SchemaStep} {steps : List SchemaStep}
      (first : Child stored step child) (rest : Node child steps node) : Node stored (step :: steps) node

/-- The node at a level cannot be read by itself. -/
inductive Fails (limit depth : Nat) (stored : Json) : SchemaError → Prop
  | tooDeep (deep : limit ≤ depth) : Fails limit depth stored (.atNode (.tooDeep limit))
  | unreadable {error : SchemaError} (shallow : depth < limit)
      (failed : ShallowNode.read stored = .error error) : Fails limit depth stored error

/-- A node that fails, with its error as it is seen from the root, which is itself at a
level. -/
def FailsBelow (limit depth : Nat) (stored : Json) (steps : List SchemaStep) (error : SchemaError) : Prop :=
  ∃ node own, Node stored steps node ∧ Fails limit (steps.length + depth) node own ∧
    error = own.seenFrom steps

def Broken (limit depth : Nat) (stored : Json) (steps : List SchemaStep) : Prop :=
  ∃ node own, Node stored steps node ∧ Fails limit (steps.length + depth) node own

section

variable {limit depth : Nat} {stored : Json}

theorem FailsBelow.root {own : SchemaError} (fails : Fails limit depth stored own) :
    FailsBelow limit depth stored [] own := by
  refine ⟨stored, own, .root stored, ?_, rfl⟩
  rwa [List.length_nil, Nat.zero_add]

theorem FailsBelow.within {step : SchemaStep} {child : Json} (first : Child stored step child)
    {steps : List SchemaStep} {error : SchemaError} (failed : FailsBelow limit (depth + 1) child steps error) :
    FailsBelow limit depth stored (step :: steps) (error.within step) := by
  obtain ⟨node, own, there, fails, rfl⟩ := failed
  rw [← Nat.add_assoc, Nat.add_right_comm] at fails
  exact ⟨node, own, .next first there, fails, rfl⟩

/-- Below a node that is not broken itself, the broken nodes are those of its children. -/
theorem broken_iff_of_read {shallow : ShallowNode} (above : depth < limit)
    (read : ShallowNode.read stored = .ok shallow) {steps : List SchemaStep} :
    Broken limit depth stored steps ↔
      ∃ step child rest, Child stored step child ∧ steps = step :: rest ∧ Broken limit (depth + 1) child rest := by
  constructor
  · rintro ⟨node, own, there, fails⟩
    cases there with
    | root =>
        rw [List.length_nil, Nat.zero_add] at fails
        cases fails with
        | tooDeep deep => exact absurd deep (Nat.not_le.2 above)
        | unreadable _ failed =>
            rw [read] at failed
            cases failed
    | next first rest =>
        rw [List.length_cons, Nat.add_right_comm, Nat.add_assoc] at fails
        exact ⟨_, _, _, first, rfl, node, own, rest, fails⟩
  · rintro ⟨step, child, rest, first, rfl, node, own, there, fails⟩
    rw [← Nat.add_assoc, Nat.add_right_comm] at fails
    exact ⟨node, own, .next first there, fails⟩

theorem broken_array_iff {items : Json} {count : LengthBounds} (above : depth < limit)
    (read : ShallowNode.read stored = .ok (.array items count)) {steps : List SchemaStep} :
    Broken limit depth stored steps ↔ ∃ rest, steps = .items :: rest ∧ Broken limit (depth + 1) items rest := by
  rw [broken_iff_of_read above read]
  constructor
  · rintro ⟨step, child, rest, first, rfl, broken⟩
    cases first with
    | items node =>
        rw [read] at node
        cases node
        exact ⟨rest, rfl, broken⟩
    | property node =>
        rw [read] at node
        cases node
  · rintro ⟨rest, rfl, broken⟩
    exact ⟨.items, items, rest, .items read, rfl, broken⟩

theorem broken_object_iff {properties : List (String × Json)} {required : List String} (above : depth < limit)
    (read : ShallowNode.read stored = .ok (.object properties required)) {steps : List SchemaStep} :
    Broken limit depth stored steps ↔
      ∃ name child rest, (name, child) ∈ properties ∧ steps = .property name :: rest ∧
        Broken limit (depth + 1) child rest := by
  rw [broken_iff_of_read above read]
  constructor
  · rintro ⟨step, child, rest, first, rfl, broken⟩
    cases first with
    | items node =>
        rw [read] at node
        cases node
    | property node declared =>
        rw [read] at node
        cases node
        exact ⟨_, child, rest, declared, rfl, broken⟩
  · rintro ⟨name, child, rest, declared, rfl, broken⟩
    exact ⟨.property name, child, rest, .property read declared, rfl, broken⟩

theorem not_broken_leaf {schema : Schema} (above : depth < limit)
    (read : ShallowNode.read stored = .ok (.leaf schema)) (steps : List SchemaStep) :
    ¬ Broken limit depth stored steps := by
  rw [broken_iff_of_read above read]
  rintro ⟨step, child, rest, first, _⟩
  cases first with
  | items node =>
      rw [read] at node
      cases node
  | property node =>
      rw [read] at node
      cases node

end

/-- Properties are read one after the other, each with all that is below it. -/
theorem readProperties_reportsFirst {read : Json → Except SchemaError Schema}
    {names : List SchemaStep → SchemaError → Prop} {names' : Json → List SchemaStep → SchemaError → Prop}
    {broken : Json → List SchemaStep → Prop} {properties : List (String × Json)}
    (increase : Json.NamesIncrease properties)
    (reports : ∀ name child, (name, child) ∈ properties →
      ReportsFirst Before (names' child) (broken child) (read child))
    (seen : ∀ name child, (name, child) ∈ properties → ∀ steps error, names' child steps error →
      names (.property name :: steps) (error.within (.property name))) :
    ReportsFirst Before names
      (fun steps => ∃ name child rest, (name, child) ∈ properties ∧ steps = .property name :: rest ∧
        broken child rest)
      (Schema.readProperties read properties) := by
  induction properties with
  | nil =>
      refine .ok ?_
      rintro steps ⟨name, child, rest, impossible, _⟩
      cases impossible
  | cons property others ih =>
      obtain ⟨name, child⟩ := property
      obtain ⟨less, increase⟩ := List.pairwise_cons.1 increase
      have first := (reports name child List.mem_cons_self).below (seen name child List.mem_cons_self)
      have later := ih increase (fun name child inside => reports name child (List.mem_cons_of_mem _ inside))
        fun name child inside => seen name child (List.mem_cons_of_mem _ inside)
      refine (first.bind (fun schema _ => later.bind_pure ((name, schema) :: ·)) ?_).congr fun steps => ?_
      · rintro _ _ ⟨rest, rfl, _⟩ ⟨name', child', rest', inside, rfl, _⟩
        exact .rel (.property (less _ inside))
      · constructor
        · rintro (⟨rest, rfl, there⟩ | ⟨name', child', rest, inside, rfl, there⟩)
          · exact ⟨name, child, rest, List.mem_cons_self, rfl, there⟩
          · exact ⟨name', child', rest, List.mem_cons_of_mem _ inside, rfl, there⟩
        · rintro ⟨name', child', rest, inside, rfl, there⟩
          rcases List.mem_cons.1 inside with same | later
          · cases same
            exact .inl ⟨rest, rfl, there⟩
          · exact .inr ⟨name', child', rest, later, rfl, there⟩

theorem reportsFirst_of_fails {α : Type} {limit depth : Nat} {stored : Json} {own : SchemaError}
    (fails : Fails limit depth stored own) :
    ReportsFirst Before (FailsBelow limit depth stored) (Broken limit depth stored)
      (.error own : Except SchemaError α) := by
  obtain ⟨node, own', there, here, _⟩ := FailsBelow.root fails
  exact .root ⟨node, own', there, here⟩ (.root fails)

/-- Reading a node with all that is below it reports the first broken node. -/
theorem readNode_reportsFirst {limit left depth : Nat} (levels : depth + left = limit) {stored : Json}
    (ordered : stored.Ordered) :
    ReportsFirst Before (FailsBelow limit depth stored) (Broken limit depth stored)
      (Schema.readNode limit left stored) := by
  -- Reading counts the levels that are left, a place the levels above it: `levels` ties the two.
  induction left generalizing depth stored with
  | zero => exact reportsFirst_of_fails (.tooDeep (Nat.le_of_eq levels.symm))
  | succ left ih =>
      have above : depth < limit := by omega
      have below : depth + 1 + left = limit := by omega
      unfold Schema.readNode
      cases read : ShallowNode.read stored with
      | error own => exact reportsFirst_of_fails (.unreadable above read)
      | ok shallow =>
          have inner := ShallowNode.ordered_of_read ordered read
          cases shallow with
          | leaf schema => exact .ok (not_broken_leaf above read)
          | array items count =>
              have seen (steps : List SchemaStep) (error : SchemaError) :
                  FailsBelow limit (depth + 1) items steps error →
                    FailsBelow limit depth stored (.items :: steps) (error.within .items) :=
                .within (.items read)
              have reports := ((ih below inner).below seen).bind_pure (Schema.array · count)
              exact reports.congr fun steps => (broken_array_iff above read).symm
          | object properties required =>
              have reports := readProperties_reportsFirst inner.1
                (fun name child inside => ih below (Json.ordered_of_mem inner.2 inside))
                (fun name child inside steps error => FailsBelow.within (.property read inside))
              exact (reports.bind_pure (Schema.object · required)).congr fun steps =>
                (broken_object_iff above read).symm

/-- The error carries the tag of a node, or stands at the node or at one field of it. -/
inductive PointsAt (steps : List SchemaStep) : Json → SchemaError → Prop
  | tag {fields : List (String × Json)} {tag : String} (tagged : HasTag fields tag)
      (unknown : ∀ schema : Schema, schema.kindName ≠ tag) :
      PointsAt steps (.object fields) (.unsupportedType tag)
  | node (stored : Json) (defect : Defect) : PointsAt steps stored (.malformed { steps } defect)
  /-- The field is a constraint of the node's kind, and not `null`. -/
  | field {fields : List (String × Json)} {tag name : String} {value : Json} (tagged : HasTag fields tag)
      (named : name ∈ ShallowNode.fieldNames tag) (stated : fields.lookup name = some value)
      (notNull : value ≠ .null) (defect : Defect) :
      PointsAt steps (.object fields) (.malformed { steps, field := some name } defect)

theorem pointsAt_of_fails {limit depth : Nat} {node : Json} {own : SchemaError}
    (fails : Fails limit depth node own) (steps : List SchemaStep) :
    PointsAt steps node (own.seenFrom steps) := by
  cases fails with
  | tooDeep deep =>
      rw [SchemaError.seenFrom_atNode]
      exact .node node _
  | unreadable shallow failed =>
      cases ShallowNode.nodeError_of_read failed with
      | tag tagged unknown =>
          rw [SchemaError.seenFrom_unsupportedType]
          exact .tag tagged unknown
      | node _ defect =>
          rw [SchemaError.seenFrom_atNode]
          exact .node node defect
      | field tagged named stated notNull defect =>
          rw [SchemaError.seenFrom_atField]
          exact .field tagged named stated notNull defect

/-- The path is that of the node, perhaps with the name of a field. -/
theorem PointsAt.path {steps : List SchemaStep} {node : Json} {place : SchemaPlace} {defect : Defect}
    (points : PointsAt steps node (.malformed place defect)) :
    place.path = SchemaPlace.nodePath steps ∨
      ∃ name, place.field = some name ∧ place.path = SchemaPlace.nodePath steps ++ "." ++ name := by
  cases points with
  | node => exact .inl rfl
  | @field fields tag name => exact .inr ⟨name, rfl, rfl⟩

/-- Reading fails exactly if some node is below the limit or cannot be read by itself.  The
error is that of the first such node in pre-order, and carries its tag, or its path with at
most one of its fields. -/
theorem read_error_is_first_broken_node (limit : Nat) (stored : Json) (ordered : stored.Ordered) :
    ((∃ error, Schema.read limit stored = .error error) ↔
      ∃ steps node own, Node stored steps node ∧ Fails limit steps.length node own) ∧
    ∀ error, Schema.read limit stored = .error error →
      ∃ steps node own, Node stored steps node ∧ Fails limit steps.length node own ∧
        (∀ earlier node' own', List.Lex Before earlier steps → Node stored earlier node' →
          ¬ Fails limit earlier.length node' own') ∧
        (∀ other node' own', Node stored other node' → Fails limit other.length node' own' →
          other = steps ∨ List.Lex Before steps other) ∧
        error = own.seenFrom steps ∧ PointsAt steps node error ∧
        ∀ place defect, error = .malformed place defect →
          place.path = SchemaPlace.nodePath steps ∨
            ∃ name, place.field = some name ∧ place.path = SchemaPlace.nodePath steps ++ "." ++ name := by
  have reports : ReportsFirst Before (FailsBelow limit 0 stored) (Broken limit 0 stored)
      (Schema.read limit stored) := readNode_reportsFirst (Nat.zero_add limit) ordered
  refine ⟨reports.exists_error_iff, ?_⟩
  intro error failed
  rw [failed] at reports
  obtain ⟨steps, ⟨node, own, there, fails, seen⟩, first⟩ := reports.exists_first
  have points : PointsAt steps node error := seen ▸ pointsAt_of_fails fails steps
  refine ⟨steps, node, own, there, fails, ?_, ?_, seen, points, ?_⟩
  · intro earlier node' own' precedes there' fails'
    exact first.not_faulty_of_lex Before.asymm precedes ⟨node', own', there', fails'⟩
  · intro other node' own' there' fails'
    exact first.least other ⟨node', own', there', fails'⟩
  · rintro place defect rfl
    exact points.path

/-- Of a length that is none, inside the items of the first property, and an unknown tag of
the second, the length comes first. -/
theorem read_error_is_inner_length :
    ∃ steps node own,
      Node (.object [("properties", .object [("a", .object [("items", .object
        [("minLength", .string "2"), ("type", .string "string")]), ("type", .string "array")]),
        ("b", .object [("type", .string "text")])]), ("type", .string "object")]) steps node ∧
      Fails 3 steps.length node own ∧
      SchemaError.malformed ⟨[.property "a", .items], some "minLength"⟩ .lengthExpected =
        own.seenFrom steps ∧
      ("$.properties.a.items.minLength" = SchemaPlace.nodePath steps ∨
        ∃ name, some "minLength" = some name ∧
          "$.properties.a.items.minLength" = SchemaPlace.nodePath steps ++ "." ++ name) := by
  have ordered : (Json.object [("properties", .object [("a", .object [("items", .object
      [("minLength", .string "2"), ("type", .string "string")]), ("type", .string "array")]),
      ("b", .object [("type", .string "text")])]), ("type", .string "object")]).Ordered := by
    simp only [Json.Ordered, Json.OrderedMembers, Json.NamesIncrease]
    decide
  have failed : Schema.read 3 (.object [("properties", .object [("a", .object [("items", .object
      [("minLength", .string "2"), ("type", .string "string")]), ("type", .string "array")]),
      ("b", .object [("type", .string "text")])]), ("type", .string "object")]) =
      .error (.malformed ⟨[.property "a", .items], some "minLength"⟩ .lengthExpected) := by
    rfl
  obtain ⟨steps, node, own, there, fails, _, _, seen, _, path⟩ :=
    (read_error_is_first_broken_node 3 _ ordered).2 _ failed
  exact ⟨steps, node, own, there, fails, seen, path _ _ rfl⟩

end StoredSchema
end CompactSchema
