import CompactSchema.Proofs.Generation.Unbuildable
import CompactSchema.Proofs.Schema.FirstError
import CompactSchema.Proofs.Text.Segments

/-
Places in schemas and their paths.

A path spells the steps from the root and perhaps a field, with a dot before each word.  In
a schema whose property names hold no dot it can be read back word by word: behind
`properties` there is always a name, whatever it is, and no field is called `items`.
Errors about stored schemas, and those of generation, give the place of the node that they
are about.
-/

namespace CompactSchema

/-! ### Paths and their segments -/

namespace SchemaStep

/-- A property of the step has no dot in its name. -/
def Undotted : SchemaStep → Prop
  | .items => True
  | .property name => '.' ∉ name.toList

/-- The words of the step in a path, each with the dot before it. -/
def segments : SchemaStep → List (List Char)
  | .items => [".items".toList]
  | .property name => [".properties".toList, '.' :: name.toList]

theorem toList_text (step : SchemaStep) : step.text.toList = step.segments.flatten := by
  cases step with
  | items => rfl
  | property name =>
      rw [text, String.toList_append]
      simp [segments]

theorem isSegment_of_undotted {word : List Char} (undotted : '.' ∉ word) :
    IsSegment (· = '.') ('.' :: word) := by
  refine ⟨'.', word, rfl, rfl, ?_⟩
  rintro c inside rfl
  exact undotted inside

theorem isSegment_of_mem_segments {step : SchemaStep} (undotted : step.Undotted) :
    ∀ segment ∈ step.segments, IsSegment (· = '.') segment := by
  have items : '.' ∉ "items".toList := by decide
  have properties : '.' ∉ "properties".toList := by decide
  intro segment inside
  cases step with
  | items =>
      rw [List.mem_singleton.1 inside]
      exact isSegment_of_undotted items
  | property name =>
      rcases List.mem_pair.1 inside with rfl | rfl
      · exact isSegment_of_undotted properties
      · exact isSegment_of_undotted undotted

/-- What follows a step does not change how the step is read back. -/
theorem eq_and_eq_of_segments_append {step step' : SchemaStep} {rest rest' : List (List Char)}
    (same : step.segments ++ rest = step'.segments ++ rest') : step = step' ∧ rest = rest' := by
  have apart : ".items".toList ≠ ".properties".toList := by decide
  cases step with
  | items =>
      cases step' with
      | items => exact ⟨rfl, List.tail_eq_of_cons_eq same⟩
      | property name' => exact absurd (List.head_eq_of_cons_eq same) apart
  | property name =>
      cases step' with
      | items => exact absurd (List.head_eq_of_cons_eq same).symm apart
      | property name' =>
          obtain ⟨sameName, sameRest⟩ := List.cons.inj (List.tail_eq_of_cons_eq same)
          rw [String.toList_injective (List.tail_eq_of_cons_eq sameName)]
          exact ⟨rfl, sameRest⟩

end SchemaStep

namespace SchemaPlace

/-- A place that can be read back from its path. -/
structure Legible (place : SchemaPlace) : Prop where
  steps : ∀ step ∈ place.steps, step.Undotted
  field : ∀ name, place.field = some name → '.' ∉ name.toList
  notItems : place.field ≠ some "items"

def fieldSegments : Option String → List (List Char)
  | none => []
  | some field => ['.' :: field.toList]

/-- All words of the path, each with the dot before it. -/
def segments (place : SchemaPlace) : List (List Char) :=
  place.steps.flatMap SchemaStep.segments ++ fieldSegments place.field

theorem flatten_toList_text (steps : List SchemaStep) :
    (steps.map fun step => step.text.toList).flatten = (steps.flatMap SchemaStep.segments).flatten := by
  induction steps with
  | nil => rfl
  | cons step rest ih =>
      rw [List.map_cons, List.flatten_cons, ih, SchemaStep.toList_text, List.flatMap_cons, List.flatten_append]

theorem toList_nodePath (steps : List SchemaStep) :
    (nodePath steps).toList = '$' :: (steps.flatMap SchemaStep.segments).flatten := by
  rw [nodePath, toList_foldl_append, flatten_toList_text]
  rfl

theorem toList_path (place : SchemaPlace) : place.path.toList = '$' :: place.segments.flatten := by
  obtain ⟨steps, field⟩ := place
  cases field with
  | none => simp [path, segments, fieldSegments, toList_nodePath]
  | some field => simp [path, segments, fieldSegments, toList_nodePath, String.toList_append]

theorem isSegment_of_mem_placeSegments {place : SchemaPlace} (legible : place.Legible) :
    ∀ segment ∈ place.segments, IsSegment (· = '.') segment := by
  intro segment inside
  rcases List.mem_append.1 inside with ofSteps | ofField
  · obtain ⟨step, taken, inside⟩ := List.mem_flatMap.1 ofSteps
    exact SchemaStep.isSegment_of_mem_segments (legible.steps step taken) segment inside
  · cases found : place.field with
    | none =>
        rw [found] at ofField
        cases ofField
    | some field =>
        rw [found] at ofField
        rw [List.mem_singleton.1 ofField]
        exact SchemaStep.isSegment_of_undotted (legible.field field found)

/-- A field is not taken for a step: `items` is no field, and a property has two words. -/
theorem segments_append_ne_fieldSegments (step : SchemaStep) (rest : List (List Char)) {field : Option String}
    (notItems : field ≠ some "items") : step.segments ++ rest ≠ fieldSegments field := by
  intro same
  cases field with
  | none => cases step <;> cases same
  | some field =>
      cases step with
      | items =>
          have sameName : "items".toList = field.toList :=
            List.tail_eq_of_cons_eq (List.head_eq_of_cons_eq same)
          rw [String.toList_injective sameName] at notItems
          exact notItems rfl
      | property name => exact absurd (List.tail_eq_of_cons_eq same) (List.cons_ne_nil _ _)

theorem fieldSegments_injective : Function.Injective fieldSegments := by
  intro field field' same
  cases field with
  | none =>
      cases field' with
      | none => rfl
      | some name' => cases same
  | some name =>
      cases field' with
      | none => cases same
      | some name' =>
          have sameName := List.tail_eq_of_cons_eq (List.head_eq_of_cons_eq same)
          rw [String.toList_injective sameName]

theorem eq_and_eq_of_segments_eq {steps steps' : List SchemaStep} {field field' : Option String}
    (notItems : field ≠ some "items") (notItems' : field' ≠ some "items")
    (same : steps.flatMap SchemaStep.segments ++ fieldSegments field =
      steps'.flatMap SchemaStep.segments ++ fieldSegments field') : steps = steps' ∧ field = field' := by
  -- By induction on the steps of one place: where they end, those of the other end too, as
  -- no field is taken for a step.
  induction steps generalizing steps' with
  | nil =>
      cases steps' with
      | nil => exact ⟨rfl, fieldSegments_injective same⟩
      | cons step' rest' =>
          rw [List.flatMap_cons, List.append_assoc] at same
          exact absurd same.symm (segments_append_ne_fieldSegments step' _ notItems)
  | cons step rest ih =>
      rw [List.flatMap_cons, List.append_assoc] at same
      cases steps' with
      | nil => exact absurd same (segments_append_ne_fieldSegments step _ notItems')
      | cons step' rest' =>
          rw [List.flatMap_cons, List.append_assoc] at same
          obtain ⟨rfl, later⟩ := SchemaStep.eq_and_eq_of_segments_append same
          obtain ⟨rfl, sameField⟩ := ih later
          exact ⟨rfl, sameField⟩

/-- The path of a place that can be read back is that of no other such place. -/
theorem eq_of_path_eq {place place' : SchemaPlace} (legible : place.Legible) (legible' : place'.Legible)
    (same : place.path = place'.path) : place = place' := by
  have chars := congrArg String.toList same
  rw [toList_path, toList_path] at chars
  have words : place.segments = place'.segments :=
    segments_eq_of_flatten_eq (isSegment_of_mem_placeSegments legible)
      (isSegment_of_mem_placeSegments legible') (List.tail_eq_of_cons_eq chars)
  obtain ⟨steps, field⟩ := place
  obtain ⟨steps', field'⟩ := place'
  obtain ⟨rfl, rfl⟩ := eq_and_eq_of_segments_eq legible.notItems legible'.notItems words
  rfl

/-- The path of a place is that of its node, perhaps with a field behind it. -/
theorem path_eq_or_exists_field (place : SchemaPlace) :
    place.path = nodePath place.steps ∨
      ∃ field, place.field = some field ∧ place.path = nodePath place.steps ++ "." ++ field := by
  obtain ⟨steps, field⟩ := place
  cases field with
  | none => exact .inl rfl
  | some field => exact .inr ⟨field, rfl, rfl⟩

end SchemaPlace

/-! ### Names without dots -/

def StoredSchema.Undotted (stored : Json) : Prop :=
  ∀ steps node, StoredSchema.Node stored steps node → ∀ step ∈ steps, step.Undotted

def Schema.Undotted (schema : Schema) : Prop :=
  ∀ steps node, schema.At steps node → ∀ step ∈ steps, step.Undotted

/-! ### Places in errors -/

namespace StoredSchema

theorem place_of_fails {limit depth : Nat} {node : Json} {own : SchemaError} (fails : Fails limit depth node own)
    {steps : List SchemaStep} {place : SchemaPlace} {defect : Defect}
    (seen : SchemaError.malformed place defect = own.seenFrom steps) :
    place.steps = steps ∧ (∀ name, place.field = some name → '.' ∉ name.toList) ∧
      place.field ≠ some "items" := by
  have whole (defect' : Defect) (error : own = .atNode defect') : place = { steps } := by
    rw [error, SchemaError.seenFrom_atNode] at seen
    exact (SchemaError.malformed.inj seen).1
  cases fails with
  | tooDeep deep =>
      rw [whole _ rfl]
      exact ⟨rfl, nofun, nofun⟩
  | unreadable shallow failed =>
      cases ShallowNode.nodeError_of_read failed with
      | tag =>
          rw [SchemaError.seenFrom_unsupportedType] at seen
          cases seen
      | node =>
          rw [whole _ rfl]
          exact ⟨rfl, nofun, nofun⟩
      | @field fields tag name =>
          obtain ⟨undotted, notItems⟩ := ShallowNode.field_of_read failed
          rw [SchemaError.seenFrom_atField] at seen
          cases seen
          refine ⟨rfl, ?_, fun same => notItems (Option.some.inj same)⟩
          rintro _ ⟨⟩
          exact undotted

theorem FailsBelow.exists_node {limit depth : Nat} {stored : Json} {steps : List SchemaStep}
    {place : SchemaPlace} {defect : Defect}
    (failed : FailsBelow limit depth stored steps (.malformed place defect)) :
    ∃ node own, Node stored place.steps node ∧ Fails limit (place.steps.length + depth) node own ∧
      SchemaError.malformed place defect = own.seenFrom place.steps := by
  obtain ⟨node, own, there, fails, seen⟩ := failed
  obtain ⟨rfl, _⟩ := place_of_fails fails seen
  exact ⟨node, own, there, fails, seen⟩

theorem FailsBelow.legible {limit depth : Nat} {stored : Json} {steps : List SchemaStep} {place : SchemaPlace}
    {defect : Defect} (undotted : StoredSchema.Undotted stored)
    (failed : FailsBelow limit depth stored steps (.malformed place defect)) : place.Legible := by
  obtain ⟨node, own, there, fails, seen⟩ := failed
  obtain ⟨rfl, field, notItems⟩ := place_of_fails fails seen
  exact ⟨undotted _ node there, field, notItems⟩

/-- A node that cannot be read by itself has no children, and so no names. -/
theorem undotted_of_read_eq_error {stored : Json} {own : SchemaError} (failed : ShallowNode.read stored = .error own) :
    StoredSchema.Undotted stored := by
  intro steps node there
  cases there with
  | root => exact nofun
  | next first rest =>
      cases first with
      | items read =>
          rw [failed] at read
          cases read
      | property read =>
          rw [failed] at read
          cases read

theorem exists_failsBelow_of_read {limit : Nat} {stored : Json} (ordered : stored.Ordered) {error : SchemaError}
    (failed : Schema.read limit stored = .error error) : ∃ steps, FailsBelow limit 0 stored steps error := by
  have reports := readNode_reportsFirst (Nat.zero_add limit) ordered
  rw [Schema.read] at failed
  rw [failed] at reports
  obtain ⟨steps, below, _⟩ := reports.exists_first
  exact ⟨steps, below⟩

/-! ### The nodes of what has been read -/

open Schema (PropertiesRead)

theorem exists_mem_of_mem_stored {read : Json → Except SchemaError Schema} {stored : List (String × Json)}
    {properties : List (String × Schema)} (each : PropertiesRead read stored properties) {name : String}
    {child : Json} (inside : (name, child) ∈ stored) :
    ∃ schema, (name, schema) ∈ properties ∧ read child = .ok schema := by
  induction each with
  | nil => cases inside
  | cons first others ih =>
      rcases List.mem_cons.1 inside with same | later
      · cases same
        exact ⟨_, List.mem_cons_self, first⟩
      · obtain ⟨schema, declared, found⟩ := ih later
        exact ⟨schema, List.mem_cons_of_mem _ declared, found⟩

theorem exists_mem_of_mem_read {read : Json → Except SchemaError Schema} {stored : List (String × Json)}
    {properties : List (String × Schema)} (each : PropertiesRead read stored properties) {name : String}
    {schema : Schema} (declared : (name, schema) ∈ properties) :
    ∃ child, (name, child) ∈ stored ∧ read child = .ok schema := by
  induction each with
  | nil => cases declared
  | cons first others ih =>
      rcases List.mem_cons.1 declared with same | later
      · cases same
        exact ⟨_, List.mem_cons_self, first⟩
      · obtain ⟨child, inside, found⟩ := ih later
        exact ⟨child, List.mem_cons_of_mem _ inside, found⟩

theorem exists_at_of_node {limit left : Nat} {stored node : Json} {schema : Schema} {steps : List SchemaStep}
    (there : Node stored steps node) (found : Schema.readNode limit left stored = .ok schema) :
    ∃ node, schema.At steps node := by
  induction there generalizing left schema with
  | root stored => exact ⟨schema, .here schema⟩
  | next first rest ih =>
      cases left with
      | zero => exact absurd found Schema.readNode_zero_ne_ok
      | succ left =>
          obtain ⟨shallow, fields, children⟩ := Schema.readNode_succ_eq_ok_iff.1 found
          cases first with
          | items read =>
              rw [fields] at read
              cases read
              cases children with
              | array count readItems =>
                  obtain ⟨node, there⟩ := ih readItems
                  exact ⟨node, .items trivial there⟩
          | property read declared =>
              rw [fields] at read
              cases read
              cases children with
              | object required readOnes =>
                  obtain ⟨child, declared, readOne⟩ := exists_mem_of_mem_stored readOnes declared
                  obtain ⟨node, there⟩ := ih readOne
                  exact ⟨node, .property declared there⟩

theorem exists_node_of_at {limit left : Nat} {stored : Json} {schema node : Schema} {steps : List SchemaStep}
    (there : schema.At steps node) (found : Schema.readNode limit left stored = .ok schema) :
    ∃ node, Node stored steps node := by
  induction there generalizing left stored with
  | here schema => exact ⟨stored, .root stored⟩
  | items passed rest ih =>
      cases left with
      | zero => exact absurd found Schema.readNode_zero_ne_ok
      | succ left =>
          obtain ⟨shallow, fields, children⟩ := Schema.readNode_succ_eq_ok_iff.1 found
          cases children with
          | leaf =>
              obtain ⟨_, rfl, own⟩ := read_eq_ok_iff.1 fields
              cases own
          | array count readItems =>
              obtain ⟨node, there⟩ := ih readItems
              exact ⟨node, .next (.items fields) there⟩
  | property declared rest ih =>
      cases left with
      | zero => exact absurd found Schema.readNode_zero_ne_ok
      | succ left =>
          obtain ⟨shallow, fields, children⟩ := Schema.readNode_succ_eq_ok_iff.1 found
          cases children with
          | leaf =>
              obtain ⟨_, rfl, own⟩ := read_eq_ok_iff.1 fields
              cases own
          | object required readOnes =>
              obtain ⟨child, inside, readOne⟩ := exists_mem_of_mem_read readOnes declared
              obtain ⟨node, there⟩ := ih readOne
              exact ⟨node, .next (.property fields inside) there⟩

/-- A schema has its nodes at the same steps as the stored form that it is read from. -/
theorem exists_node_iff_exists_at {limit : Nat} {stored : Json} {schema : Schema}
    (found : Schema.read limit stored = .ok schema) (steps : List SchemaStep) :
    (∃ node, Node stored steps node) ↔ ∃ node, schema.At steps node := by
  constructor
  · rintro ⟨node, there⟩
    exact exists_at_of_node there found
  · rintro ⟨node, there⟩
    exact exists_node_of_at there found

end StoredSchema
end CompactSchema
