import CompactSchema.Proofs.Generation.Least
import CompactSchema.Proofs.Schema.DepthLimit
import CompactSchema.Proofs.Schema.Places
import CompactSchema.Proofs.Validation.Locations

/-
Paths as names of places.

An error about a schema, from reading it in its stored form or from generating for it, says
with a path at which node it arose, and a violation says so of a location in the datum.
Where no property name holds a dot, and no key a dot or an opening bracket, no two places
share a path.  All errors follow one grammar of paths, so that a node has the same path in
reading as in generating.
-/

namespace CompactSchema

/-- Reading the stored schema fails at the place: under the limit of levels, or when a datum
reaches the node in a lazy check, which has the default limit. -/
inductive StoredSchema.FailsAt (stored : Json) : Nat → SchemaPlace → Defect → Prop
  | read {limit : Nat} {place : SchemaPlace} {defect : Defect}
      (failed : Schema.read limit stored = .error (.malformed place defect)) :
      FailsAt stored limit place defect
  | check {value : Json} {violation : Violation} {place : SchemaPlace} {defect : Defect}
      (failed : StoredSchema.check stored value = .error violation)
      (unreadable : violation.problem = .badSchema (.malformed place defect)) :
      FailsAt stored Schema.defaultDepthLimit place defect

/-- Generating for the schema fails at the place, with some source in some state. -/
inductive Schema.FailsAt (schema : Schema) : SchemaPlace → Defect → Prop
  | generate {σ : Type} {source : RandomSource σ} {state after : σ} {place : SchemaPlace} {defect : Defect}
      (failed : (schema.generate source).run.run state = (.error (.malformed place defect), after)) :
      FailsAt schema place defect

/-- The place is given by an error about some schema whose property names hold no dot. -/
inductive SchemaPlace.Reported : SchemaPlace → Prop
  | reading {stored : Json} {limit : Nat} {place : SchemaPlace} {defect : Defect} (ordered : stored.Ordered)
      (undotted : StoredSchema.Undotted stored) (failed : StoredSchema.FailsAt stored limit place defect) :
      Reported place
  | generating {schema : Schema} {place : SchemaPlace} {defect : Defect} (undotted : schema.Undotted)
      (failed : schema.FailsAt place defect) : Reported place

/-- A check of the value, against a schema or its stored form, reports the violation. -/
inductive Violation.Reported (value : Json) : Violation → Prop
  | check {schema : Schema} {violation : Violation} (failed : schema.check value = .error violation) :
      Reported value violation
  | lazily {stored : Json} {violation : Violation} (failed : StoredSchema.check stored value = .error violation) :
      Reported value violation

theorem StoredSchema.FailsAt.exists_failsBelow {limit : Nat} {stored : Json} {place : SchemaPlace}
    {defect : Defect} (ordered : stored.Ordered) (failed : StoredSchema.FailsAt stored limit place defect) :
    ∃ steps, StoredSchema.FailsBelow limit 0 stored steps (.malformed place defect) := by
  cases failed with
  | read failed => exact StoredSchema.exists_failsBelow_of_read ordered failed
  | @check value violation _ _ failed unreadable =>
      have concerns := StoredSchema.checkNode_concerns (Nat.zero_add _) stored value violation failed
      exact concerns.error _ unreadable

/-- Where a schema could be read under some limit, only other limits can make reading fail,
and they blame nodes as a whole. -/
theorem StoredSchema.FailsAt.field_eq_none {limit limit' : Nat} {stored : Json} {schema : Schema}
    {place : SchemaPlace} {defect : Defect} (ordered : stored.Ordered)
    (found : Schema.read limit stored = .ok schema)
    (failed : StoredSchema.FailsAt stored limit' place defect) : place.field = none := by
  obtain ⟨steps, node, own, there, fails, seen⟩ := failed.exists_failsBelow ordered
  cases fails with
  | tooDeep deep =>
      rw [SchemaError.seenFrom_atNode] at seen
      cases seen
      rfl
  | unreadable shallow broken =>
      rcases Nat.lt_or_ge steps.length limit with above | deep
      · exact absurd (.unreadable above broken) (StoredSchema.not_fails_of_read ordered found there)
      · exact absurd (.tooDeep deep) (StoredSchema.not_fails_of_read ordered found there)

/-- Generating fails at nodes as a whole. -/
theorem Schema.FailsAt.exists_unbuildable {schema : Schema} {place : SchemaPlace} {defect : Defect}
    (failed : schema.FailsAt place defect) :
    place.field = none ∧ ∃ node, schema.At place.steps node ∧ node.Unbuildable := by
  cases failed with
  | generate failed =>
      obtain ⟨steps, node, defect, there, unbuildable, same⟩ := schema.generate_raises _ _ _ failed
      cases same
      exact ⟨rfl, node, there, unbuildable⟩

theorem SchemaPlace.Reported.legible {place : SchemaPlace} (reported : place.Reported) : place.Legible := by
  cases reported with
  | reading ordered undotted failed =>
      obtain ⟨steps, below⟩ := failed.exists_failsBelow ordered
      exact below.legible undotted
  | generating undotted failed =>
      obtain ⟨whole, node, there, _⟩ := failed.exists_unbuildable
      refine ⟨undotted _ node there, ?_, ?_⟩
      · rw [whole]
        exact nofun
      · rw [whole]
        exact nofun

theorem Violation.Reported.hasLocation {value : Json} {violation : Violation}
    (reported : violation.Reported value) : value.HasLocation violation.steps := by
  cases reported with
  | @check schema _ failed => exact (schema.check_concerns value violation failed).location
  | @lazily stored _ failed =>
      exact (StoredSchema.checkNode_concerns (Nat.zero_add _) stored value violation failed).location

/-- Two errors about schemas whose property names hold no dot give the same path only for the
same place, whether they come from reading, from a lazy check or from generating.  Reading
gives the path of the node that fails, perhaps with one of its fields behind it, and
generating the path of a node that nothing can be built for.  A schema has its nodes at the
same steps as the stored form that it is read from, and where reading under another limit
and generating fail at the same node, they give the same path.  A violation gives a
location of the datum, and two of them give the same path only for the same location, if
their keys hold no dot and no opening bracket. -/
theorem paths_identify_places :
    (∀ place place' : SchemaPlace, place.Reported → place'.Reported →
      place.path = place'.path → place = place') ∧
    (∀ stored limit place defect, stored.Ordered → StoredSchema.FailsAt stored limit place defect →
      (∃ node own, StoredSchema.Node stored place.steps node ∧
        StoredSchema.Fails limit place.steps.length node own ∧
        SchemaError.malformed place defect = own.seenFrom place.steps) ∧
      (place.path = SchemaPlace.nodePath place.steps ∨ ∃ field, place.field = some field ∧
        place.path = SchemaPlace.nodePath place.steps ++ "." ++ field)) ∧
    (∀ (schema : Schema) (place : SchemaPlace) (defect : Defect), schema.FailsAt place defect →
      (∃ node, schema.At place.steps node ∧ node.Unbuildable) ∧
      place.path = SchemaPlace.nodePath place.steps) ∧
    (∀ limit stored schema, stored.Ordered → Schema.read limit stored = .ok schema →
      (∀ steps, (∃ node, StoredSchema.Node stored steps node) ↔ ∃ node, schema.At steps node) ∧
      ∀ limit' place place' defect defect', StoredSchema.FailsAt stored limit' place defect →
        schema.FailsAt place' defect' → place.steps = place'.steps → place.path = place'.path) ∧
    (∀ (value : Json) (violation : Violation), violation.Reported value → value.HasLocation violation.steps) ∧
    (∀ (value value' : Json) (violation violation' : Violation), violation.Reported value →
      violation'.Reported value' → (∀ step ∈ violation.steps, step.Plain) →
      (∀ step ∈ violation'.steps, step.Plain) → violation.path = violation'.path →
      violation.steps = violation'.steps) := by
  refine ⟨?_, ?_, ?_, ?_, ?_, ?_⟩
  · intro place place' reported reported' same
    exact SchemaPlace.eq_of_path_eq reported.legible reported'.legible same
  · intro stored limit place defect ordered failed
    obtain ⟨steps, below⟩ := failed.exists_failsBelow ordered
    exact ⟨below.exists_node, place.path_eq_or_exists_field⟩
  · intro schema place defect failed
    obtain ⟨whole, unbuildable⟩ := failed.exists_unbuildable
    refine ⟨unbuildable, ?_⟩
    rw [SchemaPlace.path, whole]
  · intro limit stored schema ordered found
    refine ⟨StoredSchema.exists_node_iff_exists_at found, ?_⟩
    intro limit' place place' defect defect' failed failed' sameSteps
    obtain ⟨whole', _⟩ := failed'.exists_unbuildable
    rw [SchemaPlace.path, SchemaPlace.path, failed.field_eq_none ordered found, whole', sameSteps]
  · intro value violation reported
    exact reported.hasLocation
  · intro value value' violation violation' reported reported' plain plain' same
    exact steps_eq_of_dataPath_eq plain plain' same

/-- A property without a name, which is cut off by a limit and for which nothing can be built,
beside `properties` that are none; and an element at 0 beside a member with the key `0`. -/
theorem paths_identify_nameless_property :
    ({ steps := [.property ""] } : SchemaPlace).path ≠
      ({ steps := [], field := some "properties" } : SchemaPlace).path ∧
    (∃ node own,
      StoredSchema.Node (.object [("properties", .object [("", .object
        [("enum", .array []), ("type", .string "string")])]), ("type", .string "object")])
        [.property ""] node ∧ StoredSchema.Fails 1 1 node own ∧
      SchemaError.malformed { steps := [.property ""] } (.tooDeep 1) = own.seenFrom [.property ""]) ∧
    (∃ node, (Schema.object [("", .string { members := some [] })] []).At [.property ""] node ∧
      node.Unbuildable) ∧
    ((∃ node, StoredSchema.Node (.object [("properties", .object [("", .object
        [("enum", .array []), ("type", .string "string")])]), ("type", .string "object")])
        [.property ""] node) ↔
      ∃ node, (Schema.object [("", .string { members := some [] })] []).At [.property ""] node) ∧
    (Json.object [("0", .null)]).HasLocation [.key "0"] ∧
    dataPath [.key "0"] ≠ dataPath [.index 0] := by
  have undotted : (Schema.object [("", .string { members := some [] })] []).Undotted := by
    intro steps node there
    cases there with
    | here => exact nofun
    | property declared rest =>
        cases List.mem_singleton.1 declared
        cases rest with
        | here =>
            intro step taken
            rw [List.mem_singleton.1 taken]
            exact List.not_mem_nil
  have ordered : (Json.object [("properties", .object [("", .object
      [("enum", .array []), ("type", .string "string")])]), ("type", .string "object")]).Ordered := by
    simp only [Json.Ordered, Json.OrderedMembers, Json.OrderedElements, Json.NamesIncrease]
    decide
  have found : Schema.read 2 (.object [("properties", .object [("", .object
      [("enum", .array []), ("type", .string "string")])]), ("type", .string "object")]) =
      .ok (.object [("", .string { members := some [] })] []) := by
    rfl
  have cut : Schema.read 1 (.object [("properties", .object [("", .object
      [("enum", .array []), ("type", .string "string")])]), ("type", .string "object")]) =
      .error (.malformed { steps := [.property ""] } (.tooDeep 1)) := by
    rfl
  have unmet : ((Schema.object [("", .string { members := some [] })] []).generate RandomSource.least).run.run () =
      (.error (.malformed { steps := [.property ""] } .membersEmpty), ()) := by
    rfl
  have orderedAlone : (Json.object [("properties", .boolean true), ("type", .string "object")]).Ordered := by
    simp only [Json.Ordered, Json.OrderedMembers, Json.NamesIncrease]
    decide
  have noFlag : (Schema.object [("0", .boolean)] []).check (.object [("0", .null)]) =
      .error ⟨[.key "0"], .wrongType "boolean" "null"⟩ := by
    rfl
  have noElement : (Schema.array .boolean {}).check (.array [.null]) =
      .error ⟨[.index 0], .wrongType "boolean" "null"⟩ := by
    rfl
  refine ⟨?_, ?_, ?_, ?_, ?_, ?_⟩
  · intro same
    have broken : ShallowNode.read (.object [("properties", .boolean true), ("type", .string "object")]) =
        .error (.malformed { steps := [], field := some "properties" } .objectExpected) := by
      rfl
    have failed : Schema.read 1 (.object [("properties", .boolean true), ("type", .string "object")]) =
        .error (.malformed { steps := [], field := some "properties" } .objectExpected) := by
      rfl
    have nameless := StoredSchema.undotted_of_read_eq_error broken
    have samePlace := paths_identify_places.1 _ _ (.generating undotted (.generate unmet))
      (.reading orderedAlone nameless (.read failed)) same
    cases samePlace
  · exact (paths_identify_places.2.1 _ _ _ _ ordered (.read cut)).1
  · exact (paths_identify_places.2.2.1 _ _ _ (.generate unmet)).1
  · exact (paths_identify_places.2.2.2.1 2 _ _ ordered found).1 _
  · exact paths_identify_places.2.2.2.2.1 _ _ (.check noFlag)
  · intro same
    have plain : ∀ step ∈ [DataStep.key "0"], step.Plain := by
      intro step taken
      rw [List.mem_singleton.1 taken]
      exact ⟨by decide, by decide⟩
    have plain' : ∀ step ∈ [DataStep.index 0], step.Plain := by
      intro step taken
      rw [List.mem_singleton.1 taken]
      exact trivial
    have sameSteps := paths_identify_places.2.2.2.2.2 _ _ _ _ (.check noFlag) (.check noElement) plain plain' same
    cases sameSteps

end CompactSchema
