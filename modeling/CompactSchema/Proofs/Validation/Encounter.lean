import CompactSchema.Proofs.Schema.Replacement
import CompactSchema.Proofs.Validation.Conformance
import CompactSchema.Validation.Lazy
import Mathlib

/-
What a datum meets in a stored schema.

A datum meets the root of a stored schema, and each part of the datum meets the child
that stands for it.  Lazy validation accepts exactly the data that meet only nodes that
can be read, lie above the limit of levels, and ask for no more than the part offers.
What no part meets does not matter.
-/

namespace CompactSchema

/-- A stored schema node, the part of a datum that reaches it, and the node's level. -/
structure Encounter where
  stored : Json
  value : Json
  depth : Nat

/-- The part meets what the node itself asks for, its children apart. -/
def ShallowNode.Meets : ShallowNode → Json → Prop
  | .leaf schema, value => schema.Conforms value
  | .array _ count, value => ∃ elements, value = .array elements ∧ count.Allow elements.length
  | .object _ required, value => ∃ members, value = .object members ∧ HasRequired members required

namespace Encounter

/-- A part of the part meets a child of the node. -/
inductive Step : Encounter → SchemaStep → Encounter → Prop
  | element {stored items : Json} {count : LengthBounds} {elements : List Json} {element : Json}
      {depth : Nat} (node : ShallowNode.read stored = .ok (.array items count))
      (inside : element ∈ elements) :
      Step ⟨stored, .array elements, depth⟩ .items ⟨items, element, depth + 1⟩
  | member {stored child value : Json} {properties members : List (String × Json)}
      {required : List String} {name : String} {depth : Nat}
      (node : ShallowNode.read stored = .ok (.object properties required))
      (declared : (name, child) ∈ properties) (present : members.lookup name = some value) :
      Step ⟨stored, .object members, depth⟩ (.property name) ⟨child, value, depth + 1⟩

inductive Path : Encounter → List SchemaStep → Encounter → Prop
  | here (met : Encounter) : Path met [] met
  | next {start between met : Encounter} {step : SchemaStep} {steps : List SchemaStep}
      (first : Step start step between) (rest : Path between steps met) :
      Path start (step :: steps) met

/-- The node lies above the limit, can be read, and is met. -/
def Fine (limit : Nat) (met : Encounter) : Prop :=
  met.depth < limit ∧ ∃ node, ShallowNode.read met.stored = .ok node ∧ node.Meets met.value

/-- All encounters are fine if the first is, and all that follow from the next ones
are. -/
theorem forall_path_iff {start : Encounter} {good : Encounter → Prop} :
    (∀ steps met, Path start steps met → good met) ↔
      good start ∧ ∀ step between, Step start step between →
        ∀ steps met, Path between steps met → good met := by
  constructor
  · intro all
    refine ⟨all [] start (.here start), ?_⟩
    intro step between first steps met rest
    exact all (step :: steps) met (.next first rest)
  · rintro ⟨here, there⟩ steps met path
    cases path with
    | here => exact here
    | next first rest => exact there _ _ first _ _ rest

end Encounter

namespace StoredSchema

open Encounter Verdict

theorem checkProperties_isPass_iff (check : Json → Json → Verdict) (members : List (String × Json))
    (properties : List (String × Json)) :
    (checkProperties check members properties).isPass = true ↔
      ∀ name stored, (name, stored) ∈ properties →
        ∀ value, members.lookup name = some value → (check stored value).isPass = true := by
  induction properties with
  | nil => simp [checkProperties]
  | cons property rest ih =>
      obtain ⟨name, stored⟩ := property
      rw [checkProperties, isPass_bind, Bool.and_eq_true, ih, Check.property_isPass_iff]
      constructor
      · rintro ⟨first, others⟩ name' stored' inside
        rcases List.mem_cons.1 inside with same | later
        · cases same
          exact first
        · exact others name' stored' later
      · intro all
        exact ⟨all name stored List.mem_cons_self,
          fun name' stored' later => all name' stored' (List.mem_cons_of_mem _ later)⟩

/-- A node and what is below it pass exactly when all encounters from there on are
fine. -/
theorem checkNode_isPass_iff {limit left depth : Nat} (levels : depth + left = limit)
    (stored value : Json) :
    (checkNode limit left stored value).isPass = true ↔
      ∀ steps met, Path ⟨stored, value, depth⟩ steps met → met.Fine limit := by
  induction left generalizing depth stored value with
  | zero =>
      simp only [checkNode, isPass_fail, Bool.false_eq_true, false_iff]
      intro all
      have above := (all [] _ (.here _)).1
      simp only at above
      omega
  | succ left ih =>
      have above : depth < limit := by omega
      have below : depth + 1 + left = limit := by omega
      rw [forall_path_iff]
      cases read : ShallowNode.read stored with
      | error e =>
          simp only [checkNode, read, isPass_fail, Bool.false_eq_true, false_iff]
          rintro ⟨⟨_, node, found, _⟩, _⟩
          simp only at found
          rw [read] at found
          cases found
      | ok node =>
          have fine : Fine limit ⟨stored, value, depth⟩ ↔ node.Meets value := by
            constructor
            · rintro ⟨_, node', found, meets⟩
              simp only at found
              rw [read] at found
              cases found
              exact meets
            · intro meets
              exact ⟨above, node, read, meets⟩
          rw [fine]
          cases node with
          | leaf schema =>
              simp only [checkNode, read, Schema.check_isPass_iff]
              constructor
              · intro conforms
                refine ⟨conforms, ?_⟩
                intro step between first
                cases first with
                | element node => rw [read] at node; cases node
                | member node => rw [read] at node; cases node
              · rintro ⟨conforms, _⟩
                exact conforms
          | array items count =>
              cases value with
              | array elements =>
                  simp only [checkNode, read, isPass_bind, Bool.and_eq_true,
                    Check.count_isPass_iff, Check.elements_isPass_iff, ShallowNode.Meets,
                    Json.array.injEq, exists_eq_left']
                  apply and_congr_right
                  intro _
                  constructor
                  · intro all step between first
                    cases first with
                    | element node inside =>
                        rw [read] at node
                        cases node
                        exact (ih below items _).1 (all _ inside)
                  · intro all element inside
                    exact (ih below items element).2 (all _ _ (.element read inside))
              | _ => simp [checkNode, read, ShallowNode.Meets]
          | object properties required =>
              cases value with
              | object members =>
                  simp only [checkNode, read, isPass_bind, Bool.and_eq_true,
                    Check.required_isPass_iff, checkProperties_isPass_iff, ShallowNode.Meets,
                    Json.object.injEq, exists_eq_left']
                  apply and_congr_right
                  intro _
                  constructor
                  · intro all step between first
                    cases first with
                    | member node declared present =>
                        rw [read] at node
                        cases node
                        exact (ih below _ _).1 (all _ _ declared _ present)
                  · intro all name child declared part present
                    exact (ih below child part).2 (all _ _ (.member read declared present))
              | _ => simp [checkNode, read, ShallowNode.Meets]

theorem checkProperties_mapMember {check : Json → Json → Verdict} {name : String}
    {change : Json → Json} {members properties : List (String × Json)}
    (same : ∀ child value, (name, child) ∈ properties → members.lookup name = some value →
      check (change child) value = check child value) :
    checkProperties check members (mapMember name change properties) =
      checkProperties check members properties := by
  induction properties with
  | nil => rfl
  | cons property rest ih =>
      obtain ⟨other, child⟩ := property
      have others := ih fun child' value inside => same child' value (List.mem_cons_of_mem _ inside)
      have first : Check.property (check (if other = name then change child else child)) members other =
          Check.property (check child) members other := by
        by_cases here : other = name
        · subst here
          unfold Check.property
          cases present : members.lookup other with
          | none => rfl
          | some value =>
              simp only [if_true]
              rw [same child value List.mem_cons_self present]
        · rw [if_neg here]
      unfold mapMember at others ⊢
      rw [List.map_cons]
      by_cases here : other = name
      · simp only [here, if_true, checkProperties] at first ⊢
        rw [first, others]
      · simp only [here, if_false, checkProperties]
        rw [others]

/-- Replacing a child that no part meets changes nothing. -/
theorem checkNode_replaceAt {limit left depth : Nat} {new : Json} {steps : List SchemaStep}
    (proper : steps.getLast? = some .items → new ≠ .null) {stored value : Json}
    (unmet : ∀ met, ¬ Path ⟨stored, value, depth⟩ steps met) :
    checkNode limit left (replaceAt new steps stored) value = checkNode limit left stored value := by
  -- By induction on the steps: a node on the way is read as before, and of its children
  -- only the one that the next step leads to is checked anew.
  induction steps generalizing left depth stored value with
  | nil => exact absurd (Path.here _) (unmet _)
  | cons step steps ih =>
      have inner : steps.getLast? = some .items → new ≠ .null := by
        intro last
        apply proper
        rw [List.getLast?_cons, last]
        rfl
      have atEnd : step = .items → steps = [] → new ≠ .null := by
        intro here done
        apply proper
        rw [here, done]
        rfl
      cases left with
      | zero => rfl
      | succ left =>
          have changed := ShallowNode.read_replaceAt atEnd stored
          cases read : ShallowNode.read stored with
          | error e =>
              rw [read] at changed
              simp only [checkNode, changed, read, Except.map]
          | ok node =>
              rw [read] at changed
              simp only [checkNode, changed, read, Except.map]
              cases node with
              | leaf schema => rfl
              | array items count =>
                  cases step with
                  | property name => rfl
                  | items =>
                      simp only [ShallowNode.mapChild]
                      cases value with
                      | array elements =>
                          have same (element : Json) (inside : element ∈ elements) :
                              checkNode limit left (replaceAt new steps items) element =
                                checkNode limit left items element :=
                            ih inner fun met rest => unmet met (.next (.element read inside) rest)
                          simp only
                          rw [Check.elements_eq (List.map_congr_left same)]
                      | _ => rfl
              | object properties required =>
                  cases step with
                  | items => rfl
                  | property name =>
                      simp only [ShallowNode.mapChild]
                      cases value with
                      | object members =>
                          have same (child part : Json) (declared : (name, child) ∈ properties)
                              (present : members.lookup name = some part) :
                              checkNode limit left (replaceAt new steps child) part =
                                checkNode limit left child part :=
                            ih inner fun met rest =>
                              unmet met (.next (.member read declared present) rest)
                          simp only
                          rw [checkProperties_mapMember same]
                      | _ => rfl

/-- Lazy validation accepts a datum exactly when every encounter, from that of the
datum with the root on, is fine: the node lies above the limit of levels, can be read,
and is met.  A child that no part meets can be replaced by any value, if only the
`items` of an array stay present, and a node that cannot be read spoils every datum a
part of which meets it. -/
theorem accepts_iff_forall_encounters (stored value : Json) :
    (StoredSchema.accepts stored value = true ↔
      ∀ steps met, Path ⟨stored, value, 0⟩ steps met → met.Fine Schema.defaultDepthLimit) ∧
    (∀ steps new, (∀ met, ¬ Path ⟨stored, value, 0⟩ steps met) →
      (steps.getLast? = some .items → new ≠ .null) →
      StoredSchema.accepts (replaceAt new steps stored) value = StoredSchema.accepts stored value) ∧
    (∀ steps met error, Path ⟨stored, value, 0⟩ steps met →
      ShallowNode.read met.stored = .error error → StoredSchema.accepts stored value = false) := by
  have verdict : StoredSchema.accepts stored value = true ↔
      ∀ steps met, Path ⟨stored, value, 0⟩ steps met → met.Fine Schema.defaultDepthLimit :=
    checkNode_isPass_iff (Nat.zero_add _) stored value
  refine ⟨verdict, ?_, ?_⟩
  · intro steps new unmet proper
    unfold StoredSchema.accepts StoredSchema.check
    rw [checkNode_replaceAt proper unmet]
  · intro steps met error path broken
    rw [← Bool.not_eq_true, verdict]
    intro all
    obtain ⟨_, node, found, _⟩ := all steps met path
    rw [broken] at found
    cases found

/-- A property that the datum lacks may have any schema, or none that can be read. -/
theorem accepts_of_broken_property_unmet :
    StoredSchema.accepts
      (replaceAt (.boolean true) [.property "b"]
        (.object [("properties", .object [("a", .object [("type", .string "null")]),
          ("b", .object [("type", .string "string")])]), ("type", .string "object")]))
      (.object [("a", .null)]) =
    StoredSchema.accepts
      (.object [("properties", .object [("a", .object [("type", .string "null")]),
        ("b", .object [("type", .string "string")])]), ("type", .string "object")])
      (.object [("a", .null)]) := by
  refine (accepts_iff_forall_encounters _ _).2.1 [.property "b"] (.boolean true) ?_ ?_
  · intro met path
    cases path with
    | next first rest =>
        cases first with
        | member node declared present => cases present
  · intro last
    cases last

/-- The `items` of an array schema cannot be replaced by `null`, even where the datum has
no element. -/
theorem not_accepts_of_items_replaced_by_null :
    (∀ met, ¬ Path
      ⟨.object [("items", .object [("type", .string "string")]), ("type", .string "array")],
        .array [], 0⟩ [.items] met) ∧
    StoredSchema.accepts
      (.object [("items", .object [("type", .string "string")]), ("type", .string "array")])
      (.array []) = true ∧
    StoredSchema.accepts
      (replaceAt .null [.items]
        (.object [("items", .object [("type", .string "string")]), ("type", .string "array")]))
      (.array []) = false := by
  refine ⟨?_, by cbv, by cbv⟩
  intro met path
  cases path with
  | next first rest =>
      cases first with
      | element node inside => cases inside

end StoredSchema
end CompactSchema
