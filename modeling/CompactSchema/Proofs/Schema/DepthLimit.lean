import CompactSchema.Proofs.Schema.FirstError
import CompactSchema.Proofs.Schema.Storable
import Mathlib.Data.List.Lex

/-
Reading under different limits of levels.

A schema that can be read under some limit can be read under every limit that it keeps to,
and is the same.  Under a limit that it does not keep to, reading stops at the first of
the nodes that the limit cuts off.
-/

namespace CompactSchema
namespace StoredSchema

open SchemaStep (Before)

theorem levels_pos (schema : Schema) : 0 < schema.levels := by
  cases schema with
  | array items count => exact Nat.succ_pos _
  | object properties required => exact Nat.succ_pos _
  | _ => exact Nat.one_pos

theorem denoteProperties_of_levels_le {levels levels' : Nat}
    (each : ∀ stored schema, Denotes levels stored schema → schema.levels ≤ levels' →
      Denotes levels' stored schema)
    {stored : List (String × Json)} {properties : List (String × Schema)}
    (denoted : DenoteProperties levels stored properties)
    (enough : Schema.propertyLevels properties ≤ levels') :
    DenoteProperties levels' stored properties := by
  induction stored generalizing properties with
  | nil =>
      cases denoted
      exact .nil
  | cons property rest ih =>
      cases denoted with
      | cons first others =>
          obtain ⟨enoughFirst, enoughOthers⟩ := Nat.max_le.1 enough
          exact .cons (each _ _ first enoughFirst) (ih others enoughOthers)

/-- A tree needs no more levels than the schema has that it denotes. -/
theorem denotes_of_levels_le {levels levels' : Nat} {stored : Json} {schema : Schema}
    (denoted : Denotes levels stored schema) (enough : schema.levels ≤ levels') :
    Denotes levels' stored schema := by
  induction levels generalizing levels' stored schema with
  | zero => cases denoted
  | succ levels ih =>
      obtain ⟨levels', rfl⟩ : ∃ rest, levels' = rest + 1 :=
        Nat.exists_eq_add_one.2 (Nat.lt_of_lt_of_le (levels_pos schema) enough)
      cases denoted with
      | leaf node => exact .leaf node
      | array node inner => exact .array node (ih inner (Nat.le_of_succ_le_succ enough))
      | object node inner =>
          have enough := Nat.le_of_succ_le_succ enough
          exact .object node (denoteProperties_of_levels_le (fun _ _ => ih) inner enough)

theorem read_of_levels_le {limit limit' : Nat} {stored : Json} {schema : Schema}
    (found : Schema.read limit stored = .ok schema) (enough : schema.levels ≤ limit') :
    Schema.read limit' stored = .ok schema :=
  readNode_eq_ok_iff.2 (denotes_of_levels_le (readNode_eq_ok_iff.1 found) enough)

theorem levels_le_of_read {limit : Nat} {stored : Json} {schema : Schema}
    (found : Schema.read limit stored = .ok schema) : schema.levels ≤ limit :=
  (Schema.storable_of_readNode found).2

theorem exists_node_of_append {stored node : Json} {steps rest : List SchemaStep}
    (there : Node stored (steps ++ rest) node) : ∃ between, Node stored steps between := by
  induction steps generalizing stored with
  | nil => exact ⟨stored, .root stored⟩
  | cons step steps ih =>
      cases there with
      | next first inner =>
          obtain ⟨between, there⟩ := ih inner
          exact ⟨between, .next first there⟩

/-- A node of a schema that can be read can be read by itself. -/
theorem not_fails_of_read {limit : Nat} {stored : Json} (ordered : stored.Ordered) {schema : Schema}
    (found : Schema.read limit stored = .ok schema) {steps : List SchemaStep} {node : Json}
    (there : Node stored steps node) {own : SchemaError} : ¬ Fails limit steps.length node own := by
  intro fails
  have reports := readNode_reportsFirst (Nat.zero_add limit) ordered
  obtain ⟨error, failed⟩ := reports.exists_error_iff.2 ⟨steps, node, own, there, fails⟩
  rw [Schema.read, failed] at found
  cases found

/-- Of the broken nodes of a schema that could be read under a higher limit, the first lies
just at the limit, and its only fault is to be there. -/
theorem tooDeep_of_isFirst {low high : Nat} (le : low ≤ high) {stored : Json} (ordered : stored.Ordered)
    {schema : Schema} (found : Schema.read high stored = .ok schema) {steps : List SchemaStep}
    (first : IsFirst Before (Broken low 0 stored) steps) {node : Json} (there : Node stored steps node)
    {own : SchemaError} (fails : Fails low steps.length node own) :
    own = .atNode (.tooDeep low) ∧ steps.length = low := by
  cases fails with
  | unreadable shallow failed =>
      exact absurd (.unreadable (Nat.lt_of_lt_of_le shallow le) failed) (not_fails_of_read ordered found there)
  | tooDeep deep =>
      refine ⟨rfl, Nat.le_antisymm (Nat.not_lt.1 fun deeper => ?_) deep⟩
      -- Otherwise the node above it at the limit would be broken too, and come before it.
      have parts : steps.take low ++ steps[low] :: steps.drop (low + 1) = steps := by
        rw [List.getElem_cons_drop, List.take_append_drop]
      obtain ⟨between, above⟩ : ∃ between, Node stored (steps.take low) between := by
        rw [← parts] at there
        exact exists_node_of_append there
      have precedes : List.Lex Before (steps.take low) steps := by
        have longer : List.Lex Before (steps.take low ++ [])
            (steps.take low ++ steps[low] :: steps.drop (low + 1)) :=
          List.Lex.append_left Before .nil _
        rwa [List.append_nil, parts] at longer
      have cut : Fails low (steps.take low).length between (.atNode (.tooDeep low)) :=
        .tooDeep (Nat.le_of_eq (List.length_take_of_le deep).symm)
      exact first.not_faulty_of_lex Before.asymm precedes ⟨between, _, above, cut⟩

/-- Raising the limit changes nothing about a schema that can be read.  Lowering it changes
nothing either for a schema of no more levels; of one with more levels it is said that the
limit is exceeded, at the first node in pre-order whose level is the limit. -/
theorem read_of_lower_limit [Diagnosis] {low high : Nat} (le : low ≤ high) (stored : Json)
    (ordered : stored.Ordered) :
    (∀ schema, Schema.read low stored = .ok schema → Schema.read high stored = .ok schema) ∧
    ∀ schema, Schema.read high stored = .ok schema →
      (schema.levels ≤ low → Schema.read low stored = .ok schema) ∧
      (low < schema.levels →
        ∃ steps, IsFirst Before (fun steps => steps.length = low ∧ ∃ node, Node stored steps node) steps ∧
          Schema.read low stored = .error (.malformed { steps } (.tooDeep low)) ∧
          (SchemaError.malformed { steps } (.tooDeep low)).message =
            SchemaErrorKind.malformed.message (SchemaPlace.nodePath steps) s!"nesting exceeds {low} levels") := by
  have raise (schema : Schema) (found : Schema.read low stored = .ok schema) :
      Schema.read high stored = .ok schema :=
    read_of_levels_le found (Nat.le_trans (levels_le_of_read found) le)
  refine ⟨raise, fun schema found => ⟨read_of_levels_le found, fun more => ?_⟩⟩
  have reports := readNode_reportsFirst (Nat.zero_add low) ordered
  cases result : Schema.read low stored with
  | ok schema' =>
      have same : schema' = schema := Except.ok.inj ((raise schema' result).symm.trans found)
      subst same
      exact absurd (levels_le_of_read result) (Nat.not_le.2 more)
  | error error =>
      rw [Schema.read] at result
      rw [result] at reports
      obtain ⟨steps, ⟨node, own, there, fails, rfl⟩, first⟩ := reports.exists_first
      obtain ⟨rfl, atLimit⟩ := tooDeep_of_isFirst le ordered found first there fails
      refine ⟨steps, ⟨⟨atLimit, node, there⟩, ?_⟩, ?_, rfl⟩
      · rintro other ⟨length, node', there'⟩
        have cut : Fails low other.length node' (.atNode (.tooDeep low)) := .tooDeep (Nat.le_of_eq length.symm)
        exact first.least other ⟨node', _, there', cut⟩
      · rw [SchemaError.atNode, SchemaPlace.here, SchemaError.seenFrom_malformed]

/-- Of two properties with items, those of the first name are cut off first. -/
theorem read_of_lower_limit_two :
    let _ : Diagnosis := .brief
    Schema.read 2 (.object [("properties", .object [
      ("a", .object [("items", .object [("type", .string "null")]), ("type", .string "array")]),
      ("b", .object [("items", .object [("type", .string "null")]), ("type", .string "array")])]),
      ("type", .string "object")]) =
      .error (.malformed { steps := [.property "a", .items] } (.tooDeep 2)) ∧
    ∃ steps, IsFirst Before (fun steps => steps.length = 2 ∧ ∃ node, Node (.object [("properties", .object [
      ("a", .object [("items", .object [("type", .string "null")]), ("type", .string "array")]),
      ("b", .object [("items", .object [("type", .string "null")]), ("type", .string "array")])]),
      ("type", .string "object")]) steps node) steps ∧
      SchemaPlace.nodePath steps = "$.properties.a.items" := by
  intro diagnosis
  have ordered : (Json.object [("properties", .object [
      ("a", .object [("items", .object [("type", .string "null")]), ("type", .string "array")]),
      ("b", .object [("items", .object [("type", .string "null")]), ("type", .string "array")])]),
      ("type", .string "object")]).Ordered := by
    simp only [Json.Ordered, Json.OrderedMembers, Json.NamesIncrease]
    decide
  have found : Schema.read 3 (.object [("properties", .object [
      ("a", .object [("items", .object [("type", .string "null")]), ("type", .string "array")]),
      ("b", .object [("items", .object [("type", .string "null")]), ("type", .string "array")])]),
      ("type", .string "object")]) =
      .ok (.object [("a", .array .null {}), ("b", .array .null {})] []) := by
    rfl
  have cut : Schema.read 2 (.object [("properties", .object [
      ("a", .object [("items", .object [("type", .string "null")]), ("type", .string "array")]),
      ("b", .object [("items", .object [("type", .string "null")]), ("type", .string "array")])]),
      ("type", .string "object")]) =
      .error (.malformed { steps := [.property "a", .items] } (.tooDeep 2)) := by
    rfl
  have lower : 2 ≤ 3 := by decide
  have more : 2 < (Schema.object [("a", .array .null {}), ("b", .array .null {})] []).levels := by decide
  obtain ⟨steps, first, failed, _⟩ := ((read_of_lower_limit lower _ ordered).2 _ found).2 more
  rw [cut] at failed
  cases failed
  exact ⟨cut, _, first, rfl⟩

end StoredSchema
end CompactSchema
