import CompactSchema.Proofs.Schema.Fields
import CompactSchema.Proofs.Schema.Reading

/-
Order of names in what is read.

In members whose names increase a name is looked up exactly where it stands.  A node takes
ordered values from an ordered stored form, and a schema that is read from one is ordered
itself.
-/

namespace CompactSchema

open Json (NamesIncrease OrderedMembers)

theorem Json.lookup_eq_some_iff_mem {α : Type} {members : List (String × α)} (increase : NamesIncrease members)
    {name : String} {value : α} : members.lookup name = some value ↔ (name, value) ∈ members := by
  induction members with
  | nil => simp
  | cons member rest ih =>
      obtain ⟨other, held⟩ := member
      obtain ⟨less, others⟩ := List.pairwise_cons.1 increase
      rw [Json.lookup_cons, List.mem_cons, Prod.mk.injEq]
      split
      · rename_i same
        subst same
        have absent : (name, value) ∉ rest := fun inside => String.lt_irrefl name (less _ inside)
        rw [Option.some.injEq, or_iff_left absent, and_iff_right rfl]
        exact eq_comm
      · rename_i different
        rw [ih others, or_iff_right fun same => different same.1]

theorem Json.ordered_of_mem {members : List (String × Json)} (ordered : OrderedMembers members)
    {name : String} {value : Json} (inside : (name, value) ∈ members) : value.Ordered := by
  induction members with
  | nil => cases inside
  | cons member rest ih =>
      rcases List.mem_cons.1 inside with same | later
      · cases same
        exact ordered.1
      · exact ih ordered.2 later

theorem Json.ordered_of_lookup {name : String} {value : Json} {fields : List (String × Json)}
    (ordered : OrderedMembers fields) (found : fields.lookup name = some value) : value.Ordered := by
  obtain ⟨before, after, rfl, _⟩ := List.lookup_eq_some_iff.1 found
  exact ordered_of_mem ordered (List.mem_append_right before List.mem_cons_self)

namespace ShallowNode

open SchemaFields

/-- Whatever the node takes from its stored form is ordered. -/
def Ordered : ShallowNode → Prop
  | .leaf schema => schema.Ordered
  | .array items _ => items.Ordered
  | .object properties _ => NamesIncrease properties ∧ OrderedMembers properties

theorem ordered_of_present? {name : String} {value : Json} {fields : List (String × Json)}
    (ordered : OrderedMembers fields) (found : present? name fields = some value) : value.Ordered := by
  unfold present? at found
  split at found
  · cases found
  · exact Json.ordered_of_lookup ordered found

theorem ordered_of_properties {name : String} {fields properties : List (String × Json)}
    (ordered : OrderedMembers fields) (found : SchemaFields.properties name fields = .ok properties) :
    NamesIncrease properties ∧ OrderedMembers properties := by
  unfold SchemaFields.properties at found
  split at found
  · cases found
    exact ⟨List.Pairwise.nil, trivial⟩
  · rename_i members present
    cases found
    exact ordered_of_present? ordered present
  · cases found

theorem ordered_of_readTagged {tag : String} {fields : List (String × Json)} {node : ShallowNode}
    (ordered : OrderedMembers fields) (read : readTagged tag fields = .ok node) : node.Ordered := by
  unfold readTagged at read
  split at read
  · obtain ⟨_, _, _, _, _, _, _, _, rfl⟩ := readString_eq_ok_iff.1 read
    exact trivial
  · obtain ⟨_, _, _, _, _, _, _, rfl⟩ := readNumber_eq_ok_iff.1 read
    exact trivial
  · cases read
    exact trivial
  · cases read
    exact trivial
  · obtain ⟨_, _, rfl⟩ := readId_eq_ok_iff.1 read
    exact trivial
  · obtain ⟨items, count, found, _, rfl⟩ := readArray_eq_ok_iff.1 read
    exact ordered_of_present? ordered found
  · obtain ⟨properties, required, found, _, rfl⟩ := readObject_eq_ok_iff.1 read
    exact ordered_of_properties ordered found
  · cases read

theorem ordered_of_read {stored : Json} {node : ShallowNode} (ordered : stored.Ordered)
    (found : read stored = .ok node) : node.Ordered := by
  unfold read at found
  split at found
  · obtain ⟨tag, _, rest⟩ := bind_eq_ok_iff.1 found
    exact ordered_of_readTagged ordered.2 rest
  · cases found

end ShallowNode

namespace Schema

theorem names_of_propertiesRead {readNode : Json → Except SchemaError Schema}
    {stored : List (String × Json)} {properties : List (String × Schema)}
    (read : PropertiesRead readNode stored properties) :
    properties.map (·.1) = stored.map (·.1) := by
  induction read with
  | nil => rfl
  | cons _ _ ih => rw [List.map_cons, List.map_cons, ih]

theorem namesIncrease_iff {α : Type} {members : List (String × α)} :
    NamesIncrease members ↔ (members.map (·.1)).Pairwise (· < ·) :=
  List.pairwise_map.symm

theorem propertiesOrdered_of_propertiesRead {readNode : Json → Except SchemaError Schema}
    (promise : ∀ stored schema, stored.Ordered → readNode stored = .ok schema → schema.Ordered)
    {stored : List (String × Json)} {properties : List (String × Schema)}
    (read : PropertiesRead readNode stored properties) (ordered : OrderedMembers stored) :
    PropertiesOrdered properties := by
  induction read with
  | nil => exact trivial
  | cons first others ih => exact ⟨promise _ _ ordered.1 first, ih ordered.2⟩

theorem ordered_of_readNode {limit left : Nat} {stored : Json} {schema : Schema}
    (ordered : stored.Ordered) (read : readNode limit left stored = .ok schema) : schema.Ordered := by
  induction left generalizing stored schema with
  | zero => exact absurd read readNode_zero_ne_ok
  | succ left ih =>
      obtain ⟨node, fields, children⟩ := readNode_succ_eq_ok_iff.1 read
      have own := ShallowNode.ordered_of_read ordered fields
      cases children with
      | leaf => exact own
      | array count readItems =>
          have inner := ih own readItems
          exact inner
      | object required readOnes =>
          refine ⟨?_, propertiesOrdered_of_propertiesRead (fun _ _ => ih) readOnes own.2⟩
          rw [namesIncrease_iff, names_of_propertiesRead readOnes, ← namesIncrease_iff]
          exact own.1

end Schema

end CompactSchema
