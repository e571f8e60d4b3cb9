import CompactSchema.Proofs.Json.Number
import CompactSchema.Proofs.Schema.Fields
import CompactSchema.Proofs.Schema.Reading

/-
Schemas that have a stored form of their own.

Lengths must be small enough to be read and must not be inverted, numbers must be finite
and not inverted, and a format whose name is known must be known.  Every schema that
has been read is of this kind, and has no more levels than the limit.
-/

namespace CompactSchema

structure LengthBounds.Storable (bounds : LengthBounds) : Prop where
  least : ∀ least, bounds.least = some least → least ≤ SchemaFields.lengthLimit
  most : ∀ most, bounds.most = some most → most ≤ SchemaFields.lengthLimit
  ordered : ∀ least most, bounds.least = some least → bounds.most = some most → least ≤ most

structure NumberConstraints.Storable (constraints : NumberConstraints) : Prop where
  least : ∀ least, constraints.least = some least → least.isFinite = true
  most : ∀ most, constraints.most = some most → most.isFinite = true
  ordered : ShallowNode.NumbersOrdered constraints.least constraints.most
  members : ∀ members, constraints.members = some members → ∀ member ∈ members, member.isFinite = true

/-- A name that is kept as unknown is unknown. -/
def StringFormat.Storable : StringFormat → Prop
  | .other name => StringFormat.ofName name = .other name
  | _ => True

/-- A name that is kept as unknown is unknown. -/
def IdFormat.Storable : IdFormat → Prop
  | .other name => IdFormat.ofName name = .other name
  | _ => True

namespace Schema

mutual

/-- Every node of the tree has constraints that can be read. -/
def Storable : Schema → Prop
  | .string constraints =>
      constraints.length.Storable ∧ ∀ format, constraints.format = some format → format.Storable
  | .number constraints => constraints.Storable
  | .boolean | .null => True
  | .array items count => items.Storable ∧ count.Storable
  | .object properties _ => PropertiesStorable properties
  | .id format => ∀ name, format = some name → name.Storable

def PropertiesStorable : List (String × Schema) → Prop
  | [] => True
  | (_, schema) :: rest => schema.Storable ∧ PropertiesStorable rest

end

end Schema

theorem StringFormat.storable_ofName (name : String) : (StringFormat.ofName name).Storable := by
  unfold StringFormat.ofName
  split
  · exact trivial
  · exact trivial
  · exact trivial
  · exact trivial
  · exact trivial
  · rename_i unknown
    unfold StringFormat.Storable StringFormat.ofName
    split <;> simp_all

theorem IdFormat.storable_ofName (name : String) : (IdFormat.ofName name).Storable := by
  unfold IdFormat.ofName
  split
  · exact trivial
  · exact trivial
  · unfold IdFormat.Storable IdFormat.ofName
    split <;> simp_all

namespace SchemaFields

variable {name : String} {fields : List (String × Json)}

theorem length_le_of_ok {found : Option UInt64} (read : length name fields = .ok found)
    (least : UInt64) (here : found = some least) : least ≤ lengthLimit := by
  subst here
  unfold length at read
  split at read
  · cases read
  · split at read
    · cases read
    · split at read
      · cases read
        assumption
      · cases read
  · cases read

theorem storable_of_lengthBounds {leastName mostName : String} {bounds : LengthBounds}
    (read : lengthBounds leastName mostName fields = .ok bounds) : bounds.Storable := by
  unfold lengthBounds at read
  obtain ⟨least, readLeast, rest⟩ := bind_eq_ok_iff.1 read
  obtain ⟨most, readMost, rest⟩ := bind_eq_ok_iff.1 rest
  have smallLeast := length_le_of_ok readLeast
  have smallMost := length_le_of_ok readMost
  split at rest
  · split at rest
    · cases rest
    · rename_i notInverted
      cases rest
      refine ⟨smallLeast, smallMost, ?_⟩
      intro lo hi left right
      cases left
      cases right
      exact UInt64.not_lt.1 notInverted
  · rename_i notBoth
    cases rest
    exact ⟨smallLeast, smallMost, fun lo hi left right => absurd right (notBoth lo hi left)⟩

theorem isFinite_toBinary64 (n : Number) : n.toBinary64.isFinite = true := by
  obtain ⟨x, finite⟩ := n.exists_toBinary64_eq
  rw [finite]
  rfl

theorem number_isFinite_of_ok {found : Option Binary64} (read : number name fields = .ok found)
    (x : Binary64) (here : found = some x) : x.isFinite = true := by
  subst here
  unfold number at read
  split at read
  · cases read
  · cases read
    exact isFinite_toBinary64 _
  · cases read

theorem isFinite_of_elements {stored : List Json} {members : List Binary64}
    (read : elements? number? stored = some members) : ∀ member ∈ members, member.isFinite = true := by
  induction stored generalizing members with
  | nil =>
      cases read
      intro member impossible
      cases impossible
  | cons element rest ih =>
      unfold elements? at read
      split at read
      · rename_i value values readFirst readOthers
        cases read
        intro member inside
        rcases List.mem_cons.1 inside with same | later
        · subst same
          unfold number? at readFirst
          split at readFirst
          · cases readFirst
            exact isFinite_toBinary64 _
          · cases readFirst
        · exact ih readOthers member later
      · cases read

theorem numbers_isFinite_of_ok {found : Option (List Binary64)} (read : numbers name fields = .ok found)
    (members : List Binary64) (here : found = some members) :
    ∀ member ∈ members, member.isFinite = true := by
  subst here
  unfold numbers at read
  split at read
  · cases read
  · split at read
    · rename_i readMembers
      cases read
      exact isFinite_of_elements readMembers
    · cases read
  · cases read

end SchemaFields

namespace ShallowNode

open SchemaFields

/-- The constraints of the node itself can be read again, and a node without children has
one level. -/
def Storable : ShallowNode → Prop
  | .leaf schema => schema.Storable ∧ schema.levels = 1
  | .array _ count => count.Storable
  | .object _ _ => True

theorem storable_of_readTagged {tag : String} {fields : List (String × Json)} {node : ShallowNode}
    (read : readTagged tag fields = .ok node) : node.Storable := by
  unfold readTagged at read
  split at read
  · obtain ⟨length, pattern, members, format, readLength, _, _, _, same⟩ :=
      readString_eq_ok_iff.1 read
    subst same
    refine ⟨⟨storable_of_lengthBounds readLength, ?_⟩, rfl⟩
    intro found here
    obtain ⟨name, _, named⟩ := Option.map_eq_some_iff.1 here
    subst named
    exact StringFormat.storable_ofName name
  · obtain ⟨least, most, members, readLeast, readMost, ordered, readMembers, same⟩ :=
      readNumber_eq_ok_iff.1 read
    subst same
    exact ⟨⟨number_isFinite_of_ok readLeast, number_isFinite_of_ok readMost, ordered,
      numbers_isFinite_of_ok readMembers⟩, rfl⟩
  · cases read
    exact ⟨trivial, rfl⟩
  · cases read
    exact ⟨trivial, rfl⟩
  · obtain ⟨format, _, same⟩ := readId_eq_ok_iff.1 read
    subst same
    refine ⟨?_, rfl⟩
    intro found here
    obtain ⟨name, _, named⟩ := Option.map_eq_some_iff.1 here
    subst named
    exact IdFormat.storable_ofName name
  · obtain ⟨items, count, _, readCount, same⟩ := readArray_eq_ok_iff.1 read
    subst same
    exact storable_of_lengthBounds readCount
  · obtain ⟨properties, required, _, _, same⟩ := readObject_eq_ok_iff.1 read
    subst same
    exact trivial
  · cases read

theorem storable_of_read {stored : Json} {node : ShallowNode} (found : read stored = .ok node) :
    node.Storable := by
  unfold read at found
  split at found
  · obtain ⟨tag, _, rest⟩ := bind_eq_ok_iff.1 found
    exact storable_of_readTagged rest
  · cases found

end ShallowNode

namespace Schema

theorem storable_of_propertiesRead {readNode : Json → Except SchemaError Schema} {left : Nat}
    (promise : ∀ stored schema, readNode stored = .ok schema → schema.Storable ∧ schema.levels ≤ left)
    {stored : List (String × Json)} {properties : List (String × Schema)}
    (read : PropertiesRead readNode stored properties) :
    PropertiesStorable properties ∧ propertyLevels properties ≤ left := by
  induction read with
  | nil => exact ⟨trivial, Nat.zero_le _⟩
  | cons first others ih =>
      obtain ⟨storable, levels⟩ := promise _ _ first
      exact ⟨⟨storable, ih.1⟩, Nat.max_le.2 ⟨levels, ih.2⟩⟩

/-- A schema that has been read is storable and keeps to the levels. -/
theorem storable_of_readNode {limit left : Nat} {stored : Json} {schema : Schema}
    (read : readNode limit left stored = .ok schema) : schema.Storable ∧ schema.levels ≤ left := by
  induction left generalizing stored schema with
  | zero => exact absurd read readNode_zero_ne_ok
  | succ left ih =>
      obtain ⟨node, fields, children⟩ := readNode_succ_eq_ok_iff.1 read
      have own := ShallowNode.storable_of_read fields
      cases children with
      | leaf =>
          obtain ⟨storable, single⟩ := own
          exact ⟨storable, by omega⟩
      | array count readItems =>
          obtain ⟨storable, levels⟩ := ih readItems
          exact ⟨⟨storable, own⟩, Nat.succ_le_succ levels⟩
      | object required readOnes =>
          obtain ⟨storable, levels⟩ := storable_of_propertiesRead (fun _ _ => ih) readOnes
          exact ⟨storable, Nat.succ_le_succ levels⟩

end Schema
end CompactSchema
