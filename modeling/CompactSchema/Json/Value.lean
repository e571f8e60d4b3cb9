import CompactSchema.Binary64.Basic

/-
JSON values.

A number is either an integer that fits 64 bits, signed or unsigned, and is then
exact, or a finite double.  The members of an object stand in the order of their
names, each name once; `Json.Ordered` states this, and `Json.insertMember` keeps
it.
-/

namespace CompactSchema

/-- An integer is kept exactly when it fits a signed or an unsigned 64-bit word. -/
def FitsWord (n : Int) : Prop := -2 ^ 63 ≤ n ∧ n < 2 ^ 64

instance (n : Int) : Decidable (FitsWord n) := inferInstanceAs (Decidable (_ ∧ _))

theorem fitsWord_of_natAbs_lt {n : Int} (small : n.natAbs < 2 ^ 63) : FitsWord n := by
  unfold FitsWord
  omega

inductive Number where
  | integer (value : Int) (fits : FitsWord value)
  | float (value : Finite64)
  deriving DecidableEq

namespace Number

def toBinary64 : Number → Binary64
  | .integer n _ => .ofInt n
  | .float x => .finite x

def ofInt64 (n : Int64) : Number :=
  .integer n.toInt ⟨n.le_toInt, Int.lt_trans n.toInt_lt (by decide)⟩

def ofUInt64 (n : UInt64) : Number :=
  .integer n.toNat ⟨by omega, by have := n.toNat_lt; omega⟩

/-- The number as an unsigned 64-bit integer, when it is written as one. -/
def toUInt64? : Number → Option UInt64
  | .integer n _ => if 0 ≤ n then some (UInt64.ofNat n.toNat) else none
  | .float _ => none

end Number

inductive Json where
  | null
  | boolean (value : Bool)
  | number (value : Number)
  | string (value : String)
  | array (elements : List Json)
  | object (members : List (String × Json))

namespace Json

def typeName : Json → String
  | .null => "null"
  | .boolean _ => "boolean"
  | .number _ => "number"
  | .string _ => "string"
  | .array _ => "array"
  | .object _ => "object"

instance : Inhabited Json := ⟨.null⟩

def isNull : Json → Bool
  | .null => true
  | _ => false

def find? (name : String) (members : List (String × Json)) : Option Json :=
  members.lookup name

/-- Puts a member in its place among ordered members, replacing one of the same
name. -/
def insertMember {α : Type} (name : String) (value : α) : List (String × α) → List (String × α)
  | [] => [(name, value)]
  | (other, held) :: rest =>
      if name < other then (name, value) :: (other, held) :: rest
      else if name = other then (name, value) :: rest
      else (other, held) :: insertMember name value rest

/-- An object from members in any order; of members of one name the last
counts. -/
def ofMembers (members : List (String × Json)) : Json :=
  .object (members.foldl (fun held member => insertMember member.1 member.2 held) [])

def NamesIncrease {α : Type} (members : List (String × α)) : Prop :=
  members.Pairwise (fun earlier later => earlier.1 < later.1)

theorem lookup_cons {α : Type} (key other : String) (value : α) (rest : List (String × α)) :
    ((other, value) :: rest).lookup key = if key = other then some value else rest.lookup key := by
  by_cases same : key = other
  · rw [same, List.lookup_cons_self, if_pos rfl]
  · rw [List.lookup_cons, beq_eq_false_iff_ne.2 same, if_neg same]

theorem lookup_filter {α : Type} (keeps : String → Bool) (key : String) (members : List (String × α)) :
    (members.filter fun member => keeps member.1).lookup key =
      if keeps key = true then members.lookup key else none := by
  induction members with
  | nil => simp
  | cons member rest ih =>
      obtain ⟨other, value⟩ := member
      rw [List.filter_cons, lookup_cons]
      by_cases here : key = other
      · subst here
        split
        · rw [lookup_cons, if_pos rfl, if_pos rfl]
        · rename_i dropped
          rw [ih, if_neg dropped]
      · rw [if_neg here]
        split
        · rw [lookup_cons, if_neg here, ih]
        · exact ih

theorem lookup_insertMember {α : Type} (name key : String) (value : α) (members : List (String × α)) :
    (insertMember name value members).lookup key =
      if key = name then some value else members.lookup key := by
  induction members with
  | nil => rw [insertMember, lookup_cons]
  | cons member rest ih =>
      obtain ⟨other, held⟩ := member
      unfold insertMember
      split
      · rw [lookup_cons]
      · split
        · rename_i same
          subst same
          rw [lookup_cons, lookup_cons]
          split <;> rfl
        · rename_i different
          rw [lookup_cons, lookup_cons, ih]
          by_cases here : key = other
          · rw [if_pos here, if_pos here, if_neg fun same => different (same.symm.trans here)]
          · rw [if_neg here, if_neg here]

theorem mem_names_insertMember {α : Type} {name : String} {value : α} {members : List (String × α)}
    {member : String × α} (inserted : member ∈ insertMember name value members) :
    member.1 = name ∨ member ∈ members := by
  induction members with
  | nil => simp_all [insertMember]
  | cons first rest ih =>
      obtain ⟨other, held⟩ := first
      unfold insertMember at inserted
      split at inserted
      · rcases List.mem_cons.1 inserted with rfl | old
        · exact .inl rfl
        · exact .inr old
      · split at inserted
        · rcases List.mem_cons.1 inserted with rfl | old
          · exact .inl rfl
          · exact .inr (List.mem_cons_of_mem _ old)
        · rcases List.mem_cons.1 inserted with rfl | deeper
          · exact .inr (List.mem_cons_self)
          · rcases ih deeper with same | old
            · exact .inl same
            · exact .inr (List.mem_cons_of_mem _ old)

theorem namesIncrease_insertMember {α : Type} {name : String} {value : α} {members : List (String × α)}
    (increasing : NamesIncrease members) : NamesIncrease (insertMember name value members) := by
  induction members with
  | nil => simp [insertMember, NamesIncrease]
  | cons first rest ih =>
      obtain ⟨other, held⟩ := first
      have tail := List.pairwise_cons.1 increasing
      unfold insertMember
      split
      · rename_i less
        refine List.pairwise_cons.2 ⟨?_, increasing⟩
        intro member inside
        rcases List.mem_cons.1 inside with rfl | later
        · exact less
        · exact String.lt_trans less (tail.1 member later)
      · split
        · rename_i same
          subst same
          exact List.pairwise_cons.2 ⟨tail.1, tail.2⟩
        · rename_i notLess different
          refine List.pairwise_cons.2 ⟨?_, ih tail.2⟩
          intro member inside
          rcases mem_names_insertMember inside with same | later
          · rw [same]
            exact Classical.byContradiction fun notMore =>
              different (String.le_antisymm (String.not_lt.1 notMore) (String.not_lt.1 notLess))
          · exact tail.1 member later

mutual

def Ordered : Json → Prop
  | .array elements => OrderedElements elements
  | .object members => NamesIncrease members ∧ OrderedMembers members
  | _ => True

def OrderedElements : List Json → Prop
  | [] => True
  | element :: rest => Ordered element ∧ OrderedElements rest

def OrderedMembers : List (String × Json) → Prop
  | [] => True
  | (_, value) :: rest => Ordered value ∧ OrderedMembers rest

end

mutual

/-- The number of arrays and objects open at once when the value is written. -/
def nesting : Json → Nat
  | .array elements => elementNesting elements + 1
  | .object members => memberNesting members + 1
  | _ => 0

def elementNesting : List Json → Nat
  | [] => 0
  | element :: rest => max (nesting element) (elementNesting rest)

def memberNesting : List (String × Json) → Nat
  | [] => 0
  | (_, value) :: rest => max (nesting value) (memberNesting rest)

end

end Json
end CompactSchema
