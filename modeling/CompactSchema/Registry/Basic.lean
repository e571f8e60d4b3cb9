import CompactSchema.Schema.Basic
import CompactSchema.Schema.Error

/-
Schemas by name.

A registry holds at most one schema for each name, in the order of the names.
-/

namespace CompactSchema

structure Registry where
  entries : List (String × Schema) := []

namespace Registry

def empty : Registry := {}

def get? (registry : Registry) (name : String) : Option Schema := registry.entries.lookup name

def insert (registry : Registry) (name : String) (schema : Schema) : Registry :=
  ⟨Json.insertMember name schema registry.entries⟩

def require (registry : Registry) (name : String) : Except SchemaError Schema :=
  match registry.get? name with
  | some schema => .ok schema
  | none => .error (.unknown name)

def names (registry : Registry) : List String := registry.entries.map (·.1)

def size (registry : Registry) : Nat := registry.entries.length

end Registry
end CompactSchema
