/-
Places in a schema.

A node of a schema is reached from the root by steps, and has the name that the steps
spell.
-/

namespace CompactSchema

inductive SchemaStep where
  | items
  | property (name : String)
  deriving DecidableEq

namespace SchemaStep

def text : SchemaStep → String
  | .items => ".items"
  | .property name => ".properties." ++ name

end SchemaStep

/-- A node, or a field of it, by the steps from the root. -/
structure SchemaPlace where
  steps : List SchemaStep
  field : Option String := none
  deriving DecidableEq

namespace SchemaPlace

def here : SchemaPlace := { steps := [] }

def fieldHere (field : String) : SchemaPlace := { steps := [], field := some field }

def within (step : SchemaStep) (place : SchemaPlace) : SchemaPlace :=
  { place with steps := step :: place.steps }

def nodePath (steps : List SchemaStep) : String :=
  steps.foldl (fun path step => path ++ step.text) "$"

def path (place : SchemaPlace) : String :=
  match place.field with
  | none => nodePath place.steps
  | some field => nodePath place.steps ++ "." ++ field

end SchemaPlace
end CompactSchema
