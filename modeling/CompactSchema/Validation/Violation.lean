import CompactSchema.Schema.Error
import CompactSchema.Schema.Basic
import CompactSchema.Text.Quoted

/-
Violations.

A violation says where in a datum a constraint is not met, and which.
-/

namespace CompactSchema

inductive DataStep where
  | key (name : String)
  | index (i : Nat)
  deriving DecidableEq

namespace DataStep

def text : DataStep → String
  | .key name => "." ++ name
  | .index i => s!"[{i}]"

end DataStep

def dataPath (steps : List DataStep) : String :=
  steps.foldl (fun path step => path ++ step.text) "$"

inductive Problem where
  | wrongType (expected found : String)
  | missing
  | tooShort (least : UInt64) (length : Nat)
  | tooLong (most : UInt64) (length : Nat)
  | notMember (members : List String) (text : String)
  | noMatch (pattern : Pattern) (text : String)
  | wrongFormat (format : StringFormat) (text : String)
  | tooSmall (least value : Binary64)
  | tooLarge (most value : Binary64)
  | notAmong (members : List Binary64) (value : Binary64)
  | tooFewItems (least : UInt64) (count : Nat)
  | tooManyItems (most : UInt64) (count : Nat)
  | notUuid (text : String)
  | idFormatUnknown (name : String)
  | idFormatMissing
  | badSchema (error : SchemaError)
  deriving DecidableEq

namespace Problem

def expected : Problem → String
  | .wrongType expected _ => expected
  | .missing => "field to be present"
  | .tooShort least _ => s!"length >= {least}"
  | .tooLong most _ => s!"length <= {most}"
  | .notMember members _ => s!"one of {Quoted.list (members.map Quoted.encode)}"
  | .noMatch pattern _ => s!"match for /{pattern.source}/"
  | .wrongFormat format _ => s!"{format.name} format"
  | .tooSmall least _ => s!">= {Layout.plain.text least}"
  | .tooLarge most _ => s!"<= {Layout.plain.text most}"
  | .notAmong members _ => s!"one of {Quoted.list (members.map Layout.listed.text)}"
  | .tooFewItems least _ => s!">= {least} items"
  | .tooManyItems most _ => s!"<= {most} items"
  | .notUuid _ => "uuid"
  | .idFormatUnknown _ | .idFormatMissing => "id format 'number' or 'uuid'"
  | .badSchema _ => "a valid schema"

def actual [Diagnosis] : Problem → String
  | .wrongType _ found => found
  | .missing => "missing"
  | .tooShort _ length | .tooLong _ length => s!"length {length}"
  | .notMember _ text | .noMatch _ text | .wrongFormat _ text | .notUuid text => Quoted.encode text
  | .tooSmall _ value | .tooLarge _ value | .notAmong _ value => Layout.plain.text value
  | .tooFewItems _ count | .tooManyItems _ count => s!"{count} items"
  | .idFormatUnknown name => s!"format '{name}'"
  | .idFormatMissing => "no format"
  | .badSchema error => error.message

def within (step : SchemaStep) : Problem → Problem
  | .badSchema error => .badSchema (error.within step)
  | problem => problem

end Problem

structure Violation where
  steps : List DataStep
  problem : Problem
  deriving DecidableEq

namespace Violation

def here (problem : Problem) : Violation := ⟨[], problem⟩

def within (step : DataStep) (schemaStep : SchemaStep) (violation : Violation) : Violation :=
  ⟨step :: violation.steps, violation.problem.within schemaStep⟩

def path (violation : Violation) : String := dataPath violation.steps

def describe (path expected actual : String) : String :=
  s!"'{path}': expected {expected}, got {actual}"

def message [Diagnosis] (violation : Violation) : String :=
  describe violation.path violation.problem.expected violation.problem.actual

end Violation
end CompactSchema
