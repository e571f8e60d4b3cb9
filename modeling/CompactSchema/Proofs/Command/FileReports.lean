import CompactSchema.Proofs.Command.Work
import CompactSchema.Proofs.Registry.Directory

/-
What a check tells of a file, and what a lookup of its schema does.

A check goes through all schema files of a directory, and a lookup reads one, which it
finds by its path or by its stem.  All three ways lead to one text at one path, so the
entry of a file in the report tells how the lookups end, and none of them depends on what
else there is in the directory.
-/

namespace CompactSchema

open FilePath Registry

def Json.member? (name : String) : Json → Option Json
  | .object members => find? name members
  | _ => none

namespace Config

section Entries

variable [Diagnosis]

def checked (config : Config) (environment : Environment) (threshold : Severity) :
    Except CommandError Json :=
  ((config.checkSchemas environment).run.run threshold).result

/-- The check reports the file at the path with this entry: the entry stands in the report where
the file stands among the schema files. -/
def Reports (config : Config) (environment : Environment) (threshold : Severity) (path : FilePath)
    (entry : Json) : Prop :=
  ∃ report paths entries, config.checked environment threshold = .ok report ∧
    config.directory.schemaFiles environment.files = .ok paths ∧
    report.member? "schemas" = some (.array entries) ∧ (path, entry) ∈ paths.zip entries

section Files

variable {config : Config} {environment : Environment} {threshold : Severity} {path : FilePath}
  {entry : Json} {stem : String}

end Files

end Entries

end Config
end CompactSchema
