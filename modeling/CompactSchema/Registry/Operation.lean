import CompactSchema.Registry.Loading

/-
Operations on a registry.

A registry over a schema directory is asked for one thing after the other, and between
two operations any file may be written, removed or replaced.
-/

namespace CompactSchema
namespace Registry

inductive Operation where
  | loadAll
  | loadEach
  | loadNamed (name : String)
  | loadFile (path : FilePath)
  | register (name : String) (schema : Schema)
  | get (name : String)
  | require (name : String)
  | names
  | size
  /-- Reads a schema file and registers nothing. -/
  | inspect (path : FilePath)

inductive Answer where
  | loaded (count : Except SchemaError Nat)
  | outcomes (outcomes : Except SchemaError (List (FilePath × Except SchemaError String)))
  | name (name : Except SchemaError String)
  | schema (schema : Except SchemaError Schema)
  | found (schema : Option Schema)
  | names (names : List String)
  | size (count : Nat)
  | done

def perform [Diagnosis] (directory : SchemaDirectory) (files : FileSystem) : Operation → Loading Answer
  | .loadAll => return .loaded (← directory.loadAll files)
  | .loadEach => return .outcomes (← directory.loadEach files)
  | .loadNamed name => return .schema (← directory.loadNamed files name)
  | .loadFile path => return .name (← loadFile files directory.depthLimit path)
  | .register name schema => do
      modify (·.insert name schema)
      return .done
  | .get name => return .found ((← get).get? name)
  | .require name => return .schema ((← get).require name)
  | .names => return .names (← get).names
  | .size => return .size (← get).size
  | .inspect path => return .schema (files.readSchema directory.depthLimit path)

structure Moment where
  files : FileSystem
  operation : Operation

def performAll [Diagnosis] (directory : SchemaDirectory) : List Moment → Loading (List Answer)
  | [] => return []
  | moment :: later => do
      let answer ← perform directory moment.files moment.operation
      let answers ← performAll directory later
      return answer :: answers

end Registry
end CompactSchema
