import CompactSchema.Files.FileSystem
import CompactSchema.Json.Reader
import CompactSchema.Log.Logged
import CompactSchema.Registry.Basic
import CompactSchema.Schema.Reader

/-
Loading schemas from files.

A schema file holds one schema, and its stem is the schema's name.  The files of a
directory are loaded in the order of their names; a file that cannot be loaded is
reported and hinders no other.
-/

namespace CompactSchema

def Schema.ofFileText (limit : Nat) (path : FilePath) (text : String) : Except SchemaError Schema :=
  match Json.read text with
  | .error _ => .error (.atNode (.textInvalid path.shown text))
  | .ok stored => read limit stored

def FileSystem.readSchema (files : FileSystem) (limit : Nat) (path : FilePath) :
    Except SchemaError Schema :=
  match files.readText path with
  | .error error => .error (.unreadable path.shown error.message)
  | .ok text => Schema.ofFileText limit path text

namespace Registry

abbrev Loading (α : Type) := StateT Registry Logged α

def loadFile [Diagnosis] (files : FileSystem) (limit : Nat) (path : FilePath) :
    Loading (Except SchemaError String) := do
  match path.stemText? with
  | none => return .error (.unreadable path.shown "file name is not valid UTF-8")
  | some name =>
      match files.readSchema limit path with
      | .ok schema =>
          Logged.report .info "SCHEMA_LOADED"
            [("name", name), ("path", path.shown), ("type", schema.kindName)]
          modify (·.insert name schema)
          return .ok name
      | .error error =>
          Logged.report .error "SCHEMA_LOAD_FAILED"
            [("code", error.code), ("error", error.message), ("path", path.shown)]
          return .error error

def loadFiles [Diagnosis] (files : FileSystem) (limit : Nat) :
    List FilePath → Loading (List (FilePath × Except SchemaError String))
  | [] => return []
  | path :: paths => do
      let outcome ← loadFile files limit path
      let outcomes ← loadFiles files limit paths
      return (path, outcome) :: outcomes

end Registry

structure SchemaDirectory where
  path : FilePath
  depthLimit : Nat := Schema.defaultDepthLimit

namespace SchemaDirectory

open Registry

def fileExtension : String := "json"

/-- The paths of the schema files among entries, in order. -/
def pathsOf (directory : SchemaDirectory) (names : List FilePath) : List FilePath :=
  FilePath.sorted <| (names.map directory.path.join).filter fun path =>
    path.extension? = some (.ofText fileExtension)

/-- The schema files of a directory.  A directory that does not exist has none. -/
def schemaFiles (directory : SchemaDirectory) (files : FileSystem) : Except SchemaError (List FilePath) :=
  if files.isPresent directory.path then
    match files.entries directory.path with
    | .error error => .error (.unreadable directory.path.shown error.message)
    | .ok entries => .ok (directory.pathsOf entries.names)
  else
    .ok []

def loadEach [Diagnosis] (directory : SchemaDirectory) (files : FileSystem) :
    Loading (Except SchemaError (List (FilePath × Except SchemaError String))) := do
  match directory.schemaFiles files with
  | .error error => return .error error
  | .ok paths => return .ok (← loadFiles files directory.depthLimit paths)

/-- The number of outcomes, or the first error among them. -/
def countLoaded (outcomes : List (FilePath × Except SchemaError String)) : Except SchemaError Nat := do
  let names ← outcomes.mapM (·.2)
  return names.length

def loadAll [Diagnosis] (directory : SchemaDirectory) (files : FileSystem) : Loading (Except SchemaError Nat) := do
  return (← directory.loadEach files).bind countLoaded

def fileOf (directory : SchemaDirectory) (name : String) : FilePath :=
  directory.path.join (.ofText (name ++ "." ++ fileExtension))

def loadNamed [Diagnosis] (directory : SchemaDirectory) (files : FileSystem) (name : String) :
    Loading (Except SchemaError Schema) := do
  let path := directory.fileOf name
  if files.isFile path then
    match ← loadFile files directory.depthLimit path with
    | .error error => return .error error
    | .ok loaded => return (← get).require loaded
  else
    return .error (.unknown name)

end SchemaDirectory
end CompactSchema
