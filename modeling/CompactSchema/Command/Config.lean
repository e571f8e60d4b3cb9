import CompactSchema.Command.Error
import CompactSchema.Json.Outline
import CompactSchema.Registry.Loading

/-
Configurations.

A configuration says where schemas are, how deep they may be, which seed generation
starts from, and from which severity on events are written.  It is read from an object,
or from an array with the values in a fixed order; values that are left out have
defaults.
-/

namespace CompactSchema

structure Config where
  schemaDirectory : String := "./schemas"
  depthLimit : UInt64 := .ofNat Schema.defaultDepthLimit
  seed : Option UInt64 := none
  logLevel : String := "info"
  deriving DecidableEq

namespace Config

inductive Key where
  | schemaDirectory
  | depthLimit
  | seed
  | logLevel
  deriving DecidableEq

namespace Key

def name : Key → String
  | .schemaDirectory => "schema_dir"
  | .depthLimit => "max_depth"
  | .seed => "seed"
  | .logLevel => "log_level"

/-- The members in the order in which an array gives their values. -/
def all : List Key := [.schemaDirectory, .depthLimit, .seed, .logLevel]

def ofName? (name : String) : Option Key := all.find? fun key => key.name = name

end Key

def set (config : Config) : Key → List Token → Option Config
  | .schemaDirectory, [.text (some path)] => some { config with schemaDirectory := path }
  | .depthLimit, [.number (some n)] => do return { config with depthLimit := ← n.toUInt64? }
  | .seed, [.number (some n)] => do return { config with seed := ← n.toUInt64? }
  | .seed, [.word .null] => some { config with seed := none }
  | .logLevel, [.text (some level)] => some { config with logLevel := level }
  | _, _ => none

/-- Sets the values of members in turn.  Unknown members do not count, and no known one
may occur twice. -/
def setMembers : List Key → Config → List (String × List Token) → Option Config
  | _, config, [] => some config
  | seen, config, (name, value) :: rest =>
      match Key.ofName? name with
      | none => setMembers seen config rest
      | some key =>
          if key ∈ seen then none
          else do setMembers (key :: seen) (← config.set key value) rest

/-- Sets values in the order of the members; there may be fewer of them. -/
def setElements : Config → List Key → List (List Token) → Option Config
  | config, _, [] => some config
  | _, [], _ :: _ => none
  | config, key :: keys, value :: values => do setElements (← config.set key value) keys values

def ofText? (text : String) : Option Config :=
  match Json.Outline.ofText? text with
  | some (.object members) => setMembers [] {} members
  | some (.array elements) => setElements {} Key.all elements
  | none => none

def threshold (config : Config) : Except CommandError Severity :=
  match Severity.ofName? config.logLevel with
  | some severity => .ok severity
  | none => .error (.severityUnknown config.logLevel)

def validated (config : Config) : Except CommandError Config :=
  if config.depthLimit = 0 then .error .depthLimitZero
  else
    match config.threshold with
    | .ok _ => .ok config
    | .error error => .error error

def ofText (text : String) : Except CommandError Config :=
  match ofText? text with
  | some config => config.validated
  | none => .error (.configInvalid text)

def load (files : FileSystem) (path : FilePath) : Except CommandError Config :=
  match files.readText path with
  | .ok text => ofText text
  | .error error => .error (.configUnreadable error)

def defaultPath : FilePath := "./schemock.json"

/-- The configuration of a command.  A file that is named must exist; the default file
need not. -/
def resolve (files : FileSystem) : Option FilePath → Except CommandError Config
  | some path => load files path
  | none => if files.isPresent defaultPath then load files defaultPath else .ok {}

def directory (config : Config) : SchemaDirectory :=
  { path := config.schemaDirectory, depthLimit := config.depthLimit.toNat }

/-- The configurations say the same; directories are compared part by part. -/
def same (left right : Config) : Bool :=
  FilePath.same left.schemaDirectory right.schemaDirectory &&
    decide ({ left with schemaDirectory := "" } = { right with schemaDirectory := "" })

def toJson (config : Config) : Json :=
  .object
    [("log_level", .string config.logLevel),
     ("max_depth", .number (.ofUInt64 config.depthLimit)),
     ("schema_dir", .string config.schemaDirectory),
     ("seed", match config.seed with
       | some seed => .number (.ofUInt64 seed)
       | none => .null)]

end Config
end CompactSchema
