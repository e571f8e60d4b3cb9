import CompactSchema.Command.Arguments
import CompactSchema.Command.Config
import CompactSchema.Generation.Basic
import CompactSchema.Json.Reader
import CompactSchema.Random.ChaCha
import CompactSchema.Random.Realistic
import CompactSchema.Unicode.WhiteSpace
import CompactSchema.Validation.Check

/-
Running commands.

A command reads its configuration, does its work and answers with one response.  What
it may look at is given to it as a value, so that its answer depends on nothing else.
-/

namespace CompactSchema

structure Environment where
  files : FileSystem
  input : Except FileError String
  /-- The words from which values are generated when there is no seed. -/
  entropy : ChaChaStream
  /-- The octets that can be set aside in one piece. -/
  memory : Nat := 2 ^ 63 - 1

abbrev Work (α : Type) := ExceptT CommandError Logged α

/-- Why a command breaks off, so that nothing comes of it, not even an error. -/
inductive Breakdown where
  | capacityOverflow
  | memoryExhausted (size : Nat)
  deriving DecidableEq

namespace Breakdown

def message : Breakdown → String
  | .capacityOverflow => "capacity overflow"
  | .memoryExhausted size => s!"memory allocation of {size} bytes failed"

def exitCode : Breakdown → UInt32
  | .capacityOverflow => 101
  | .memoryExhausted _ => 134

end Breakdown

abbrev Task (α : Type) := ExceptT Breakdown Work α

namespace Work

def onRegistry {α : Type} (activity : Registry.Loading (Except SchemaError α)) : Work α :=
  ExceptT.mk do
    let (result, _) ← activity.run .empty
    return result.mapError .schema

def ofExcept {α : Type} (result : Except CommandError α) : Work α := ExceptT.mk (pure result)

end Work

namespace Config

def apply (config : Config) : Work Unit := do
  Logged.setThreshold (← Work.ofExcept config.threshold)

/-! ### Schemas and data -/

/-- The schema that a reference stands for: that of the file at this path, or else that
of this name in the schema directory. -/
def resolveSchema [Diagnosis] (config : Config) (files : FileSystem) (reference : String) : Work Schema :=
  if files.isFile reference then
    .ofExcept ((files.readSchema config.directory.depthLimit reference).mapError .schema)
  else
    .onRegistry (config.directory.loadNamed files reference)

def parseInput (text : String) : Except CommandError Json :=
  if (Unicode.WhiteSpace.trim text.toList).isEmpty then .error .inputEmpty
  else
    match Json.read text with
    | .ok value => .ok value
    | .error _ => .error (.inputInvalid text)

def readInput (environment : Environment) : Option FilePath → Except CommandError Json
  | some path =>
      match environment.files.readText path with
      | .ok text => parseInput text
      | .error error => .error (.inputUnreadable path.shown error)
  | none =>
      match environment.input with
      | .ok text => parseInput text
      | .error error => .error (.standardInputUnreadable error)

/-! ### Commands -/

def validateReport [Diagnosis] (reference : String) (schema : Schema) (data : Json) : Logged Json := do
  match schema.check data with
  | .ok () =>
      Logged.report .info "VALIDATION_PASSED" [("schema", reference)]
      return .object [("valid", .boolean true)]
  | .error violation =>
      let problem := violation.problem
      Logged.report .warn "VALIDATION_FAILED"
        [("actual", problem.actual), ("expected", problem.expected), ("path", violation.path),
          ("schema", reference)]
      return .object
        [("actual", .string problem.actual), ("expected", .string problem.expected),
         ("path", .string violation.path), ("valid", .boolean false)]

def validate [Diagnosis] (config : Config) (environment : Environment) (reference : String)
    (data : Option FilePath) : Work Json := do
  let schema ← config.resolveSchema environment.files reference
  let data ← Work.ofExcept (readInput environment data)
  validateReport reference schema data

def source : RandomSource ChaChaStream := .ofWords ChaChaStream.words

def generateValues (schema : Schema) (count : Nat) : Generation ChaChaStream (List Json) :=
  times (schema.generate source) count

/-- The words from which values are generated.  A seed that the command names goes before
that of the configuration. -/
def stream (config : Config) (environment : Environment) (seed : Option UInt64) : ChaChaStream :=
  match seed <|> config.seed with
  | some seed => ChaChaStream.ofSeed seed
  | none => environment.entropy

/-- The octets that so many values take in a list, at 32 for each. -/
def listSize (count : UInt64) : Nat := count.toNat * 32

/-- Why there is no room for so many values.  Whatever memory there is, the octets of one piece are
counted by a signed word. -/
def shortage (environment : Environment) (count : UInt64) : Option Breakdown :=
  if 2 ^ 63 ≤ listSize count then some .capacityOverflow
  else if environment.memory < listSize count then some (.memoryExhausted (listSize count))
  else none

def reserve (environment : Environment) (count : UInt64) : Task Unit :=
  match shortage environment count with
  | some breakdown => throw breakdown
  | none => pure ()

/-- Generates values for a schema; a single one is answered bare. -/
def generate [Diagnosis] (config : Config) (environment : Environment) (reference : String)
    (count : UInt64) (seed : Option UInt64) : Task Json := do
  if count = 0 then throwThe CommandError .countZero
  let schema ← config.resolveSchema environment.files reference
  reserve environment count
  match ((generateValues schema count.toNat).run.run (config.stream environment seed)).1 with
  | .error error =>
      Logged.report .error "GENERATION_FAILED" [("error", error.message), ("schema", reference)]
      throwThe CommandError (.schema error)
  | .ok values =>
      Logged.report .info "DATA_GENERATED" [("count", toString count), ("schema", reference)]
      match values with
      | [value] => return value
      | values => return .array values

def fileReport [Diagnosis] : FilePath × Except SchemaError String → Json
  | (path, .ok name) =>
      .object [("file", .string path.shown), ("name", .string name), ("ok", .boolean true)]
  | (path, .error error) =>
      .object
        [("code", .string error.code), ("error", .string error.message), ("file", .string path.shown),
         ("ok", .boolean false)]

/-- Counts the files that could not be loaded, in a signed word of 32 bits. -/
def failures (outcomes : List (FilePath × Except SchemaError String)) : Int32 :=
  outcomes.foldl (fun failed outcome => if outcome.2.isOk then failed else failed + 1) 0

def checkSchemas [Diagnosis] (config : Config) (environment : Environment) : Work Json := do
  let outcomes ← Work.onRegistry (config.directory.loadEach environment.files)
  let failed := failures outcomes
  if 0 < failed then
    Logged.report .warn "SCHEMA_CHECK_FAILED" [("failed", toString failed.toInt)]
  return .object
    [("failed", .number (.ofInt64 failed.toInt64)), ("schemas", .array (outcomes.map fileReport))]

end Config

/-! ### Responses -/

def Response.ok (data : Json) : Json := .object [("data", data), ("status", .string "ok")]

def Response.failed (code message : String) : Json :=
  .object [("code", .string code), ("message", .string message), ("status", .string "error")]

structure CommandOutcome where
  response : Option Json := none
  failure : Option CommandError := none
  breakdown : Option Breakdown := none

namespace CommandOutcome

def ofWork [Diagnosis] : Except CommandError (Except Breakdown Json) → CommandOutcome
  | .ok (.ok data) => { response := some (Response.ok data) }
  | .ok (.error breakdown) => { breakdown := some breakdown }
  | .error error =>
      { response := some (Response.failed error.code error.message), failure := some error }

def lines (outcome : CommandOutcome) : List String := (outcome.response.map Json.text).toList

def exitCode (outcome : CommandOutcome) : UInt32 :=
  match outcome.breakdown with
  | some breakdown => breakdown.exitCode
  | none => if outcome.failure.isSome then 1 else 0

end CommandOutcome

namespace Command

def config : Command → Option FilePath
  | .validate _ _ config | .generate _ _ _ config | .checkSchemas config => config

def work [Diagnosis] (config : Config) (environment : Environment) : Command → Task Json
  | .validate schema data _ => config.validate environment schema data
  | .generate schema count seed _ => config.generate environment schema count seed
  | .checkSchemas _ => config.checkSchemas environment

def prepare (environment : Environment) (command : Command) : Work Config := do
  let config ← Work.ofExcept (Config.resolve environment.files command.config)
  config.apply
  return config

/-- Runs a command.  Without a configuration there is no response. -/
def run [Diagnosis] (environment : Environment) (command : Command) : Logged CommandOutcome := do
  match ← (command.prepare environment).run with
  | .error error => return { failure := some error }
  | .ok config => return .ofWork (← (command.work config environment).run.run)

end Command
end CompactSchema
