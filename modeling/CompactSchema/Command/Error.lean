import CompactSchema.Files.FileSystem
import CompactSchema.Log.Event
import CompactSchema.Schema.Error

/-
Errors of commands.

A command fails for a cause; the cause belongs to one of four kinds, each with a stable
code, and has a message of its own.
-/

namespace CompactSchema

inductive CommandErrorKind where
  | configuration
  | access
  | input
  | schema
  deriving DecidableEq

namespace CommandErrorKind

def code : CommandErrorKind → String
  | .configuration => "CLI_CONFIG_ERROR"
  | .access => "CLI_IO_ERROR"
  | .input => "CLI_INVALID_INPUT"
  | .schema => "CLI_SCHEMA_ERROR"

def describe (kind : CommandErrorKind) (message : String) : String := s!"{kind.code}: {message}"

def schemaMessage (code message : String) : String := s!"[{code}] {message}"

end CommandErrorKind

inductive CommandError where
  | configUnreadable (error : FileError)
  | configInvalid (text : String)
  | depthLimitZero
  | severityUnknown (name : String)
  | inputUnreadable (path : String) (error : FileError)
  | standardInputUnreadable (error : FileError)
  | inputEmpty
  | inputInvalid (text : String)
  | countZero
  | schema (error : SchemaError)
  deriving DecidableEq

namespace CommandError

def kind : CommandError → CommandErrorKind
  | .configUnreadable _ | .configInvalid _ | .depthLimitZero | .severityUnknown _ => .configuration
  | .inputUnreadable _ _ | .standardInputUnreadable _ => .access
  | .inputEmpty | .inputInvalid _ | .countZero => .input
  | .schema _ => .schema

def code (error : CommandError) : String := error.kind.code

def message [Diagnosis] : CommandError → String
  | .configUnreadable error => s!"Failed to read config: {error.message}"
  | .configInvalid text => s!"Invalid config JSON: {Diagnosis.config text}"
  | .depthLimitZero => "max_depth must be > 0"
  | .severityUnknown name => s!"Invalid log_level: {Severity.unknownMessage name}"
  | .inputUnreadable path error => s!"Failed to read '{path}': {error.message}"
  | .standardInputUnreadable error => error.message
  | .inputEmpty => "Empty input"
  | .inputInvalid text => s!"JSON error: {Diagnosis.json text}"
  | .countZero => "count must be > 0"
  | .schema error => CommandErrorKind.schemaMessage error.code error.message

def describe [Diagnosis] (error : CommandError) : String := error.kind.describe error.message

end CommandError
end CompactSchema
