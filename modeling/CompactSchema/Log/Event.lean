import CompactSchema.Json.Writer

/-
Log events.

An event has a severity, a name and fields, and is written as one line of JSON: the
name, the severity, then the fields in the order of their keys.
-/

namespace CompactSchema

inductive Severity where
  | trace
  | info
  | warn
  | error
  | fatal
  deriving DecidableEq

namespace Severity

def rank : Severity → Nat
  | .trace => 0
  | .info => 1
  | .warn => 2
  | .error => 3
  | .fatal => 4

def name : Severity → String
  | .trace => "TRACE"
  | .info => "INFO"
  | .warn => "WARN"
  | .error => "ERROR"
  | .fatal => "FATAL"

def lowerChar (c : Char) : Char :=
  if 'A' ≤ c ∧ c ≤ 'Z' then Char.ofNat (c.toNat + 32) else c

def lowered (text : String) : String := String.ofList (text.toList.map lowerChar)

def ofName? (name : String) : Option Severity :=
  match lowered name with
  | "trace" => some .trace
  | "info" => some .info
  | "warn" => some .warn
  | "error" => some .error
  | "fatal" => some .fatal
  | _ => none

def unknownMessage (name : String) : String := s!"unknown log level '{lowered name}'"

def meets (severity threshold : Severity) : Bool := decide (threshold.rank ≤ severity.rank)

end Severity

structure LogEvent where
  severity : Severity
  name : String
  fields : List (String × String)
  deriving DecidableEq

namespace LogEvent

/-- The fields in the order of their keys; fields of one key keep their order. -/
def sortedFields (event : LogEvent) : List (String × String) :=
  event.fields.mergeSort (fun left right => !decide (right.1 < left.1))

def members (event : LogEvent) : List (String × Json) :=
  ("event", .string event.name) :: ("severity", .string event.severity.name) ::
    event.sortedFields.map fun (key, value) => (key, .string value)

def line (event : LogEvent) : String := (Json.object event.members).text

end LogEvent
end CompactSchema
