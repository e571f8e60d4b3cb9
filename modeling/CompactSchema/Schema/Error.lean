import CompactSchema.Binary64.Decimal
import CompactSchema.Schema.Place
import CompactSchema.Text.Diagnosis

/-
Errors about schemas.

A schema can fail to be found, to be read, or to make sense; a schema that makes
sense can still describe no value that could be generated.
-/

namespace CompactSchema

inductive Defect where
  | tooDeep (limit : Nat)
  | notAnObject (typeName : String)
  | tagMissing
  | tagNotString
  | itemsMissing
  | objectExpected
  | arrayExpected
  | stringExpected
  | stringsExpected
  | numberExpected
  | numbersExpected
  | lengthExpected
  | lengthTooLarge (length : UInt64)
  | lengthsInverted (leastName : String) (least : UInt64) (mostName : String) (most : UInt64)
  | numbersInverted (least most : Binary64)
  | patternInvalid (source : String)
  | textInvalid (file text : String)
  | membersEmpty
  | boundsNotFinite
  | lengthBeyondLimit (leastName : String) (least : UInt64) (limit : Nat)
  deriving DecidableEq

def Defect.message [Diagnosis] : Defect → String
  | .tooDeep limit => s!"nesting exceeds {limit} levels"
  | .notAnObject typeName => s!"expected an object, got {typeName}"
  | .tagMissing => "missing 'type'"
  | .tagNotString => "'type' must be a string"
  | .itemsMissing => "array schema requires 'items'"
  | .objectExpected => "expected an object"
  | .arrayExpected => "expected an array"
  | .stringExpected => "expected a string"
  | .stringsExpected => "expected an array of strings"
  | .numberExpected => "expected a number"
  | .numbersExpected => "expected numbers only"
  | .lengthExpected => "expected a non-negative integer"
  | .lengthTooLarge length => s!"length {length} is too large"
  | .lengthsInverted leastName least mostName most =>
      s!"{leastName} ({least}) exceeds {mostName} ({most})"
  | .numbersInverted least most =>
      s!"min ({Layout.plain.text least}) exceeds max ({Layout.plain.text most})"
  | .patternInvalid source => s!"invalid regex: {Diagnosis.pattern source}"
  | .textInvalid file text => s!"invalid JSON in '{file}': {Diagnosis.json text}"
  | .membersEmpty => "enum is empty"
  | .boundsNotFinite => "min and max must be finite"
  | .lengthBeyondLimit leastName least limit =>
      s!"{leastName} ({least}) exceeds the generation limit of {limit}"

inductive SchemaErrorKind where
  | unsupportedType
  | malformed
  | unreadable
  | unknown
  deriving DecidableEq

namespace SchemaErrorKind

def code : SchemaErrorKind → String
  | .unsupportedType => "SCHEMA_UNSUPPORTED_TYPE"
  | .malformed => "SCHEMA_MALFORMED"
  | .unreadable => "SCHEMA_IO"
  | .unknown => "SCHEMA_UNKNOWN"

def message (subject reason : String) : SchemaErrorKind → String
  | .unsupportedType => s!"Unsupported schema type: {subject}"
  | .malformed => s!"Malformed schema at {subject}: {reason}"
  | .unreadable => s!"Failed to read schema '{subject}': {reason}"
  | .unknown => s!"Schema '{subject}' not found"

end SchemaErrorKind

inductive SchemaError where
  | unsupportedType (tag : String)
  | malformed (place : SchemaPlace) (defect : Defect)
  | unreadable (file reason : String)
  | unknown (name : String)
  deriving DecidableEq

namespace SchemaError

def kind : SchemaError → SchemaErrorKind
  | .unsupportedType _ => .unsupportedType
  | .malformed _ _ => .malformed
  | .unreadable _ _ => .unreadable
  | .unknown _ => .unknown

def code (error : SchemaError) : String := error.kind.code

def message [Diagnosis] : SchemaError → String
  | .unsupportedType tag => SchemaErrorKind.unsupportedType.message tag ""
  | .malformed place defect => SchemaErrorKind.malformed.message place.path defect.message
  | .unreadable file reason => SchemaErrorKind.unreadable.message file reason
  | .unknown name => SchemaErrorKind.unknown.message name ""

def atNode (defect : Defect) : SchemaError := .malformed .here defect

def atField (field : String) (defect : Defect) : SchemaError := .malformed (.fieldHere field) defect

def within (step : SchemaStep) : SchemaError → SchemaError
  | .malformed place defect => .malformed (place.within step) defect
  | error => error

end SchemaError
end CompactSchema
