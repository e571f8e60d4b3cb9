import CompactSchema.Generation.Bounds
import CompactSchema.Random.Source
import CompactSchema.Random.Times
import CompactSchema.Schema.Reader
import CompactSchema.Schema.Stored

/-
Generating values.

A value is built for each node of a schema in the order in which it is checked.  Lists
of members come first, then formats, then ranges: what comes first hides the rest.
Every declared property gets a value, required or not.  A pattern is met by trial, with
a bounded number of candidates.

A node that no value meets is reported with its place.  The source keeps the state in
which the report leaves it.
-/

namespace CompactSchema

abbrev Generation (σ α : Type) := ExceptT SchemaError (StateM σ) α

namespace Generate

variable {σ : Type}

/-- A pure result; a defect is one of the node itself. -/
def settle {α : Type} : Except Defect α → Generation σ α
  | .ok value => pure value
  | .error defect => throw (.atNode defect)

def within {α : Type} (step : SchemaStep) (action : Generation σ α) : Generation σ α :=
  ExceptT.mk do return (← action.run).mapError (·.within step)

/-- An answer below zero, with which the source would break its promise, is read as an
unsigned word. -/
def length (source : RandomSource σ) (range : LengthRange) : StateM σ Nat := do
  let n ← source.intInRange (.ofNat range.least) (.ofNat range.most)
  return n.toUInt64.toNat

def letters (source : RandomSource σ) (range : LengthRange) : StateM σ String := do
  source.alpha (← length source range)

def member {α : Type} (source : RandomSource σ) : List α → Generation σ α
  | [] => throw (.atNode .membersEmpty)
  | first :: others => do
      let i ← source.index (first :: others).length
      return (first :: others).getD i first

def formatted (source : RandomSource σ) : StringFormat → Option (StateM σ String)
  | .email => some source.email
  | .phoneNumber => some source.phoneNumber
  | .date => some do return (← source.dateTime).dateText
  | .dateTime => some do return (← source.dateTime).text
  | .uuid => some do return (← source.uuid).text
  | .other _ => none

def candidateLimit : Nat := 100

/-- The first candidate that is accepted; after `others` candidates in vain, the next
one whatever it is. -/
def firstAccepted (draw : StateM σ String) (accept : String → Bool) : Nat → StateM σ String
  | 0 => draw
  | others + 1 => do
      let candidate ← draw
      if accept candidate then return candidate else firstAccepted draw accept others

def plainText (source : RandomSource σ) (constraints : StringConstraints) : Generation σ String := do
  let range ← settle (constraints.length.range .text)
  match constraints.pattern with
  | none => letters source range
  | some pattern => firstAccepted (letters source range) pattern.isMatch (candidateLimit - 1)

def string (source : RandomSource σ) (constraints : StringConstraints) : Generation σ String :=
  match constraints.members with
  | some members => member source members
  | none =>
      match constraints.format.bind (formatted source) with
      | some text => text
      | none => plainText source constraints

/-- An integer where the range holds one, else another number. -/
def numberWithin (source : RandomSource σ) (range : NumberRange) : StateM σ Json := do
  match range.integers? with
  | some (least, most) => return .number (.ofInt64 (← source.intInRange least most))
  | none => return numberValue (← source.floatInRange (.finite range.least) (.finite range.most))

def number (source : RandomSource σ) (constraints : NumberConstraints) : Generation σ Json :=
  match constraints.members with
  | some members => do return numberValue (← member source members)
  | none => do numberWithin source (← settle constraints.range)

def leastId : Int64 := 1

def mostId : Int64 := 100000

/-- An identifier; it is a number unless the form asks for something else. -/
def id (source : RandomSource σ) (format : Option IdFormat) : StateM σ Json := do
  match format with
  | some .uuid => return .string (← source.uuid).text
  | _ => return .number (.ofInt64 (← source.intInRange leastId mostId))

end Generate

namespace Schema

open Generate

variable {σ : Type}

mutual

def generate (source : RandomSource σ) : Schema → Generation σ Json
  | .string constraints => do return .string (← Generate.string source constraints)
  | .number constraints => Generate.number source constraints
  | .boolean => do return .boolean (← source.boolean)
  | .null => return .null
  | .array items count => do
      let range ← settle (count.range .array)
      let n ← Generate.length source range
      return .array (← times (within .items (items.generate source)) n)
  | .object properties _ => do return .object (← generateProperties source properties)
  | .id format => Generate.id source format

def generateProperties (source : RandomSource σ) :
    List (String × Schema) → Generation σ (List (String × Json))
  | [] => return []
  | (name, schema) :: rest => do
      let value ← within (.property name) (schema.generate source)
      let members ← generateProperties source rest
      return (name, value) :: members

end

end Schema

def StoredSchema.generate {σ : Type} (source : RandomSource σ) (stored : Json) : Generation σ Json :=
  match Schema.ofJson stored with
  | .ok schema => schema.generate source
  | .error error => throw error

end CompactSchema
