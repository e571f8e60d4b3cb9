import CompactSchema.Files.Path
import CompactSchema.Power

/-
Arguments of the command line.

The first argument names a command, the others set its options.  A long option takes
its value from behind an equals sign or from the next argument, unless that begins with
a hyphen.  A value is settled only when the next option is met or the arguments end, so
an unknown option hides faults of the option before it.
-/

namespace CompactSchema

inductive Command where
  | validate (schema : String) (data config : Option FilePath)
  | generate (schema : String) (count : UInt64) (seed : Option UInt64) (config : Option FilePath)
  | checkSchemas (config : Option FilePath)
  deriving DecidableEq

inductive UsageError where
  | helpWanted
  | versionWanted
  | commandMissing
  | commandUnknown
  | argumentUnknown
  | optionMissing
  | optionRepeated
  | valueMissing
  | valueInvalid
  | valueUnexpected
  deriving DecidableEq

/-- Asking for help or for the version is no fault. -/
def UsageError.exitCode : UsageError → UInt32
  | .helpWanted | .versionWanted => 0
  | _ => 2

namespace Arguments

inductive OptionName where
  | schema
  | data
  | config
  | count
  | seed
  deriving DecidableEq

def OptionName.text : OptionName → String
  | .schema => "schema"
  | .data => "data"
  | .config => "config"
  | .count => "count"
  | .seed => "seed"

structure Settings where
  schema : Option String := none
  data : Option FilePath := none
  config : Option FilePath := none
  count : Option UInt64 := none
  seed : Option UInt64 := none

def addDigit (number : Nat) (c : Char) : Option Nat :=
  if c.isDigit then some (number * 10 + (c.toNat - '0'.toNat)) else none

/-- Digits, perhaps behind a plus sign, that make a number of 64 bits. -/
def number? (text : String) : Option UInt64 := do
  let digits := match text.toList with
    | '+' :: digits => digits
    | digits => digits
  if digits.isEmpty then none
  else
    let number ← digits.foldlM addDigit 0
    if number < 2 ^ 64 then return .ofNat number else none

def settle {α : Type} (held : Option α) (value : Except UsageError α) : Except UsageError (Option α) :=
  match held with
  | some _ => .error .optionRepeated
  | none => value.map some

def path (text : String) : Except UsageError FilePath :=
  if text.isEmpty then .error .valueMissing else .ok (.ofText text)

def number (text : String) : Except UsageError UInt64 :=
  match number? text with
  | some n => .ok n
  | none => .error .valueInvalid

def Settings.set (settings : Settings) (value : String) : OptionName → Except UsageError Settings
  | .schema => do return { settings with schema := ← settle settings.schema (.ok value) }
  | .data => do return { settings with data := ← settle settings.data (path value) }
  | .config => do return { settings with config := ← settle settings.config (path value) }
  | .count => do return { settings with count := ← settle settings.count (number value) }
  | .seed => do return { settings with seed := ← settle settings.seed (number value) }

inductive Form where
  /-- Two hyphens alone: no options follow. -/
  | separator
  | long (name : String) (value : Option String)
  | short (letters : List Char)
  | plain (text : String)

def splitEquals : List Char → List Char × Option (List Char)
  | [] => ([], none)
  | '=' :: value => ([], some value)
  | c :: rest =>
      let (name, value) := splitEquals rest
      (c :: name, value)

def Form.ofText (argument : String) : Form :=
  match argument.toList with
  | ['-', '-'] => .separator
  | '-' :: '-' :: rest =>
      let (name, value) := splitEquals rest
      .long (.ofList name) (value.map .ofList)
  | '-' :: letter :: letters => .short (letter :: letters)
  | _ => .plain argument

/-- The options read so far.  The last one may still lack its value, and is not yet
among the settings. -/
structure Progress where
  settings : Settings := {}
  pending : Option (OptionName × Option String) := none

def Progress.settled (progress : Progress) : Except UsageError Settings :=
  match progress.pending with
  | none => .ok progress.settings
  | some (_, none) => .error .valueMissing
  | some (name, some value) => progress.settings.set value name

def Progress.takeLong (progress : Progress) (options : List OptionName) (name : String)
    (value : Option String) : Except UsageError Progress :=
  match options.find? fun option => option.text = name with
  | some option => do
      let settings ← progress.settled
      match value with
      | some value => return { settings := ← settings.set value option }
      | none => return { settings, pending := some (option, none) }
  | none =>
      if name = "help" then
        match value with
        | some _ => .error .valueUnexpected
        | none => do
            let _ ← progress.settled
            .error .helpWanted
      else .error .argumentUnknown

def Progress.takeShort (progress : Progress) : List Char → Except UsageError Progress
  | 'h' :: _ => do
      let _ ← progress.settled
      .error .helpWanted
  | _ => .error .argumentUnknown

def Progress.takePlain (progress : Progress) (text : String) : Except UsageError Progress :=
  match progress.pending with
  | some (name, none) => .ok { progress with pending := some (name, some text) }
  | _ => .error .argumentUnknown

def readOptions (options : List OptionName) : Progress → List String → Except UsageError Settings
  | progress, [] => progress.settled
  | progress, argument :: rest =>
      match Form.ofText argument with
      | .separator =>
          match rest with
          | [] => progress.settled
          | _ :: _ => .error .argumentUnknown
      | .long name value => do readOptions options (← progress.takeLong options name value) rest
      | .short letters => do readOptions options (← progress.takeShort letters) rest
      | .plain text => do readOptions options (← progress.takePlain text) rest

def needed {α : Type} : Option α → Except UsageError α
  | some value => .ok value
  | none => .error .optionMissing

def readValidate (arguments : List String) : Except UsageError Command := do
  let settings ← readOptions [.schema, .data, .config] {} arguments
  return .validate (← needed settings.schema) settings.data settings.config

def readGenerate (arguments : List String) : Except UsageError Command := do
  let settings ← readOptions [.schema, .count, .seed, .config] {} arguments
  return .generate (← needed settings.schema) (settings.count.getD 1) settings.seed settings.config

def readCheckSchemas (arguments : List String) : Except UsageError Command := do
  let settings ← readOptions [.config] {} arguments
  return .checkSchemas settings.config

def reader? : String → Option (List String → Except UsageError Command)
  | "validate" => some readValidate
  | "generate" => some readGenerate
  | "check-schemas" => some readCheckSchemas
  | _ => none

def helpName : String := "help"

def readHelp : List String → UsageError
  | [] => .helpWanted
  | [name] => if (reader? name).isSome ∨ name = helpName then .helpWanted else .commandUnknown
  | _ => .commandUnknown

def readCommand : List String → Except UsageError Command
  | [] => .error .commandMissing
  | argument :: rest =>
      match reader? argument with
      | some reader => reader rest
      | none =>
          if argument = helpName then .error (readHelp rest)
          else
            match Form.ofText argument with
            | .separator =>
                match rest with
                | [] => .error .commandMissing
                | name :: _ =>
                    if (reader? name).isSome ∨ name = helpName then .error .argumentUnknown
                    else .error .commandUnknown
            | .long "help" none => .error .helpWanted
            | .long "version" none => .error .versionWanted
            | .long "help" (some _) | .long "version" (some _) => .error .valueUnexpected
            | .long _ _ => .error .argumentUnknown
            | .short ('h' :: _) => .error .helpWanted
            | .short ('V' :: _) => .error .versionWanted
            | .short _ => .error .argumentUnknown
            | .plain _ => .error .commandUnknown

end Arguments
end CompactSchema
