import CompactSchema.Command.Run
import CompactSchema.Files.Snapshot
import CompactSchema.Files.Tree

/-
The command line.

The program takes its arguments, looks at the files that the command may need, runs the
command on what it found, and writes the response, the log and the error.
-/

namespace CompactSchema
namespace Program

/-- A code of the operating system; some actions report it negated. -/
def systemCode (code : UInt32) : UInt32 := if code < 0x80000000 then code else 0 - code

def fileError : IO.Error → FileError
  | .noFileOrDirectory _ _ _ => .notFound
  | .permissionDenied _ _ _ => .other "Permission denied (os error 13)"
  | .inappropriateType _ code _ => if systemCode code = 21 then .isDirectory else .notDirectory
  | .invalidArgument _ code _ => if systemCode code = 36 then .nameTooLong else .notFound
  | error => .other (toString error)

def attempt {α : Type} (action : IO α) : IO (Except FileError α) := do
  try return .ok (← action)
  catch error => return .error (fileError error)

def look (path : FilePath) : IO Sight := do
  let some name := path.text? | return {}
  if name.isEmpty then return {}
  let place := (← IO.currentDir) / name
  let content ← attempt (IO.FS.readBinFile place)
  let listing ← attempt place.readDir
  let isFile ← try pure ((← place.metadata).type == .file) catch _ => pure false
  return {
    text := content.bind FileTree.textOf
    entries := listing.map fun entries => .ofList (entries.toList.map fun entry => .ofText entry.fileName)
    isFile
    isPresent := ← place.pathExists }

def lookAll (paths : List FilePath) : IO Snapshot :=
  paths.mapM fun path => return (path, ← look path)

/-- The paths at which a command looks under a configuration, but for the files of a
directory. -/
def pathsOf (config : Config) : Command → List FilePath
  | .validate schema data _ => [.ofText schema, config.directory.fileOf schema] ++ data.toList
  | .generate schema _ _ _ => [.ofText schema, config.directory.fileOf schema]
  | .checkSchemas _ => [config.directory.path]

def filesOf (config : Config) (files : FileSystem) : Command → List FilePath
  | .checkSchemas _ => (config.directory.schemaFiles files).toOption.getD []
  | _ => []

def lookFor (command : Command) : IO FileSystem := do
  let configPath := command.config.getD Config.defaultPath
  let first ← lookAll [configPath]
  match Config.resolve first.files command.config with
  | .error _ => return first.files
  | .ok config =>
      let second := first ++ (← lookAll (pathsOf config command))
      let third ← lookAll (filesOf config second.files command)
      return (second ++ third : Snapshot).files

partial def readOctets (stream : IO.FS.Stream) (octets : ByteArray) : IO ByteArray := do
  let more ← stream.read 65536
  if more.isEmpty then return octets else readOctets stream (octets ++ more)

def readInput : Command → IO (Except FileError String)
  | .validate _ none _ => do return FileTree.textOf (← readOctets (← IO.getStdin) .empty)
  | _ => return .ok ""

def randomStream : IO ChaChaStream := do
  let octets ← IO.getRandomBytes 32
  let word (i : Nat) : UInt32 :=
    (List.range 4).foldr (fun j word => word <<< 8 ||| (octets[4 * i + j]?.getD 0).toUInt32) 0
  return { key := Vector.ofFn fun i => word i, rest := [], next := 0 }

def usage : String :=
  "Commands:\n" ++
  "  validate --schema <file or name> [--data <file>] [--config <file>]\n" ++
  "  generate --schema <file or name> [--count <n>] [--seed <n>] [--config <file>]\n" ++
  "  check-schemas [--config <file>]\n" ++
  "  help [command]\n"

def usageMessage : UsageError → String
  | .helpWanted => usage
  | .versionWanted => "0.1.0\n"
  | .commandMissing => usage
  | .commandUnknown => "error: unknown command\n\n" ++ usage
  | .argumentUnknown => "error: unexpected argument\n\n" ++ usage
  | .optionMissing => "error: a required option is missing\n\n" ++ usage
  | .optionRepeated => "error: an option is given twice\n\n" ++ usage
  | .valueMissing => "error: an option has no value\n\n" ++ usage
  | .valueInvalid => "error: an option has an invalid value\n\n" ++ usage
  | .valueUnexpected => "error: an option takes no value\n\n" ++ usage

def runCommand [Diagnosis] (command : Command) : IO UInt32 := do
  let environment : Environment :=
    { files := ← lookFor command, input := ← readInput command, entropy := ← randomStream }
  let written := (command.run environment).run .info
  let outcome := written.result
  let stdout ← IO.getStdout
  let stderr ← IO.getStderr
  for line in written.lines do stderr.putStrLn line
  for line in outcome.lines do stdout.putStrLn line
  stdout.flush
  if let some error := outcome.failure then stderr.putStrLn error.describe
  if let some breakdown := outcome.breakdown then stderr.putStrLn breakdown.message
  return outcome.exitCode

end Program
end CompactSchema

open CompactSchema in
def main (arguments : List String) : IO UInt32 := do
  match Arguments.readCommand arguments with
  | .ok command =>
      let _ := Diagnosis.brief
      Program.runCommand command
  | .error error =>
      let stream ← if error.exitCode = 0 then IO.getStdout else IO.getStderr
      stream.putStr (Program.usageMessage error)
      return error.exitCode
