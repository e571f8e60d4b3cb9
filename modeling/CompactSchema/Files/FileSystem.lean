import CompactSchema.Files.Path

/-
Files as a reader sees them.

A file system says for each path what can be read there.  It is a value: while it is
looked at, nothing in it changes.
-/

namespace CompactSchema

inductive FileError where
  | notFound
  | notDirectory
  | isDirectory
  | notText
  | nameTooLong
  | zeroInPath
  | other (reason : String)
  deriving DecidableEq

def FileError.message : FileError → String
  | .notFound => "No such file or directory (os error 2)"
  | .notDirectory => "Not a directory (os error 20)"
  | .isDirectory => "Is a directory (os error 21)"
  | .notText => "stream did not contain valid UTF-8"
  | .nameTooLong => "File name too long (os error 36)"
  | .zeroInPath => "file name contained an unexpected NUL byte"
  | .other reason => reason

/-- The names of a directory's entries, in the order in which they are met. -/
structure EntryNames where
  names : List FilePath
  distinct : names.Nodup
  proper : ∀ name ∈ names, name.IsEntryName

namespace EntryNames

def none : EntryNames := ⟨[], .nil, nofun⟩

/-- The names with one more before them, if it is new and can be a name. -/
def add (entries : EntryNames) (name : FilePath) : EntryNames :=
  if new : name.IsEntryName ∧ name ∉ entries.names then
    { names := name :: entries.names
      distinct := List.nodup_cons.2 ⟨new.2, entries.distinct⟩
      proper := List.forall_mem_cons.2 ⟨new.1, entries.proper⟩ }
  else
    entries

def ofList (names : List FilePath) : EntryNames := names.foldr (fun name entries => entries.add name) none

end EntryNames

structure FileSystem where
  readText (path : FilePath) : Except FileError String
  entries (path : FilePath) : Except FileError EntryNames
  /-- A file, not a directory, is at the path. -/
  isFile (path : FilePath) : Bool
  isPresent (path : FilePath) : Bool

end CompactSchema
