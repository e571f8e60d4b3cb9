import CompactSchema.Files.FileSystem

/-
Snapshots of files.

A snapshot records what was found at some paths; every other path counts as one at
which nothing is.
-/

namespace CompactSchema

structure Sight where
  text : Except FileError String := .error .notFound
  entries : Except FileError EntryNames := .error .notFound
  isFile : Bool := false
  isPresent : Bool := false

abbrev Snapshot := List (FilePath × Sight)

namespace Snapshot

def sight (snapshot : Snapshot) (path : FilePath) : Sight := (snapshot.lookup path).getD {}

def files (snapshot : Snapshot) : FileSystem where
  readText path := (snapshot.sight path).text
  entries path := (snapshot.sight path).entries
  isFile path := (snapshot.sight path).isFile
  isPresent path := (snapshot.sight path).isPresent

end Snapshot
end CompactSchema
