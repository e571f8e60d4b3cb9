import CompactSchema.Files.FileSystem

/-
Files held in memory.

A tree of directories with a working directory in it.  A path is followed part by part
from where it begins; every part but the last leads through a directory.
-/

namespace CompactSchema

inductive FileNode where
  | file (content : ByteArray)
  | directory (entries : List (FilePath × FileNode))

namespace FileNode

instance : Inhabited FileNode := ⟨.directory []⟩

def nameLimit : Nat := 255

def entry (name : FilePath) : FileNode → Except FileError FileNode
  | .file _ => .error .notDirectory
  | .directory entries =>
      if nameLimit < name.octets.length then .error .nameTooLong
      else
        match entries.lookup name with
        | some node => .ok node
        | none => .error .notFound

/-- Puts an entry in the place of the one of its name, or behind all others. -/
def putEntry (name : FilePath) (node : FileNode) : List (FilePath × FileNode) → List (FilePath × FileNode)
  | [] => [(name, node)]
  | (other, held) :: rest =>
      if name = other then (name, node) :: rest else (other, held) :: putEntry name node rest

/-- Changes the node at the end of a path of names; a name that is missing leads to an
empty directory. -/
def update (change : FileNode → Except FileError FileNode) :
    List FilePath → FileNode → Except FileError FileNode
  | [], node => change node
  | _ :: _, .file _ => .error .notDirectory
  | name :: names, .directory entries => do
      let node ← update change names ((entries.lookup name).getD (.directory []))
      return .directory (putEntry name node entries)

end FileNode

structure FileTree where
  root : FileNode
  /-- The names that lead from the root to the working directory. -/
  workingDirectory : List FilePath

namespace FileTree

def empty : FileTree where
  root := .directory [("work", .directory [])]
  workingDirectory := ["work"]

def pathLimit : Nat := 4095

/-- The node at the end of a path of names from the root, the last name first. -/
def nodeAt (tree : FileTree) : List FilePath → Except FileError FileNode
  | [] => .ok tree.root
  | name :: outer => do (← tree.nodeAt outer).entry name

/-- Follows the parts of a path.  Names stand last first. -/
def follow (tree : FileTree) : List FilePath → List (List UInt8) → Except FileError (List FilePath)
  | names, [] => .ok names
  | names, part :: parts => do
      match ← tree.nodeAt names with
      | .file _ => throw .notDirectory
      | .directory _ =>
          if part = [] ∨ part = [FilePath.dot] then tree.follow names parts
          else if part = [FilePath.dot, FilePath.dot] then tree.follow names.tail parts
          else
            let _ ← tree.nodeAt (⟨part⟩ :: names)
            tree.follow (⟨part⟩ :: names) parts

def checkPath (path : FilePath) : Except FileError Unit :=
  if path.octets.isEmpty then .error .notFound
  else if 0 ∈ path.octets then .error .zeroInPath
  else if pathLimit < path.octets.length then .error .nameTooLong
  else .ok ()

def resolve (tree : FileTree) (path : FilePath) : Except FileError (List FilePath) := do
  checkPath path
  let start := if path.isAbsolute then [] else tree.workingDirectory.reverse
  tree.follow start path.splitSlashes

def find (tree : FileTree) (path : FilePath) : Except FileError FileNode := do
  tree.nodeAt (← tree.resolve path)

def textOf (content : ByteArray) : Except FileError String :=
  match String.fromUTF8? content with
  | some text => .ok text
  | none => .error .notText

def readText (tree : FileTree) (path : FilePath) : Except FileError String := do
  match ← tree.find path with
  | .file content => textOf content
  | .directory _ => throw .isDirectory

def entries (tree : FileTree) (path : FilePath) : Except FileError EntryNames := do
  match ← tree.find path with
  | .file _ => throw .notDirectory
  | .directory entries => return .ofList (entries.map (·.1))

def view (tree : FileTree) : FileSystem where
  readText := tree.readText
  entries := tree.entries
  isFile path := match tree.find path with
    | .ok (.file _) => true
    | _ => false
  isPresent path := (tree.find path).isOk

def place (tree : FileTree) (path : FilePath) : Except FileError (List FilePath × FilePath) := do
  checkPath path
  match path.splitSlashes.reverse with
  | last :: before =>
      let name : FilePath := ⟨last⟩
      if name.IsEntryName then
        let directory :=
          if before.isEmpty then .ok tree.workingDirectory.reverse
          else tree.resolve ⟨before.reverse.flatMap (· ++ [FilePath.slash])⟩
        return (← directory, name)
      else throw .isDirectory
  | [] => throw .notFound

def write (tree : FileTree) (path : FilePath) (content : ByteArray) : Except FileError FileTree := do
  let (directory, name) ← tree.place path
  match tree.nodeAt (name :: directory) with
  | .ok (.directory _) => throw .isDirectory
  | .ok (.file _) | .error .notFound =>
      let root ← tree.root.update (fun _ => return .file content) (name :: directory).reverse
      return { tree with root := root }
  | .error reason => throw reason

def remove (tree : FileTree) (path : FilePath) : Except FileError FileTree := do
  let (directory, name) ← tree.place path
  match ← tree.nodeAt (name :: directory) with
  | .directory _ => throw .isDirectory
  | .file _ =>
      let erase : FileNode → Except FileError FileNode
        | .directory entries => return .directory (entries.filter fun entry => entry.1 ≠ name)
        | .file _ => throw .notDirectory
      let root ← tree.root.update erase directory.reverse
      return { tree with root := root }

/-- Makes a directory and those that lead to it. -/
def makeDirectory (tree : FileTree) (names : List FilePath) : Except FileError FileTree := do
  let root ← tree.root.update (fun node => return node) (tree.workingDirectory ++ names)
  return { tree with root := root }

end FileTree
end CompactSchema
