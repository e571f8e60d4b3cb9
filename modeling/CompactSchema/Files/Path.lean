import CompactSchema.Text.Octets

/-
Paths of files.

A path is made of octets, which are mostly but not always text.  Its parts stand between
slashes; empty parts do not count, and single dots only at the beginning.  The name of a
file is the last part; it is divided at its last dot into the stem and the extension.  The
name of an entry of a directory is a path of one part.
-/

namespace CompactSchema

structure FilePath where
  octets : List UInt8
  deriving DecidableEq

namespace FilePath

def ofText (text : String) : FilePath := ⟨CompactSchema.octets text⟩

instance : Coe String FilePath := ⟨ofText⟩

instance : Append FilePath := ⟨fun front behind => ⟨front.octets ++ behind.octets⟩⟩

def text? (path : FilePath) : Option String := Utf8.text? path.octets

def shown (path : FilePath) : String := Utf8.shown path.octets

def slash : UInt8 := 0x2F

def dot : UInt8 := 0x2E

def splitAt {α : Type} [DecidableEq α] (mark : α) : List α → List (List α)
  | [] => [[]]
  | c :: rest =>
      if c = mark then [] :: splitAt mark rest
      else
        match splitAt mark rest with
        | [] => [[c]]
        | part :: parts => (c :: part) :: parts

def splitSlashes (path : FilePath) : List (List UInt8) := splitAt slash path.octets

def isAbsolute (path : FilePath) : Bool := path.octets.head? == some slash

def endsInSlash (path : FilePath) : Bool := path.octets.getLast? == some slash

/-- The path says that it begins where the reader stands. -/
def startsHere (path : FilePath) : Bool := path.splitSlashes.head? == some [dot]

inductive Part where
  | root
  | here
  | above
  | name (octets : List UInt8)
  deriving DecidableEq

def Part.ofOctets (octets : List UInt8) : Part := if octets = [dot, dot] then .above else .name octets

def names (path : FilePath) : List (List UInt8) :=
  path.splitSlashes.filter fun part => part ≠ [] ∧ part ≠ [dot]

def parts (path : FilePath) : List Part :=
  (if path.isAbsolute then [.root] else if path.startsHere then [.here] else []) ++
    path.names.map Part.ofOctets

def same (left right : FilePath) : Bool := decide (left.parts = right.parts)

/-- The rank of a part among parts: names come last, in the order of their octets. -/
def Part.rank : Part → List Nat
  | .root => [0]
  | .here => [1]
  | .above => [2]
  | .name octets => 3 :: octets.map UInt8.toNat

def rank (path : FilePath) : List (List Nat) := path.parts.map Part.rank

def insertSorted (path : FilePath) : List FilePath → List FilePath
  | [] => [path]
  | other :: rest =>
      if other.rank < path.rank then other :: insertSorted path rest else path :: other :: rest

def sorted : List FilePath → List FilePath
  | [] => []
  | path :: rest => insertSorted path (sorted rest)

def IsEntryName (name : FilePath) : Prop :=
  name.octets ≠ [] ∧ name.octets ≠ [dot] ∧ name.octets ≠ [dot, dot] ∧ slash ∉ name.octets

instance (name : FilePath) : Decidable (IsEntryName name) := inferInstanceAs (Decidable (_ ∧ _))

def join (directory path : FilePath) : FilePath :=
  if path.isAbsolute || directory.octets.isEmpty then path
  else if directory.endsInSlash then directory ++ path
  else directory ++ "/" ++ path

/-- The name of the file, unless the path ends in no name. -/
def fileName? (path : FilePath) : Option FilePath :=
  match path.parts.getLast? with
  | some (.name octets) => some ⟨octets⟩
  | _ => none

def splitLastDot : List UInt8 → Option (List UInt8 × List UInt8)
  | [] => none
  | octet :: rest =>
      match splitLastDot rest with
      | some (before, behind) => some (octet :: before, behind)
      | none => if octet = dot then some ([], rest) else none

/-- The stem of a file's name and its extension, if it has one.  A dot at the
beginning of a name divides nothing. -/
def splitName (name : FilePath) : FilePath × Option FilePath :=
  match splitLastDot name.octets with
  | none | some ([], _) => (name, none)
  | some (stem, extension) => (⟨stem⟩, some ⟨extension⟩)

def stem? (path : FilePath) : Option FilePath := path.fileName?.map fun name => name.splitName.1

def extension? (path : FilePath) : Option FilePath := path.fileName?.bind fun name => name.splitName.2

def stemText? (path : FilePath) : Option String := path.stem?.bind text?

end FilePath
end CompactSchema
