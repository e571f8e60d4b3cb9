import CompactSchema.Proofs.Files.Path
import CompactSchema.Registry.Loading

/-
The stem of the file of a name.

A schema is registered under the stem of its file.  The file of a name has the last part
of the name as its stem, so that the stem is the name itself unless the name is empty or
leads through directories.
-/

namespace CompactSchema
namespace SchemaDirectory

open FilePath

/-- The stem of the file of a name; where nothing stands behind the last slash, the dot of
the extension begins the file's name and divides nothing. -/
def registeredName (name : String) : String :=
  if lastPart name = "" then "." ++ fileExtension else lastPart name

theorem fileName?_fileOf (directory : SchemaDirectory) (name : String) :
    (directory.fileOf name).fileName? = some (.ofText (lastPart name ++ ("." ++ fileExtension))) := by
  have long : 5 ≤ (octets (lastPart name ++ ("." ++ fileExtension))).length := by
    rw [octets_append, List.length_append]
    exact Nat.le_add_left 5 _
  have other (short : List UInt8) (few : short.length < 5) :
      octets (lastPart name ++ ("." ++ fileExtension)) ≠ short := by
    intro same
    rw [same] at long
    omega
  unfold fileOf
  rw [String.append_assoc]
  refine fileName?_of_getLast? ?_ (other _ (by decide)) (other _ (by decide)) (other _ (by decide))
  rw [getLast?_splitSlashes_join, getLast?_splitSlashes_ofText (by decide)]

theorem stem?_fileOf (directory : SchemaDirectory) (name : String) :
    (directory.fileOf name).stem? = some (.ofText (registeredName name)) := by
  unfold stem? registeredName
  rw [fileName?_fileOf, Option.map_some]
  by_cases empty : lastPart name = ""
  · rw [if_pos empty, empty]
    rfl
  · have full : (ofText (lastPart name)).octets ≠ [] := by
      intro none
      exact empty (ofText_inj.1 (congrArg FilePath.mk none))
    rw [if_neg empty, ← String.append_assoc, ofText_append, ofText_append, splitName_append full (by decide)]

theorem stemText?_fileOf (directory : SchemaDirectory) (name : String) :
    (directory.fileOf name).stemText? = some (registeredName name) :=
  stemText?_eq_some_iff.2 (stem?_fileOf directory name)

theorem registeredName_eq_self_iff (name : String) :
    registeredName name = name ↔ name ≠ "" ∧ '/' ∉ name.toList := by
  unfold registeredName
  constructor
  · intro same
    constructor
    · intro empty
      rw [empty] at same
      exact absurd same (by decide)
    · rw [← same]
      split
      · decide
      · exact (lastPart_spec name).1
  · intro plain
    rw [lastPart_of_not_mem plain.2, if_neg plain.1]

end SchemaDirectory
end CompactSchema
