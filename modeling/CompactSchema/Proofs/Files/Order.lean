import CompactSchema.Proofs.Files.Path
import Mathlib.Data.List.Lex

/-
The order of paths.

Paths are sorted by their rank.  A sorted list has the same paths, and they increase if no two
of them have one rank.  Entries of a directory have ranks of their own.
-/

namespace CompactSchema
namespace FilePath

theorem insertSorted_perm (path : FilePath) (paths : List FilePath) :
    (insertSorted path paths).Perm (path :: paths) := by
  induction paths with
  | nil => exact .refl _
  | cons other rest ih =>
      unfold insertSorted
      split
      · exact (ih.cons other).trans (.swap path other rest)
      · exact .refl _

theorem sorted_perm (paths : List FilePath) : (sorted paths).Perm paths := by
  induction paths with
  | nil => exact .refl _
  | cons path rest ih => exact (insertSorted_perm path (sorted rest)).trans (ih.cons path)

theorem pairwise_insertSorted {path : FilePath} {paths : List FilePath}
    (increasing : paths.Pairwise fun left right => left.rank < right.rank)
    (apart : ∀ other ∈ paths, other.rank ≠ path.rank) :
    (insertSorted path paths).Pairwise fun left right => left.rank < right.rank := by
  induction paths with
  | nil => exact List.pairwise_singleton _ _
  | cons other rest ih =>
      obtain ⟨least, later⟩ := List.pairwise_cons.1 increasing
      have apartRest : ∀ third ∈ rest, third.rank ≠ path.rank := fun third inside =>
        apart third (List.mem_cons_of_mem other inside)
      unfold insertSorted
      split
      · rename_i less
        apply List.pairwise_cons.2
        refine ⟨fun third inside => ?_, ih later apartRest⟩
        rcases List.mem_cons.1 ((insertSorted_perm path rest).mem_iff.1 inside) with rfl | inside
        · exact less
        · exact least third inside
      · rename_i notLess
        have less : path.rank < other.rank :=
          lt_of_le_of_ne (not_lt.1 notLess) (apart other List.mem_cons_self).symm
        apply List.pairwise_cons.2
        refine ⟨fun third inside => ?_, increasing⟩
        rcases List.mem_cons.1 inside with rfl | inside
        · exact less
        · exact less.trans (least third inside)

theorem pairwise_sorted {paths : List FilePath} (apart : (paths.map rank).Nodup) :
    (sorted paths).Pairwise fun left right => left.rank < right.rank := by
  induction paths with
  | nil => exact .nil
  | cons path rest ih =>
      obtain ⟨new, later⟩ := List.nodup_cons.1 apart
      refine pairwise_insertSorted (ih later) fun other inside same => new ?_
      rw [← same]
      exact List.mem_map_of_mem ((sorted_perm rest).mem_iff.1 inside)

theorem rank_join_ne {left right : FilePath} (properLeft : left.IsEntryName) (properRight : right.IsEntryName)
    (different : left ≠ right) (directory : FilePath) :
    (join directory left).rank ≠ (join directory right).rank := by
  rcases exists_parts_join_eq directory with ⟨before, parts⟩
  intro same
  unfold rank at same
  rw [parts left properLeft, parts right properRight, List.map_append, List.map_append] at same
  have last : left.octets.map UInt8.toNat = right.octets.map UInt8.toNat :=
    (List.cons.inj (List.cons.inj (List.append_cancel_left same)).1).2
  have toNat : Function.Injective UInt8.toNat := fun _ _ => UInt8.toNat_inj.1
  exact different (congrArg FilePath.mk (List.map_injective_iff.2 toNat last))

theorem nodup_rank_join {names : List FilePath} (distinct : names.Nodup)
    (proper : ∀ name ∈ names, name.IsEntryName) (directory : FilePath) :
    ((names.map (join directory)).map rank).Nodup := by
  rw [List.map_map]
  apply List.pairwise_map.2
  apply distinct.imp_of_mem
  intro left right leftInside rightInside different
  exact rank_join_ne (proper left leftInside) (proper right rightInside) different directory

end FilePath
end CompactSchema
