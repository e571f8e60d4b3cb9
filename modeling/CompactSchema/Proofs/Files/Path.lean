import CompactSchema.Files.Path
import CompactSchema.Proofs.Text.Shown

/-
The parts of joined paths, and names with an extension.

A path that is joined to a directory has the names of both, unless it is absolute, so
that its last name is its own.  A name falls into a stem and an extension at its last
dot, and both together give the name again.
-/

namespace CompactSchema
namespace FilePath

theorem octets_ofText (text : String) : (ofText text).octets = CompactSchema.octets text := rfl

theorem octets_append (front behind : FilePath) : (front ++ behind).octets = front.octets ++ behind.octets := rfl

theorem append_assoc (first second third : FilePath) : first ++ second ++ third = first ++ (second ++ third) :=
  congrArg FilePath.mk (List.append_assoc ..)

theorem ofText_append (front behind : String) : ofText (front ++ behind) = ofText front ++ ofText behind :=
  congrArg FilePath.mk (CompactSchema.octets_append front behind)

theorem text?_eq_some_iff {path : FilePath} {text : String} : path.text? = some text ↔ path = ofText text := by
  unfold text?
  rw [Utf8.text?_eq_some_iff, ← octets_ofText, FilePath.mk.injEq]

theorem ofText_inj {left right : String} : ofText left = ofText right ↔ left = right := by
  rw [← text?_eq_some_iff, text?, octets_ofText, Utf8.text?_octets, Option.some.injEq]

section Marks

variable {α : Type} [DecidableEq α] {mark : α}

theorem splitAt_ne_nil (items : List α) : splitAt mark items ≠ [] := by
  cases items with
  | nil => exact List.cons_ne_nil _ _
  | cons c rest =>
      unfold splitAt
      split
      · exact List.cons_ne_nil _ _
      · split
        · exact List.cons_ne_nil _ _
        · exact List.cons_ne_nil _ _

theorem splitAt_append_mark (front rest : List α) :
    splitAt mark (front ++ mark :: rest) = splitAt mark front ++ splitAt mark rest := by
  induction front with
  | nil =>
      rw [List.nil_append, splitAt]
      exact if_pos rfl
  | cons c front ih =>
      rw [List.cons_append, splitAt, splitAt, ih]
      by_cases same : c = mark
      · rw [if_pos same, if_pos same, List.cons_append]
      · rw [if_neg same, if_neg same]
        cases first : splitAt mark front with
        | nil => exact absurd first (splitAt_ne_nil front)
        | cons part parts => rfl

theorem splitAt_of_not_mem {part : List α} (plain : mark ∉ part) : splitAt mark part = [part] := by
  induction part with
  | nil => rfl
  | cons c rest ih =>
      have other : c ≠ mark := fun same => plain (same ▸ List.mem_cons_self)
      rw [splitAt, if_neg other, ih fun inside => plain (List.mem_cons_of_mem c inside)]

/-- Behind the last mark nothing is a mark. -/
theorem exists_splitAt_eq (mark : α) (items : List α) :
    ∃ last, mark ∉ last ∧ (splitAt mark items).getLast? = some last ∧
      (items = last ∨ ∃ front, items = front ++ mark :: last) := by
  induction items with
  | nil => exact ⟨[], List.not_mem_nil, rfl, .inl rfl⟩
  | cons c rest ih =>
      rcases ih with ⟨last, plain, found, whole⟩
      by_cases same : c = mark
      · refine ⟨last, plain, ?_, .inr ?_⟩
        · rw [splitAt, if_pos same, List.getLast?_cons, found]
          rfl
        · rcases whole with whole | ⟨front, whole⟩
          · exact ⟨[], by rw [same, whole, List.nil_append]⟩
          · exact ⟨c :: front, by rw [whole, List.cons_append]⟩
      · rcases whole with whole | ⟨front, whole⟩
        · have plain' : mark ∉ c :: last := by
            rw [List.mem_cons, not_or]
            exact ⟨Ne.symm same, plain⟩
          refine ⟨c :: last, plain', ?_, .inl (by rw [whole])⟩
          rw [whole, splitAt_of_not_mem plain']
          rfl
        · refine ⟨last, plain, ?_, .inr ⟨c :: front, by rw [whole, List.cons_append]⟩⟩
          rw [whole, ← List.cons_append, splitAt_append_mark, splitAt_of_not_mem plain, List.getLast?_concat]

end Marks

theorem exists_eq_append_slash {path : FilePath} (ends : path.endsInSlash = true) :
    ∃ front : FilePath, path = front ++ "/" := by
  unfold endsInSlash at ends
  have last : path.octets.getLast? = some slash := by simpa using ends
  obtain ⟨front, octets⟩ := List.getLast?_eq_some_iff.1 last
  exact ⟨⟨front⟩, congrArg FilePath.mk octets⟩

theorem join_of_isAbsolute {path : FilePath} (absolute : path.isAbsolute = true) (directory : FilePath) :
    join directory path = path := by
  unfold join
  rw [absolute]
  rfl

/-- Relative paths are all joined behind one beginning, which is empty or ends in a slash. -/
theorem exists_join_eq (directory : FilePath) :
    ∃ lead : FilePath, (lead = ⟨[]⟩ ∨ ∃ front : FilePath, lead = front ++ "/") ∧
      ∀ path : FilePath, path.isAbsolute = false → join directory path = lead ++ path := by
  unfold join
  by_cases empty : directory.octets.isEmpty = true
  · refine ⟨⟨[]⟩, .inl rfl, fun path relative => ?_⟩
    rw [relative, empty]
    rfl
  · by_cases ends : directory.endsInSlash = true
    · refine ⟨directory, .inr (exists_eq_append_slash ends), fun path relative => ?_⟩
      rw [relative, Bool.false_or, if_neg empty, if_pos ends]
    · refine ⟨directory ++ "/", .inr ⟨directory, rfl⟩, fun path relative => ?_⟩
      rw [relative, Bool.false_or, if_neg empty, if_neg ends]

theorem splitSlashes_append_slash (front rest : FilePath) :
    (front ++ "/" ++ rest).splitSlashes = front.splitSlashes ++ rest.splitSlashes := by
  rw [append_assoc]
  exact splitAt_append_mark front.octets rest.octets

theorem splitSlashes_of_not_mem {name : FilePath} (plain : slash ∉ name.octets) :
    name.splitSlashes = [name.octets] := splitAt_of_not_mem plain

theorem getLast?_splitSlashes_append_slash (front rest : FilePath) :
    (front ++ "/" ++ rest).splitSlashes.getLast? = rest.splitSlashes.getLast? := by
  have full : rest.splitSlashes ≠ [] := splitAt_ne_nil rest.octets
  rw [splitSlashes_append_slash, List.getLast?_append_of_ne_nil _ full]

theorem getLast?_splitSlashes_join (directory path : FilePath) :
    (join directory path).splitSlashes.getLast? = path.splitSlashes.getLast? := by
  cases absolute : path.isAbsolute with
  | true => rw [join_of_isAbsolute absolute]
  | false =>
      rcases exists_join_eq directory with ⟨lead, rfl | ⟨front, rfl⟩, joined⟩
      · rw [joined path absolute]
        rfl
      · rw [joined path absolute, getLast?_splitSlashes_append_slash]

theorem fileName?_of_getLast? {path : FilePath} {last : List UInt8}
    (found : path.splitSlashes.getLast? = some last) (full : last ≠ []) (notHere : last ≠ [dot])
    (notAbove : last ≠ [dot, dot]) : path.fileName? = some ⟨last⟩ := by
  obtain ⟨front, split⟩ := List.getLast?_eq_some_iff.1 found
  have kept : [last].filter (fun part => part ≠ [] ∧ part ≠ [dot]) = [last] :=
    List.filter_cons_of_pos (decide_eq_true ⟨full, notHere⟩)
  unfold fileName? parts names
  rw [split, List.filter_append, kept, List.map_append, List.map_singleton, ← List.append_assoc,
    List.getLast?_concat, Part.ofOctets, if_neg notAbove]

theorem isAbsolute_of_not_mem {path : FilePath} (plain : slash ∉ path.octets) : path.isAbsolute = false := by
  unfold isAbsolute
  rw [beq_eq_false_iff_ne]
  intro first
  exact plain (List.mem_of_head? first)

theorem names_of_isEntryName {name : FilePath} (proper : name.IsEntryName) : name.names = [name.octets] := by
  obtain ⟨full, notHere, -, plain⟩ := proper
  unfold names
  rw [splitSlashes_of_not_mem plain]
  exact List.filter_cons_of_pos (decide_eq_true ⟨full, notHere⟩)

theorem parts_of_isEntryName {name : FilePath} (proper : name.IsEntryName) :
    name.parts = [.name name.octets] := by
  obtain ⟨-, notHere, notAbove, plain⟩ := id proper
  have elsewhere : name.startsHere = false := by
    unfold startsHere
    rw [splitSlashes_of_not_mem plain, List.head?_cons, beq_eq_false_iff_ne, Ne, Option.some.injEq]
    exact notHere
  unfold parts
  rw [isAbsolute_of_not_mem plain, elsewhere, names_of_isEntryName proper, List.map_singleton, Part.ofOctets,
    if_neg notAbove]
  rfl

theorem exists_parts_append_slash_eq (front : FilePath) :
    ∃ before, ∀ rest : FilePath, (front ++ "/" ++ rest).parts = before ++ rest.names.map Part.ofOctets := by
  refine ⟨(if (front ++ "/").isAbsolute then [.root] else if front.startsHere then [.here] else []) ++
    front.names.map Part.ofOctets, fun rest => ?_⟩
  have absolute : (front ++ "/" ++ rest).isAbsolute = (front ++ "/").isAbsolute := by
    have full : (front ++ "/").octets ≠ [] := by
      rw [octets_append]
      exact List.append_ne_nil_of_right_ne_nil _ (List.cons_ne_nil _ _)
    unfold isAbsolute
    rw [octets_append, List.head?_append_of_ne_nil _ full]
  have here : (front ++ "/" ++ rest).startsHere = front.startsHere := by
    have full : front.splitSlashes ≠ [] := splitAt_ne_nil front.octets
    unfold startsHere
    rw [splitSlashes_append_slash, List.head?_append_of_ne_nil _ full]
  have names : (front ++ "/" ++ rest).names = front.names ++ rest.names := by
    unfold FilePath.names
    rw [splitSlashes_append_slash, List.filter_append]
  unfold parts
  rw [absolute, here, names, List.map_append, List.append_assoc]

/-- The parts of the entries of a directory differ in the last one only. -/
theorem exists_parts_join_eq (directory : FilePath) :
    ∃ before, ∀ name : FilePath, name.IsEntryName →
      (join directory name).parts = before ++ [.name name.octets] := by
  rcases exists_join_eq directory with ⟨lead, rfl | ⟨front, rfl⟩, joined⟩
  · refine ⟨[], fun name proper => ?_⟩
    rw [joined name (isAbsolute_of_not_mem proper.2.2.2)]
    exact parts_of_isEntryName proper
  · rcases exists_parts_append_slash_eq front with ⟨before, parts⟩
    refine ⟨before, fun name proper => ?_⟩
    rw [joined name (isAbsolute_of_not_mem proper.2.2.2), parts, names_of_isEntryName proper, List.map_singleton,
      Part.ofOctets, if_neg proper.2.2.1]

/-- What stands behind the last slash. -/
def lastPart (text : String) : String := String.ofList ((splitAt '/' text.toList).getLastD [])

theorem lastPart_spec (text : String) : '/' ∉ (lastPart text).toList ∧
    (text = lastPart text ∨ ∃ front, text = front ++ "/" ++ lastPart text) := by
  rcases exists_splitAt_eq '/' text.toList with ⟨last, plain, found, whole⟩
  have same : (lastPart text).toList = last := by
    rw [lastPart, List.getLastD_eq_getLast?, found, String.toList_ofList]
    rfl
  rw [same]
  refine ⟨plain, ?_⟩
  rcases whole with whole | ⟨front, whole⟩
  · exact .inl (String.toList_injective (whole.trans same.symm))
  · refine .inr ⟨String.ofList front, String.toList_injective ?_⟩
    rw [whole, String.toList_append, String.toList_append, String.toList_ofList, same, List.append_assoc]
    rfl

theorem lastPart_of_not_mem {text : String} (plain : '/' ∉ text.toList) : lastPart text = text := by
  unfold lastPart
  rw [splitAt_of_not_mem plain]
  exact String.ofList_toList

theorem getLast?_splitSlashes_ofText {behind : String} (plain : '/' ∉ behind.toList) (text : String) :
    (ofText (text ++ behind)).splitSlashes.getLast? = some (CompactSchema.octets (lastPart text ++ behind)) := by
  obtain ⟨plain', whole⟩ := lastPart_spec text
  have alone : slash ∉ (ofText (lastPart text ++ behind)).octets := by
    refine not_mem_octets '/' (by decide) ?_
    rw [String.toList_append, List.mem_append, not_or]
    exact ⟨plain', plain⟩
  have last : (ofText (lastPart text ++ behind)).splitSlashes.getLast? =
      some (CompactSchema.octets (lastPart text ++ behind)) := by
    rw [splitSlashes_of_not_mem alone]
    rfl
  rcases whole with whole | ⟨front, whole⟩
  · rw [← whole] at last
    rw [last, ← whole]
  · have parted : ofText (text ++ behind) = ofText front ++ "/" ++ ofText (lastPart text ++ behind) := by
      rw [← ofText_append, ← ofText_append, ← String.append_assoc, ← whole]
    rw [parted, getLast?_splitSlashes_append_slash, last]

theorem splitLastDot_of_not_mem {octets : List UInt8} (plain : dot ∉ octets) : splitLastDot octets = none := by
  induction octets with
  | nil => rfl
  | cons octet rest ih =>
      have notDot : octet ≠ dot := fun same => plain (same ▸ List.mem_cons_self)
      rw [splitLastDot, ih fun inside => plain (List.mem_cons_of_mem octet inside)]
      exact if_neg notDot

theorem splitLastDot_append {behind : List UInt8} (plain : dot ∉ behind) (before : List UInt8) :
    splitLastDot (before ++ dot :: behind) = some (before, behind) := by
  induction before with
  | nil =>
      rw [List.nil_append, splitLastDot, splitLastDot_of_not_mem plain]
      rfl
  | cons octet before ih => rw [List.cons_append, splitLastDot, ih]

theorem eq_append_of_splitLastDot {octets before behind : List UInt8}
    (split : splitLastDot octets = some (before, behind)) : octets = before ++ dot :: behind := by
  induction octets generalizing before with
  | nil => cases split
  | cons octet rest ih =>
      unfold splitLastDot at split
      cases later : splitLastDot rest with
      | some found =>
          rw [later] at split
          cases split
          rw [ih later, List.cons_append]
      | none =>
          rw [later] at split
          by_cases same : octet = dot
          · rw [if_pos same] at split
            cases split
            rw [same, List.nil_append]
          · rw [if_neg same] at split
            cases split

theorem splitName_append {stem extension : FilePath} (full : stem.octets ≠ [])
    (plain : dot ∉ extension.octets) : splitName (stem ++ "." ++ extension) = (stem, some extension) := by
  have octets : (stem ++ "." ++ extension).octets = stem.octets ++ dot :: extension.octets := by
    rw [append_assoc]
    rfl
  unfold splitName
  rw [octets, splitLastDot_append plain]
  obtain ⟨_ | ⟨octet, rest⟩⟩ := stem
  · exact absurd rfl full
  · rfl

theorem eq_append_of_splitName {name stem extension : FilePath}
    (split : splitName name = (stem, some extension)) :
    stem.octets ≠ [] ∧ name = stem ++ "." ++ extension := by
  unfold splitName at split
  split at split
  · cases split
  · cases split
  · rename_i before behind notEmpty found
    cases split
    refine ⟨notEmpty, congrArg FilePath.mk ?_⟩
    rw [eq_append_of_splitLastDot found]
    exact (List.append_assoc before [dot] behind).symm

theorem stemText?_eq_some_iff {path : FilePath} {name : String} :
    path.stemText? = some name ↔ path.stem? = some (ofText name) := by
  unfold stemText?
  cases path.stem? with
  | none => simp
  | some stem => rw [Option.bind_some, text?_eq_some_iff, Option.some.injEq]

theorem fileName?_join {name : FilePath} (proper : name.IsEntryName) (directory : FilePath) :
    (join directory name).fileName? = some name := by
  obtain ⟨full, notHere, notAbove, plain⟩ := proper
  refine fileName?_of_getLast? ?_ full notHere notAbove
  rw [getLast?_splitSlashes_join, splitSlashes_of_not_mem plain]
  rfl

/-- An entry has an extension if its name is made of a stem, a dot and the extension. -/
theorem extension?_join_eq_some_iff {name extension : FilePath} (proper : name.IsEntryName)
    (plain : dot ∉ extension.octets) (directory : FilePath) :
    (join directory name).extension? = some extension ↔
      ∃ stem : FilePath, stem.octets ≠ [] ∧ name = stem ++ "." ++ extension := by
  unfold extension?
  rw [fileName?_join proper, Option.bind_some]
  constructor
  · intro found
    refine ⟨(splitName name).1, eq_append_of_splitName ?_⟩
    rw [← found]
  · intro made
    obtain ⟨stem, full, same⟩ := made
    rw [same, splitName_append full plain]

theorem stem?_join_append {stem extension directory : FilePath} (proper : (stem ++ "." ++ extension).IsEntryName)
    (full : stem.octets ≠ []) (plain : dot ∉ extension.octets) :
    (join directory (stem ++ "." ++ extension)).stem? = some stem := by
  unfold stem?
  rw [fileName?_join proper, Option.map_some, splitName_append full plain]

end FilePath
end CompactSchema
