import CompactSchema.Files.Tree
import CompactSchema.Proofs.Files.Order
import CompactSchema.Proofs.Registry.History
import Mathlib.Data.List.Dedup

/-
What the load of a directory does.

The schema files of a directory are loaded in the order of their paths.  No two of them
have one stem, so no load overwrites what another has stored, and what a registry held
before stays under every name under which nothing is stored.  Loading all of them at once
does the same and tells less.
-/

namespace CompactSchema

open FilePath

/-! ### Schema files -/

namespace SchemaDirectory

/-- The names of the entries that are seen in the directory; one that does not exist has
no entries. -/
inductive Lists (directory : SchemaDirectory) (files : FileSystem) : List FilePath → Prop
  | missing (absent : files.isPresent directory.path = false) : Lists directory files []
  | listed {names : List FilePath} (present : files.isPresent directory.path = true)
      (read : (files.entries directory.path).map EntryNames.names = .ok names) :
      Lists directory files names

variable {directory : SchemaDirectory} {files : FileSystem} {names : List FilePath}

theorem Lists.exists_entries (lists : directory.Lists files names) :
    ∃ entries : EntryNames, entries.names = names := by
  cases lists with
  | missing absent => exact ⟨.none, rfl⟩
  | listed present read =>
      cases found : files.entries directory.path with
      | error error =>
          rw [found] at read
          cases read
      | ok entries =>
          rw [found] at read
          exact ⟨entries, Except.ok.inj read⟩

theorem Lists.proper (lists : directory.Lists files names) : ∀ name ∈ names, name.IsEntryName := by
  rcases lists.exists_entries with ⟨entries, rfl⟩
  exact entries.proper

theorem Lists.distinct (lists : directory.Lists files names) : names.Nodup := by
  rcases lists.exists_entries with ⟨entries, rfl⟩
  exact entries.distinct

theorem Lists.schemaFiles_eq (lists : directory.Lists files names) :
    directory.schemaFiles files = .ok (directory.pathsOf names) := by
  unfold schemaFiles
  cases lists with
  | missing absent =>
      rw [absent]
      rfl
  | listed present read =>
      rw [present]
      cases found : files.entries directory.path with
      | error error =>
          rw [found] at read
          cases read
      | ok entries =>
          rw [found] at read
          cases read
          rfl

theorem append_fileExtension (stem : FilePath) : stem ++ "." ++ .ofText fileExtension = stem ++ ".json" :=
  append_assoc stem "." (.ofText fileExtension)

theorem octets_ne_nil_iff {stem : FilePath} : stem.octets ≠ [] ↔ stem ≠ "" :=
  not_congr ⟨congrArg FilePath.mk, congrArg FilePath.octets⟩

theorem mem_pathsOf_iff (proper : ∀ name ∈ names, name.IsEntryName) {path : FilePath} :
    path ∈ directory.pathsOf names ↔ ∃ stem : FilePath,
      stem ≠ "" ∧ stem ++ ".json" ∈ names ∧ path = join directory.path (stem ++ ".json") := by
  have plain : dot ∉ (ofText fileExtension).octets := by decide
  unfold pathsOf
  rw [(sorted_perm _).mem_iff, List.mem_filter, List.mem_map, decide_eq_true_iff]
  constructor
  · intro found
    rcases found with ⟨⟨name, inside, rfl⟩, extension⟩
    rcases (extension?_join_eq_some_iff (proper name inside) plain _).1 extension with ⟨stem, full, rfl⟩
    rw [append_fileExtension] at inside ⊢
    exact ⟨stem, octets_ne_nil_iff.1 full, inside, rfl⟩
  · intro named
    rcases named with ⟨stem, full, inside, rfl⟩
    refine ⟨⟨_, inside, rfl⟩, (extension?_join_eq_some_iff (proper _ inside) plain _).2 ?_⟩
    exact ⟨stem, octets_ne_nil_iff.2 full, (append_fileExtension stem).symm⟩

theorem stem?_join {stem : FilePath} (proper : (stem ++ ".json").IsEntryName) (full : stem ≠ "") :
    (join directory.path (stem ++ ".json")).stem? = some stem := by
  rw [← append_fileExtension] at proper ⊢
  exact stem?_join_append proper (octets_ne_nil_iff.2 full) (by decide)

theorem increasing_pathsOf (proper : ∀ name ∈ names, name.IsEntryName) (distinct : names.Nodup) :
    (directory.pathsOf names).Pairwise fun left right => left.rank < right.rank := by
  apply pairwise_sorted
  exact (nodup_rank_join distinct proper directory.path).sublist (List.filter_sublist.map rank)

theorem nodup_stems (proper : ∀ name ∈ names, name.IsEntryName) (distinct : names.Nodup) :
    ((directory.pathsOf names).map stem?).Nodup := by
  apply List.pairwise_map.2
  apply (increasing_pathsOf proper distinct).imp_of_mem
  intro left right leftInside rightInside less same
  rcases (mem_pathsOf_iff proper).1 leftInside with ⟨stem, full, inside, rfl⟩
  rcases (mem_pathsOf_iff proper).1 rightInside with ⟨stem', full', inside', rfl⟩
  rw [stem?_join (proper _ inside) full, stem?_join (proper _ inside') full', Option.some.injEq] at same
  rw [same] at less
  exact List.lt_irrefl _ less

end SchemaDirectory

/-! ### Outcomes -/

namespace Registry

theorem stores_iff_outcome {files : FileSystem} {limit : Nat} {path : FilePath} {name : String}
    {schema : Schema} : (Attempt.load files path).Stores limit name schema ↔
      outcome files limit path = .ok name ∧ files.readSchema limit path = .ok schema := by
  simp only [Attempt.Stores, ← FileSystem.readSchema_eq_ok_iff, outcome_eq_ok_iff, and_assoc]
  apply and_congr_right
  intro _
  constructor
  · intro read
    exact ⟨⟨schema, read⟩, read⟩
  · intro read
    exact read.2

/-- Of files with different stems each is the last that stores anything under its own. -/
theorem lastStored_load_iff {files : FileSystem} {limit : Nat} {paths : List FilePath}
    (distinct : (paths.map stem?).Nodup) {name : String} {schema : Schema} :
    LastStored limit (paths.map (.load files)) name schema ↔
      ∃ path ∈ paths, (Attempt.load files path).Stores limit name schema := by
  constructor
  · intro last
    rcases last with ⟨earlier, attempt, later, parts, stores, -⟩
    have inside : attempt ∈ paths.map (Attempt.load files) := by
      rw [parts]
      exact List.mem_append_right _ List.mem_cons_self
    rcases List.mem_map.1 inside with ⟨path, member, rfl⟩
    exact ⟨path, member, stores⟩
  · intro stored
    rcases stored with ⟨path, member, stores⟩
    rcases List.append_of_mem member with ⟨earlier, later, rfl⟩
    rw [List.map_append, List.map_cons] at distinct
    have apart := (List.nodup_cons.1 (List.nodup_append.1 distinct).2.1).1
    refine ⟨earlier.map (.load files), .load files path, later.map (.load files), ?_, stores, ?_⟩
    · rw [List.map_append, List.map_cons]
    · intro other inside schema' storesToo
      rcases List.mem_map.1 inside with ⟨path', member', rfl⟩
      apply apart
      rw [stemText?_eq_some_iff.1 stores.1, ← stemText?_eq_some_iff.1 storesToo.1]
      exact List.mem_map_of_mem member'

section Outcomes

variable {files : FileSystem} {limit : Nat} {paths : List FilePath}

theorem stores_outcomes_iff {name : String} {schema : Schema} :
    (∃ path ∈ paths, (Attempt.load files path).Stores limit name schema) ↔
      ∃ path, (path, .ok name) ∈ outcomes files limit paths ∧
        files.readSchema limit path = .ok schema := by
  apply exists_congr
  intro path
  rw [mem_outcomes_iff, stores_iff_outcome, eq_comm (b := outcome files limit path), and_assoc]

theorem stores_nothing_iff {name : String} :
    (∀ attempt ∈ paths.map (Attempt.load files), ∀ schema, ¬ attempt.Stores limit name schema) ↔
      ∀ path, (path, .ok name) ∉ outcomes files limit paths := by
  rw [List.forall_mem_map]
  constructor
  · intro nothing path inside
    rcases mem_outcomes_iff.1 inside with ⟨member, ended⟩
    rcases (outcome_eq_ok_iff.1 ended.symm).2 with ⟨schema, read⟩
    exact nothing path member schema (stores_iff_outcome.2 ⟨ended.symm, read⟩)
  · intro nothing path member schema stores
    exact nothing path (mem_outcomes_iff.2 ⟨member, (stores_iff_outcome.1 stores).1.symm⟩)

/-- No two outcomes give one name, if no two paths have one stem. -/
theorem nodup_loaded (distinct : (paths.map stem?).Nodup) :
    ((outcomes files limit paths).filterMap (·.2.toOption)).Nodup := by
  apply List.pairwise_filterMap.2
  unfold outcomes
  rw [List.pairwise_map]
  apply (List.pairwise_map.1 distinct).imp
  intro left right different name given name' given' same
  apply different
  have stem {path : FilePath} {name : String} (given : (outcome files limit path).toOption = some name) :
      stem? path = some (.ofText name) := by
    cases ended : outcome files limit path with
    | error error =>
        rw [ended] at given
        cases given
    | ok found =>
        rw [ended] at given
        cases given
        exact stemText?_eq_some_iff.1 (outcome_eq_ok_iff.1 ended).1
  rw [stem given, stem given', same]

end Outcomes
end Registry

namespace SchemaDirectory

open Registry

/-! ### Counting -/

theorem countLoaded_cons (path : FilePath) (outcome : Except SchemaError String)
    (rest : List (FilePath × Except SchemaError String)) :
    countLoaded ((path, outcome) :: rest) =
      outcome.bind fun _ => (countLoaded rest).map (· + 1) := by
  unfold countLoaded
  rw [List.mapM_cons]
  cases outcome with
  | error error => rfl
  | ok name => cases rest.mapM (·.2) <;> rfl

theorem countLoaded_eq_ok_iff {outcomes : List (FilePath × Except SchemaError String)} {count : Nat} :
    countLoaded outcomes = .ok count ↔
      (∀ outcome ∈ outcomes, outcome.2.isOk = true) ∧ count = outcomes.length := by
  induction outcomes generalizing count with
  | nil =>
      constructor
      · intro counted
        cases counted
        exact ⟨List.forall_mem_nil _, rfl⟩
      · intro all
        rw [all.2]
        rfl
  | cons first rest ih =>
      obtain ⟨path, outcome⟩ := first
      rw [countLoaded_cons, List.forall_mem_cons, List.length_cons]
      cases outcome with
      | error error =>
          constructor
          · nofun
          · intro all
            cases all.1.1
      | ok name =>
          have step : (Except.ok name : Except SchemaError String).bind
              (fun _ => (countLoaded rest).map (· + 1)) = (countLoaded rest).map (· + 1) := rfl
          rw [step]
          constructor
          · intro counted
            cases others : countLoaded rest with
            | error error =>
                rw [others] at counted
                cases counted
            | ok held =>
                rw [others] at counted
                cases counted
                have all := ih.1 others
                exact ⟨⟨rfl, all.1⟩, congrArg (· + 1) all.2⟩
          · intro all
            rw [ih.2 ⟨all.1.2, rfl⟩, all.2]
            rfl

theorem countLoaded_eq_error_iff {outcomes : List (FilePath × Except SchemaError String)}
    {error : SchemaError} : countLoaded outcomes = .error error ↔
      ∃ earlier path later, outcomes = earlier ++ (path, .error error) :: later ∧
        ∀ outcome ∈ earlier, outcome.2.isOk = true := by
  induction outcomes with
  | nil =>
      constructor
      · nofun
      · intro failed
        rcases failed with ⟨earlier, path, later, same, -⟩
        cases earlier <;> cases same
  | cons first rest ih =>
      obtain ⟨path, outcome⟩ := first
      rw [countLoaded_cons]
      cases outcome with
      | error other =>
          constructor
          · intro failed
            cases failed
            exact ⟨[], path, rest, rfl, List.forall_mem_nil _⟩
          · intro failed
            rcases failed with ⟨earlier, path', later, same, fine⟩
            cases earlier with
            | nil =>
                cases same
                rfl
            | cons first earlier =>
                cases same
                cases fine _ List.mem_cons_self
      | ok name =>
          have step : ((Except.ok name : Except SchemaError String).bind
              fun _ => (countLoaded rest).map (· + 1)) = .error error ↔
                countLoaded rest = .error error := by
            cases countLoaded rest <;> simp [Except.bind, Except.map]
          rw [step, ih]
          constructor
          · intro failed
            rcases failed with ⟨earlier, path', later, rfl, fine⟩
            exact ⟨(path, .ok name) :: earlier, path', later, rfl, List.forall_mem_cons.2 ⟨rfl, fine⟩⟩
          · intro failed
            rcases failed with ⟨earlier, path', later, same, fine⟩
            cases earlier with
            | nil => cases same
            | cons first earlier =>
                cases same
                exact ⟨earlier, path', later, rfl, (List.forall_mem_cons.1 fine).2⟩

/-! ### Loads of a directory -/

/-- What is told of the files of a directory with entries of these names, and what the
registry holds afterwards. -/
structure LoadsEach (directory : SchemaDirectory) (files : FileSystem) (names : List FilePath)
    (registry : Registry) (outcomes : List (FilePath × Except SchemaError String))
    (changed : Registry) : Prop where
  reported : ∀ path, path ∈ outcomes.map (·.1) ↔
    ∃ stem : FilePath, stem ≠ "" ∧ stem ++ ".json" ∈ names ∧ path = join directory.path (stem ++ ".json")
  /-- Each path stands once and before those that are greater part by part. -/
  increasing : (outcomes.map (·.1)).Pairwise fun left right => left.rank < right.rank
  told : ∀ path result, (path, result) ∈ outcomes → ∃ stem, stem? path = some stem ∧
    result = match stem.text? with
      | some name => (files.readSchema directory.depthLimit path).map fun _ => name
      | none => .error (.unreadable path.shown "file name is not valid UTF-8")
  apart : (outcomes.map fun outcome => stem? outcome.1).Nodup
  /-- A name that no outcome gives keeps the schema that it had. -/
  held : ∀ name schema, changed.get? name = some schema ↔
    (∃ path, (path, .ok name) ∈ outcomes ∧
      files.readSchema directory.depthLimit path = .ok schema) ∨
    registry.get? name = some schema ∧ ∀ path, (path, .ok name) ∉ outcomes
  /-- So many names are stored as outcomes are no errors. -/
  stored : outcomes.countP (·.2.isOk) = (outcomes.filterMap (·.2.toOption)).dedup.length

/-- The number of all outcomes, or the first error among them. -/
structure LoadsAll (outcomes : List (FilePath × Except SchemaError String))
    (result : Except SchemaError Nat) : Prop where
  counted : ∀ count, result = .ok count ↔
    (∀ outcome ∈ outcomes, outcome.2.isOk = true) ∧ count = outcomes.length
  failed : ∀ error, result = .error error ↔
    ∃ earlier path later, outcomes = earlier ++ (path, .error error) :: later ∧
      ∀ outcome ∈ earlier, outcome.2.isOk = true

theorem loadsAll_countLoaded (outcomes : List (FilePath × Except SchemaError String)) :
    LoadsAll outcomes (countLoaded outcomes) :=
  ⟨fun _ => countLoaded_eq_ok_iff, fun _ => countLoaded_eq_error_iff⟩

theorem loadsEach_outcomes {directory : SchemaDirectory} {files : FileSystem} {names : List FilePath}
    (lists : directory.Lists files names) (registry : Registry) :
    LoadsEach directory files names registry
      (outcomes files directory.depthLimit (directory.pathsOf names))
      (registry.after directory.depthLimit ((directory.pathsOf names).map (.load files))) := by
  have proper := lists.proper
  have distinct : ((directory.pathsOf names).map stem?).Nodup := nodup_stems proper lists.distinct
  constructor
  · intro path
    rw [map_fst_outcomes, mem_pathsOf_iff proper]
  · rw [map_fst_outcomes]
    exact increasing_pathsOf proper lists.distinct
  · intro path result inside
    rcases mem_outcomes_iff.1 inside with ⟨member, rfl⟩
    rcases (mem_pathsOf_iff proper).1 member with ⟨stem, full, named, rfl⟩
    have stemmed : (join directory.path (stem ++ ".json")).stem? = some stem := stem?_join (proper _ named) full
    refine ⟨stem, stemmed, ?_⟩
    unfold outcome stemText?
    rw [stemmed, Option.bind_some]
    cases stem.text? <;> rfl
  · unfold outcomes
    rw [List.map_map]
    exact distinct
  · intro name schema
    rw [get?_after, lastStored_load_iff distinct, stores_outcomes_iff, stores_nothing_iff]
  · have names : ((outcomes files directory.depthLimit (directory.pathsOf names)).filterMap
        (·.2.toOption)).Nodup := nodup_loaded distinct
    rw [names.dedup, List.length_filterMap_eq_countP]
    apply List.countP_congr
    intro outcome _
    cases outcome.2 <;> simp [Except.isOk, Except.toBool, Except.toOption]

/-- The load of a directory tells of each schema file in the order of the paths how it
went, and stores the schemas of those that are read; a load of all files at once does the
same to the registry, even if it fails, and tells the number of files or the first
error. -/
theorem loadEach_and_loadAll [Diagnosis] (directory : SchemaDirectory) (files : FileSystem)
    (registry : Registry) (threshold : Severity) :
    let each := (((directory.loadEach files).run registry).run threshold).result
    let all := (((directory.loadAll files).run registry).run threshold).result
    all.2 = each.2 ∧ ∀ names, directory.Lists files names →
      ∃ outcomes, each.1 = .ok outcomes ∧
        LoadsEach directory files names registry outcomes each.2 ∧ LoadsAll outcomes all.1 := by
  intro each all
  have eachEnds := ends_loadEach directory files registry threshold
  have allEnds := ends_loadAll directory files registry threshold
  constructor
  · exact (congrArg Prod.snd allEnds).trans (congrArg Prod.snd eachEnds).symm
  · intro names lists
    have attempted : Operation.loadEach.attempts directory files =
        (directory.pathsOf names).map (.load files) := by
      unfold Operation.attempts
      rw [lists.schemaFiles_eq]
    rw [lists.schemaFiles_eq] at eachEnds allEnds
    rw [attempted] at eachEnds
    refine ⟨_, congrArg Prod.fst eachEnds, ?_, ?_⟩
    · rw [show each.2 = _ from congrArg Prod.snd eachEnds]
      exact loadsEach_outcomes lists registry
    · rw [show all.1 = _ from congrArg Prod.fst allEnds]
      exact loadsAll_countLoaded _

/-- Among the entries are a hidden file, an extension in capitals, a stem with a dot and one that
is no text; one file is broken, and the schema of its name stays. -/
theorem loadEach_and_loadAll_of_entries :
    let _ : Diagnosis := .brief
    let blurred : FilePath := ⟨[0xFF]⟩ ++ ".json"
    let tree : FileTree := ⟨.directory [("work", .directory [("schemas", .directory
      [("d.e.json", .file "\x7b\"type\":\"boolean\"\x7d".toUTF8),
       (".json", .file "\x7b\"type\":\"null\"\x7d".toUTF8),
       (blurred, .file "\x7b\"type\":\"null\"\x7d".toUTF8),
       ("b.json", .file "5".toUTF8),
       ("c.JSON", .file "\x7b\"type\":\"null\"\x7d".toUTF8),
       ("a.json", .file "\x7b\"type\":\"null\"\x7d".toUTF8)])])], ["work"]⟩
    let names : List FilePath := ["d.e.json", ".json", blurred, "b.json", "c.JSON", "a.json"]
    let directory : SchemaDirectory := { path := "schemas" }
    let registry := Registry.empty.insert "b" .null
    let each := (((directory.loadEach tree.view).run registry).run .info).result
    let all := (((directory.loadAll tree.view).run registry).run .info).result
    directory.Lists tree.view names ∧ all.2 = each.2 ∧
      (∃ outcomes, each.1 = .ok outcomes ∧
        LoadsEach directory tree.view names registry outcomes each.2 ∧ LoadsAll outcomes all.1) ∧
      (each.1.toOption.map fun outcomes => outcomes.map (·.1)) = some
        (["schemas/a.json", "schemas/b.json", "schemas/d.e.json", "schemas/" ++ blurred] : List FilePath) ∧
      each.2.names = ["a", "b", "d.e"] := by
  intro diagnosis blurred tree names directory registry each all
  have lists : directory.Lists tree.view names := .listed (by decide +kernel) (by decide +kernel)
  have loads := loadEach_and_loadAll directory tree.view registry .info
  exact ⟨lists, loads.1, loads.2 names lists, by decide +kernel, by decide +kernel⟩

end SchemaDirectory
end CompactSchema
