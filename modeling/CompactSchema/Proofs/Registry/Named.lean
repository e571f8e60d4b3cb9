import CompactSchema.Files.Tree
import CompactSchema.Proofs.Registry.History

/-
What the load of one schema by its name does.

The schema is registered under the stem of its file, and the registry is else as it was.
A name that leads through directories, and the empty name, are not stems; nothing is
registered under them.
-/

namespace CompactSchema
namespace SchemaDirectory

open FilePath Registry

variable {directory : SchemaDirectory} {files : FileSystem}

theorem after_loadNamed {name : String} {schema : Schema}
    (found : named directory files name = .ok schema) (registry : Registry) :
    registry.after directory.depthLimit ((Operation.loadNamed name).attempts directory files) =
      registry.insert (registeredName name) schema := by
  unfold named at found
  unfold Operation.attempts
  by_cases isFile : files.isFile (directory.fileOf name) = true
  · rw [if_pos isFile] at found
    have stored := Attempt.stores_iff.1 (stores_fileOf_iff.2 ⟨rfl, found⟩)
    dsimp only
    rw [if_pos isFile, after_cons, stored]
    rfl
  · rw [if_neg isFile] at found
    cases found

/-- A schema that is loaded by name is found under the stem of its file, and every other
name has what it had.  The stem is the name unless that is empty or has a slash. -/
theorem loadNamed_registers [Diagnosis] {name : String} {registry changed : Registry} {threshold : Severity}
    {schema : Schema}
    (loaded : (((directory.loadNamed files name).run registry).run threshold).result =
      (.ok schema, changed)) :
    changed.get? (registeredName name) = some schema ∧
      (∀ other, other ≠ registeredName name → changed.get? other = registry.get? other) ∧
      (registeredName name = name ↔ name ≠ "" ∧ '/' ∉ name.toList) := by
  rw [ends_loadNamed directory files name registry threshold, Prod.mk.injEq] at loaded
  have held : changed = registry.insert (registeredName name) schema :=
    loaded.2.symm.trans (after_loadNamed loaded.1 registry)
  refine ⟨?_, ?_, registeredName_eq_self_iff name⟩
  · rw [held, get?_insert, if_pos rfl]
  · intro other different
    rw [held, get?_insert, if_neg different]

theorem loadNamed_registers_hidden :
    let _ : Diagnosis := .brief
    let tree : FileTree := ⟨.directory [("work", .directory [("schemas", .directory
      [(".json", .file "\x7b\"type\":\"boolean\"\x7d".toUTF8)])])], ["work"]⟩
    let directory : SchemaDirectory := { path := "schemas" }
    let registry := Registry.empty.insert "" .null
    let loaded := (((directory.loadNamed tree.view "").run registry).run .info).result
    ∃ schema, loaded.1 = .ok schema ∧ loaded.2.get? ".json" = some schema ∧
      loaded.2.get? "" = some .null := by
  intro diagnosis tree directory registry loaded
  have done : loaded.1.isOk = true := by decide +kernel
  cases result : loaded.1 with
  | error error =>
      rw [result] at done
      cases done
  | ok schema =>
      have ended : loaded = (.ok schema, loaded.2) := Prod.ext result rfl
      have registers := loadNamed_registers ended
      exact ⟨schema, rfl, registers.1, registers.2.1 "" (by decide)⟩

/-- A schema that is asked for through directories, or by the empty name, is not found
under that name, and it takes the place of another. -/
theorem not_registered_through_directories :
    let _ : Diagnosis := .brief
    let tree : FileTree := ⟨.directory [("work", .directory [("schemas", .directory
      [(".json", .file "\x7b\"type\":\"null\"\x7d".toUTF8),
       ("sub", .directory [("flag.json", .file "\x7b\"type\":\"boolean\"\x7d".toUTF8)])])])], ["work"]⟩
    let directory : SchemaDirectory := { path := "schemas" }
    let registry := Registry.empty.insert "flag" .null
    let loaded := (((directory.loadNamed tree.view "sub/flag").run registry).run .info).result
    let hidden := (((directory.loadNamed tree.view "").run registry).run .info).result
    (loaded.1.isOk = true ∧ (loaded.2.get? "sub/flag").isNone = true ∧
      (registry.get? "flag").map Schema.kindName = some "null" ∧
      (loaded.2.get? "flag").map Schema.kindName = some "boolean") ∧
    hidden.1.isOk = true ∧ (hidden.2.get? "").isNone = true ∧
      (registry.get? ".json").isNone = true ∧ (hidden.2.get? ".json").isSome = true := by
  decide +kernel

end SchemaDirectory
end CompactSchema
