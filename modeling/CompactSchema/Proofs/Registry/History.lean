import CompactSchema.Proofs.Registry.Stem
import CompactSchema.Registry.Operation

/-
What a registry holds after a history.

Every operation makes attempts to store schemas, and files change between operations.
An attempt stores at most one schema, under one name, and one that fails stores none.
After a history the registry holds under each name what the last attempt has stored that
stored anything under that name.
-/

namespace CompactSchema

theorem FileSystem.readSchema_eq_ok_iff {files : FileSystem} {limit : Nat} {path : FilePath}
    {schema : Schema} : files.readSchema limit path = .ok schema ↔
      ∃ text stored, files.readText path = .ok text ∧ Json.read text = .ok stored ∧
        Schema.read limit stored = .ok schema := by
  unfold readSchema
  cases files.readText path with
  | error error => simp
  | ok text =>
      cases parsed : Json.read text with
      | error error => simp [Schema.ofFileText, parsed]
      | ok stored => simp [Schema.ofFileText, parsed]

namespace Registry

/-! ### Attempts -/

inductive Attempt where
  | register (name : String) (schema : Schema)
  | load (files : FileSystem) (path : FilePath)

/-- The attempt stores the schema under the name.  A file does so under its stem, if that is
text and the text of the file is JSON that is read as the schema. -/
def Attempt.Stores (limit : Nat) : Attempt → String → Schema → Prop
  | .register name schema, name', schema' => name = name' ∧ schema = schema'
  | .load files path, name, schema => path.stemText? = some name ∧
      ∃ text stored, files.readText path = .ok text ∧ Json.read text = .ok stored ∧
        Schema.read limit stored = .ok schema

/-- The attempts of an operation, in their order. -/
def Operation.attempts (directory : SchemaDirectory) (files : FileSystem) : Operation → List Attempt
  | .loadAll | .loadEach =>
      match directory.schemaFiles files with
      | .ok paths => paths.map (.load files)
      | .error _ => []
  | .loadNamed name =>
      if files.isFile (directory.fileOf name) then [.load files (directory.fileOf name)] else []
  | .loadFile path => [.load files path]
  | .register name schema => [.register name schema]
  | .get _ | .require _ | .names | .size | .inspect _ => []

def attempts (directory : SchemaDirectory) (history : List Moment) : List Attempt :=
  history.flatMap fun moment => moment.operation.attempts directory moment.files

/-- The schema is the last one that was stored under the name. -/
def LastStored (limit : Nat) (attempts : List Attempt) (name : String) (schema : Schema) : Prop :=
  ∃ earlier attempt later, attempts = earlier ++ attempt :: later ∧
    attempt.Stores limit name schema ∧
      ∀ other ∈ later, ∀ schema', ¬ other.Stores limit name schema'

/-! ### What an attempt stores -/

def Attempt.stored? (limit : Nat) : Attempt → Option (String × Schema)
  | .register name schema => some (name, schema)
  | .load files path =>
      match path.stemText?, files.readSchema limit path with
      | some name, .ok schema => some (name, schema)
      | _, _ => none

theorem Attempt.stores_iff {limit : Nat} {attempt : Attempt} {name : String} {schema : Schema} :
    attempt.Stores limit name schema ↔ attempt.stored? limit = some (name, schema) := by
  cases attempt with
  | register name' schema' => simp [Stores, stored?, eq_comm]
  | load files path =>
      simp only [Stores, stored?, ← FileSystem.readSchema_eq_ok_iff]
      cases path.stemText? with
      | none => simp
      | some stem =>
          cases files.readSchema limit path with
          | error error => simp
          | ok schema' => simp

def store (registry : Registry) : Option (String × Schema) → Registry
  | some (name, schema) => registry.insert name schema
  | none => registry

def after (limit : Nat) (registry : Registry) (attempts : List Attempt) : Registry :=
  attempts.foldl (fun registry attempt => registry.store (attempt.stored? limit)) registry

theorem after_cons (limit : Nat) (registry : Registry) (first : Attempt) (rest : List Attempt) :
    registry.after limit (first :: rest) =
      (registry.store (first.stored? limit)).after limit rest := rfl

theorem after_append (limit : Nat) (registry : Registry) (earlier later : List Attempt) :
    registry.after limit (earlier ++ later) = (registry.after limit earlier).after limit later :=
  List.foldl_append

theorem after_of_forall_not_stores {limit : Nat} {registry : Registry} {attempts : List Attempt}
    (nothing : ∀ attempt ∈ attempts, ∀ name schema, ¬ attempt.Stores limit name schema) :
    registry.after limit attempts = registry := by
  induction attempts with
  | nil => rfl
  | cons first rest ih =>
      have none : first.stored? limit = none := by
        rw [Option.eq_none_iff_forall_ne_some]
        intro stored same
        exact nothing first List.mem_cons_self stored.1 stored.2 (Attempt.stores_iff.2 same)
      rw [after_cons, none]
      exact ih fun attempt inside => nothing attempt (List.mem_cons_of_mem _ inside)

theorem get?_insert (registry : Registry) (name key : String) (schema : Schema) :
    (registry.insert name schema).get? key = if key = name then some schema else registry.get? key :=
  Json.lookup_insertMember name key schema registry.entries

theorem get?_store {limit : Nat} {attempt : Attempt} {registry : Registry} {name : String}
    {schema : Schema} : (registry.store (attempt.stored? limit)).get? name = some schema ↔
      attempt.Stores limit name schema ∨
        registry.get? name = some schema ∧ ∀ schema', ¬ attempt.Stores limit name schema' := by
  simp only [Attempt.stores_iff]
  cases attempt.stored? limit with
  | none => simp [store]
  | some stored =>
      obtain ⟨name', schema'⟩ := stored
      by_cases same : name = name'
      · simp [store, get?_insert, same]
      · simp [store, get?_insert, same, Ne.symm same]

theorem lastStored_cons {limit : Nat} {first : Attempt} {rest : List Attempt} {name : String}
    {schema : Schema} : LastStored limit (first :: rest) name schema ↔
      LastStored limit rest name schema ∨
        first.Stores limit name schema ∧
          ∀ other ∈ rest, ∀ schema', ¬ other.Stores limit name schema' := by
  constructor
  · intro last
    rcases last with ⟨earlier, attempt, later, parts, stores, noneLater⟩
    cases earlier with
    | nil =>
        rcases List.cons.inj parts with ⟨rfl, rfl⟩
        exact .inr ⟨stores, noneLater⟩
    | cons other earlier =>
        rcases List.cons.inj parts with ⟨rfl, rfl⟩
        exact .inl ⟨earlier, attempt, later, rfl, stores, noneLater⟩
  · intro last
    rcases last with ⟨earlier, attempt, later, rfl, stores, noneLater⟩ | ⟨stores, noneLater⟩
    · exact ⟨first :: earlier, attempt, later, rfl, stores, noneLater⟩
    · exact ⟨[], first, rest, rfl, stores, noneLater⟩

theorem get?_after {limit : Nat} {attempts : List Attempt} {registry : Registry} {name : String}
    {schema : Schema} : (registry.after limit attempts).get? name = some schema ↔
      LastStored limit attempts name schema ∨
        registry.get? name = some schema ∧
          ∀ attempt ∈ attempts, ∀ schema', ¬ attempt.Stores limit name schema' := by
  induction attempts generalizing registry with
  | nil =>
      have nothing : ¬ LastStored limit [] name schema := by
        intro last
        rcases last with ⟨earlier, attempt, later, parts, -⟩
        simp at parts
      simp [after, nothing]
  | cons first rest ih =>
      -- what the first attempt leaves counts only if nothing in the rest is stored there
      rw [after_cons, ih, get?_store, lastStored_cons, List.forall_mem_cons, or_and_right,
        or_assoc, and_assoc]

def Ordered (registry : Registry) : Prop := Json.NamesIncrease registry.entries

theorem ordered_after {limit : Nat} {attempts : List Attempt} {registry : Registry}
    (ordered : registry.Ordered) : (registry.after limit attempts).Ordered := by
  induction attempts generalizing registry with
  | nil => exact ordered
  | cons first rest ih =>
      rw [after_cons]
      apply ih
      cases first.stored? limit with
      | none => exact ordered
      | some stored => exact Json.namesIncrease_insertMember ordered

/-! ### Operations -/

section Loading

variable {α β : Type}

/-- Under every threshold the activity ends in this result and this registry. -/
def Loading.Ends (activity : Loading α) (registry : Registry) (result : α) (changed : Registry) :
    Prop :=
  ∀ threshold, ((activity.run registry).run threshold).result = (result, changed)

namespace Loading

theorem ends_pure (result : α) (registry : Registry) : Ends (pure result) registry result registry :=
  fun _ => rfl

theorem ends_get (registry : Registry) : Ends (get : Loading Registry) registry registry registry :=
  fun _ => rfl

theorem ends_modify (change : Registry → Registry) (registry : Registry) :
    Ends (modify change : Loading PUnit) registry ⟨⟩ (change registry) :=
  fun _ => rfl

theorem ends_report (severity : Severity) (name : String) (fields : List (String × String))
    (registry : Registry) :
    Ends (Logged.report severity name fields : Loading Unit) registry () registry :=
  fun _ => rfl

theorem Ends.bind {first : Loading α} {next : α → Loading β} {registry between changed : Registry}
    {result : α} {result' : β} (before : Ends first registry result between)
    (later : Ends (next result) between result' changed) :
    Ends (first >>= next) registry result' changed := by
  intro threshold
  rw [StateT.run_bind, Logged.run_bind]
  dsimp only
  rw [before threshold]
  exact later _

end Loading
end Loading

open Loading

/-- The outcome of loading a file gives the name under which a schema has been stored. -/
def Tells (limit : Nat) (files : FileSystem) (path : FilePath) (outcome : Except SchemaError String) :
    Prop :=
  ∀ name, outcome = .ok name ↔ ∃ schema, (Attempt.load files path).Stores limit name schema

def outcome (files : FileSystem) (limit : Nat) (path : FilePath) : Except SchemaError String :=
  match path.stemText? with
  | none => .error (.unreadable path.shown "file name is not valid UTF-8")
  | some name => (files.readSchema limit path).map fun _ => name

theorem outcome_eq_ok_iff {files : FileSystem} {limit : Nat} {path : FilePath} {name : String} :
    outcome files limit path = .ok name ↔
      path.stemText? = some name ∧ ∃ schema, files.readSchema limit path = .ok schema := by
  unfold outcome
  cases path.stemText? with
  | none => simp
  | some stem => cases files.readSchema limit path <;> simp [Except.map]

theorem tells_outcome (files : FileSystem) (limit : Nat) (path : FilePath) :
    Tells limit files path (outcome files limit path) := by
  intro name
  simp only [outcome_eq_ok_iff, Attempt.Stores, FileSystem.readSchema_eq_ok_iff, exists_and_left]

theorem ends_loadFile [Diagnosis] (files : FileSystem) (limit : Nat) (path : FilePath) (registry : Registry) :
    Ends (loadFile files limit path) registry (outcome files limit path)
      (registry.store ((Attempt.load files path).stored? limit)) := by
  unfold loadFile outcome
  simp only [Attempt.stored?]
  cases path.stemText? with
  | none => exact ends_pure _ _
  | some name =>
      cases files.readSchema limit path with
      | error error => exact (ends_report _ _ _ _).bind (ends_pure _ _)
      | ok schema => exact (ends_report _ _ _ _).bind ((ends_modify _ _).bind (ends_pure _ _))

def outcomes (files : FileSystem) (limit : Nat) (paths : List FilePath) :
    List (FilePath × Except SchemaError String) :=
  paths.map fun path => (path, outcome files limit path)

theorem map_fst_outcomes (files : FileSystem) (limit : Nat) (paths : List FilePath) :
    (outcomes files limit paths).map (·.1) = paths := by
  unfold outcomes
  rw [List.map_map]
  exact List.map_id' paths

theorem mem_outcomes_iff {files : FileSystem} {limit : Nat} {paths : List FilePath} {path : FilePath}
    {result : Except SchemaError String} :
    (path, result) ∈ outcomes files limit paths ↔ path ∈ paths ∧ result = outcome files limit path := by
  unfold outcomes
  rw [List.mem_map]
  constructor
  · intro found
    rcases found with ⟨path', inside, same⟩
    cases same
    exact ⟨inside, rfl⟩
  · intro found
    exact ⟨path, found.1, by rw [found.2]⟩

theorem ends_loadFiles [Diagnosis] (files : FileSystem) (limit : Nat) (paths : List FilePath)
    (registry : Registry) :
    Ends (loadFiles files limit paths) registry (outcomes files limit paths)
      (registry.after limit (paths.map (.load files))) := by
  induction paths generalizing registry with
  | nil =>
      rw [loadFiles]
      exact ends_pure [] registry
  | cons path paths ih =>
      rw [loadFiles, List.map_cons, after_cons]
      exact (ends_loadFile files limit path registry).bind ((ih _).bind (ends_pure _ _))

theorem ends_loadEach [Diagnosis] (directory : SchemaDirectory) (files : FileSystem) (registry : Registry) :
    Ends (directory.loadEach files) registry
      ((directory.schemaFiles files).map (outcomes files directory.depthLimit))
      (registry.after directory.depthLimit (Operation.loadEach.attempts directory files)) := by
  unfold SchemaDirectory.loadEach Operation.attempts
  cases directory.schemaFiles files with
  | error error => exact ends_pure _ _
  | ok paths => exact (ends_loadFiles files directory.depthLimit paths registry).bind (ends_pure _ _)

theorem ends_loadAll [Diagnosis] (directory : SchemaDirectory) (files : FileSystem) (registry : Registry) :
    Ends (directory.loadAll files) registry
      (((directory.schemaFiles files).map (outcomes files directory.depthLimit)).bind
        SchemaDirectory.countLoaded)
      (registry.after directory.depthLimit (Operation.loadAll.attempts directory files)) :=
  (ends_loadEach directory files registry).bind (ends_pure _ _)

theorem outcomes_tell {directory : SchemaDirectory} {files : FileSystem}
    {told : List (FilePath × Except SchemaError String)}
    (same : (directory.schemaFiles files).map (outcomes files directory.depthLimit) = .ok told) :
    directory.schemaFiles files = .ok (told.map (·.1)) ∧
      ∀ path result, (path, result) ∈ told → Tells directory.depthLimit files path result := by
  cases listed : directory.schemaFiles files with
  | error error =>
      rw [listed] at same
      cases same
  | ok paths =>
      rw [listed] at same
      cases same
      constructor
      · rw [map_fst_outcomes]
      · intro path result inside
        rw [(mem_outcomes_iff.1 inside).2]
        exact tells_outcome files directory.depthLimit path

theorem require_store {limit : Nat} {attempt : Attempt} {registry : Registry} {name : String}
    {schema : Schema} (stores : attempt.Stores limit name schema) :
    (registry.store (attempt.stored? limit)).require name = .ok schema := by
  have found : (registry.store (attempt.stored? limit)).get? name = some schema :=
    get?_store.2 (.inl stores)
  rw [require, found]

def named (directory : SchemaDirectory) (files : FileSystem) (name : String) :
    Except SchemaError Schema :=
  if files.isFile (directory.fileOf name) then
    files.readSchema directory.depthLimit (directory.fileOf name)
  else .error (.unknown name)

theorem stores_fileOf_iff {directory : SchemaDirectory} {files : FileSystem} {limit : Nat}
    {name stem : String} {schema : Schema} :
    (Attempt.load files (directory.fileOf name)).Stores limit stem schema ↔
      stem = SchemaDirectory.registeredName name ∧
        files.readSchema limit (directory.fileOf name) = .ok schema := by
  simp only [Attempt.Stores, ← FileSystem.readSchema_eq_ok_iff, SchemaDirectory.stemText?_fileOf,
    Option.some.injEq, eq_comm (b := stem)]

theorem named_eq_ok_iff {directory : SchemaDirectory} {files : FileSystem} {name : String}
    {schema : Schema} : named directory files name = .ok schema ↔
      ∃ attempt ∈ (Operation.loadNamed name).attempts directory files,
        ∃ stem, attempt.Stores directory.depthLimit stem schema := by
  unfold named Operation.attempts
  dsimp only
  by_cases isFile : files.isFile (directory.fileOf name) = true
  · simp [isFile, stores_fileOf_iff]
  · simp [isFile]

theorem ends_loadNamed [Diagnosis] (directory : SchemaDirectory) (files : FileSystem) (name : String)
    (registry : Registry) :
    Ends (directory.loadNamed files name) registry (named directory files name)
      (registry.after directory.depthLimit
        ((Operation.loadNamed name).attempts directory files)) := by
  unfold SchemaDirectory.loadNamed named Operation.attempts
  dsimp only
  by_cases isFile : files.isFile (directory.fileOf name) = true
  · rw [if_pos isFile, if_pos isFile, if_pos isFile, after_cons]
    have ends := ends_loadFile files directory.depthLimit (directory.fileOf name) registry
    unfold outcome at ends
    rw [SchemaDirectory.stemText?_fileOf] at ends
    cases read : files.readSchema directory.depthLimit (directory.fileOf name) with
    | error error =>
        rw [read] at ends
        exact ends.bind (ends_pure _ _)
    | ok schema =>
        rw [read] at ends
        -- the schema that is asked for again is the one that has just been stored
        refine ends.bind ((ends_get _).bind ?_)
        rw [require_store (stores_fileOf_iff.2 ⟨rfl, read⟩)]
        exact ends_pure _ _
  · rw [if_neg isFile, if_neg isFile, if_neg isFile]
    exact ends_pure _ _

/-! ### Histories -/

def Operation.Reads : Operation → Prop
  | .get _ | .require _ | .names | .size | .inspect _ => True
  | .loadAll | .loadEach | .loadNamed _ | .loadFile _ | .register _ _ => False

/-- The answer is the error of an operation on one file or one name. -/
def Answer.Refused : Answer → Prop
  | .name (.error _) | .schema (.error _) => True
  | _ => False

/-- What an operation makes of a registry, and what its answer says about that. -/
structure Performed (directory : SchemaDirectory) (files : FileSystem) (operation : Operation)
    (registry : Registry) (answer : Answer) (changed : Registry) : Prop where
  reads : operation.Reads → changed = registry
  refused : answer.Refused → changed = registry
  ofFile (path : FilePath) : operation = .loadFile path →
    ∃ outcome, answer = .name outcome ∧ Tells directory.depthLimit files path outcome
  ofName (name : String) : operation = .loadNamed name →
    ∃ result, answer = .schema result ∧ ∀ schema, result = .ok schema ↔
      ∃ attempt ∈ operation.attempts directory files,
        ∃ stem, attempt.Stores directory.depthLimit stem schema
  ofEach (outcomes : List (FilePath × Except SchemaError String)) :
    operation = .loadEach → answer = .outcomes (.ok outcomes) →
      directory.schemaFiles files = .ok (outcomes.map (·.1)) ∧
        ∀ path outcome, (path, outcome) ∈ outcomes → Tells directory.depthLimit files path outcome

theorem performed_of_reads {directory : SchemaDirectory} {files : FileSystem}
    {operation : Operation} {registry : Registry} (reads : operation.Reads) (answer : Answer) :
    Performed directory files operation registry answer registry := by
  refine ⟨fun _ => rfl, fun _ => rfl, ?_, ?_, ?_⟩
  · intro path same
    rw [same] at reads
    exact reads.elim
  · intro name same
    rw [same] at reads
    exact reads.elim
  · intro outcomes same
    rw [same] at reads
    exact reads.elim

theorem ends_perform [Diagnosis] (directory : SchemaDirectory) (files : FileSystem) (operation : Operation)
    (registry : Registry) :
    let changed := registry.after directory.depthLimit (operation.attempts directory files)
    ∃ answer, Performed directory files operation registry answer changed ∧
      Ends (perform directory files operation) registry answer changed := by
  intro changed
  cases operation with
  | loadAll =>
      refine ⟨_, ?_, (ends_loadAll directory files registry).bind (ends_pure _ _)⟩
      exact ⟨False.elim, False.elim, by simp, by simp, by simp⟩
  | loadEach =>
      refine ⟨_, ?_, (ends_loadEach directory files registry).bind (ends_pure _ _)⟩
      refine ⟨False.elim, False.elim, by simp, by simp, ?_⟩
      intro told _ same
      exact outcomes_tell (Answer.outcomes.inj same)
  | loadNamed name =>
      refine ⟨_, ?_, (ends_loadNamed directory files name registry).bind (ends_pure _ _)⟩
      refine ⟨False.elim, fun refused => ?_, by simp, ?_, by simp⟩
      · cases found : named directory files name with
        | ok schema =>
            rw [found] at refused
            exact refused.elim
        | error error =>
            apply after_of_forall_not_stores
            intro attempt inside stem schema stores
            rw [named_eq_ok_iff.2 ⟨attempt, inside, stem, stores⟩] at found
            cases found
      · intro name' same
        cases same
        exact ⟨_, rfl, fun schema => named_eq_ok_iff⟩
  | loadFile path =>
      have tells := tells_outcome files directory.depthLimit path
      refine ⟨_, ?_, (ends_loadFile files directory.depthLimit path registry).bind (ends_pure _ _)⟩
      refine ⟨False.elim, fun refused => ?_, ?_, by simp, by simp⟩
      · cases found : outcome files directory.depthLimit path with
        | ok name =>
            rw [found] at refused
            exact refused.elim
        | error error =>
            rw [found] at tells
            apply after_of_forall_not_stores
            intro attempt inside name schema stores
            rw [List.mem_singleton.1 inside] at stores
            exact absurd ((tells name).2 ⟨schema, stores⟩) nofun
      · intro path' same
        cases same
        exact ⟨_, rfl, tells⟩
  | register name schema =>
      refine ⟨.done, ?_, (ends_modify _ _).bind (ends_pure _ _)⟩
      exact ⟨False.elim, False.elim, by simp, by simp, by simp⟩
  | get name =>
      exact ⟨_, performed_of_reads (by trivial) _, (ends_get _).bind (ends_pure _ _)⟩
  | require name =>
      exact ⟨_, performed_of_reads (by trivial) _, (ends_get _).bind (ends_pure _ _)⟩
  | names => exact ⟨_, performed_of_reads (by trivial) _, (ends_get _).bind (ends_pure _ _)⟩
  | size => exact ⟨_, performed_of_reads (by trivial) _, (ends_get _).bind (ends_pure _ _)⟩
  | inspect path => exact ⟨_, performed_of_reads (by trivial) _, ends_pure _ _⟩

theorem ends_performAll [Diagnosis] (directory : SchemaDirectory) (history : List Moment) (registry : Registry) :
    ∃ answers, Ends (performAll directory history) registry answers
      (registry.after directory.depthLimit (attempts directory history)) := by
  induction history generalizing registry with
  | nil => exact ⟨[], ends_pure [] registry⟩
  | cons moment later ih =>
      rcases ends_perform directory moment.files moment.operation registry with ⟨answer, -, first⟩
      rcases ih _ with ⟨answers, rest⟩
      refine ⟨answer :: answers, ?_⟩
      rw [attempts, List.flatMap_cons, after_append]
      exact first.bind (rest.bind (ends_pure _ _))

/-- After a history the registry holds what was stored last under each name, in the order
of the names.  Whatever operation comes next, reading and a single load that fails leave
the registry as it is. -/
theorem get?_performAll_iff [Diagnosis] (directory : SchemaDirectory) (history : List Moment)
    (threshold : Severity) :
    let registry := (((performAll directory history).run empty).run threshold).result.2
    (∀ name schema, registry.get? name = some schema ↔
      LastStored directory.depthLimit (attempts directory history) name schema) ∧
    registry.names.Pairwise (· < ·) ∧
    registry.size = registry.names.length ∧
    ∀ (files : FileSystem) (operation : Operation),
      let next := (((perform directory files operation).run registry).run threshold).result
      Performed directory files operation registry next.1 next.2 := by
  intro registry
  rcases ends_performAll directory history empty with ⟨answers, ends⟩
  have held : registry = empty.after directory.depthLimit (attempts directory history) :=
    congrArg Prod.snd (ends threshold)
  refine ⟨fun name schema => ?_, ?_, ?_, fun files operation => ?_⟩
  · rw [held, get?_after]
    simp [empty, get?]
  · rw [names, List.pairwise_map, held]
    exact ordered_after List.Pairwise.nil
  · rw [size, names, List.length_map]
  · rcases ends_perform directory files operation registry with ⟨answer, performed, next⟩
    rw [next threshold]
    exact performed

end Registry
end CompactSchema
