import CompactSchema.Command.Run
import CompactSchema.Proofs.Json.Nesting
import CompactSchema.Proofs.Json.ReadBack
import CompactSchema.Proofs.Schema.FirstError
import CompactSchema.Registry.Operation

/-
Limits of levels on schemas in files.

A node of a stored schema stands inside an object for every step to it, and a document has
no more than 127 containers open at once.  So a schema that is read from text has no node
128 steps below its root, whether the node makes sense or not, and from 128 on it does not
matter to any reader of schema files what the limit is.
-/

namespace CompactSchema
namespace StoredSchema

theorem nesting_lt_of_lookup {fields : List (String × Json)} {name : String} {value : Json}
    (found : fields.lookup name = some value) : value.nesting < (Json.object fields).nesting := by
  obtain ⟨before, after, rfl, _⟩ := List.lookup_eq_some_iff.1 found
  have inside : (name, value) ∈ before ++ (name, value) :: after :=
    List.mem_append_right before List.mem_cons_self
  exact Nat.lt_succ_of_le (Json.nesting_le_memberNesting inside)

theorem nesting_lt_of_child {stored child : Json} {step : SchemaStep} (first : Child stored step child) :
    child.nesting < stored.nesting := by
  cases first with
  | items node =>
      obtain ⟨fields, rfl, own⟩ := read_eq_ok_iff.1 node
      cases own with
      | array tagged present notNull states => exact nesting_lt_of_lookup present
  | property node declared =>
      obtain ⟨fields, rfl, own⟩ := read_eq_ok_iff.1 node
      generalize shape : ShallowNode.object _ _ = shallow at own
      cases own with
      | object tagged members names =>
          cases shape
          cases members with
          | nothing absent => cases declared
          | something present notNull meaning =>
              cases meaning
              rw [Option.getD_some] at declared
              have outer := nesting_lt_of_lookup present
              have inner := Json.nesting_le_memberNesting declared
              rw [Json.nesting] at outer
              omega
      | _ => cases shape

theorem length_add_nesting_le {stored node : Json} {steps : List SchemaStep}
    (there : Node stored steps node) : steps.length + node.nesting ≤ stored.nesting := by
  induction there with
  | root stored => exact Nat.le_of_eq (Nat.zero_add _)
  | next first rest ih =>
      have outer := nesting_lt_of_child first
      rw [List.length_cons]
      omega

/-- The root of what is read from text lies at level zero, and no node at level 128. -/
theorem length_lt_of_read {text : String} {stored node : Json} {steps : List SchemaStep}
    (found : Json.read text = .ok stored) (there : Node stored steps node) : steps.length < 128 := by
  have room : stored.nesting ≤ 127 := Json.nesting_le_of_read found
  have inside := length_add_nesting_le there
  omega

theorem readProperties_congr {read read' : Json → Except SchemaError Schema}
    {properties : List (String × Json)}
    (agree : ∀ name child, (name, child) ∈ properties → read child = read' child) :
    Schema.readProperties read properties = Schema.readProperties read' properties := by
  induction properties with
  | nil => rfl
  | cons property rest ih =>
      obtain ⟨name, child⟩ := property
      rw [Schema.readProperties, Schema.readProperties, agree name child List.mem_cons_self,
        ih fun name child later => agree name child (List.mem_cons_of_mem _ later)]

/-- With a level to spare for every container of the stored form, what the limit is does not
matter, and neither does how much is left of it. -/
theorem readNode_eq_of_nesting_lt {limit limit' left left' : Nat} {stored : Json}
    (enough : stored.nesting < left) (enough' : stored.nesting < left') :
    Schema.readNode limit left stored = Schema.readNode limit' left' stored := by
  induction left generalizing left' stored with
  | zero => exact absurd enough (Nat.not_lt_zero _)
  | succ left ih =>
      obtain ⟨left', rfl⟩ : ∃ rest, left' = rest + 1 :=
        Nat.exists_eq_add_one.2 (Nat.lt_of_le_of_lt (Nat.zero_le _) enough')
      have below {step : SchemaStep} {child : Json} (first : Child stored step child) :
          Schema.readNode limit left child = Schema.readNode limit' left' child := by
        have smaller := nesting_lt_of_child first
        exact ih (by omega) (by omega)
      cases node : ShallowNode.read stored with
      | error error =>
          rw [Schema.readNode, Schema.readNode, node]
          rfl
      | ok shallow =>
          cases shallow with
          | leaf schema =>
              rw [Schema.readNode, Schema.readNode, node]
              rfl
          | array items count =>
              rw [Schema.readNode_of_array node, Schema.readNode_of_array node, below (.items node)]
          | object properties required =>
              rw [Schema.readNode_of_object node, Schema.readNode_of_object node,
                readProperties_congr fun name child declared => below (.property node declared)]

end StoredSchema

section

variable {low high : Nat}

theorem Schema.ofFileText_eq_of_limits (enough : 128 ≤ low) (enough' : 128 ≤ high) (path : FilePath)
    (text : String) : ofFileText low path text = ofFileText high path text := by
  unfold ofFileText
  cases found : Json.read text with
  | error fault => rfl
  | ok stored =>
      have room : stored.nesting ≤ 127 := Json.nesting_le_of_read found
      exact StoredSchema.readNode_eq_of_nesting_lt (by omega) (by omega)

theorem FileSystem.readSchema_eq_of_limits (enough : 128 ≤ low) (enough' : 128 ≤ high)
    (files : FileSystem) (path : FilePath) : files.readSchema low path = files.readSchema high path := by
  unfold readSchema
  split
  · rfl
  · exact Schema.ofFileText_eq_of_limits enough enough' path _

namespace Registry

theorem loadFile_eq_of_limits [Diagnosis] (enough : 128 ≤ low) (enough' : 128 ≤ high) (files : FileSystem)
    (path : FilePath) : loadFile files low path = loadFile files high path := by
  unfold loadFile
  rw [files.readSchema_eq_of_limits enough enough']

theorem loadFiles_eq_of_limits [Diagnosis] (enough : 128 ≤ low) (enough' : 128 ≤ high) (files : FileSystem)
    (paths : List FilePath) : loadFiles files low paths = loadFiles files high paths := by
  induction paths with
  | nil => rfl
  | cons path paths ih => rw [loadFiles, loadFiles, loadFile_eq_of_limits enough enough', ih]

theorem loadNamed_eq_of_limits [Diagnosis] (enough : 128 ≤ low) (enough' : 128 ≤ high)
    (directory : SchemaDirectory) (files : FileSystem) (name : String) :
    SchemaDirectory.loadNamed { directory with depthLimit := low } files name =
      SchemaDirectory.loadNamed { directory with depthLimit := high } files name := by
  unfold SchemaDirectory.loadNamed
  simp only [loadFile_eq_of_limits enough enough']
  rfl

theorem perform_eq_of_limits [Diagnosis] (enough : 128 ≤ low) (enough' : 128 ≤ high)
    (directory : SchemaDirectory) (files : FileSystem) (operation : Operation) :
    perform { directory with depthLimit := low } files operation =
      perform { directory with depthLimit := high } files operation := by
  have each : SchemaDirectory.loadEach { directory with depthLimit := low } files =
      SchemaDirectory.loadEach { directory with depthLimit := high } files := by
    unfold SchemaDirectory.loadEach
    simp only [loadFiles_eq_of_limits enough enough']
    rfl
  cases operation with
  | loadAll => simp only [perform, SchemaDirectory.loadAll, each]
  | loadEach => simp only [perform, each]
  | loadNamed name => simp only [perform, loadNamed_eq_of_limits enough enough']
  | loadFile path => simp only [perform, loadFile_eq_of_limits enough enough']
  | inspect path => simp only [perform, files.readSchema_eq_of_limits enough enough']
  | _ => rfl

end Registry

theorem Config.resolveSchema_eq_of_limits [Diagnosis] {low high : UInt64} (enough : 128 ≤ low.toNat)
    (enough' : 128 ≤ high.toNat) (config : Config) (files : FileSystem) (reference : String) :
    resolveSchema { config with depthLimit := low } files reference =
      resolveSchema { config with depthLimit := high } files reference := by
  have named := Registry.loadNamed_eq_of_limits enough enough' config.directory files reference
  have found := files.readSchema_eq_of_limits enough enough' reference
  simp only [resolveSchema, directory] at named ⊢
  rw [named, found]

end

/-- Array schemas inside each other, with a truth value where the last of them needs a
schema. -/
def nestedArrays : Nat → Json
  | 0 => .boolean true
  | depth + 1 => .object [("items", nestedArrays depth), ("type", .string "array")]

theorem nesting_nestedArrays (depth : Nat) : (nestedArrays depth).nesting = depth := by
  induction depth with
  | zero => rfl
  | succ depth ih =>
      show max (nestedArrays depth).nesting 0 + 1 = depth + 1
      rw [ih, Nat.max_zero]

theorem exact_nestedArrays (depth : Nat) : (nestedArrays depth).Exact := by
  induction depth with
  | zero => exact ⟨trivial, trivial⟩
  | succ depth ih =>
      have increase : ["items", "type"].Pairwise (· < ·) := by
        decide
      apply Json.exact_object_iff.2
      refine ⟨Schema.namesIncrease_iff.2 increase, ?_⟩
      rw [List.forall_mem_cons, List.forall_mem_singleton]
      exact ⟨ih, trivial, trivial⟩

theorem read_nestedArrays (depth : Nat) :
    ShallowNode.read (nestedArrays (depth + 1)) = .ok (.array (nestedArrays depth) {}) := by
  have notNull : nestedArrays depth ≠ .null := by
    cases depth with
    | zero => exact nofun
    | succ depth => exact nofun
  apply StoredSchema.read_eq_ok_iff.2
  refine ⟨_, rfl, .array (.inl rfl) rfl notNull ⟨.nothing ?_, .nothing ?_, nofun⟩⟩
  · intro value impossible
    cases impossible
  · intro value impossible
    cases impossible

/-- The truth value is too deep where no level is left for it, and is no schema anyway. -/
theorem readNode_nestedArrays (limit spare depth : Nat) :
    Schema.readNode limit (spare + depth) (nestedArrays depth) =
      .error (.malformed { steps := List.replicate depth .items }
        (if spare = 0 then .tooDeep limit else .notAnObject "boolean")) := by
  induction depth with
  | zero =>
      cases spare with
      | zero => rfl
      | succ spare => rfl
  | succ depth ih =>
      rw [← Nat.add_assoc, Schema.readNode_of_array (read_nestedArrays depth), ih]
      rfl

theorem read_text_nestedArrays : Json.read (nestedArrays 127).text = .ok (nestedArrays 127) := by
  have shallow : (nestedArrays 127).nesting ≤ Json.nestingLimit := Nat.le_of_eq (nesting_nestedArrays 127)
  have front := Json.readFront_text Json.nestingLimit (exact_nestedArrays 127)
  rw [if_pos shallow] at front
  rw [Json.read, Json.readWithin, front]

theorem ofFileText_nestedArrays (spare : Nat) (path : FilePath) :
    Schema.ofFileText (spare + 127) path (nestedArrays 127).text =
      .error (.malformed { steps := List.replicate 127 .items }
        (if spare = 0 then .tooDeep (spare + 127) else .notAnObject "boolean")) := by
  rw [Schema.ofFileText, read_text_nestedArrays]
  exact readNode_nestedArrays (spare + 127) spare 127

open StoredSchema (Node)

/-- From 128 on, all limits give the same schema or the same error for every schema file,
whether it is read alone, by an operation on a registry, or for a command: a document with
128 containers open at once is refused, and no node of one that is read lies 128 steps
below its root.  There are documents with a node 127 steps below it, for which the limit
127 gives another error. -/
theorem limits_agree_from_128 [Diagnosis] {low high : Nat} (enough : 128 ≤ low) (enough' : 128 ≤ high) :
    (∀ (files : FileSystem) (path : FilePath), files.readSchema low path = files.readSchema high path) ∧
    (∀ (directory : SchemaDirectory) (files : FileSystem) (operation : Registry.Operation),
      Registry.perform { directory with depthLimit := low } files operation =
        Registry.perform { directory with depthLimit := high } files operation) ∧
    (∀ (config : Config) (files : FileSystem) (reference : String) (low' high' : UInt64),
      low'.toNat = low → high'.toNat = high →
        Config.resolveSchema { config with depthLimit := low' } files reference =
          Config.resolveSchema { config with depthLimit := high' } files reference) ∧
    (∀ (text : String) (front : List Token), front <+: tokens text → 128 ≤ Json.openBehind front →
      ∃ fault, Json.read text = .error fault) ∧
    (∀ (text : String) (stored node : Json) (steps : List SchemaStep), Json.read text = .ok stored →
      Node stored steps node → steps.length < 128) ∧
    ∃ text, ∀ path,
      Schema.ofFileText 127 path text =
        .error (.malformed { steps := List.replicate 127 .items } (.tooDeep 127)) ∧
      Schema.ofFileText low path text =
        .error (.malformed { steps := List.replicate 127 .items } (.notAnObject "boolean")) := by
  refine ⟨FileSystem.readSchema_eq_of_limits enough enough', Registry.perform_eq_of_limits enough enough',
    ?_, ?_, ?_, ?_⟩
  · rintro config files reference low' high' rfl rfl
    exact Config.resolveSchema_eq_of_limits enough enough' config files reference
  · intro text front isFront many
    exact Json.exists_fault_of_openBehind isFront many
  · intro text stored node steps found there
    exact StoredSchema.length_lt_of_read found there
  · refine ⟨(nestedArrays 127).text, fun path => ⟨ofFileText_nestedArrays 0 path, ?_⟩⟩
    obtain ⟨spare, rfl⟩ : ∃ spare, low = spare + 127 := ⟨low - 127, by omega⟩
    rw [ofFileText_nestedArrays spare path, if_neg (by omega)]

def FileSystem.everywhere (text : String) : FileSystem where
  readText _ := .ok text
  entries _ := .error .notDirectory
  isFile _ := true
  isPresent _ := true

/-- A file of 127 arrays inside each other under the limits 128 and 1024, and a text of 128
brackets. -/
theorem limits_agree_for_nested_arrays :
    let _ : Diagnosis := .brief
    (FileSystem.everywhere (nestedArrays 127).text).readSchema 128 "a.json" =
      (FileSystem.everywhere (nestedArrays 127).text).readSchema 1024 "a.json" ∧
    Registry.perform { path := ".", depthLimit := 128 } (.everywhere (nestedArrays 127).text) (.loadNamed "a") =
      Registry.perform { path := ".", depthLimit := 1024 } (.everywhere (nestedArrays 127).text)
        (.loadNamed "a") ∧
    Config.resolveSchema { depthLimit := 128 } (.everywhere (nestedArrays 127).text) "a" =
      Config.resolveSchema { depthLimit := 1024 } (.everywhere (nestedArrays 127).text) "a" ∧
    (∃ fault, Json.read (String.ofList (List.replicate 128 '[')) = .error fault) ∧
    [SchemaStep.items].length < 128 ∧
    ∃ text, ∀ path,
      Schema.ofFileText 127 path text =
        .error (.malformed { steps := List.replicate 127 .items } (.tooDeep 127)) ∧
      Schema.ofFileText 128 path text =
        .error (.malformed { steps := List.replicate 127 .items } (.notAnObject "boolean")) := by
  intro diagnosis
  have enough : 128 ≤ 128 := Nat.le_refl _
  have enough' : 128 ≤ 1024 := by decide
  have brackets (count : Nat) :
      tokens (String.ofList (List.replicate count '[')) = List.replicate count .openArray := by
    rw [tokens, String.toList_ofList]
    induction count with
    | zero => rfl
    | succ count ih => exact congrArg (Token.openArray :: ·) ih
  have child : Node (nestedArrays 127) [.items] (nestedArrays 126) :=
    .next (.items (read_nestedArrays 126)) (.root _)
  obtain ⟨files, operations, references, fronts, nodes, boundary⟩ := limits_agree_from_128 enough enough'
  refine ⟨files _ _, operations { path := "." } _ _, references {} _ _ 128 1024 rfl rfl, ?_, ?_, boundary⟩
  · apply fronts _ _ (List.prefix_refl _)
    rw [brackets]
    decide +kernel
  · exact nodes _ _ _ _ read_text_nestedArrays child

end CompactSchema
