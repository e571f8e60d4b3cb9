import CompactSchema.Proofs.Generation.Unbuildable

/-
The requests of a generation.

A source that keeps a record answers as it would without one, so the record of a run
lists the requests of the run itself.  Ranges are settled before anything is drawn from
them, and members are only asked for where there are some: every request is permitted.
-/

namespace CompactSchema

variable {σ α β : Type}

/-! ### Records -/

/-- A draw with a record answers as the draw without it, and leaves the source in the same
state; the requests that it puts before the earlier ones are good. -/
def Recorded (good : Request → Prop) (kept : StateM (σ × List Request) α) (draw : StateM σ α) : Prop :=
  ∀ state record, ∃ requests,
    kept.run (state, record) = ((draw.run state).1, (draw.run state).2, requests ++ record) ∧
      ∀ request ∈ requests, good request

namespace Recorded

variable {good : Request → Prop}

theorem pure (value : α) : Recorded (σ := σ) good (Pure.pure value) (Pure.pure value) :=
  fun _ _ => ⟨[], rfl, fun _ impossible => nomatch impossible⟩

theorem request {request : Request} (permitted : good request) (draw : StateM σ α) :
    Recorded good (RandomSource.recorded request draw) draw := by
  refine fun state record => ⟨[request], rfl, fun other inside => ?_⟩
  rw [List.mem_singleton.1 inside]
  exact permitted

theorem bind {kept : StateM (σ × List Request) α} {draw : StateM σ α}
    {keptNext : α → StateM (σ × List Request) β} {next : α → StateM σ β} {answer : α → Prop}
    (first : Recorded good kept draw) (answers : Answers draw answer)
    (rest : ∀ value, answer value → Recorded good (keptNext value) (next value)) :
    Recorded good (kept >>= keptNext) (draw >>= next) := by
  intro state record
  obtain ⟨requests, begun, permitted⟩ := first state record
  obtain ⟨others, ended, permitted'⟩ :=
    rest _ (answers state) (draw.run state).2 (requests ++ record)
  refine ⟨others ++ requests, ?_, ?_⟩
  · rw [StateT.run_bind, begun, List.append_assoc]
    exact ended
  · intro request inside
    rcases List.mem_append.1 inside with later | earlier
    · exact permitted' request later
    · exact permitted request earlier

theorem map {kept : StateM (σ × List Request) α} {draw : StateM σ α} (recorded : Recorded good kept draw)
    (change : α → β) :
    Recorded good (do return change (← kept)) (do return change (← draw)) :=
  recorded.bind (.any _) fun value _ => pure (change value)

end Recorded

namespace Generation

/-- A generation with a record and the one without end alike. -/
def Recorded (good : Request → Prop) (kept : Generation (σ × List Request) α) (action : Generation σ α) :
    Prop :=
  CompactSchema.Recorded good kept.run action.run

namespace Recorded

variable {good : Request → Prop}

theorem pure (value : α) : Recorded (σ := σ) good (Pure.pure value) (Pure.pure value) :=
  CompactSchema.Recorded.pure (Except.ok value)

theorem throw (error : SchemaError) :
    Recorded (σ := σ) (α := α) good (MonadExcept.throw error) (MonadExcept.throw error) :=
  CompactSchema.Recorded.pure (Except.error error)

theorem draw {kept : StateM (σ × List Request) α} {draw : StateM σ α}
    (recorded : CompactSchema.Recorded good kept draw) :
    Recorded good (liftM kept : Generation (σ × List Request) α) (liftM draw) :=
  recorded.map Except.ok

theorem bind {kept : Generation (σ × List Request) α} {action : Generation σ α}
    {keptNext : α → Generation (σ × List Request) β} {next : α → Generation σ β} {value : α → Prop}
    (first : Recorded good kept action) (returns : Returns action value)
    (rest : ∀ here, value here → Recorded good (keptNext here) (next here)) :
    Recorded good (kept >>= keptNext) (action >>= next) := by
  have answers : Answers action.run fun result => ∀ here, result = .ok here → value here :=
    fun state here ended => returns state here _ (Prod.ext ended rfl)
  unfold Recorded
  rw [ExceptT.run_bind, ExceptT.run_bind]
  refine CompactSchema.Recorded.bind first answers fun result ended => ?_
  cases result with
  | ok here => exact rest here (ended here rfl)
  | error error => exact CompactSchema.Recorded.pure (Except.error error)

theorem within {step : SchemaStep} {kept : Generation (σ × List Request) α} {action : Generation σ α}
    (recorded : Recorded good kept action) :
    Recorded good (Generate.within step kept) (Generate.within step action) :=
  CompactSchema.Recorded.map recorded (Except.mapError fun error : SchemaError => error.within step)

theorem settle (result : Except Defect α) :
    Recorded (σ := σ) good (Generate.settle result) (Generate.settle result) := by
  cases result with
  | ok value => exact pure value
  | error defect => exact throw _

theorem times {kept : Generation (σ × List Request) α} {action : Generation σ α}
    (recorded : Recorded good kept action) (n : Nat) :
    Recorded good (CompactSchema.times kept n) (CompactSchema.times action n) := by
  induction n with
  | zero => exact pure []
  | succ n ih => exact recorded.bind (.any _) fun first _ => ih.bind (.any _) fun others _ => pure _

end Recorded
end Generation

/-! ### Requests for leaves -/

/-- The request is permitted, and a text that it asks for has at most 10000 letters. -/
def Request.Moderate (request : Request) : Prop :=
  request.Permitted ∧ ∀ length, request = .alpha length → length ≤ lengthLimit

theorem Request.moderate (request : Request) (permitted : request.Permitted)
    (noText : ∀ length, request ≠ .alpha length) : request.Moderate :=
  ⟨permitted, fun length same => absurd same (noText length)⟩

namespace Generate

open Generation (Returns)

variable {source : RandomSource σ}

theorem length_recorded (range : LengthRange) :
    Recorded Request.Moderate (length source.recording range) (length source range) := by
  have moderate := Request.moderate (.intInRange _ _) range.ofNat_least_le nofun
  exact (Recorded.request moderate _).map fun n : Int64 => n.toUInt64.toNat

theorem letters_recorded (contract : source.Contract) (range : LengthRange) :
    Recorded Request.Moderate (letters source.recording range) (letters source range) := by
  refine (length_recorded range).bind (length_answers contract range) fun n within => ?_
  have limited : n ≤ lengthLimit := Nat.le_trans within.2 range.limited
  refine .request ⟨trivial, fun length same => ?_⟩ _
  cases same
  exact limited

theorem firstAccepted_recorded {kept : StateM (σ × List Request) String} {draw : StateM σ String}
    (recorded : Recorded Request.Moderate kept draw) (accept : String → Bool) (others : Nat) :
    Recorded Request.Moderate (firstAccepted kept accept others) (firstAccepted draw accept others) := by
  induction others with
  | zero => exact recorded
  | succ others ih =>
      refine recorded.bind (.any _) fun candidate _ => ?_
      cases accept candidate with
      | true => exact .pure candidate
      | false => exact ih

theorem member_recorded (members : List α) :
    Generation.Recorded Request.Moderate (member source.recording members) (member source members) := by
  cases members with
  | nil => exact .throw _
  | cons first others =>
      have moderate := Request.moderate (.index (first :: others).length) (Nat.succ_pos _) nofun
      exact .bind (.draw (.request moderate _)) (.any _) fun i _ => .pure _

theorem formatted_recorded (format : StringFormat) :
    Option.Rel (Recorded Request.Moderate) (formatted source.recording format)
      (formatted source format) := by
  have instant : Recorded Request.Moderate source.recording.dateTime source.dateTime :=
    .request (Request.moderate .dateTime trivial nofun) _
  cases format with
  | email => exact .some (.request (Request.moderate .email trivial nofun) _)
  | phoneNumber => exact .some (.request (Request.moderate .phoneNumber trivial nofun) _)
  | date => exact .some (instant.map Instant.dateText)
  | dateTime => exact .some (instant.map Instant.text)
  | uuid => exact .some ((Recorded.request (Request.moderate .uuid trivial nofun) _).map Uuid.text)
  | other name => exact .none

theorem plainText_recorded (contract : source.Contract) (constraints : StringConstraints) :
    Generation.Recorded Request.Moderate (plainText source.recording constraints)
      (plainText source constraints) := by
  unfold plainText
  refine (Generation.Recorded.settle _).bind (.settle _) fun range _ => ?_
  split
  · exact .draw (letters_recorded contract range)
  · exact .draw (firstAccepted_recorded (letters_recorded contract range) _ _)

theorem string_recorded (contract : source.Contract) (constraints : StringConstraints) :
    Generation.Recorded Request.Moderate (Generate.string source.recording constraints)
      (Generate.string source constraints) := by
  unfold Generate.string
  split
  · exact member_recorded _
  · have same : Option.Rel (Recorded Request.Moderate)
        (constraints.format.bind (formatted source.recording))
        (constraints.format.bind (formatted source)) := by
      cases constraints.format with
      | none => exact .none
      | some format => exact formatted_recorded format
    generalize constraints.format.bind (formatted source.recording) = kept at same
    generalize constraints.format.bind (formatted source) = drawn at same
    cases same with
    | some recorded => exact .draw recorded
    | none => exact plainText_recorded contract constraints

theorem numberWithin_recorded (range : NumberRange) :
    Recorded Request.Moderate (numberWithin source.recording range) (numberWithin source range) := by
  unfold numberWithin
  split
  · rename_i least most integers
    have moderate := Request.moderate (.intInRange least most) (range.le_of_integers integers) nofun
    exact (Recorded.request moderate _).map fun n => Json.number (.ofInt64 n)
  · have moderate := Request.moderate (.floatInRange (.finite range.least) (.finite range.most))
      ⟨rfl, rfl, Binary64.le_finite_iff.2 range.ordered⟩ nofun
    exact (Recorded.request moderate _).map numberValue

theorem number_recorded (constraints : NumberConstraints) :
    Generation.Recorded Request.Moderate (Generate.number source.recording constraints)
      (Generate.number source constraints) := by
  unfold Generate.number
  split
  · exact (member_recorded _).bind (.any _) fun member _ => .pure _
  · exact (Generation.Recorded.settle _).bind (.any _) fun range _ => .draw (numberWithin_recorded range)

theorem id_recorded (format : Option IdFormat) :
    Recorded Request.Moderate (Generate.id source.recording format) (Generate.id source format) := by
  have number := Request.moderate (.intInRange leastId mostId) (by decide) nofun
  have uuid := Request.moderate .uuid trivial nofun
  unfold Generate.id
  split
  · exact (Recorded.request uuid _).map fun (uuid : Uuid) => Json.string uuid.text
  · exact (Recorded.request number _).map fun n => Json.number (.ofInt64 n)

/-- A member is the one at the place that the source answers. -/
theorem member_run (contract : source.Contract) {members : List α} (filled : members ≠ []) (state : σ) :
    ∃ value, members[((source.index members.length).run state).1]? = some value ∧
      (member source members).run.run state = (.ok value, ((source.index members.length).run state).2) := by
  cases members with
  | nil => exact absurd rfl filled
  | cons first others =>
      have inside := contract.index (first :: others).length state (Nat.succ_pos _)
      have found := List.getElem?_eq_getElem inside
      refine ⟨_, found, ?_⟩
      show (Except.ok ((first :: others).getD ((source.index (first :: others).length).run state).1 first),
        ((source.index (first :: others).length).run state).2) = _
      rw [List.getD_eq_getElem?_getD, found]
      rfl

end Generate

/-! ### Requests for whole schemas -/

namespace Schema

open Generate
open Generation (Returns)

variable {source : RandomSource σ}

mutual

/-- A generation only makes requests that are permitted, and for texts of at most 10000
letters. -/
theorem generate_recorded (contract : source.Contract) (schema : Schema) :
    Generation.Recorded Request.Moderate (schema.generate source.recording) (schema.generate source) := by
  cases schema with
  | string constraints => exact (string_recorded contract constraints).bind (.any _) fun text _ => .pure _
  | number constraints => exact number_recorded constraints
  | boolean =>
      have asked : Recorded Request.Moderate source.recording.boolean source.boolean :=
        .request (Request.moderate .boolean trivial nofun) _
      exact (Generation.Recorded.draw asked).bind (.any _) fun b _ => .pure _
  | null => exact .pure _
  | array items count =>
      refine (Generation.Recorded.settle _).bind (.any _) fun range _ => ?_
      refine (Generation.Recorded.draw (length_recorded range)).bind (.any _) fun n _ => ?_
      exact ((generate_recorded contract items).within.times n).bind (.any _) fun elements _ => .pure _
  | object properties required =>
      exact (generateProperties_recorded contract properties).bind (.any _) fun members _ => .pure _
  | id format => exact .draw (id_recorded format)

theorem generateProperties_recorded (contract : source.Contract) (properties : List (String × Schema)) :
    Generation.Recorded Request.Moderate (generateProperties source.recording properties)
      (generateProperties source properties) := by
  cases properties with
  | nil => exact .pure _
  | cons property rest =>
      obtain ⟨name, child⟩ := property
      refine (generate_recorded contract child).within.bind (.any _) fun value _ => ?_
      exact (generateProperties_recorded contract rest).bind (.any _) fun members _ => .pure _

end

/-! ### Lengths of arrays -/

end Schema

/-- The values that a value is made of, and the value itself. -/
inductive Json.Contains : Json → Json → Prop
  | here (value : Json) : Contains value value
  | element {elements : List Json} {element part : Json} (inside : element ∈ elements)
      (rest : Contains element part) : Contains (.array elements) part
  | member {members : List (String × Json)} {member : String × Json} {part : Json}
      (inside : member ∈ members) (rest : Contains member.2 part) : Contains (.object members) part

/-- No array in the value has more than 10000 elements. -/
def Json.ArraysLimited (value : Json) : Prop :=
  ∀ elements, value.Contains (.array elements) → elements.length ≤ lengthLimit

namespace Json

def IsLeaf : Json → Prop
  | .array _ | .object _ => False
  | _ => True

theorem arraysLimited_leaf {value : Json} (leaf : value.IsLeaf) : value.ArraysLimited := by
  intro elements contains
  cases contains with
  | here => exact leaf.elim
  | element inside rest => exact leaf.elim
  | member inside rest => exact leaf.elim

theorem arraysLimited_array {elements : List Json} (few : elements.length ≤ lengthLimit)
    (limited : ∀ element ∈ elements, element.ArraysLimited) : (Json.array elements).ArraysLimited := by
  intro parts contains
  cases contains with
  | here => exact few
  | element inside rest => exact limited _ inside parts rest

theorem arraysLimited_object {members : List (String × Json)}
    (limited : ∀ member ∈ members, member.2.ArraysLimited) : (Json.object members).ArraysLimited := by
  intro parts contains
  cases contains with
  | member inside rest => exact limited _ inside parts rest

theorem arraysLimited_numberValue (x : Binary64) : (numberValue x).ArraysLimited := by
  unfold numberValue
  split
  · split
    · exact arraysLimited_leaf trivial
    · exact arraysLimited_leaf trivial
  · exact arraysLimited_leaf trivial

end Json

namespace Generate

open Generation (Returns)

variable {source : RandomSource σ}

theorem numberWithin_arraysLimited (range : NumberRange) :
    Answers (numberWithin source range) Json.ArraysLimited := by
  unfold numberWithin
  split
  · exact Answers.bind (.any _) fun n _ => .pure (Json.arraysLimited_leaf trivial)
  · exact Answers.bind (.any _) fun x _ => .pure (Json.arraysLimited_numberValue x)

theorem number_arraysLimited (constraints : NumberConstraints) :
    Returns (Generate.number source constraints) Json.ArraysLimited := by
  unfold Generate.number
  split
  · exact .bind (.any _) fun member _ => .pure (Json.arraysLimited_numberValue member)
  · exact .bind (.any _) fun range _ => .draw (numberWithin_arraysLimited range)

theorem id_arraysLimited (format : Option IdFormat) :
    Answers (Generate.id source format) Json.ArraysLimited := by
  unfold Generate.id
  split
  · exact Answers.bind (.any _) fun uuid _ => .pure (Json.arraysLimited_leaf trivial)
  · exact Answers.bind (.any _) fun n _ => .pure (Json.arraysLimited_leaf trivial)

end Generate

namespace Schema

open Generate
open Generation (Returns)

variable {source : RandomSource σ}

mutual

theorem generate_arraysLimited (contract : source.Contract) (schema : Schema) :
    Returns (schema.generate source) Json.ArraysLimited := by
  cases schema with
  | string constraints => exact .bind (.any _) fun text _ => .pure (Json.arraysLimited_leaf trivial)
  | number constraints => exact number_arraysLimited constraints
  | boolean => exact .bind (.any _) fun b _ => .pure (Json.arraysLimited_leaf trivial)
  | null => exact .pure (Json.arraysLimited_leaf trivial)
  | array items count =>
      refine .bind (.any _) fun range _ => ?_
      refine .bind (.draw (length_answers contract range)) fun n within => ?_
      refine .bind (.times (generate_arraysLimited contract items).within n) fun elements all => .pure ?_
      refine Json.arraysLimited_array ?_ all.2
      rw [all.1]
      exact Nat.le_trans within.2 range.limited
  | object properties required =>
      exact .bind (generateProperties_arraysLimited contract properties) fun members limited =>
        .pure (Json.arraysLimited_object limited)
  | id format => exact .draw (id_arraysLimited format)

theorem generateProperties_arraysLimited (contract : source.Contract)
    (properties : List (String × Schema)) :
    Returns (generateProperties source properties) fun members =>
      ∀ member ∈ members, member.2.ArraysLimited := by
  cases properties with
  | nil => exact .pure nofun
  | cons property rest =>
      obtain ⟨name, child⟩ := property
      refine .bind (generate_arraysLimited contract child).within fun value limited => ?_
      refine .bind (generateProperties_arraysLimited contract rest) fun members others => .pure ?_
      exact List.forall_mem_cons.2 ⟨limited, others⟩

end

/-! ### What a generation owes its source -/

/-- Whatever the schema, a generation from a source that keeps its promises only makes
requests that are permitted, and asks for texts of at most 10000 letters.  Every array
that it sets out to build, and every array of its value, has at most 10000 elements; and
a member of a list is taken from a place that the list has. -/
theorem generate_requests_permitted {σ : Type} {source : RandomSource σ} (contract : source.Contract)
    (schema : Schema) :
    (∀ state record, ∃ requests,
      (schema.generate source.recording).run.run (state, record) =
        (((schema.generate source).run.run state).1,
          ((schema.generate source).run.run state).2, requests ++ record) ∧
      ∀ request ∈ requests, request.Permitted ∧ ∀ length, request = .alpha length → length ≤ 10000) ∧
    (∀ steps items count, schema.At steps (.array items count) →
      ∀ range, count.range .array = .ok range →
        ∀ state, ((Generate.length source range).run state).1 ≤ 10000) ∧
    (∀ state value after, (schema.generate source).run.run state = (.ok value, after) →
      ∀ elements, value.Contains (.array elements) → elements.length ≤ 10000) ∧
    (∀ steps constraints members, schema.At steps (.string constraints) →
      constraints.members = some members → members ≠ [] →
        ∀ state, ∃ member, members[((source.index members.length).run state).1]? = some member ∧
          ((Schema.string constraints).generate source).run.run state =
            (.ok (.string member), ((source.index members.length).run state).2)) ∧
    (∀ steps constraints members, schema.At steps (.number constraints) →
      constraints.members = some members → members ≠ [] →
        ∀ state, ∃ member, members[((source.index members.length).run state).1]? = some member ∧
          ((Schema.number constraints).generate source).run.run state =
            (.ok (numberValue member), ((source.index members.length).run state).2)) := by
  refine ⟨generate_recorded contract schema, ?_, generate_arraysLimited contract schema, ?_, ?_⟩
  · intro steps items count _ range found state
    exact Nat.le_trans (length_answers contract range state).2 range.limited
  · intro steps constraints members _ listed filled state
    obtain ⟨member, found, drawn⟩ := member_run contract filled state
    refine ⟨member, found, ?_⟩
    rw [generate, Returns.run_bind, Generate.string, listed]
    dsimp only
    rw [drawn]
    rfl
  · intro steps constraints members _ listed filled state
    obtain ⟨member, found, drawn⟩ := member_run contract filled state
    refine ⟨member, found, ?_⟩
    rw [generate, Generate.number, listed]
    dsimp only
    rw [Returns.run_bind, drawn]
    rfl

/-- A size and tags, each from a list. -/
def tagged : Schema :=
  .object [("size", .number { members := some [7] }),
    ("tags", .array (.string { members := some ["new"] }) {})] []

/-- Tags drawn from the least source. -/
theorem generate_requests_of_tagged :
    (∃ requests, (tagged.generate RandomSource.least.recording).run.run ((), []) =
        (((tagged.generate RandomSource.least).run.run ()).1, (), requests ++ []) ∧
      ∀ request ∈ requests, request.Permitted ∧ ∀ length, request = .alpha length → length ≤ 10000) ∧
    ((Generate.length RandomSource.least ⟨3, 4, by decide, by decide⟩).run ()).1 ≤ 10000 ∧
    [Json.string "new", .string "new", .string "new"].length ≤ 10000 ∧
    (∃ member, ["new"][((RandomSource.least.index 1).run ()).1]? = some member ∧
      ((Schema.string { members := some ["new"] }).generate RandomSource.least).run.run () =
        (.ok (.string member), ())) ∧
    (∃ member, [(7 : Binary64)][((RandomSource.least.index 1).run ()).1]? = some member ∧
      ((Schema.number { members := some [7] }).generate RandomSource.least).run.run () =
        (.ok (numberValue member), ())) := by
  have size : tagged.At [.property "size"] (.number { members := some [7] }) :=
    .property List.mem_cons_self (.here _)
  have tags {node : Schema} {steps : List SchemaStep}
      (along : (Schema.array (.string { members := some ["new"] }) {}).At steps node) :
      tagged.At (.property "tags" :: steps) node :=
    .property (List.mem_cons_of_mem _ List.mem_cons_self) along
  refine ⟨?_, ?_, ?_, ?_, ?_⟩
  · exact (generate_requests_permitted RandomSource.least_contract tagged).1 () []
  · exact (generate_requests_permitted RandomSource.least_contract tagged).2.1 _ _ _ (tags (.here _))
      _ rfl ()
  · exact (generate_requests_permitted RandomSource.least_contract tagged).2.2.1 ()
      (.object [("size", numberValue 7), ("tags", .array [.string "new", .string "new", .string "new"])])
      () rfl _ (.member (List.mem_cons_of_mem _ List.mem_cons_self) (.here _))
  · exact (generate_requests_permitted RandomSource.least_contract tagged).2.2.2.1 _ _ _
      (tags (.items trivial (.here _))) rfl (List.cons_ne_nil _ _) ()
  · exact (generate_requests_permitted RandomSource.least_contract tagged).2.2.2.2 _ _ _
      size rfl (List.cons_ne_nil _ _) ()

end Schema
end CompactSchema
