import CompactSchema.Proofs.Calendar.Written
import CompactSchema.Proofs.Generation.Draws
import CompactSchema.Proofs.Generation.Least

/-
Generated values conform.

A schema can ask for what no generated value offers: members of a list that break the
other constraints, a format beside bounds on the length, a pattern, a required name
that is not declared.  Where every node is free of that, what is generated from a source
that keeps its promises is accepted.
-/

namespace CompactSchema

/-- The members of a list meet the other constraints.  Without a list there is no
pattern, and no bound on the length beside a known format. -/
structure StringConstraints.SelfConsistent (constraints : StringConstraints) : Prop where
  members : ∀ members, constraints.members = some members →
    ∀ text ∈ members, StringConstraints.Allow { constraints with members := none } text
  pattern : constraints.members = none → constraints.pattern = none
  length : constraints.members = none →
    ∀ format, constraints.format = some format → format.IsKnown → constraints.length = {}

/-- The members of a list are finite and within the bounds. -/
def NumberConstraints.SelfConsistent (constraints : NumberConstraints) : Prop :=
  ∀ members, constraints.members = some members →
    ∀ member ∈ members, member.isFinite = true ∧ constraints.Within member

namespace Schema

mutual

/-- No node of the tree contradicts itself. -/
def SelfConsistent : Schema → Prop
  | .string constraints => constraints.SelfConsistent
  | .number constraints => constraints.SelfConsistent
  | .boolean | .null => True
  | .array items _ => items.SelfConsistent
  | .object properties required =>
      (∀ name ∈ required, name ∈ properties.map Prod.fst) ∧ PropertiesSelfConsistent properties
  | .id format => format = some .number ∨ format = some .uuid

def PropertiesSelfConsistent : List (String × Schema) → Prop
  | [] => True
  | (_, schema) :: rest => schema.SelfConsistent ∧ PropertiesSelfConsistent rest

end

end Schema

namespace Generate

open Generation (Returns)

variable {σ : Type} {source : RandomSource σ}

theorem formatted_answers (contract : source.Contract) {format : StringFormat}
    {text : StateM σ String} (found : formatted source format = some text) :
    format.IsKnown ∧ Answers text fun text => format.accepts text = true := by
  cases format with
  | email =>
      cases found
      exact ⟨trivial, contract.email⟩
  | phoneNumber =>
      cases found
      exact ⟨trivial, contract.phoneNumber⟩
  | date =>
      cases found
      refine ⟨trivial, Answers.bind contract.dateTime fun instant plain => .pure ?_⟩
      show Calendar.isDateLike instant.dateText = true
      exact Instant.isDateLike_dateText plain
  | dateTime =>
      cases found
      refine ⟨trivial, Answers.bind contract.dateTime fun instant plain => .pure ?_⟩
      show Calendar.isDateLike instant.text = true
      exact Instant.isDateLike_text plain
  | uuid =>
      cases found
      have valid : Answers source.uuid fun uuid => Format.isUuid uuid.text = true := contract.uuid
      exact ⟨trivial, valid.bind fun _ here => .pure here⟩
  | other name => cases found

theorem accepts_of_formatted_eq_none {format : StringFormat} (none : formatted source format = none)
    (text : String) : format.accepts text = true := by
  cases format with
  | other name => rfl
  | _ => cases none

theorem string_returns (contract : source.Contract) {constraints : StringConstraints}
    (consistent : constraints.SelfConsistent) :
    Returns (Generate.string source constraints) constraints.Allow := by
  unfold Generate.string
  split
  · rename_i members listed
    refine (member_returns contract members).mono fun text inside => ?_
    have allowed := consistent.members members listed text inside
    refine ⟨allowed.length, ?_, allowed.pattern, allowed.format⟩
    intro members' listed'
    rw [listed] at listed'
    cases listed'
    exact inside
  · rename_i unlisted
    have noPattern := consistent.pattern unlisted
    have noMembers (text : String) :
        ∀ members, constraints.members = some members → text ∈ members := by
      intro members listed
      rw [unlisted] at listed
      cases listed
    have patternMet (text : String) :
        ∀ pattern, constraints.pattern = some pattern → pattern.isMatch text = true := by
      intro pattern present
      rw [noPattern] at present
      cases present
    split
    · rename_i draw found
      obtain ⟨format, here, drawn⟩ := Option.bind_eq_some_iff.1 found
      obtain ⟨known, answers⟩ := formatted_answers contract drawn
      have unbounded := consistent.length unlisted format here known
      refine (Returns.draw answers).mono fun text accepted => ?_
      refine ⟨?_, noMembers text, patternMet text, ?_⟩
      · rw [unbounded]
        constructor
        · intro least impossible
          cases impossible
        · intro most impossible
          cases impossible
      · intro format' here'
        rw [here] at here'
        cases here'
        exact accepted
    · rename_i notDrawn
      unfold plainText
      rw [noPattern]
      refine .bind (.settle _) fun range found => ?_
      refine (Returns.draw (letters_answers contract range)).mono fun text drawn => ?_
      have within := drawn.1
      refine ⟨LengthBounds.allow_of_range found within.1 within.2, noMembers text, patternMet text, ?_⟩
      intro format here
      rw [here] at notDrawn
      exact accepts_of_formatted_eq_none notDrawn text

theorem number_returns (contract : source.Contract) {constraints : NumberConstraints}
    (consistent : constraints.SelfConsistent) :
    Returns (Generate.number source constraints)
      fun value => ∃ n, value = .number n ∧ constraints.Allow n.toBinary64 := by
  unfold Generate.number
  split
  · rename_i members listed
    refine .bind (member_returns contract members) fun member inside => .pure ?_
    obtain ⟨finite, within⟩ := consistent members listed member inside
    obtain ⟨n, written, same⟩ := exists_numberValue_same finite
    refine ⟨n, written, ⟨?_, ?_⟩, ?_⟩
    · intro least present
      rw [← Binary64.lt_congr_left same]
      exact within.least least present
    · intro most present
      rw [← Binary64.lt_congr_right same]
      exact within.most most present
    · intro members' listed'
      rw [listed] at listed'
      cases listed'
      exact ⟨member, inside, same⟩
  · rename_i unlisted
    refine .bind (.settle _) fun range found => ?_
    refine (Returns.draw (numberWithin_answers contract range)).mono fun value drawn => ?_
    obtain ⟨n, x, same, denotes, held⟩ := drawn
    have within := NumberConstraints.within_of_range found held
    refine ⟨n, same, ⟨?_, ?_⟩, ?_⟩
    · rw [denotes]
      exact within.least
    · rw [denotes]
      exact within.most
    · intro members listed
      rw [unlisted] at listed
      cases listed

theorem id_answers (contract : source.Contract) {format : Option IdFormat}
    (consistent : format = some .number ∨ format = some .uuid) :
    Answers (Generate.id source format) (IdFormat.Allow format) := by
  rcases consistent with rfl | rfl
  · exact fun state => ⟨_, rfl⟩
  · exact fun state => ⟨_, rfl, contract.uuid state⟩

end Generate

namespace Schema

/-- Each property has a member of its name that conforms, in the same order. -/
inductive PropertiesFilled : List (String × Schema) → List (String × Json) → Prop
  | nil : PropertiesFilled [] []
  | cons {name : String} {schema : Schema} {value : Json} {rest : List (String × Schema)}
      {members : List (String × Json)} (first : schema.Conforms value)
      (others : PropertiesFilled rest members) :
      PropertiesFilled ((name, schema) :: rest) ((name, value) :: members)

theorem isSome_lookup_of_filled {properties : List (String × Schema)}
    {members : List (String × Json)} (filled : PropertiesFilled properties members) {name : String}
    (declared : name ∈ properties.map Prod.fst) : (members.lookup name).isSome = true := by
  induction filled with
  | nil => cases declared
  | @cons other schema value rest members first others ih =>
      rw [Json.lookup_cons]
      by_cases here : name = other
      · rw [if_pos here]
        rfl
      · rw [if_neg here]
        rcases List.mem_cons.1 declared with same | later
        · exact absurd same here
        · exact ih later

/-- Where each name stands once, a member that is found is the one that was filled in. -/
theorem propertiesConform_of_filled {properties : List (String × Schema)}
    {members : List (String × Json)} (filled : PropertiesFilled properties members)
    (increasing : Json.NamesIncrease properties) : PropertiesConform properties members := by
  rw [propertiesConform_iff]
  induction filled with
  | nil =>
      intro property impossible
      cases impossible
  | @cons name schema value rest members first others ih =>
      obtain ⟨after, increasingRest⟩ := List.pairwise_cons.1 increasing
      intro property inside found present
      rcases List.mem_cons.1 inside with same | later
      · subst same
        rw [List.lookup_cons_self] at present
        cases present
        exact first
      · have different : property.1 ≠ name := by
          intro same
          have less := after property later
          rw [same] at less
          exact String.lt_irrefl _ less
        rw [Json.lookup_cons, if_neg different] at present
        exact ih increasingRest property later found present

open Generation (Returns)

variable {σ : Type} {source : RandomSource σ}

mutual

theorem generate_returns (contract : source.Contract) (schema : Schema) (ordered : schema.Ordered)
    (consistent : schema.SelfConsistent) : Returns (schema.generate source) schema.Conforms := by
  cases schema with
  | string constraints =>
      exact .bind (Generate.string_returns contract consistent) fun text allowed =>
        .pure ⟨text, rfl, allowed⟩
  | number constraints => exact Generate.number_returns contract consistent
  | boolean =>
      have any : Answers source.boolean fun _ => True := fun _ => trivial
      exact .bind (.draw any) fun b _ => .pure ⟨b, rfl⟩
  | null => exact .pure rfl
  | array items count =>
      refine .bind (.settle _) fun range found => ?_
      refine .bind (.draw (Generate.length_answers contract range)) fun n within => ?_
      have element := generate_returns contract items ordered consistent
      refine .bind (.times (.within element) n) fun elements conform => .pure ?_
      refine ⟨elements, rfl, ?_, conform.2⟩
      rw [conform.1]
      exact LengthBounds.allow_of_range found within.1 within.2
  | object properties required =>
      refine .bind (generateProperties_returns contract properties ordered.2 consistent.2)
        fun members filled => .pure ⟨members, rfl, ?_, propertiesConform_of_filled filled ordered.1⟩
      intro name isRequired
      exact isSome_lookup_of_filled filled (consistent.1 name isRequired)
  | id format => exact .draw (Generate.id_answers contract consistent)

theorem generateProperties_returns (contract : source.Contract) (properties : List (String × Schema))
    (ordered : PropertiesOrdered properties) (consistent : PropertiesSelfConsistent properties) :
    Returns (generateProperties source properties) (PropertiesFilled properties) := by
  cases properties with
  | nil => exact .pure .nil
  | cons property rest =>
      obtain ⟨name, schema⟩ := property
      have first := generate_returns contract schema ordered.1 consistent.1
      refine .bind (.within first) fun value conforms => ?_
      refine .bind (generateProperties_returns contract rest ordered.2 consistent.2)
        fun members filled => .pure (.cons conforms filled)

end

/-- A value that is generated for a consistent schema, from any state of a source that
keeps its promises, is accepted by the schema. -/
theorem accepts_of_generate {σ : Type} {source : RandomSource σ} (contract : source.Contract)
    (schema : Schema) (ordered : schema.Ordered) (consistent : schema.SelfConsistent)
    (state after : σ) (value : Json)
    (generated : (schema.generate source).run.run state = (.ok value, after)) :
    schema.accepts value = true :=
  (schema.accepts_iff_conforms value).2
    (generate_returns contract schema ordered consistent state value after generated)

/-- A required list of dates in an object, drawn from the least source. -/
theorem accepts_of_generate_dates :
    (Schema.object [("days", .array (.string { format := some .date }) { most := some 2 })] ["days"]).accepts
      (.object [("days", .array [.string "1970-01-01", .string "1970-01-01"])]) = true := by
  refine accepts_of_generate RandomSource.least_contract _ ?_ ?_ () () _ ?_
  · exact ⟨List.pairwise_singleton _ _, trivial, trivial⟩
  · refine ⟨by decide, ⟨?_, fun _ => rfl, ?_⟩, trivial⟩
    · intro members impossible
      cases impossible
    · intro _ _ _ _
      rfl
  · rfl

end Schema
end CompactSchema
