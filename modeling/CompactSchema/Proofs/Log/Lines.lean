import CompactSchema.Log.Event
import CompactSchema.Proofs.Json.Members
import CompactSchema.Proofs.Json.Unbroken
import CompactSchema.Proofs.Text.Octets

/-
Log lines read back.

The text of an event has no line break in it, whatever its fields hold, and is read as an
object of texts: the name, the severity, then the fields in the order of their keys.  If the
keys are all different, nothing of the event is lost but the order in which its fields were
given, and that order does not show.
-/

namespace CompactSchema
namespace LogEvent

/-- The fields in the order of the octets of their keys; those of one key keep their order. -/
structure StablySorted (fields sorted : List (String × String)) : Prop where
  perm : sorted.Perm fields
  increasing : sorted.Pairwise fun left right => octets left.1 ≤ octets right.1
  stable (key : String) :
    (sorted.filter fun field => field.1 = key) = fields.filter fun field => field.1 = key

def keyLe (left right : String × String) : Bool := !decide (right.1 < left.1)

theorem keyLe_iff {left right : String × String} : keyLe left right = true ↔ left.1 ≤ right.1 := by
  unfold keyLe
  rw [Bool.not_eq_true', decide_eq_false_iff_not]
  exact String.not_lt

theorem keyLe_trans (first second third : String × String) (lower : keyLe first second = true)
    (upper : keyLe second third = true) : keyLe first third = true := by
  rw [keyLe_iff] at lower upper ⊢
  exact String.le_trans lower upper

theorem keyLe_total (first second : String × String) : (keyLe first second || keyLe second first) = true := by
  rw [Bool.or_eq_true, keyLe_iff, keyLe_iff]
  exact String.le_total _ _

theorem stablySorted_sortedFields (event : LogEvent) :
    StablySorted event.fields event.sortedFields := by
  have perm : event.sortedFields.Perm event.fields := List.mergeSort_perm _ _
  constructor
  · exact perm
  · apply (List.pairwise_mergeSort keyLe_trans keyLe_total event.fields).imp
    intro left right le
    exact octets_le_iff.2 (keyLe_iff.1 le)
  · intro key
    have alike : (event.fields.filter fun field => field.1 = key).Pairwise fun left right =>
        keyLe left right = true := by
      apply List.pairwise_of_forall_mem_list
      intro left here right there
      rw [List.mem_filter, decide_eq_true_eq] at here there
      simp only [keyLe_iff, here.2, there.2, String.le_refl]
    have kept : (event.fields.filter fun field => field.1 = key).Sublist event.sortedFields :=
      List.sublist_mergeSort keyLe_trans keyLe_total alike List.filter_sublist
    have found := kept.filter fun field => field.1 = key
    rw [List.filter_filter] at found
    simp only [Bool.and_self] at found
    exact (found.eq_of_length (perm.filter _).length_eq.symm).symm

/-- Fields of different keys are sorted in one way. -/
theorem sortedFields_eq_of_perm {event : LogEvent} {fields : List (String × String)}
    (perm : fields.Perm event.fields) (distinct : (event.fields.map Prod.fst).Nodup) :
    sortedFields { event with fields } = event.sortedFields := by
  have sorted := stablySorted_sortedFields event
  have sorted' := stablySorted_sortedFields { event with fields }
  apply List.Perm.eq_of_pairwise _ sorted'.increasing sorted.increasing
  · exact sorted'.perm.trans (perm.trans sorted.perm.symm)
  · intro left right here there below above
    have same : left.1 = right.1 := String.le_antisymm (octets_le_iff.1 below) (octets_le_iff.1 above)
    apply List.inj_on_of_nodup_map distinct _ _ same
    · exact perm.mem_iff.1 (sorted'.perm.mem_iff.1 here)
    · exact sorted.perm.mem_iff.1 there

def withHead (event : LogEvent) (fields : List (String × String)) : List (String × String) :=
  ("event", event.name) :: ("severity", event.severity.name) :: fields

/-- What is written for an event ends with its only line break. -/
theorem splitOn_line (event : LogEvent) :
    (event.line ++ "\n").toList.splitOn '\n' = [event.line.toList, []] := by
  have breakless : '\n' ∉ event.line.toList := by
    intro inside
    exact absurd (Json.unbroken_text _ '\n' inside) (by decide)
  have shape : (event.line ++ "\n").toList = ['\n'].intercalate [event.line.toList, []] := by
    rw [String.toList_append, List.intercalate_cons_cons, List.intercalate_singleton, List.append_nil]
    rfl
  rw [shape]
  apply List.splitOn_intercalate
  · intro part inside
    rcases List.mem_cons.1 inside with same | empty
    · rw [same]
      exact breakless
    · rw [List.mem_singleton.1 empty]
      exact List.not_mem_nil
  · exact List.cons_ne_nil _ _

theorem read_line (event : LogEvent) :
    Json.read event.line = .ok (.ofMembers (Json.texts (event.withHead event.sortedFields))) :=
  Json.read_text_texts (event.withHead event.sortedFields)

theorem exists_read_line {event : LogEvent}
    (distinct : ((event.withHead event.fields).map Prod.fst).Nodup) :
    ∃ members, Json.read event.line = .ok (.object members) ∧
      members.Perm (Json.texts (event.withHead event.fields)) := by
  have perm : (event.withHead event.sortedFields).Perm (event.withHead event.fields) :=
    ((stablySorted_sortedFields event).perm.cons _).cons _
  obtain ⟨members, told, held⟩ :=
    Json.exists_read_texts ((perm.map Prod.fst).nodup_iff.2 distinct)
  exact ⟨members, told, held.trans (Json.texts_perm perm)⟩

/-- The line of an event is one line, and tells of its name, its severity and its fields in
the order of their keys.  Of different keys it is read as just these, and the order in which
fields were given does not change it. -/
theorem line_decodes (event : LogEvent) :
    (Unbroken event.line.toList ∧
      (event.line ++ "\n").toList.splitOn '\n' = [event.line.toList, []]) ∧
    (∃ sorted, StablySorted event.fields sorted ∧
      Json.Outline.ofText? event.line = some (.object
        ((event.withHead sorted).map fun (name, text) => (name, [.text (some text)]))) ∧
      Json.read event.line = .ok (.ofMembers (Json.texts (event.withHead sorted)))) ∧
    (((event.withHead event.fields).map Prod.fst).Nodup → ∃ members,
      Json.read event.line = .ok (.object members) ∧
        members.Perm (Json.texts (event.withHead event.fields))) ∧
    ∀ fields, fields.Perm event.fields → (event.fields.map Prod.fst).Nodup →
      line { event with fields } = event.line := by
  refine ⟨⟨Json.unbroken_text _, event.splitOn_line⟩, ?_, exists_read_line, ?_⟩
  · apply Exists.intro event.sortedFields
    refine ⟨stablySorted_sortedFields event, ?_, event.read_line⟩
    exact Json.Outline.ofText?_texts (event.withHead event.sortedFields)
  · intro fields perm distinct
    unfold line members
    rw [sortedFields_eq_of_perm perm distinct]

/-- A name that looks like the end of its line stays within it. -/
theorem line_decodes_with_escapes :
    let event : LogEvent :=
      ⟨.warn, "a\"\x7d\n\x7b\"b", [("z", "\\"), ("\u00e9", "\x01"), ("path", "\t")]⟩
    let fields := [("path", "\t"), ("\u00e9", "\x01"), ("z", "\\")]
    '\n' ∉ event.line.toList ∧ line { event with fields } = event.line ∧
      ∃ members, Json.read event.line = .ok (.object members) ∧
        members.Perm (Json.texts (event.withHead event.fields)) := by
  intro event fields
  have decodes := line_decodes event
  refine ⟨?_, ?_, ?_⟩
  · intro inside
    exact absurd (decodes.1.1 '\n' inside) (by decide)
  · exact decodes.2.2.2 fields (by decide) (by decide)
  · exact decodes.2.2.1 (by decide)

end LogEvent
end CompactSchema
