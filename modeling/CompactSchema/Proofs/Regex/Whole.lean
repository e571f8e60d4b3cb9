import CompactSchema.Format
import CompactSchema.Proofs.Regex.Matching
import Mathlib.Data.List.Forall2

/-
Expressions for whole texts.

An expression with a condition for the start of a text before it and one for the end
behind it matches if its parts lead from one end to the other.  A part fits a block of
characters if it matches the block whatever stands around it, and parts match the blocks
that they fit in a row.
-/

namespace CompactSchema
namespace Regex

theorem leads_sequence_cons {text : List Char} {first : Regex} {rest : List Regex} {start stop : Nat} :
    (sequence (first :: rest)).Leads text start stop ↔
      ∃ between, first.Leads text start between ∧ (sequence rest).Leads text between stop := by
  cases rest with
  | nil => exact ⟨fun leads => ⟨stop, leads, rfl⟩, fun ⟨_, leads, same⟩ => same ▸ leads⟩
  | cons second others => exact Iff.rfl

theorem leads_sequence_append {text : List Char} {parts others : List Regex} {start stop : Nat} :
    (sequence (parts ++ others)).Leads text start stop ↔
      ∃ between, (sequence parts).Leads text start between ∧ (sequence others).Leads text between stop := by
  induction parts generalizing start with
  | nil => exact ⟨fun leads => ⟨start, rfl, leads⟩, fun ⟨_, same, leads⟩ => same ▸ leads⟩
  | cons first parts ih =>
      rw [List.cons_append, leads_sequence_cons]
      constructor
      · rintro ⟨next, leads, rest⟩
        obtain ⟨between, leading, final⟩ := ih.1 rest
        exact ⟨between, leads_sequence_cons.2 ⟨next, leads, leading⟩, final⟩
      · rintro ⟨between, leading, final⟩
        obtain ⟨next, leads, rest⟩ := leads_sequence_cons.1 leading
        exact ⟨next, leads, ih.2 ⟨between, rest, final⟩⟩

theorem leads_textStart {text : List Char} {start stop : Nat} :
    (look .textStart).Leads text start stop ↔ start = 0 ∧ stop = 0 := by
  cases start with
  | zero => simp [Leads, Look.holds, charBefore, eq_comm]
  | succ start =>
      simp only [Leads, Look.holds, charBefore]
      constructor
      · rintro ⟨⟨inside, none⟩, _⟩
        rw [Option.isNone_iff_eq_none, List.getElem?_eq_none_iff] at none
        omega
      · omega

theorem leads_textEnd {text : List Char} {start stop : Nat} :
    (look .textEnd).Leads text start stop ↔ start = text.length ∧ stop = text.length := by
  simp only [Leads, Look.holds, Option.isNone_iff_eq_none, List.getElem?_eq_none_iff]
  omega

theorem isMatch_whole_iff {parts : List Regex} {text : List Char} :
    (Format.whole parts).isMatch text = true ↔ (sequence parts).Leads text 0 text.length := by
  have only : sequence [look .textEnd] = look .textEnd := rfl
  simp only [isMatch_iff, Format.whole, leads_sequence_cons, leads_sequence_append, only, leads_textStart,
    leads_textEnd]
  constructor
  · rintro ⟨start, stop, _, _, ⟨_, rfl⟩, _, leads, rfl, rfl⟩
    exact leads
  · exact fun leads => ⟨0, text.length, Nat.zero_le _, 0, ⟨rfl, rfl⟩, text.length, leads, rfl, rfl⟩

/-- A relation of places leads from the start of the block to its end, whatever stands before
and behind the block. -/
def Spans (leads : List Char → Nat → Nat → Prop) (block : List Char) : Prop :=
  ∀ before after, leads (before ++ (block ++ after)) before.length (before.length + block.length)

theorem Spans.append {first second : List Char → Nat → Nat → Prop} {left right : List Char}
    (one : Spans first left) (other : Spans second right) :
    Spans (fun text start stop => ∃ between, first text start between ∧ second text between stop)
      (left ++ right) := by
  intro before after
  have leads := one before (right ++ after)
  have rest := other (before ++ left) after
  simp only [List.length_append, List.append_assoc, Nat.add_assoc] at leads rest ⊢
  exact ⟨before.length + left.length, leads, rest⟩

/-- The expression matches the block whatever stands before and behind it. -/
def Fits (regex : Regex) (block : List Char) : Prop :=
  ∀ before after, regex.Leads (before ++ (block ++ after)) before.length (before.length + block.length)

theorem fits_chars {set : CharSet} {c : Char} (inside : set.contains c = true) : (chars set).Fits [c] :=
  fun before after => ⟨⟨c, by simp, inside⟩, rfl⟩

theorem contains_single (c : Char) : (CharSet.single c).contains c = true := by
  simp [CharSet.single, CharSet.span, CharSet.contains, CharSet.containsCode, Unicode.inRanges]

theorem fits_one (c : Char) : (Format.one c).Fits [c] := fits_chars (contains_single c)

theorem fits_seq {first second : Regex} {left right : List Char} (one : first.Fits left)
    (other : second.Fits right) : (seq first second).Fits (left ++ right) :=
  @Spans.append first.Leads second.Leads left right one other

theorem spans_steps {body : Regex} {blocks : List (List Char)} (each : ∀ block ∈ blocks, body.Fits block) :
    Spans (fun text => Steps (body.Leads text) blocks.length) blocks.flatten := by
  induction blocks with
  | nil => exact fun before after => rfl
  | cons block blocks ih =>
      obtain ⟨first, others⟩ := List.forall_mem_cons.1 each
      exact Spans.append first (ih others)

theorem fits_rounds {body : Regex} {least : Nat} {most : Option Nat} {greedy : Bool}
    {blocks : List (List Char)} (each : ∀ block ∈ blocks, body.Fits block) (enough : least ≤ blocks.length)
    (few : ∀ limit, most = some limit → blocks.length ≤ max least limit) :
    (repeated body least most greedy).Fits blocks.flatten :=
  fun before after => ⟨blocks.length, enough, few, spans_steps each before after⟩

theorem fits_repeated {set : CharSet} {least : Nat} {most : Option Nat} {greedy : Bool} {block : List Char}
    (all : ∀ c ∈ block, set.contains c = true) (enough : least ≤ block.length)
    (few : ∀ limit, most = some limit → block.length ≤ limit) :
    (repeated (chars set) least most greedy).Fits block := by
  have rounds : (block.map fun c => [c]).flatten = block := List.flatMap_singleton' block
  rw [← rounds]
  apply fits_rounds
  · intro one inside
    obtain ⟨c, here, rfl⟩ := List.mem_map.1 inside
    exact fits_chars (all c here)
  · rwa [List.length_map]
  · intro limit present
    rw [List.length_map]
    exact Nat.le_trans (few limit present) (Nat.le_max_right _ _)

theorem fits_sequence {parts : List Regex} {blocks : List (List Char)}
    (fits : List.Forall₂ Fits parts blocks) : (sequence parts).Fits blocks.flatten := by
  induction fits with
  | nil => exact fun before after => rfl
  | cons here others ih => exact fun before after => leads_sequence_cons.2 (fits_seq here ih before after)

theorem isMatch_whole {parts : List Regex} {blocks : List (List Char)}
    (fits : List.Forall₂ Fits parts blocks) : (Format.whole parts).isMatch blocks.flatten = true := by
  have leads := fits_sequence fits [] []
  rw [List.append_nil] at leads
  exact isMatch_whole_iff.2 (by simpa using leads)

end Regex
end CompactSchema
