import CompactSchema.Proofs.Regex.Whole

/-
The blocks of a match.

An expression that does not look at the places between characters knows a block by its
characters alone: where it leads from one place to another, it fits the block between them.
A whole text is matched exactly if it falls into blocks that the parts fit.
-/

namespace CompactSchema
namespace Regex

/-- The characters from one place to another. -/
def slice (text : List Char) (start stop : Nat) : List Char := (text.take stop).drop start

theorem slice_append {text : List Char} {start between stop : Nat} (first : start ≤ between)
    (second : between ≤ stop) (inside : between ≤ text.length) :
    slice text start between ++ slice text between stop = slice text start stop := by
  have shorter : (text.take stop).take between = text.take between := by
    rw [List.take_take, Nat.min_eq_left second]
  have length : start ≤ (text.take between).length := by
    rw [List.length_take, Nat.min_eq_left inside]
    exact first
  unfold slice
  rw [← List.drop_append_of_le_length length, ← shorter, List.take_append_drop]

theorem slice_self (text : List Char) (place : Nat) : slice text place place = [] :=
  List.drop_eq_nil_of_le (List.length_take_le place text)

theorem slice_succ {text : List Char} {place : Nat} {c : Char} (found : text[place]? = some c) :
    slice text place (place + 1) = [c] := by
  have inside := (List.getElem?_eq_some_iff.1 found).1
  have length : place ≤ (text.take place).length := by
    rw [List.length_take]
    omega
  rw [slice, List.take_add_one, found, List.drop_append_of_le_length length]
  exact congrArg (· ++ [c]) (slice_self text place)

theorem slice_all (text : List Char) : slice text 0 text.length = text := List.take_length

/-- The expression does not look at the places between characters. -/
def isPlain : Regex → Bool
  | .empty | .chars _ => true
  | .look _ => false
  | .seq first second => first.isPlain && second.isPlain
  | .alt left right => left.isPlain && right.isPlain
  | .repeated body _ _ _ => body.isPlain
  | .group _ body => body.isPlain

section

variable {text : List Char} {start stop : Nat}

theorem places_of_forward {leads : Nat → Nat → Prop} (onward : Steps.Forward text.length leads)
    (inside : start ≤ text.length) (leading : leads start stop) : start ≤ stop ∧ stop ≤ text.length := by
  have forward := onward start stop leading
  omega

/-- Steps that each fit the block between their places fall into as many blocks. -/
theorem exists_blocks_of_steps {body : Regex}
    (fits : ∀ {start stop}, start ≤ text.length → body.Leads text start stop →
      body.Fits (slice text start stop))
    {n : Nat} (inside : start ≤ text.length) (steps : Steps (body.Leads text) n start stop) :
    ∃ blocks : List (List Char),
      blocks.length = n ∧ (∀ block ∈ blocks, body.Fits block) ∧ blocks.flatten = slice text start stop := by
  induction n generalizing start with
  | zero =>
      have same : start = stop := steps
      exact ⟨[], rfl, nofun, by rw [same, slice_self, List.flatten_nil]⟩
  | succ n ih =>
      obtain ⟨between, first, rest⟩ := steps
      obtain ⟨later, within⟩ := places_of_forward (leads_forward text body) inside first
      obtain ⟨last, _⟩ := places_of_forward (Steps.forward (leads_forward text body) n) within rest
      obtain ⟨blocks, count, each, whole⟩ := ih within rest
      refine ⟨slice text start between :: blocks, congrArg (· + 1) count,
        List.forall_mem_cons.2 ⟨fits inside first, each⟩, ?_⟩
      rw [List.flatten_cons, whole, slice_append later last within]

theorem fits_slice_of_leads {regex : Regex} (plain : regex.isPlain = true) (inside : start ≤ text.length)
    (leads : regex.Leads text start stop) : regex.Fits (slice text start stop) := by
  induction regex generalizing start stop with
  | empty =>
      have same : start = stop := leads
      rw [same, slice_self]
      exact fun before after => rfl
  | chars set =>
      obtain ⟨⟨c, found, member⟩, rfl⟩ := leads
      rw [slice_succ found]
      exact fits_chars member
  | look condition => cases plain
  | seq first second ihFirst ihSecond =>
      obtain ⟨plainFirst, plainSecond⟩ := Bool.and_eq_true_iff.1 plain
      obtain ⟨between, one, other⟩ := leads
      obtain ⟨later, within⟩ := places_of_forward (leads_forward text first) inside one
      obtain ⟨last, _⟩ := places_of_forward (leads_forward text second) within other
      rw [← slice_append later last within]
      exact fits_seq (ihFirst plainFirst inside one) (ihSecond plainSecond within other)
  | alt left right ihLeft ihRight =>
      obtain ⟨plainLeft, plainRight⟩ := Bool.and_eq_true_iff.1 plain
      rcases leads with one | other
      · exact fun before after => .inl (ihLeft plainLeft inside one before after)
      · exact fun before after => .inr (ihRight plainRight inside other before after)
  | repeated body least most greedy ih =>
      obtain ⟨n, enough, few, steps⟩ := leads
      obtain ⟨blocks, rfl, each, whole⟩ := exists_blocks_of_steps (ih plain) inside steps
      rw [← whole]
      exact fits_rounds each enough few
  | group capturing body ih => exact ih plain inside leads

theorem exists_blocks_of_leads {parts : List Regex} (plain : ∀ part ∈ parts, part.isPlain = true)
    (inside : start ≤ text.length) (leads : (sequence parts).Leads text start stop) :
    ∃ blocks, List.Forall₂ Fits parts blocks ∧ blocks.flatten = slice text start stop := by
  induction parts generalizing start with
  | nil =>
      have same : start = stop := leads
      exact ⟨[], .nil, by rw [same, slice_self, List.flatten_nil]⟩
  | cons part parts ih =>
      obtain ⟨plainPart, plainParts⟩ := List.forall_mem_cons.1 plain
      obtain ⟨between, first, rest⟩ := leads_sequence_cons.1 leads
      obtain ⟨later, within⟩ := places_of_forward (leads_forward text part) inside first
      obtain ⟨last, _⟩ := places_of_forward (leads_forward text (sequence parts)) within rest
      obtain ⟨blocks, each, whole⟩ := ih plainParts within rest
      have fits := fits_slice_of_leads plainPart inside first
      refine ⟨slice text start between :: blocks, .cons fits each, ?_⟩
      rw [List.flatten_cons, whole, slice_append later last within]

end

/-- Plain parts match a whole text exactly if it falls into blocks that they fit. -/
theorem isMatch_whole_iff_blocks {parts : List Regex} (plain : ∀ part ∈ parts, part.isPlain = true)
    {text : List Char} :
    (Format.whole parts).isMatch text = true ↔
      ∃ blocks, List.Forall₂ Fits parts blocks ∧ blocks.flatten = text := by
  constructor
  · intro matched
    have blocks := exists_blocks_of_leads plain (Nat.zero_le _) (isMatch_whole_iff.1 matched)
    rwa [slice_all] at blocks
  · rintro ⟨blocks, fits, rfl⟩
    exact isMatch_whole fits

theorem fits_iff_leads {regex : Regex} (plain : regex.isPlain = true) {text : List Char} :
    regex.Fits text ↔ regex.Leads text 0 text.length := by
  constructor
  · intro fits
    have leads := fits [] []
    rwa [List.append_nil, List.nil_append, List.length_nil, Nat.zero_add] at leads
  · intro leads
    have fits := fits_slice_of_leads plain (Nat.zero_le _) leads
    rwa [slice_all] at fits

theorem fits_chars_iff {set : CharSet} {text : List Char} :
    (chars set).Fits text ↔ ∃ c, text = [c] ∧ set.contains c = true := by
  constructor
  · intro fits
    obtain ⟨⟨c, found, inside⟩, length⟩ := (fits_iff_leads rfl).1 fits
    refine ⟨c, ?_, inside⟩
    rw [← slice_succ found, ← length, slice_all]
  · rintro ⟨c, rfl, inside⟩
    exact fits_chars inside

theorem chars_of_fits {set : CharSet} {blocks : List (List Char)}
    (each : ∀ block ∈ blocks, (chars set).Fits block) :
    (∀ c ∈ blocks.flatten, set.contains c = true) ∧ blocks.flatten.length = blocks.length := by
  induction blocks with
  | nil => exact ⟨nofun, rfl⟩
  | cons block blocks ih =>
      obtain ⟨first, others⟩ := List.forall_mem_cons.1 each
      obtain ⟨c, rfl, inside⟩ := fits_chars_iff.1 first
      obtain ⟨all, count⟩ := ih others
      exact ⟨List.forall_mem_cons.2 ⟨inside, all⟩, congrArg (· + 1) count⟩

theorem fits_repeated_iff {set : CharSet} {least : Nat} {most : Option Nat} {greedy : Bool}
    (possible : ∀ limit, most = some limit → least ≤ limit) {text : List Char} :
    (repeated (chars set) least most greedy).Fits text ↔
      (∀ c ∈ text, set.contains c = true) ∧ least ≤ text.length ∧
        ∀ limit, most = some limit → text.length ≤ limit := by
  constructor
  · intro fits
    obtain ⟨n, enough, few, steps⟩ := (fits_iff_leads rfl).1 fits
    obtain ⟨blocks, rfl, each, whole⟩ := exists_blocks_of_steps (fits_slice_of_leads rfl) (Nat.zero_le _) steps
    obtain ⟨all, count⟩ := chars_of_fits each
    rw [whole, slice_all] at all count
    rw [← count] at enough few
    refine ⟨all, enough, fun limit present => ?_⟩
    rw [← Nat.max_eq_right (possible limit present)]
    exact few limit present
  · rintro ⟨all, enough, few⟩
    exact fits_repeated all enough few

/-- One character of each set, in a row. -/
def Spells (sets : List CharSet) (text : List Char) : Prop :=
  List.Forall₂ (fun set c => set.contains c = true) sets text

theorem spells_append_iff {left right : List CharSet} {text : List Char} :
    Spells (left ++ right) text ↔
      ∃ block rest, block ++ rest = text ∧ Spells left block ∧ Spells right rest := by
  constructor
  · intro spells
    have front := List.forall₂_take left.length spells
    have back := List.forall₂_drop left.length spells
    rw [List.take_left] at front
    rw [List.drop_left] at back
    exact ⟨text.take left.length, text.drop left.length, List.take_append_drop _ text, front, back⟩
  · rintro ⟨block, rest, rfl, front, back⟩
    exact List.rel_append front back

theorem spells_replicate_iff {set : CharSet} {count : Nat} {text : List Char} :
    Spells (List.replicate count set) text ↔ (∀ c ∈ text, set.contains c = true) ∧ text.length = count := by
  induction count generalizing text with
  | zero =>
      constructor
      · intro spells
        rw [List.forall₂_nil_left_iff.1 spells]
        exact ⟨nofun, rfl⟩
      · rintro ⟨_, length⟩
        rw [List.eq_nil_of_length_eq_zero length]
        exact .nil
  | succ count ih =>
      cases text with
      | nil => simp [Spells, List.replicate_succ]
      | cons c rest =>
          rw [List.replicate_succ, List.forall_mem_cons, List.length_cons, Nat.add_right_cancel_iff, and_assoc,
            ← ih]
          exact List.forall₂_cons

theorem spells_map_range_iff {count : Nat} {sets : Nat → CharSet} {text : List Char} :
    Spells ((List.range count).map sets) text ↔
      text.length = count ∧ ∀ place c, text[place]? = some c → (sets place).contains c = true := by
  unfold Spells
  simp only [List.forall₂_iff_get, List.length_map, List.length_range, List.get_eq_getElem, List.getElem_map,
    List.getElem_range]
  constructor
  · rintro ⟨length, each⟩
    refine ⟨length.symm, fun place c found => ?_⟩
    obtain ⟨inside, rfl⟩ := List.getElem?_eq_some_iff.1 found
    exact each place (by omega) inside
  · rintro ⟨rfl, each⟩
    exact ⟨rfl, fun place _ inside => each place _ (List.getElem?_eq_getElem inside)⟩

/-- The expression fits just the blocks of some width with characters of given sets. -/
def IsSpelt (regex : Regex) (sets : List CharSet) : Prop := ∀ block, regex.Fits block ↔ Spells sets block

theorem isSpelt_chars (set : CharSet) : (chars set).IsSpelt [set] := by
  intro block
  rw [fits_chars_iff]
  constructor
  · rintro ⟨c, rfl, inside⟩
    exact .cons inside .nil
  · intro spells
    obtain ⟨c, rest, inside, others, rfl⟩ := List.forall₂_cons_left_iff.1 spells
    rw [List.forall₂_nil_left_iff.1 others]
    exact ⟨c, rfl, inside⟩

theorem isSpelt_exactly (count : Nat) (set : CharSet) :
    (Format.exactly count set).IsSpelt (List.replicate count set) := by
  intro block
  have possible : ∀ limit, some count = some limit → count ≤ limit := by
    rintro limit ⟨⟩
    exact Nat.le_refl count
  rw [Format.exactly, fits_repeated_iff possible, spells_replicate_iff]
  refine and_congr_right fun _ => ?_
  constructor
  · rintro ⟨least, most⟩
    exact Nat.le_antisymm (most count rfl) least
  · rintro rfl
    exact ⟨Nat.le_refl _, possible⟩

theorem isMatch_whole_iff_spells {parts : List Regex} (plain : ∀ part ∈ parts, part.isPlain = true)
    {sets : List (List CharSet)} (spelt : List.Forall₂ IsSpelt parts sets) {text : List Char} :
    (Format.whole parts).isMatch text = true ↔ Spells sets.flatten text := by
  rw [isMatch_whole_iff_blocks plain]
  clear plain
  induction spelt generalizing text with
  | nil =>
      constructor
      · rintro ⟨blocks, fits, rfl⟩
        rw [List.forall₂_nil_left_iff.1 fits]
        exact .nil
      · intro spells
        exact ⟨[], .nil, (List.forall₂_nil_left_iff.1 spells).symm⟩
  | @cons part set parts sets first _ ih =>
      rw [List.flatten_cons, spells_append_iff]
      constructor
      · rintro ⟨blocks, fits, rfl⟩
        obtain ⟨block, rest, here, others, rfl⟩ := List.forall₂_cons_left_iff.1 fits
        exact ⟨block, rest.flatten, rfl, (first block).1 here, ih.1 ⟨rest, others, rfl⟩⟩
      · rintro ⟨block, rest, rfl, here, others⟩
        obtain ⟨blocks, fits, rfl⟩ := ih.2 others
        exact ⟨block :: blocks, .cons ((first block).2 here) fits, rfl⟩

end Regex
end CompactSchema
