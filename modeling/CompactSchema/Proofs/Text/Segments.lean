/-
Texts that fall into segments.

A segment begins with a mark and holds no other mark, so a text that is put together from
segments falls into these segments and no others.
-/

namespace CompactSchema

/-- A mark, and behind it no other mark. -/
def IsSegment (mark : Char → Prop) (chars : List Char) : Prop :=
  ∃ first rest, chars = first :: rest ∧ mark first ∧ ∀ c ∈ rest, ¬ mark c

section

variable {mark : Char → Prop}

/-- Two texts that agree have the same characters before their first marks. -/
theorem eq_and_eq_of_append_eq {front front' behind behind' : List Char}
    (plain : ∀ c ∈ front, ¬ mark c) (plain' : ∀ c ∈ front', ¬ mark c)
    (begins : ∀ c ∈ behind.head?, mark c) (begins' : ∀ c ∈ behind'.head?, mark c)
    (same : front ++ behind = front' ++ behind') : front = front' ∧ behind = behind' := by
  induction front generalizing front' with
  | nil =>
      cases front' with
      | nil => exact ⟨rfl, same⟩
      | cons c rest =>
          have first : c ∈ behind.head? := congrArg List.head? same
          exact absurd (begins c first) (plain' c List.mem_cons_self)
  | cons c rest ih =>
      cases front' with
      | nil =>
          have first : c ∈ behind'.head? := congrArg List.head? same.symm
          exact absurd (begins' c first) (plain c List.mem_cons_self)
      | cons c' rest' =>
          obtain ⟨rfl, tails⟩ := List.cons.inj same
          have later := ih (fun d inside => plain d (List.mem_cons_of_mem c inside))
            (fun d inside => plain' d (List.mem_cons_of_mem c inside)) tails
          exact ⟨congrArg (c :: ·) later.1, later.2⟩

theorem mark_of_mem_head?_flatten {segments : List (List Char)}
    (all : ∀ segment ∈ segments, IsSegment mark segment) : ∀ c ∈ segments.flatten.head?, mark c := by
  intro c first
  cases segments with
  | nil => cases first
  | cons segment others =>
      obtain ⟨d, rest, rfl, marked, _⟩ := all segment List.mem_cons_self
      cases first
      exact marked

theorem segments_eq_of_flatten_eq {segments segments' : List (List Char)}
    (all : ∀ segment ∈ segments, IsSegment mark segment)
    (all' : ∀ segment ∈ segments', IsSegment mark segment)
    (same : segments.flatten = segments'.flatten) : segments = segments' := by
  induction segments generalizing segments' with
  | nil =>
      cases segments' with
      | nil => rfl
      | cons segment others =>
          obtain ⟨c, rest, rfl, _⟩ := all' segment List.mem_cons_self
          cases same
  | cons segment others ih =>
      obtain ⟨c, rest, rfl, _, plain⟩ := all segment List.mem_cons_self
      cases segments' with
      | nil => cases same
      | cons segment' others' =>
          obtain ⟨c', rest', rfl, _, plain'⟩ := all' segment' List.mem_cons_self
          obtain ⟨rfl, tails⟩ := List.cons.inj same
          -- Behind its mark, the first segment of either list ends where the next mark stands.
          have later := fun segment inside => all segment (List.mem_cons_of_mem _ inside)
          have later' := fun segment inside => all' segment (List.mem_cons_of_mem _ inside)
          obtain ⟨rfl, behind⟩ := eq_and_eq_of_append_eq plain plain' (mark_of_mem_head?_flatten later)
            (mark_of_mem_head?_flatten later') tails
          rw [ih later later' behind]

end

/-- The characters of a text that grows by a part for each element of a list. -/
theorem toList_foldl_append {α : Type} (part : α → String) (start : String) (elements : List α) :
    (elements.foldl (fun text element => text ++ part element) start).toList =
      start.toList ++ (elements.map fun element => (part element).toList).flatten := by
  induction elements generalizing start with
  | nil => exact (List.append_nil _).symm
  | cons element others ih =>
      rw [List.foldl_cons, ih, String.toList_append, List.map_cons, List.flatten_cons, List.append_assoc]

end CompactSchema
