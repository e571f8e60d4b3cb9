import CompactSchema.Json.Reader
import CompactSchema.Proofs.Json.Spelling
import Mathlib.Tactic.Tauto

/-
Values read back from their text.

The text of an ordered value without doubles is read as the value if no more containers
are open at once than the limit allows, and is refused otherwise: the reader fails at
the bracket that is one too many, whatever stands behind it.
-/

namespace CompactSchema
namespace Json

theorem insertMember_of_last {name : String} {members : List (String × Json)} (value : Json)
    (last : ∀ member ∈ members, member.1 < name) :
    insertMember name value members = members ++ [(name, value)] := by
  induction members with
  | nil => rfl
  | cons first rest ih =>
      obtain ⟨other, held⟩ := first
      have before : other < name := last (other, held) List.mem_cons_self
      have notBehind : ¬ name < other := String.lt_asymm before
      have notSame : name ≠ other := fun same => String.lt_irrefl other (same ▸ before)
      rw [insertMember, if_neg notBehind, if_neg notSame,
        ih fun member inside => last member (List.mem_cons_of_mem _ inside), List.cons_append]

theorem readTokens_elementOrEnd (limit : Nat) (stack : List Frame) (value : Json) (rest : List Token) :
    readTokens limit (.waiting .elementOrEnd stack) (spelling value rest) =
      readTokens limit (.waiting .value stack) (spelling value rest) := by
  cases value with
  | array elements => cases elements <;> rfl
  | object members => cases members <;> rfl
  | _ => rfl

/-- One container too many is refused at its bracket. -/
theorem readTokens_full {limit : Nat} {stack : List Frame} (full : ¬ stack.length < limit)
    (token : Token) (bracket : token = .openArray ∨ token = .openObject) (rest : List Token) :
    readTokens limit (.waiting .value stack) (token :: rest) = .error .illFormed := by
  rcases bracket with rfl | rfl <;> simp [readTokens, advance, beginValue, full]

theorem readTokens_openArray {limit : Nat} {stack : List Frame} (room : stack.length < limit)
    (rest : List Token) :
    readTokens limit (.waiting .value stack) (.openArray :: rest) =
      readTokens limit (.waiting .elementOrEnd (.array [] :: stack)) rest := by
  simp [readTokens, advance, beginValue, room]

theorem readTokens_openObject {limit : Nat} {stack : List Frame} (room : stack.length < limit)
    (rest : List Token) :
    readTokens limit (.waiting .value stack) (.openObject :: rest) =
      readTokens limit (.waiting .nameOrEnd (.object [] "" :: stack)) rest := by
  simp [readTokens, advance, beginValue, room]

theorem ite_fit_both {α : Type} (used first others limit : Nat) (read refused : α) :
    (if used + first ≤ limit then if used + others ≤ limit then read else refused else refused) =
      if used + max first others ≤ limit then read else refused := by
  by_cases fits : used + max first others ≤ limit
  · rw [if_pos (by omega), if_pos (by omega), if_pos fits]
  · rw [if_neg fits]
    by_cases firstFits : used + first ≤ limit
    · rw [if_pos firstFits, if_neg (by omega)]
    · rw [if_neg firstFits]

mutual

/-- Within the limit the reader goes on with the value complete, beyond it the text is
refused. -/
theorem readTokens_spelling {limit : Nat} (value : Json) (ordered : value.Ordered)
    (stack : List Frame) (rest : List Token) (room : stack.length ≤ limit) :
    readTokens limit (.waiting .value stack) (spelling value rest) =
      if stack.length + value.nesting ≤ limit then readTokens limit (complete value stack) rest
      else .error .illFormed := by
  cases value with
  | array elements =>
      by_cases below : stack.length < limit
      · cases elements with
        | nil =>
            rw [if_pos (by simp only [nesting, elementNesting]; omega)]
            exact readTokens_openArray below _
        | cons first others =>
            rw [spelling, readTokens_openArray below, readTokens_elementOrEnd,
              readTokens_spelling first ordered.1 (.array [] :: stack) _ below, complete,
              readTokens_elementsSpelling others ordered.2 [first] stack rest below]
            rw [nesting, elementNesting, List.length_cons, ite_fit_both, Nat.add_comm (max _ _) 1,
              ← Nat.add_assoc]
            rfl
      · rw [if_neg (by simp only [nesting]; omega)]
        cases elements <;> exact readTokens_full below _ (.inl rfl) _
  | object members =>
      by_cases below : stack.length < limit
      · cases members with
        | nil =>
            rw [if_pos (by simp only [nesting, memberNesting]; omega)]
            exact readTokens_openObject below _
        | cons first others =>
            obtain ⟨name, value⟩ := first
            obtain ⟨increasing, orderedValue, orderedOthers⟩ := ordered
            rw [spelling, readTokens_openObject below]
            show readTokens limit (.waiting .value (.object [] name :: stack)) _ = _
            rw [readTokens_spelling value orderedValue (.object [] name :: stack) _ below, complete,
              insertMember,
              readTokens_membersSpelling others orderedOthers [(name, value)] increasing name stack rest
                below]
            rw [nesting, memberNesting, List.length_cons, ite_fit_both, Nat.add_comm (max _ _) 1,
              ← Nat.add_assoc]
            rfl
      · rw [if_neg (by simp only [nesting]; omega)]
        cases members <;> exact readTokens_full below _ (.inr rfl) _
  | _ =>
      rw [if_pos (by simp only [nesting]; omega)]
      rfl

theorem readTokens_elementsSpelling {limit : Nat} (elements : List Json)
    (ordered : OrderedElements elements) (held : List Json) (outer : List Frame) (rest : List Token)
    (room : outer.length < limit) :
    readTokens limit (.waiting .commaOrEnd (.array held :: outer)) (elementsSpelling elements rest) =
      if outer.length + 1 + elementNesting elements ≤ limit then
        readTokens limit (complete (.array (held.reverse ++ elements)) outer) rest
      else .error .illFormed := by
  cases elements with
  | nil =>
      rw [if_pos (by simp only [elementNesting]; omega), List.append_nil]
      rfl
  | cons element others =>
      rw [elementsSpelling]
      show readTokens limit (.waiting .value (.array held :: outer)) _ = _
      rw [readTokens_spelling element ordered.1 (.array held :: outer) _ room, complete,
        readTokens_elementsSpelling others ordered.2 (element :: held) outer rest room]
      rw [elementNesting, List.length_cons, ite_fit_both, List.reverse_cons, List.append_assoc,
        List.singleton_append]

theorem readTokens_membersSpelling {limit : Nat} (members : List (String × Json))
    (ordered : OrderedMembers members) (held : List (String × Json))
    (increasing : NamesIncrease (held ++ members)) (before : String) (outer : List Frame)
    (rest : List Token) (room : outer.length < limit) :
    readTokens limit (.waiting .commaOrEnd (.object held before :: outer))
        (membersSpelling members rest) =
      if outer.length + 1 + memberNesting members ≤ limit then
        readTokens limit (complete (.object (held ++ members)) outer) rest
      else .error .illFormed := by
  cases members with
  | nil =>
      rw [if_pos (by simp only [memberNesting]; omega), List.append_nil]
      rfl
  | cons member others =>
      obtain ⟨name, value⟩ := member
      have last (earlier : String × Json) (inside : earlier ∈ held) : earlier.1 < name :=
        (List.pairwise_append.1 increasing).2.2 earlier inside (name, value) List.mem_cons_self
      have shape : held ++ (name, value) :: others = (held ++ [(name, value)]) ++ others := by
        rw [List.append_assoc, List.singleton_append]
      rw [membersSpelling]
      show readTokens limit (.waiting .value (.object held name :: outer)) _ = _
      rw [shape] at increasing ⊢
      rw [readTokens_spelling value ordered.1 (.object held name :: outer) _ room, complete,
        insertMember_of_last value last,
        readTokens_membersSpelling others ordered.2 _ increasing name outer rest room]
      rw [memberNesting, List.length_cons, ite_fit_both]

end

/-- Members are in order and numbers are integers, so that nothing is lost in the text. -/
def Exact (value : Json) : Prop := value.Ordered ∧ value.IntegersOnly

theorem exact_array_iff {elements : List Json} :
    (Json.array elements).Exact ↔ ∀ element ∈ elements, element.Exact := by
  show OrderedElements elements ∧ ElementsIntegersOnly elements ↔ _
  induction elements with
  | nil => simp [OrderedElements, ElementsIntegersOnly]
  | cons element rest ih =>
      rw [List.forall_mem_cons, ← ih]
      simp only [OrderedElements, ElementsIntegersOnly, Exact]
      tauto

theorem exact_object_iff {members : List (String × Json)} :
    (Json.object members).Exact ↔ NamesIncrease members ∧ ∀ member ∈ members, member.2.Exact := by
  have each : OrderedMembers members ∧ MembersIntegersOnly members ↔
      ∀ member ∈ members, member.2.Exact := by
    induction members with
    | nil => simp [OrderedMembers, MembersIntegersOnly]
    | cons member rest ih =>
        rw [List.forall_mem_cons, ← ih]
        simp only [OrderedMembers, MembersIntegersOnly, Exact]
        tauto
  rw [← each]
  exact and_assoc

/-- The text of an exact value is read as the value when the limit allows its nesting,
and refused when it does not. -/
theorem readFront_text {value : Json} (limit : Nat) (exact : value.Exact) :
    readFront limit (tokens value.text) =
      if value.nesting ≤ limit then .ok (value, []) else .error .illFormed := by
  rw [tokens_text exact.2, readFront, readTokens_spelling value exact.1 [] [] (Nat.zero_le _),
    List.length_nil, Nat.zero_add]
  rfl

end Json
end CompactSchema
