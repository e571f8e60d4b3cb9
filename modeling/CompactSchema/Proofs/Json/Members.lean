import CompactSchema.Json.Outline
import CompactSchema.Proofs.Json.ReadBack

/-
Objects whose members stand in any order.

The text of such an object is read member by member, and each goes to its place: of members
of one name the last counts, and of different names none is lost.  The outline of the text
keeps the members as they were written.
-/

namespace CompactSchema
namespace Json

section

variable {α : Type}

theorem insertMember_perm {name : String} (value : α) {members : List (String × α)}
    (new : name ∉ members.map Prod.fst) :
    (insertMember name value members).Perm ((name, value) :: members) := by
  induction members with
  | nil => exact .refl _
  | cons member rest ih =>
      obtain ⟨other, held⟩ := member
      rw [List.map_cons, List.mem_cons, not_or] at new
      unfold insertMember
      split
      · exact .refl _
      · rw [if_neg new.1]
        exact ((ih new.2).cons _).trans (.swap _ _ _)

theorem foldl_insertMember_perm {members held : List (String × α)}
    (distinct : ((held ++ members).map Prod.fst).Nodup) :
    (members.foldl (fun held member => insertMember member.1 member.2 held) held).Perm
      (held ++ members) := by
  induction members generalizing held with
  | nil =>
      rw [List.append_nil]
      exact .refl _
  | cons member rest ih =>
      have front : (held ++ member :: rest).Perm (member :: (held ++ rest)) := List.perm_middle
      have distinct' := (front.map Prod.fst).nodup_iff.1 distinct
      have new : member.1 ∉ held.map Prod.fst := by
        intro inside
        rw [List.map_cons, List.nodup_cons, List.map_append] at distinct'
        exact distinct'.1 (List.mem_append_left _ inside)
      have inserted : (insertMember member.1 member.2 held ++ rest).Perm (member :: (held ++ rest)) :=
        (insertMember_perm member.2 new).append_right rest
      apply (ih ((inserted.map Prod.fst).nodup_iff.2 distinct')).trans
      exact inserted.trans front.symm

end

theorem readTokens_anyMembers {limit : Nat} (members : List (String × Json))
    (ordered : OrderedMembers members) (held : List (String × Json)) (before : String)
    (outer : List Frame) (rest : List Token) (room : outer.length + 1 + memberNesting members ≤ limit) :
    readTokens limit (.waiting .commaOrEnd (.object held before :: outer))
        (membersSpelling members rest) =
      readTokens limit
        (complete (.object (members.foldl (fun held member => insertMember member.1 member.2 held) held))
          outer) rest := by
  induction members generalizing held before with
  | nil => rfl
  | cons member others ih =>
      obtain ⟨name, value⟩ := member
      rw [memberNesting] at room
      rw [membersSpelling]
      show readTokens limit (.waiting .value (.object held name :: outer)) _ = _
      rw [readTokens_spelling value ordered.1 _ _ (by rw [List.length_cons]; omega),
        if_pos (by rw [List.length_cons]; omega)]
      exact ih ordered.2 (insertMember name value held) name (by omega)

theorem read_text_object {members : List (String × Json)} (ordered : OrderedMembers members)
    (integers : MembersIntegersOnly members) (flat : memberNesting members + 1 ≤ nestingLimit) :
    read (Json.object members).text = .ok (ofMembers members) := by
  have front : readFront nestingLimit (tokens (Json.object members).text) = .ok (ofMembers members, []) := by
    have whole : (Json.object members).IntegersOnly := integers
    rw [tokens_text whole, readFront]
    have room : ([] : List Frame).length < nestingLimit := by decide
    cases members with
    | nil => exact readTokens_openObject room _
    | cons first others =>
        obtain ⟨name, value⟩ := first
        rw [memberNesting] at flat
        rw [spelling, readTokens_openObject room]
        show readTokens nestingLimit (.waiting .value [.object [] name]) _ = _
        rw [readTokens_spelling value ordered.1 _ _ (by rw [List.length_singleton]; omega),
          if_pos (by rw [List.length_singleton]; omega)]
        show readTokens nestingLimit (.waiting .commaOrEnd [.object [(name, value)] name]) _ = _
        rw [readTokens_anyMembers others ordered.2 _ _ _ _ (by rw [List.length_nil]; omega)]
        rfl
  unfold read readWithin
  rw [front]

def texts (fields : List (String × String)) : List (String × Json) :=
  fields.map fun (name, text) => (name, .string text)

theorem names_texts (fields : List (String × String)) :
    (texts fields).map Prod.fst = fields.map Prod.fst := by
  unfold texts
  rw [List.map_map]
  rfl

theorem texts_perm {fields others : List (String × String)} (perm : fields.Perm others) :
    (texts fields).Perm (texts others) :=
  perm.map _

theorem ordered_texts (fields : List (String × String)) : OrderedMembers (texts fields) := by
  induction fields with
  | nil => trivial
  | cons field rest ih => exact ⟨trivial, ih⟩

theorem integersOnly_texts (fields : List (String × String)) : MembersIntegersOnly (texts fields) := by
  induction fields with
  | nil => trivial
  | cons field rest ih => exact ⟨trivial, ih⟩

theorem memberNesting_texts (fields : List (String × String)) : memberNesting (texts fields) = 0 := by
  induction fields with
  | nil => rfl
  | cons field rest ih =>
      show max 0 (memberNesting (texts rest)) = 0
      rw [ih]
      rfl

theorem read_text_texts (fields : List (String × String)) :
    read (Json.object (texts fields)).text = .ok (ofMembers (texts fields)) := by
  apply read_text_object (ordered_texts fields) (integersOnly_texts fields)
  rw [memberNesting_texts]
  decide

theorem exists_read_texts {fields : List (String × String)} (distinct : (fields.map Prod.fst).Nodup) :
    ∃ members, read (Json.object (texts fields)).text = .ok (.object members) ∧
      members.Perm (texts fields) := by
  have names : (([] ++ texts fields).map Prod.fst).Nodup := by
    rw [List.nil_append, names_texts]
    exact distinct
  exact ⟨_, read_text_texts fields, foldl_insertMember_perm names⟩

namespace Outline

theorem skip_text (text : String) (rest : List Token) : skip (.text (some text) :: rest) = .ok rest := by
  have front : readFront (rest.length + 1) ((Token.text (some text) :: rest).map blurred) =
      .ok (.string text, rest.map blurred) := by
    rw [readFront, List.map_cons]
    show readTokens _ (.waiting .value []) (.text (some text) :: rest.map blurred) = _
    rw [readTokens]
    show readTokens _ (.done (.string text)) (rest.map blurred) = _
    rw [readTokens]
  unfold skip
  rw [List.length_cons, front]
  dsimp only
  rw [List.length_map, Nat.add_sub_cancel_left]
  rfl

theorem splitValue_text (text : String) (rest : List Token) :
    splitValue (.text (some text) :: rest) = some ([.text (some text)], rest) := by
  unfold splitValue
  rw [skip_text]
  dsimp only
  rw [List.length_cons, Nat.add_sub_cancel_left]
  rfl

theorem members_texts {bound : Nat} (name text : String) (fields : List (String × String))
    (enough : fields.length < bound) (rest : List Token) :
    members bound (.text (some name) :: .colon :: .text (some text) ::
        membersSpelling (texts fields) rest) =
      some (((name, text) :: fields).map fun (name, text) => (name, [.text (some text)]), rest) := by
  induction fields generalizing bound name text with
  | nil =>
      cases bound with
      | zero => cases enough
      | succ bound =>
          rw [members, splitValue_text]
          rfl
  | cons field others ih =>
      obtain ⟨nextName, nextText⟩ := field
      cases bound with
      | zero => cases enough
      | succ bound =>
          have next := ih nextName nextText (Nat.lt_of_succ_lt_succ enough)
          rw [members, splitValue_text]
          show (members bound (.text (some nextName) :: .colon :: .text (some nextText) ::
            membersSpelling (texts others) rest) >>= _) = _
          rw [next]
          rfl

theorem length_membersSpelling_texts (fields : List (String × String)) (rest : List Token) :
    (membersSpelling (texts fields) rest).length = 4 * fields.length + rest.length + 1 := by
  induction fields with
  | nil =>
      show (Token.closeObject :: rest).length = _
      rw [List.length_cons, List.length_nil]
      omega
  | cons field others ih =>
      obtain ⟨name, text⟩ := field
      show (Token.comma :: .text (some name) :: .colon :: .text (some text) ::
        membersSpelling (texts others) rest).length = _
      simp only [List.length_cons, ih]
      omega

theorem front_texts (fields : List (String × String)) :
    front ((Json.object (texts fields)).spelling []) =
      some (.object (fields.map fun (name, text) => (name, [.text (some text)])), []) := by
  cases fields with
  | nil => rfl
  | cons first others =>
      obtain ⟨name, text⟩ := first
      let behind : List Token := .text (some name) :: .colon :: .text (some text) ::
        membersSpelling (texts others) []
      have enough : others.length < behind.length := by
        simp only [behind, List.length_cons, length_membersSpelling_texts]
        omega
      show (members behind.length behind).map (fun read => (Outline.object read.1, read.2)) = _
      rw [members_texts name text others enough []]
      rfl

theorem ofText?_texts (fields : List (String × String)) :
    ofText? (Json.object (texts fields)).text =
      some (.object (fields.map fun (name, text) => (name, [.text (some text)]))) := by
  have whole : (Json.object (texts fields)).IntegersOnly := integersOnly_texts fields
  unfold ofText?
  rw [tokens_text whole, front_texts]

end Outline
end Json
end CompactSchema
