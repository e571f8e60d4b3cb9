import CompactSchema.Json.Reader

/-
How deeply a document nests.

The brackets among its tokens tell how many containers are open at once, and the reader
keeps these very containers on its stack.  What is complete inside a container nests no
more deeply than the limit leaves room for above it.  So a document that is read never had
more containers open than the limit allows, and its value nests no more deeply.
-/

namespace CompactSchema

/-! ### Brackets -/

/-- The number of open containers behind a token, when some are open before it. -/
def Token.openBehind (before : Nat) : Token → Nat
  | .openArray | .openObject => before + 1
  | .closeArray | .closeObject => before - 1
  | _ => before

namespace Json

/-- The number of containers that are open behind the tokens at the front of a
document. -/
def openBehind (front : List Token) : Nat := front.foldl Token.openBehind 0

/-! ### Nesting of parts -/

theorem elementNesting_append (elements others : List Json) :
    elementNesting (elements ++ others) = max (elementNesting elements) (elementNesting others) := by
  induction elements with
  | nil => exact (Nat.zero_max _).symm
  | cons element rest ih => rw [List.cons_append, elementNesting, elementNesting, ih, Nat.max_assoc]

theorem elementNesting_reverse (elements : List Json) :
    elementNesting elements.reverse = elementNesting elements := by
  induction elements with
  | nil => rfl
  | cons element rest ih =>
      rw [List.reverse_cons, elementNesting_append, ih, elementNesting, elementNesting, elementNesting,
        Nat.max_zero, Nat.max_comm]

theorem memberNesting_insertMember_le (name : String) (value : Json) (members : List (String × Json)) :
    memberNesting (insertMember name value members) ≤ max value.nesting (memberNesting members) := by
  induction members with
  | nil => exact Nat.le_refl _
  | cons member rest ih =>
      obtain ⟨other, held⟩ := member
      unfold insertMember
      split
      · exact Nat.le_refl _
      · split
        · simp only [memberNesting]
          omega
        · simp only [memberNesting]
          omega

theorem nesting_le_memberNesting {members : List (String × Json)} {name : String} {value : Json}
    (inside : (name, value) ∈ members) : value.nesting ≤ memberNesting members := by
  induction members with
  | nil => cases inside
  | cons member rest ih =>
      rcases List.mem_cons.1 inside with same | later
      · cases same
        exact Nat.le_max_left _ _
      · exact Nat.le_trans (ih later) (Nat.le_max_right _ _)

end Json

/-! ### Words -/

/-- If the token is a word, it stands for a value without parts. -/
def Token.IsFlat : Token → Prop
  | .word value => value.nesting = 0
  | _ => True

namespace Lexer

def State.IsFlat : State → Prop
  | .word _ value => value.nesting = 0
  | _ => True

def Flat (outcome : List Token × State) : Prop :=
  (∀ token ∈ outcome.1, token.IsFlat) ∧ outcome.2.IsFlat

theorem flat_silent {state : State} (flat : state.IsFlat) : Flat ([], state) := by
  refine ⟨?_, flat⟩
  intro token impossible
  cases impossible

theorem flat_cons {token : Token} {tokens : List Token} {state : State} (first : token.IsFlat)
    (others : Flat (tokens, state)) : Flat (token :: tokens, state) :=
  ⟨List.forall_mem_cons.2 ⟨first, others.1⟩, others.2⟩

theorem flat_single {token : Token} {state : State} (first : token.IsFlat) (flat : state.IsFlat) :
    Flat ([token], state) :=
  flat_cons first (flat_silent flat)

theorem flat_start (c : Char) : Flat (start c) := by
  unfold start
  split
  · exact flat_silent trivial
  · split
    · exact flat_single trivial trivial
    · exact flat_single trivial trivial
    · exact flat_single trivial trivial
    · exact flat_single trivial trivial
    · exact flat_single trivial trivial
    · exact flat_single trivial trivial
    · exact flat_silent trivial
    · exact flat_silent rfl
    · exact flat_silent rfl
    · exact flat_silent rfl
    · exact flat_silent trivial
    · split
      · exact flat_silent trivial
      · exact flat_single trivial trivial

theorem isFlat_broken (reading : Reading) (fault : JsonFault) : (reading.broken fault).IsFlat := by
  unfold Reading.broken
  split
  · exact trivial
  · exact trivial

theorem flat_stepWord (left : List Char) {value : Json} (flat : value.nesting = 0) (c : Char) :
    Flat (stepWord left value c) := by
  unfold stepWord
  split
  · exact flat_single trivial trivial
  · split
    · exact flat_single trivial trivial
    · split
      · exact flat_single flat trivial
      · exact flat_silent flat

theorem flat_stepNumeral (place : NumeralPlace) (numeral : Numeral) (c : Char) :
    Flat (stepNumeral place numeral c) := by
  unfold stepNumeral
  split
  · exact flat_silent trivial
  · split
    · exact flat_cons trivial (flat_start c)
    · exact flat_single trivial trivial

theorem flat_stepText (reading : Reading) (c : Char) : Flat (stepText reading c) := by
  unfold stepText
  split
  · exact flat_single trivial trivial
  · split
    · exact flat_silent trivial
    · split
      · exact flat_single (isFlat_broken _ _) trivial
      · exact flat_silent trivial

theorem flat_stepEscape (reading : Reading) (c : Char) : Flat (stepEscape reading c) := by
  unfold stepEscape
  split
  · exact flat_silent trivial
  · split
    · exact flat_silent trivial
    · exact flat_single (isFlat_broken _ _) trivial

theorem flat_stepHex (reading : Reading) (digits : HexReading) (c : Char) :
    Flat (stepHex reading digits c) := by
  unfold stepHex
  extract_lets read
  split
  · exact flat_silent trivial
  · split
    · exact flat_silent trivial
    · exact flat_single (isFlat_broken _ _) trivial

theorem flat_step {state : State} (flat : state.IsFlat) (c : Char) : Flat (step state c) := by
  cases state with
  | between => exact flat_start c
  | word left value => exact flat_stepWord left flat c
  | numeral place numeral => exact flat_stepNumeral place numeral c
  | text reading => exact flat_stepText reading c
  | escape reading => exact flat_stepEscape reading c
  | hex reading digits => exact flat_stepHex reading digits c
  | stopped => exact flat_silent flat

theorem isFlat_of_mem_finish {state : State} {token : Token} (inside : token ∈ finish state) :
    token.IsFlat := by
  unfold finish at inside
  split at inside
  · cases inside
  · cases inside
  · rw [List.mem_singleton.1 inside]
    exact trivial
  · split at inside
    · rw [List.mem_singleton.1 inside]
      exact trivial
    · rw [List.mem_singleton.1 inside]
      exact trivial
  · rw [List.mem_singleton.1 inside]
    exact isFlat_broken _ _
  · rw [List.mem_singleton.1 inside]
    exact isFlat_broken _ _
  · rw [List.mem_singleton.1 inside]
    exact isFlat_broken _ _

theorem isFlat_of_mem_run {state : State} (flat : state.IsFlat) {chars : List Char} {token : Token}
    (inside : token ∈ run state chars) : token.IsFlat := by
  induction chars generalizing state with
  | nil => exact isFlat_of_mem_finish inside
  | cons c rest ih =>
      obtain ⟨now, next⟩ := flat_step flat c
      rcases List.mem_append.1 inside with here | later
      · exact now token here
      · exact ih next later

end Lexer

theorem isFlat_of_mem_tokens {text : String} {token : Token} (inside : token ∈ tokens text) :
    token.IsFlat := by
  have flat : Lexer.State.between.IsFlat := trivial
  exact Lexer.isFlat_of_mem_run flat inside

/-! ### The reader -/

namespace Json

/-- The greatest nesting of what is complete in a container that is still open. -/
def Frame.nesting : Frame → Nat
  | .array elements => elementNesting elements
  | .object members _ => memberNesting members

/-- No open container holds anything that reaches beyond the limit. -/
def StackWithin (limit : Nat) : List Frame → Prop
  | [] => True
  | frame :: outer => outer.length + 1 + frame.nesting ≤ limit ∧ StackWithin limit outer

def Progress.openCount : Progress → Nat
  | .waiting _ stack => stack.length
  | .done _ => 0

/-- Between two tokens so many containers are open, and the reader keeps to the limit. -/
structure Progress.Keeps (limit count : Nat) (progress : Progress) : Prop where
  opened : progress.openCount = count
  within : match progress with
    | .waiting _ stack => StackWithin limit stack
    | .done value => value.nesting ≤ limit

section

variable {limit : Nat} {stack : List Frame}

theorem StackWithin.length_le (within : StackWithin limit stack) : stack.length ≤ limit := by
  cases stack with
  | nil => exact Nat.zero_le _
  | cons frame outer =>
      have room := within.1
      rw [List.length_cons]
      omega

theorem keeps_waiting (expected : Expected) (within : StackWithin limit stack) :
    (Progress.waiting expected stack).Keeps limit stack.length :=
  ⟨rfl, within⟩

theorem keeps_complete {value : Json} (room : stack.length + value.nesting ≤ limit)
    (within : StackWithin limit stack) : (complete value stack).Keeps limit stack.length := by
  cases stack with
  | nil =>
      rw [List.length_nil, Nat.zero_add] at room
      exact ⟨rfl, room⟩
  | cons frame outer =>
      obtain ⟨held, below⟩ := within
      rw [List.length_cons] at room
      cases frame with
      | array elements =>
          refine ⟨rfl, ?_, below⟩
          simp only [Frame.nesting, elementNesting] at held ⊢
          omega
      | object members name =>
          have inserted := memberNesting_insertMember_le name value members
          refine ⟨rfl, ?_, below⟩
          simp only [Frame.nesting] at held ⊢
          omega

theorem keeps_closeArray {progress : Progress} (within : StackWithin limit stack)
    (closed : closeArray stack = .ok progress) : progress.Keeps limit (stack.length - 1) := by
  unfold closeArray at closed
  split at closed
  · rename_i elements outer
    cases closed
    obtain ⟨held, below⟩ := within
    apply keeps_complete _ below
    rw [nesting, elementNesting_reverse]
    simp only [Frame.nesting] at held
    omega
  · cases closed

theorem keeps_closeObject {progress : Progress} (within : StackWithin limit stack)
    (closed : closeObject stack = .ok progress) : progress.Keeps limit (stack.length - 1) := by
  unfold closeObject at closed
  split at closed
  · rename_i members name outer
    cases closed
    obtain ⟨held, below⟩ := within
    apply keeps_complete _ below
    rw [nesting]
    simp only [Frame.nesting] at held
    omega
  · cases closed

theorem keeps_beginValue {token : Token} {progress : Progress} (flat : token.IsFlat)
    (within : StackWithin limit stack) (begun : beginValue limit stack token = .ok progress) :
    progress.Keeps limit (token.openBehind stack.length) := by
  have scalar {value : Json} (flat : value.nesting = 0) :
      (complete value stack).Keeps limit stack.length := by
    apply keeps_complete _ within
    rw [flat]
    exact within.length_le
  unfold beginValue at begun
  split at begun
  · cases begun
    exact scalar flat
  · cases begun
    exact scalar rfl
  · cases begun
    exact scalar rfl
  · split at begun
    · rename_i room
      cases begun
      exact ⟨rfl, room, within⟩
    · cases begun
  · split at begun
    · rename_i room
      cases begun
      exact ⟨rfl, room, within⟩
    · cases begun
  · cases begun
  · cases begun
  · cases begun

theorem keeps_beginMember {token : Token} {progress : Progress} (within : StackWithin limit stack)
    (begun : beginMember stack token = .ok progress) :
    progress.Keeps limit (token.openBehind stack.length) := by
  unfold beginMember at begun
  split at begun
  · split at begun
    · cases begun
      exact ⟨rfl, within⟩
    · cases begun
  · cases begun
  · cases begun

theorem keeps_advance {expected : Expected} {token : Token} {progress : Progress} (flat : token.IsFlat)
    (within : StackWithin limit stack) (advanced : advance limit stack expected token = .ok progress) :
    progress.Keeps limit (token.openBehind stack.length) := by
  unfold advance at advanced
  split at advanced
  · exact keeps_beginValue flat within advanced
  · exact keeps_closeArray within advanced
  · exact keeps_beginValue flat within advanced
  · exact keeps_closeObject within advanced
  · exact keeps_beginMember within advanced
  · exact keeps_beginMember within advanced
  · cases advanced
    exact keeps_waiting _ within
  · cases advanced
  · split at advanced
    · cases advanced
      exact keeps_waiting _ within
    · cases advanced
      exact keeps_waiting _ within
  · exact keeps_closeArray within advanced
  · exact keeps_closeObject within advanced
  · cases advanced

end

/-- Token by token, a run that ends in a value never has more containers open than the
limit allows, and its value keeps to the limit. -/
theorem keeps_readTokens {limit count : Nat} {progress : Progress} {tokens rest : List Token}
    {value : Json} (flat : ∀ token ∈ tokens, token.IsFlat) (keeps : progress.Keeps limit count)
    (read : readTokens limit progress tokens = .ok (value, rest)) :
    value.nesting ≤ limit ∧
      ∃ consumed, tokens = consumed ++ rest ∧
        ∀ front, front <+: consumed → front.foldl Token.openBehind count ≤ limit := by
  induction tokens generalizing progress count with
  | nil =>
      cases progress with
      | done value' =>
          cases read
          refine ⟨keeps.within, [], rfl, ?_⟩
          intro front isFront
          rw [List.prefix_nil.1 isFront, List.foldl_nil, ← keeps.opened]
          exact Nat.zero_le _
      | waiting expected stack => cases read
  | cons token others ih =>
      obtain ⟨flatToken, flatOthers⟩ := List.forall_mem_cons.1 flat
      cases progress with
      | done value' =>
          cases read
          refine ⟨keeps.within, [], rfl, ?_⟩
          intro front isFront
          rw [List.prefix_nil.1 isFront, List.foldl_nil, ← keeps.opened]
          exact Nat.zero_le _
      | waiting expected stack =>
          have opened : stack.length = count := keeps.opened
          subst opened
          rw [readTokens] at read
          split at read
          · rename_i next advanced
            have step := keeps_advance flatToken keeps.within advanced
            obtain ⟨shallow, consumed, rfl, fronts⟩ := ih flatOthers step read
            refine ⟨shallow, token :: consumed, rfl, ?_⟩
            intro front isFront
            cases front with
            | nil => exact StackWithin.length_le keeps.within
            | cons first front =>
                obtain ⟨rfl, isRest⟩ := List.cons_prefix_cons.1 isFront
                exact fronts front isRest
          · cases read

/-! ### Documents -/

theorem readTokens_of_read {text : String} {value : Json} (found : read text = .ok value) :
    readFront nestingLimit (tokens text) = .ok (value, []) := by
  unfold read readWithin at found
  split at found
  · rename_i front
    cases found
    exact front
  · cases found
  · cases found

theorem nesting_le_of_read {text : String} {value : Json} (found : read text = .ok value) :
    value.nesting ≤ nestingLimit :=
  (keeps_readTokens (fun _ => isFlat_of_mem_tokens) ⟨rfl, trivial⟩ (readTokens_of_read found)).1

theorem exists_fault_of_openBehind {text : String} {front : List Token} (isFront : front <+: tokens text)
    (many : nestingLimit < openBehind front) : ∃ fault, read text = .error fault := by
  cases found : read text with
  | error fault => exact ⟨fault, rfl⟩
  | ok value =>
      have start : (Progress.waiting .value []).Keeps nestingLimit 0 := ⟨rfl, trivial⟩
      obtain ⟨_, consumed, all, fronts⟩ :=
        keeps_readTokens (fun _ => isFlat_of_mem_tokens) start (readTokens_of_read found)
      rw [List.append_nil] at all
      rw [all] at isFront
      exact absurd (fronts front isFront) (Nat.not_le.2 many)

end Json
end CompactSchema
