import CompactSchema.Proofs.Generation.Shape

/-
The search for a text that matches a pattern.

Candidates are drawn one after the other, each in the state that the one before it left.
The search ends with the first that matches, and with the hundredth if none before it
does.  Nothing is drawn beyond the candidate that is returned, whether or not the source
keeps its promises.
-/

namespace CompactSchema

variable {σ α : Type}

def stateAfter (draw : StateM σ α) (state : σ) : Nat → σ
  | 0 => state
  | n + 1 => (draw.run (stateAfter draw state n)).2

/-- The answer of the draw that some others stand before. -/
def answerAfter (draw : StateM σ α) (state : σ) (n : Nat) : α := (draw.run (stateAfter draw state n)).1

theorem stateAfter_next (draw : StateM σ α) (state : σ) (n : Nat) :
    stateAfter draw (draw.run state).2 n = stateAfter draw state (n + 1) := by
  induction n with
  | zero => rfl
  | succ n ih =>
      show (draw.run (stateAfter draw (draw.run state).2 n)).2 = _
      rw [ih]
      rfl

theorem answerAfter_next (draw : StateM σ α) (state : σ) (n : Nat) :
    answerAfter draw (draw.run state).2 n = answerAfter draw state (n + 1) := by
  unfold answerAfter
  rw [stateAfter_next]

/-- The first of the numbers up to a limit that is good, or the limit if none is. -/
structure FirstWithin (good : Nat → Prop) (limit n : Nat) : Prop where
  limited : n ≤ limit
  before : ∀ i < n, ¬ good i
  here : good n ∨ n = limit

namespace FirstWithin

variable {good : Nat → Prop} {limit n : Nat}

theorem eq_zero (first : FirstWithin good limit n) (start : good 0) : n = 0 := by
  rcases Nat.eq_zero_or_pos n with zero | positive
  · exact zero
  · exact absurd start (first.before 0 positive)

theorem exists_next (first : FirstWithin good (limit + 1) n) (bad : ¬ good 0) :
    ∃ m, n = m + 1 ∧ FirstWithin (fun i => good (i + 1)) limit m := by
  cases n with
  | zero =>
      rcases first.here with impossible | impossible
      · exact absurd impossible bad
      · cases impossible
  | succ m =>
      refine ⟨m, rfl, Nat.le_of_succ_le_succ first.limited, ?_, ?_⟩
      · intro i less
        exact first.before (i + 1) (Nat.succ_lt_succ less)
      · rcases first.here with here | last
        · exact .inl here
        · exact .inr (Nat.succ.inj last)

theorem none_good (first : FirstWithin good limit n) (bad : ¬ good n) : ∀ i ≤ limit, ¬ good i := by
  intro i within
  have last : n = limit := first.here.resolve_left bad
  rcases Nat.lt_or_eq_of_le within with less | same
  · rw [← last] at less
    exact first.before i less
  · rw [same, ← last]
    exact bad

end FirstWithin

theorem exists_firstWithin (good : Nat → Prop) (limit : Nat) : ∃ n, FirstWithin good limit n := by
  classical
  induction limit generalizing good with
  | zero => exact ⟨0, Nat.le_refl 0, nofun, .inr rfl⟩
  | succ limit ih =>
      by_cases start : good 0
      · exact ⟨0, Nat.zero_le _, nofun, .inl start⟩
      · obtain ⟨m, limited, before, here⟩ := ih fun i => good (i + 1)
        refine ⟨m + 1, Nat.succ_le_succ limited, ?_, ?_⟩
        · intro i less
          cases i with
          | zero => exact start
          | succ i => exact before i (Nat.lt_of_succ_lt_succ less)
        · rcases here with here | last
          · exact .inl here
          · exact .inr (congrArg Nat.succ last)

namespace Generate

theorem firstAccepted_succ_run (draw : StateM σ String) (accept : String → Bool) (others : Nat) (state : σ) :
    (firstAccepted draw accept (others + 1)).run state =
      if accept (draw.run state).1 then draw.run state
      else (firstAccepted draw accept others).run (draw.run state).2 := by
  show ((if accept (draw.run state).1 then pure (draw.run state).1
    else firstAccepted draw accept others) : StateM σ String).run (draw.run state).2 = _
  split
  · rfl
  · rfl

theorem firstAccepted_run {draw : StateM σ String} {accept : String → Bool} {others n : Nat} {state : σ}
    (first : FirstWithin (fun i => accept (answerAfter draw state i) = true) others n) :
    (firstAccepted draw accept others).run state =
      (answerAfter draw state n, stateAfter draw state (n + 1)) := by
  induction others generalizing state n with
  | zero =>
      cases Nat.le_zero.1 first.limited
      rfl
  | succ others ih =>
      rw [firstAccepted_succ_run]
      -- Either the search ends here, or it is the same search from the state behind this draw.
      by_cases accepted : accept (draw.run state).1 = true
      · cases first.eq_zero accepted
        rw [if_pos accepted]
        rfl
      · obtain ⟨m, rfl, rest⟩ := first.exists_next accepted
        have shifted : FirstWithin (fun i => accept (answerAfter draw (draw.run state).2 i) = true) others m := by
          simpa only [answerAfter_next] using rest
        rw [if_neg accepted, ih shifted, answerAfter_next, stateAfter_next]

end Generate

namespace RandomSource

/-- Letters, as many as a number that is drawn from a range. -/
def candidate (source : RandomSource σ) (lo hi : Nat) : StateM σ String := do
  let length ← source.intInRange (.ofNat lo) (.ofNat hi)
  source.alpha length.toUInt64.toNat

def candidateRequests (source : RandomSource σ) (lo hi : Nat) (state : σ) : Nat → List Request
  | 0 => []
  | n + 1 =>
      let length := ((source.intInRange (.ofNat lo) (.ofNat hi)).run
        (stateAfter (source.candidate lo hi) state n)).1
      .alpha length.toUInt64.toNat :: .intInRange (.ofNat lo) (.ofNat hi) ::
        candidateRequests source lo hi state n

variable (source : RandomSource σ) (lo hi : Nat) (state : σ)

theorem stateAfter_recording (record : List Request) (n : Nat) :
    stateAfter (source.recording.candidate lo hi) (state, record) n =
      (stateAfter (source.candidate lo hi) state n, source.candidateRequests lo hi state n ++ record) := by
  induction n with
  | zero => rfl
  | succ n ih =>
      rw [stateAfter, ih]
      rfl

theorem answerAfter_recording (record : List Request) (n : Nat) :
    answerAfter (source.recording.candidate lo hi) (state, record) n =
      answerAfter (source.candidate lo hi) state n := by
  unfold answerAfter
  rw [stateAfter_recording]
  rfl

end RandomSource

theorem LengthBounds.exists_range {bounds : LengthBounds} (defaults : LengthDefaults)
    (small : defaults.least.toNat ≤ 10000) (meetable : ¬ bounds.Unmeetable) :
    ∃ range, bounds.range defaults = .ok range ∧
      range.least = bounds.shortest defaults.least.toNat ∧
      range.most = min (bounds.longest defaults.least.toNat defaults.most.toNat) 10000 := by
  cases found : bounds.range defaults with
  | error defect => exact absurd ((range_eq_error_iff small).1 ⟨defect, found⟩) meetable
  | ok range =>
      obtain ⟨leastIs, mostIs⟩ := ends_of_range found
      rw [toNat_effectiveLeast] at leastIs
      rw [toNat_effectiveMost] at mostIs
      exact ⟨range, rfl, leastIs, mostIs⟩

theorem Generate.string_eq_firstAccepted {source : RandomSource σ} {constraints : StringConstraints}
    {pattern : Pattern} (plain : constraints.IsPlain) (present : constraints.pattern = some pattern)
    {range : LengthRange} (found : constraints.length.range .text = .ok range) :
    Generate.string source constraints =
      liftM (firstAccepted (source.candidate range.least range.most) pattern.isMatch 99) := by
  unfold Generate.string
  rw [plain.1, bind_formatted_eq_none_iff.2 plain.2]
  dsimp only
  unfold plainText
  rw [found, present]
  rfl

namespace Schema

theorem generate_string_run {source : RandomSource σ} {constraints : StringConstraints} {pattern : Pattern}
    (plain : constraints.IsPlain) (present : constraints.pattern = some pattern) {range : LengthRange}
    (found : constraints.length.range .text = .ok range) {state : σ} {n : Nat}
    (first : FirstWithin (fun i =>
      pattern.isMatch (answerAfter (source.candidate range.least range.most) state i) = true) 99 n) :
    ((Schema.string constraints).generate source).run.run state =
      (.ok (.string (answerAfter (source.candidate range.least range.most) state n)),
        stateAfter (source.candidate range.least range.most) state (n + 1)) := by
  rw [generate, Generate.string_eq_firstAccepted plain present found]
  let search := Generate.firstAccepted (source.candidate range.least range.most) pattern.isMatch 99
  show (Except.ok (Json.string (search.run state).1), (search.run state).2) = _
  rw [Generate.firstAccepted_run first]

/-- The text that is generated for a pattern is the first candidate that matches, of at
most a hundred, or the hundredth if none does.  The source is left behind this candidate,
and has been asked for the candidates up to it and for nothing else. -/
theorem generate_first_match (source : RandomSource σ) {constraints : StringConstraints}
    {pattern : Pattern} (plain : constraints.IsPlain) (present : constraints.pattern = some pattern)
    (buildable : ¬ (Schema.string constraints).Unbuildable) {lo hi : Nat}
    (shortest : lo = constraints.length.shortest 3)
    (longest : hi = min (constraints.length.longest 3 10) 10000) (state : σ) (record : List Request) :
    ∃ n < 100,
      ((pattern.isMatch (answerAfter (source.candidate lo hi) state n) = true ∧
          ∀ i < n, pattern.isMatch (answerAfter (source.candidate lo hi) state i) = false) ∨
        (n + 1 = 100 ∧ ∀ i < 100, pattern.isMatch (answerAfter (source.candidate lo hi) state i) = false)) ∧
      ((Schema.string constraints).generate source).run.run state =
        (.ok (.string (answerAfter (source.candidate lo hi) state n)),
          stateAfter (source.candidate lo hi) state (n + 1)) ∧
      ((Schema.string constraints).generate source.recording).run.run (state, record) =
        (.ok (.string (answerAfter (source.candidate lo hi) state n)),
          stateAfter (source.candidate lo hi) state (n + 1),
          source.candidateRequests lo hi state (n + 1) ++ record) := by
  have meetable : ¬ constraints.length.Unmeetable := fun unmeetable =>
    buildable (.inr ⟨plain, unmeetable⟩)
  obtain ⟨range, found, least, most⟩ := LengthBounds.exists_range .text (by decide) meetable
  obtain rfl : lo = range.least := shortest.trans least.symm
  obtain rfl : hi = range.most := longest.trans most.symm
  obtain ⟨n, first⟩ := exists_firstWithin (fun i =>
    pattern.isMatch (answerAfter (source.candidate range.least range.most) state i) = true) 99
  -- With a record the candidates are the same, so the search ends at the same one.
  have firstRecorded : FirstWithin (fun i => pattern.isMatch
      (answerAfter (source.recording.candidate range.least range.most) (state, record) i) = true) 99 n := by
    simpa only [RandomSource.answerAfter_recording] using first
  refine ⟨n, Nat.lt_succ_of_le first.limited, ?_, generate_string_run plain present found first, ?_⟩
  · by_cases matched : pattern.isMatch (answerAfter (source.candidate range.least range.most) state n) = true
    · left
      refine ⟨matched, fun i less => ?_⟩
      exact Bool.eq_false_iff.2 (first.before i less)
    · right
      refine ⟨congrArg Nat.succ (first.here.resolve_left matched), fun i less => ?_⟩
      exact Bool.eq_false_iff.2 (first.none_good matched i (Nat.le_of_lt_succ less))
  · rw [generate_string_run plain present found firstRecorded, RandomSource.answerAfter_recording,
      RandomSource.stateAfter_recording]

/-- A text with a digit in it, which no candidate has. -/
def digit : Pattern := (Pattern.ofSource? "[0-9]").get (by decide +kernel)

def numbered : StringConstraints where
  pattern := some digit
  length := { least := some 4, most := some 5 }

/-- A search in vain, from the least source. -/
theorem generate_first_match_digit :
    ∃ n < 100,
      ((digit.isMatch (answerAfter (RandomSource.least.candidate 4 5) () n) = true ∧
          ∀ i < n, digit.isMatch (answerAfter (RandomSource.least.candidate 4 5) () i) = false) ∨
        (n + 1 = 100 ∧
          ∀ i < 100, digit.isMatch (answerAfter (RandomSource.least.candidate 4 5) () i) = false)) ∧
      ((Schema.string numbered).generate RandomSource.least).run.run () =
        (.ok (.string (answerAfter (RandomSource.least.candidate 4 5) () n)),
          stateAfter (RandomSource.least.candidate 4 5) () (n + 1)) ∧
      ((Schema.string numbered).generate RandomSource.least.recording).run.run ((), []) =
        (.ok (.string (answerAfter (RandomSource.least.candidate 4 5) () n)),
          stateAfter (RandomSource.least.candidate 4 5) () (n + 1),
          RandomSource.least.candidateRequests 4 5 () (n + 1) ++ []) := by
  have plain : numbered.IsPlain := by
    refine ⟨rfl, fun format here => ?_⟩
    cases here
  have buildable : ¬ (Schema.string numbered).Unbuildable := by
    rintro (noMember | ⟨_, least, isLeast, tooMuch⟩)
    · cases noMember
    · cases isLeast
      rcases tooMuch with ⟨most, isMost, inverted⟩ | long
      · cases isMost
        exact absurd inverted (by decide)
      · exact absurd long (by decide)
  have shortest : 4 = numbered.length.shortest 3 := by decide
  have longest : 5 = min (numbered.length.longest 3 10) 10000 := by decide
  exact generate_first_match RandomSource.least plain rfl buildable shortest longest () []

end Schema
end CompactSchema
