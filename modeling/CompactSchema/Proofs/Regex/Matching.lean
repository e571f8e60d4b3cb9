import CompactSchema.Regex.Matching

/-
What an expression matches.

An expression leads from one place of a text to another if it matches the characters
between them.  A search follows the expression from all places of a set at once, and
reaches exactly the places that the expression leads to from one of them.
-/

namespace CompactSchema
namespace Regex

def Steps (leads : Nat → Nat → Prop) : Nat → Nat → Nat → Prop
  | 0, start, stop => start = stop
  | n + 1, start, stop => ∃ between, leads start between ∧ Steps leads n between stop

/-- The character before a place, where `first` stands before the text. -/
def charBefore (first : Option Char) (text : List Char) : Nat → Option Char
  | 0 => first
  | place + 1 => text[place]?

/-- The expression matches the characters of a text from one place to another.  A
greatest number of repetitions below the least one counts as the least one. -/
def Leads (text : List Char) : Regex → Nat → Nat → Prop
  | .empty, start, stop => start = stop
  | .chars set, start, stop =>
      (∃ c, text[start]? = some c ∧ set.contains c = true) ∧ stop = start + 1
  | .look condition, start, stop =>
      (start ≤ text.length ∧ condition.holds (charBefore none text start) text[start]? = true) ∧
        start = stop
  | .seq first second, start, stop =>
      ∃ between, first.Leads text start between ∧ second.Leads text between stop
  | .alt left right, start, stop => left.Leads text start stop ∨ right.Leads text start stop
  | .repeated body least most _, start, stop =>
      ∃ n, least ≤ n ∧ (∀ limit, most = some limit → n ≤ max least limit) ∧
        Steps (body.Leads text) n start stop
  | .group _ body, start, stop => body.Leads text start stop

namespace Steps

variable {leads : Nat → Nat → Prop}

theorem add_iff {m n start stop : Nat} :
    Steps leads (m + n) start stop ↔
      ∃ between, Steps leads m start between ∧ Steps leads n between stop := by
  induction m generalizing start with
  | zero => simp [Steps]
  | succ m ih =>
      rw [Nat.add_right_comm]
      constructor
      · rintro ⟨next, first, rest⟩
        obtain ⟨between, steps, others⟩ := ih.1 rest
        exact ⟨between, ⟨next, first, steps⟩, others⟩
      · rintro ⟨between, ⟨next, first, steps⟩, others⟩
        exact ⟨next, first, ih.2 ⟨between, steps, others⟩⟩

theorem closed {inside : Nat → Prop} (step : ∀ start stop, inside start → leads start stop → inside stop)
    {n start stop : Nat} (steps : Steps leads n start stop) (here : inside start) : inside stop := by
  induction n generalizing start with
  | zero => exact steps ▸ here
  | succ n ih =>
      obtain ⟨between, first, rest⟩ := steps
      exact ih rest (step start between here first)

/-- Each step stays, or goes on within a text of some length. -/
def Forward (length : Nat) (leads : Nat → Nat → Prop) : Prop :=
  ∀ start stop, leads start stop → start = stop ∨ start < stop ∧ stop ≤ length

theorem forward {length : Nat} (onward : Forward length leads) (n : Nat) :
    Forward length (Steps leads n) := by
  induction n with
  | zero => exact fun start stop same => .inl same
  | succ n ih =>
      rintro start stop ⟨between, first, rest⟩
      have one := onward start between first
      have others := ih between stop rest
      omega

/-- Steps that stay can be left out, and then there are few. -/
theorem exists_few {length : Nat} (onward : Forward length leads) {n start stop : Nat}
    (steps : Steps leads n start stop) : ∃ m ≤ n, m ≤ length ∧ Steps leads m start stop := by
  have short : ∃ m ≤ n, m + start ≤ stop ∧ Steps leads m start stop := by
    induction n generalizing start with
    | zero =>
        have same : start = stop := steps
        exact ⟨0, Nat.le_refl 0, by omega, steps⟩
    | succ n ih =>
        obtain ⟨between, first, rest⟩ := steps
        obtain ⟨m, fewer, less, others⟩ := ih rest
        rcases onward start between first with same | ⟨later, _⟩
        · rw [same]
          exact ⟨m, by omega, less, others⟩
        · exact ⟨m + 1, by omega, by omega, between, first, others⟩
  obtain ⟨m, fewer, less, others⟩ := short
  rcases forward onward m start stop others with same | ⟨_, inside⟩
  · exact ⟨m, fewer, by omega, others⟩
  · exact ⟨m, fewer, by omega, others⟩

end Steps

theorem leads_forward (text : List Char) (regex : Regex) :
    Steps.Forward text.length (regex.Leads text) := by
  induction regex with
  | empty => exact fun start stop same => .inl same
  | chars set =>
      rintro start stop ⟨⟨c, found, _⟩, rfl⟩
      have inside := (List.getElem?_eq_some_iff.1 found).1
      omega
  | look condition => exact fun start stop stays => .inl stays.2
  | seq first second ihFirst ihSecond =>
      rintro start stop ⟨between, one, two⟩
      have before := ihFirst start between one
      have after := ihSecond between stop two
      omega
  | alt left right ihLeft ihRight =>
      rintro start stop (one | other)
      · exact ihLeft start stop one
      · exact ihRight start stop other
  | repeated body least most greedy ih =>
      rintro start stop ⟨n, _, _, steps⟩
      exact Steps.forward ih n start stop steps
  | group capturing body ih => exact ih

/-- The places reached from a set are those that a member leads to. -/
def Follows (reach : Nat → Nat) (leads : Nat → Nat → Prop) : Prop :=
  ∀ places stop, (reach places).testBit stop = true ↔
    ∃ start, places.testBit start = true ∧ leads start stop

theorem testBit_double_add (n : Nat) (b : Bool) (place : Nat) :
    (2 * n + (if b = true then 1 else 0)).testBit place =
      match place with
      | 0 => b
      | place + 1 => n.testBit place := by
  cases place with
  | zero => cases b <;> simp [Nat.testBit_zero, Nat.add_mod]
  | succ place =>
      have half : (2 * n + (if b = true then 1 else 0)) / 2 = n := by
        cases b with
        | true => exact Nat.mul_add_div Nat.two_pos n 1
        | false => exact Nat.mul_div_cancel_left n Nat.two_pos
      rw [Nat.testBit_succ, half]

theorem testBit_charPlaces {set : CharSet} {text : List Char} {place : Nat} :
    (charPlaces set text).testBit place = true ↔ ∃ c, text[place]? = some c ∧ set.contains c = true := by
  induction text generalizing place with
  | nil => simp [charPlaces]
  | cons c rest ih =>
      rw [charPlaces, testBit_double_add]
      cases place with
      | zero => simp
      | succ place => simpa using ih

theorem testBit_lookPlaces {condition : Look} {first : Option Char} {text : List Char} {place : Nat} :
    (lookPlaces condition first text).testBit place = true ↔
      place ≤ text.length ∧ condition.holds (charBefore first text place) text[place]? = true := by
  induction text generalizing first place with
  | nil =>
      cases place with
      | zero => cases met : condition.holds first none <;> simp [lookPlaces, charBefore, met]
      | succ place => cases met : condition.holds first none <;> simp [lookPlaces, met, Nat.testBit_succ]
  | cons c rest ih =>
      rw [lookPlaces, testBit_double_add]
      cases place with
      | zero => simp [charBefore]
      | succ place =>
          dsimp only
          rw [ih]
          cases place with
          | zero => simp [charBefore]
          | succ place => simp [charBefore]

namespace Follows

variable {reach : Nat → Nat} {leads : Nat → Nat → Prop}

theorem exists_steps_succ_iff (follows : Follows reach leads) {places n stop : Nat} :
    (∃ start, places.testBit start = true ∧ Steps leads (n + 1) start stop) ↔
      ∃ start, (reach places).testBit start = true ∧ Steps leads n start stop := by
  constructor
  · rintro ⟨start, inside, between, first, rest⟩
    exact ⟨between, (follows places between).2 ⟨start, inside, first⟩, rest⟩
  · rintro ⟨between, reached, rest⟩
    obtain ⟨start, inside, first⟩ := (follows places between).1 reached
    exact ⟨start, inside, between, first, rest⟩

/-- A set that a step leaves alone is left alone by any number of steps. -/
theorem exists_steps_iff_of_fixed (follows : Follows reach leads) {places : Nat}
    (fixed : reach places = places) (n stop : Nat) :
    (∃ start, places.testBit start = true ∧ Steps leads n start stop) ↔ places.testBit stop = true := by
  induction n with
  | zero => exact ⟨fun ⟨start, inside, same⟩ => same ▸ inside, fun inside => ⟨stop, inside, rfl⟩⟩
  | succ n ih => rw [exists_steps_succ_iff follows, fixed, ih]

theorem iterate (follows : Follows reach leads) (n : Nat) :
    Follows (Regex.iterate reach n) (Steps leads n) := by
  induction n with
  | zero =>
      intro places stop
      exact ⟨fun inside => ⟨stop, inside, rfl⟩, fun ⟨start, inside, same⟩ => same ▸ inside⟩
  | succ n ih =>
      intro places stop
      rw [Regex.iterate]
      by_cases fixed : reach places = places
      · rw [if_pos fixed, exists_steps_iff_of_fixed follows fixed]
      · rw [if_neg fixed, exists_steps_succ_iff follows]
        exact ih (reach places) stop

/-- A member of a set leads to the place in at most so many steps. -/
def Within (leads : Nat → Nat → Prop) (places rounds stop : Nat) : Prop :=
  ∃ n ≤ rounds, ∃ start, places.testBit start = true ∧ Steps leads n start stop

theorem within_iff_of_closed {places rounds stop : Nat}
    (closed : ∀ start stop, places.testBit start = true → leads start stop → places.testBit stop = true) :
    Within leads places rounds stop ↔ places.testBit stop = true := by
  constructor
  · rintro ⟨n, _, start, inside, steps⟩
    exact steps.closed closed inside
  · exact fun inside => ⟨0, Nat.zero_le _, stop, inside, rfl⟩

theorem within_zero_iff {places stop : Nat} :
    Within leads places 0 stop ↔ places.testBit stop = true := by
  constructor
  · rintro ⟨n, none, start, inside, steps⟩
    cases Nat.le_zero.1 none
    cases steps
    exact inside
  · exact fun inside => ⟨0, Nat.le_refl 0, stop, inside, rfl⟩

theorem within_succ_iff {places wider rounds stop : Nat}
    (round : ∀ place, wider.testBit place = true ↔
      places.testBit place = true ∨ ∃ start, places.testBit start = true ∧ leads start place) :
    Within leads places (rounds + 1) stop ↔ Within leads wider rounds stop := by
  constructor
  · rintro ⟨n, few, start, inside, steps⟩
    cases n with
    | zero => exact ⟨0, Nat.zero_le _, start, (round start).2 (.inl inside), steps⟩
    | succ n =>
        obtain ⟨between, first, rest⟩ := steps
        exact ⟨n, by omega, between, (round between).2 (.inr ⟨start, inside, first⟩), rest⟩
  · rintro ⟨n, few, start, inside, steps⟩
    rcases (round start).1 inside with old | ⟨before, inside, leading⟩
    · exact ⟨n, by omega, start, old, steps⟩
    · exact ⟨n + 1, by omega, before, inside, start, leading, steps⟩

theorem testBit_round (follows : Follows reach leads) {reached newest : Nat}
    (among : ∀ place, newest.testBit place = true → reached.testBit place = true)
    (explored : ∀ start stop, reached.testBit start = true → newest.testBit start = false →
      leads start stop → reached.testBit stop = true) (place : Nat) :
    (reached ||| reach newest).testBit place = true ↔
      reached.testBit place = true ∨ ∃ start, reached.testBit start = true ∧ leads start place := by
  rw [Nat.testBit_or, Bool.or_eq_true, follows newest place]
  constructor
  · rintro (old | ⟨start, inside, leading⟩)
    · exact .inl old
    · exact .inr ⟨start, among start inside, leading⟩
  · rintro (old | ⟨start, inside, leading⟩)
    · exact .inl old
    -- The steps from all but the newest places have been taken before.
    · cases fresh : newest.testBit start with
      | true => exact .inr ⟨start, fresh, leading⟩
      | false => exact .inl (explored start place inside fresh leading)

theorem testBit_spread (follows : Follows reach leads) (rounds : Nat) {reached newest stop : Nat}
    (among : ∀ place, newest.testBit place = true → reached.testBit place = true)
    (explored : ∀ start stop, reached.testBit start = true → newest.testBit start = false →
      leads start stop → reached.testBit stop = true) :
    (spread reach rounds reached newest).testBit stop = true ↔ Within leads reached rounds stop := by
  induction rounds generalizing reached newest with
  | zero => exact within_zero_iff.symm
  | succ rounds ih =>
      -- What is found is kept apart from what was reached; together they are one round.
      have round := testBit_round follows among explored
      rw [spread]
      generalize foundIs : (reached ||| reach newest) ^^^ reached = found
      have together : reached ||| found = reached ||| reach newest := by
        refine Nat.eq_of_testBit_eq fun place => ?_
        rw [← foundIs, Nat.testBit_or, Nat.testBit_xor, Nat.testBit_or]
        cases reached.testBit place <;> cases (reach newest).testBit place <;> rfl
      rw [← together] at round
      by_cases nothing : found = 0
      · rw [if_pos nothing]
        refine (within_iff_of_closed fun start place inside leading => ?_).symm
        have reachable := (round place).2 (.inr ⟨start, inside, leading⟩)
        rwa [nothing, Nat.or_zero] at reachable
      · rw [if_neg nothing, within_succ_iff round, ih]
        · intro place fresh
          rw [Nat.testBit_or, fresh, Bool.or_true]
        · intro start place inside notFresh leading
          rw [Nat.testBit_or, notFresh, Bool.or_false] at inside
          exact (round place).2 (.inr ⟨start, inside, leading⟩)

theorem repeated {length : Nat} (follows : Follows reach leads) (onward : Steps.Forward length leads)
    (least rounds : Nat) (wide : length ≤ rounds) (most : Option Nat) :
    Follows
      (fun places => spread reach
        (match most with
          | some most => min (most - least) rounds
          | none => rounds)
        (Regex.iterate reach least places) (Regex.iterate reach least places))
      fun start stop => ∃ n, least ≤ n ∧ (∀ limit, most = some limit → n ≤ max least limit) ∧
        Steps leads n start stop := by
  intro places stop
  rw [testBit_spread follows _ (fun place inside => inside)
    (fun start stop inside outside => absurd (inside.symm.trans outside) Bool.true_eq_false.mp)]
  constructor
  · rintro ⟨n, few, between, inside, others⟩
    obtain ⟨start, inside, steps⟩ := (iterate follows least places between).1 inside
    refine ⟨start, inside, least + n, Nat.le_add_right _ _, ?_, Steps.add_iff.2 ⟨between, steps, others⟩⟩
    rintro limit rfl
    dsimp only at few
    omega
  · rintro ⟨start, inside, n, enough, limited, steps⟩
    obtain ⟨more, rfl⟩ := Nat.exists_eq_add_of_le enough
    obtain ⟨between, first, others⟩ := Steps.add_iff.1 steps
    -- Repetitions beyond the least that stay can be left out, so the rounds are enough.
    obtain ⟨fewer, less, short, others⟩ := others.exists_few onward
    refine ⟨fewer, ?_, between, (iterate follows least places between).2 ⟨start, inside, first⟩, others⟩
    cases most with
    | none => exact Nat.le_trans short wide
    | some most =>
        have within := limited most rfl
        dsimp only
        omega

end Follows

/-- A search reaches the places that the expression leads to. -/
theorem reach_follows (text : List Char) (regex : Regex) :
    Follows ((regex.locate text).reach text.length) (regex.Leads text) := by
  induction regex with
  | empty =>
      intro places stop
      exact ⟨fun inside => ⟨stop, inside, rfl⟩, fun ⟨start, inside, same⟩ => same ▸ inside⟩
  | chars set =>
      intro places stop
      rw [locate, Located.reach, Nat.testBit_shiftLeft, Bool.and_eq_true, Nat.testBit_and, Bool.and_eq_true,
        testBit_charPlaces]
      constructor
      · rintro ⟨positive, inside, found⟩
        have later : 1 ≤ stop := of_decide_eq_true positive
        exact ⟨stop - 1, inside, found, by omega⟩
      · rintro ⟨start, inside, found, rfl⟩
        exact ⟨decide_eq_true (Nat.le_add_left 1 start), inside, found⟩
  | look condition =>
      intro places stop
      rw [locate, Located.reach, Nat.testBit_and, Bool.and_eq_true, testBit_lookPlaces]
      constructor
      · rintro ⟨inside, met⟩
        exact ⟨stop, inside, met, rfl⟩
      · rintro ⟨start, inside, met, rfl⟩
        exact ⟨inside, met⟩
  | seq first second ihFirst ihSecond =>
      intro places stop
      rw [locate, Located.reach, ihSecond]
      constructor
      · rintro ⟨between, reached, leading⟩
        obtain ⟨start, inside, leads⟩ := (ihFirst places between).1 reached
        exact ⟨start, inside, between, leads, leading⟩
      · rintro ⟨start, inside, between, leads, leading⟩
        exact ⟨between, (ihFirst places between).2 ⟨start, inside, leads⟩, leading⟩
  | alt left right ihLeft ihRight =>
      intro places stop
      rw [locate, Located.reach, Nat.testBit_or, Bool.or_eq_true, ihLeft, ihRight, ← exists_or]
      simp only [Leads, and_or_left]
  | repeated body least most greedy ih =>
      exact ih.repeated (leads_forward text body) least (text.length + 1) (Nat.le_add_right _ _) most
  | group capturing body ih => exact ih

theorem isMatch_iff {regex : Regex} {text : List Char} :
    regex.isMatch text = true ↔ ∃ start stop, start ≤ text.length ∧ regex.Leads text start stop := by
  have everywhere (place : Nat) :
      (2 ^ (text.length + 1) - 1).testBit place = true ↔ place ≤ text.length := by
    rw [Nat.testBit_two_pow_sub_one, decide_eq_true_iff, Nat.lt_succ_iff]
  have follows := reach_follows text regex (2 ^ (text.length + 1) - 1)
  rw [isMatch, bne_iff_ne]
  constructor
  · intro reached
    obtain ⟨stop, inside⟩ := Nat.exists_testBit_of_ne_zero reached
    obtain ⟨start, here, leads⟩ := (follows stop).1 inside
    exact ⟨start, stop, (everywhere start).1 here, leads⟩
  · rintro ⟨start, stop, here, leads⟩ nothing
    have inside := (follows stop).2 ⟨start, (everywhere start).2 here, leads⟩
    rw [nothing, Nat.zero_testBit] at inside
    cases inside

end Regex
end CompactSchema
