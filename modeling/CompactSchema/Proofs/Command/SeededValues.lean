import CompactSchema.Files.Tree
import CompactSchema.Proofs.Command.Work
import CompactSchema.Proofs.Generation.Successive

/-
Values generated from a seed.

A command that generates several values makes one call after the other, from the first
state of its seed on.  A smaller count asks for fewer of the same calls, so its answer is
the beginning of the other one, and a failure of the smaller count is met by the larger
one, too, unless there is no room for so many values: room is set aside before the first
call, and without it the command breaks off.
-/

namespace CompactSchema
namespace Config

open Generation (Successive)

/-- The values of an answer to a request for `count` of them; a single one stands bare. -/
def valuesIn? (count : UInt64) (data : Json) : Option (List Json) :=
  if count = 1 then some [data]
  else
    match data with
    | .array values => some values
    | _ => none

theorem valuesIn?_eq_some_iff {count : UInt64} {values : List Json} (length : values.length = count.toNat)
    (data : Json) : valuesIn? count data = some values ↔ answerOf values = data := by
  unfold valuesIn?
  by_cases single : count = 1
  · subst single
    obtain ⟨value, rfl⟩ := List.length_eq_one_iff.1 length
    rw [if_pos rfl, Option.some.injEq, List.cons.injEq, and_iff_left rfl]
    exact eq_comm
  · have several : answerOf values = .array values := by
      cases values with
      | nil => rfl
      | cons first others =>
          cases others with
          | nil => exact absurd (UInt64.toNat_inj.1 length.symm) single
          | cons second others => rfl
    rw [if_neg single, several]
    cases data with
    | array elements =>
        rw [Option.some.injEq, Json.array.injEq]
        exact eq_comm
    | _ => exact iff_of_false nofun nofun

theorem called_eq_ok_iff {schema : Schema} {state : ChaChaStream} {count : UInt64} {data : Json} :
    called schema state count = .ok data ↔ ∃ values after,
      Successive (schema.generate source) state values after ∧ values.length = count.toNat ∧
        valuesIn? count data = some values := by
  unfold called
  rw [mapError_eq_ok_iff]
  constructor
  · intro answered
    cases ran : (generateValues schema count.toNat).run.run state with
    | mk result after =>
        rw [ran] at answered
        cases result with
        | error error => cases answered
        | ok values =>
            obtain ⟨calls, length⟩ := Generation.run_times_eq_ok_iff.1 ran
            exact ⟨values, after, calls, length, (valuesIn?_eq_some_iff length data).2 (Except.ok.inj answered)⟩
  · intro whole
    obtain ⟨values, after, calls, length, told⟩ := whole
    have ran : (generateValues schema count.toNat).run.run state = (.ok values, after) :=
      Generation.run_times_eq_ok_iff.2 ⟨calls, length⟩
    rw [ran, ← (valuesIn?_eq_some_iff length data).1 told]
    rfl

theorem called_eq_error_iff {schema : Schema} {state : ChaChaStream} {count : UInt64} {error : CommandError} :
    called schema state count = .error error ↔ ∃ values between fault after,
      Successive (schema.generate source) state values between ∧ values.length < count.toNat ∧
        (schema.generate source).run.run between = (.error fault, after) ∧ error = .schema fault := by
  unfold called
  constructor
  · intro failed
    cases ran : (generateValues schema count.toNat).run.run state with
    | mk result after =>
        rw [ran] at failed
        cases result with
        | ok values => cases failed
        | error fault =>
            cases failed
            obtain ⟨values, between, calls, before, last⟩ := Generation.run_times_eq_error_iff.1 ran
            exact ⟨values, between, fault, after, calls, before, last, rfl⟩
  · intro failed
    obtain ⟨values, between, fault, after, calls, before, last, rfl⟩ := failed
    have ran : (generateValues schema count.toNat).run.run state = (.error fault, after) :=
      Generation.run_times_eq_error_iff.2 ⟨values, between, calls, before, last⟩
    rw [ran]
    rfl

section Runs

variable [Diagnosis]

def generated (config : Config) (environment : Environment) (threshold : Severity) (reference : String)
    (seed : Option UInt64) (count : UInt64) : Except CommandError (Except Breakdown Json) :=
  ((config.generate environment reference count seed).run.run.run threshold).result

variable {config : Config} {environment : Environment} {threshold : Severity} {reference : String}
  {seed : Option UInt64} {count : UInt64}

/-- The schema is looked up, room is set aside, and then the calls are made. -/
theorem generated_eq (positive : count ≠ 0) :
    config.generated environment threshold reference seed count =
      (config.looked environment.files threshold reference).bind fun schema =>
        match shortage environment count with
        | some breakdown => .ok (.error breakdown)
        | none => (called schema (config.stream environment seed) count).map .ok := by
  unfold generated
  rw [looked_eq]
  exact (result_generate config environment reference count seed threshold).trans (if_neg positive)

theorem generated_eq_ok_iff (positive : count ≠ 0) {data : Json} :
    config.generated environment threshold reference seed count = .ok (.ok data) ↔
      ∃ schema, config.looked environment.files threshold reference = .ok schema ∧
        shortage environment count = none ∧ called schema (config.stream environment seed) count = .ok data := by
  rw [generated_eq positive]
  cases config.looked environment.files threshold reference with
  | error lookup => simp [Except.bind]
  | ok schema =>
      cases shortage environment count with
      | some breakdown => simp [Except.bind]
      | none =>
          simp only [Except.bind, Except.ok.injEq, exists_eq_left', true_and]
          cases called schema (config.stream environment seed) count <;> simp [Except.map]

theorem generated_eq_error_iff (positive : count ≠ 0) {error : CommandError} :
    config.generated environment threshold reference seed count = .error error ↔
      config.looked environment.files threshold reference = .error error ∨
        ∃ schema, config.looked environment.files threshold reference = .ok schema ∧
          shortage environment count = none ∧
          called schema (config.stream environment seed) count = .error error := by
  rw [generated_eq positive]
  cases config.looked environment.files threshold reference with
  | error lookup => simp [Except.bind]
  | ok schema =>
      cases shortage environment count with
      | some breakdown => simp [Except.bind]
      | none =>
          simp only [Except.bind, Except.ok.injEq, exists_eq_left', true_and, reduceCtorEq, false_or]
          cases called schema (config.stream environment seed) count <;> simp [Except.map]

theorem generated_of_shortage (positive : count ≠ 0) {breakdown : Breakdown}
    (short : shortage environment count = some breakdown) :
    config.generated environment threshold reference seed count =
      (config.looked environment.files threshold reference).map fun _ => .error breakdown := by
  rw [generated_eq positive, short]
  rfl

theorem generated_ne_breakdown (positive : count ≠ 0) (room : shortage environment count = none)
    (breakdown : Breakdown) :
    config.generated environment threshold reference seed count ≠ .ok (.error breakdown) := by
  rw [generated_eq positive, room]
  cases config.looked environment.files threshold reference with
  | error lookup => exact nofun
  | ok schema =>
      show (called schema (config.stream environment seed) count).map Except.ok ≠ _
      cases called schema (config.stream environment seed) count with
      | error error => exact nofun
      | ok data => exact nofun

end Runs

theorem shortage_eq_none_of_le {environment : Environment} {n m : UInt64} (fewer : n ≤ m)
    (room : shortage environment m = none) : shortage environment n = none := by
  have le : listSize n ≤ listSize m := Nat.mul_le_mul_right 32 (UInt64.le_iff_toNat_le.1 fewer)
  unfold shortage at room ⊢
  split at room
  · cases room
  · rename_i counted
    split at room
    · cases room
    · rename_i enough
      rw [if_neg (by omega), if_neg (by omega)]

/-- The seed of the command goes before that of the configuration. -/
theorem stream_eq_ofSeed {config : Config} {environment : Environment} {seed : Option UInt64} {chosen : UInt64}
    (seeded : seed = some chosen ∨ seed = none ∧ config.seed = some chosen) :
    config.stream environment seed = ChaChaStream.ofSeed chosen := by
  unfold Config.stream
  rcases seeded with given | ⟨absent, configured⟩
  · rw [given]
    rfl
  · rw [absent, configured]
    rfl

theorem ne_zero_of_le {n m : UInt64} (positive : n ≠ 0) (fewer : n ≤ m) : m ≠ 0 := by
  intro zero
  rw [zero] at fewer
  exact positive (UInt64.le_zero_iff.1 fewer)

section More

variable [Diagnosis] {config : Config} {environment : Environment} {threshold : Severity} {reference : String}
  {seed : Option UInt64} {n m : UInt64}

theorem generated_take (positive : n ≠ 0) (fewer : n ≤ m) {data : Json}
    (answered : config.generated environment threshold reference seed m = .ok (.ok data)) :
    ∃ values data', valuesIn? m data = some values ∧
      config.generated environment threshold reference seed n = .ok (.ok data') ∧
      valuesIn? n data' = some (values.take n.toNat) := by
  obtain ⟨schema, found, room, answered⟩ := (generated_eq_ok_iff (ne_zero_of_le positive fewer)).1 answered
  obtain ⟨values, after, calls, length, told⟩ := called_eq_ok_iff.1 answered
  obtain ⟨between, firstCalls⟩ := calls.exists_take n.toNat
  have shorter : (values.take n.toNat).length = n.toNat := by
    rw [List.length_take, length]
    exact Nat.min_eq_left (UInt64.le_iff_toNat_le.1 fewer)
  have told' := (valuesIn?_eq_some_iff shorter _).2 rfl
  refine ⟨values, answerOf (values.take n.toNat), told, ?_, told'⟩
  apply (generated_eq_ok_iff positive).2
  exact ⟨schema, found, shortage_eq_none_of_le fewer room,
    called_eq_ok_iff.2 ⟨_, between, firstCalls, shorter, told'⟩⟩

theorem generated_eq_error_of_le (positive : n ≠ 0) (fewer : n ≤ m) {error : CommandError}
    (failed : config.generated environment threshold reference seed n = .error error)
    (room : shortage environment m = none) :
    config.generated environment threshold reference seed m = .error error := by
  apply (generated_eq_error_iff (ne_zero_of_le positive fewer)).2
  rcases (generated_eq_error_iff positive).1 failed with lookup | ⟨schema, found, -, failed⟩
  · exact .inl lookup
  · obtain ⟨values, between, fault, after, calls, before, last⟩ := called_eq_error_iff.1 failed
    have before' : values.length < m.toNat := Nat.lt_of_lt_of_le before (UInt64.le_iff_toNat_le.1 fewer)
    have failed' := called_eq_error_iff.2 ⟨values, between, fault, after, calls, before', last⟩
    exact .inr ⟨schema, found, room, failed'⟩

end More

/-- Of two counts the smaller one is answered with the first values of the larger one's answer, and
where there is room for so many values it fails only as the larger one does.  Without room the
larger one breaks off as soon as the schema is found.  The values are those of calls in a row from
the beginning of the seed, and the command's seed goes before that of the configuration. -/
theorem generated_extends [Diagnosis] {config : Config} {seed : Option UInt64} {chosen : UInt64}
    (seeded : seed = some chosen ∨ seed = none ∧ config.seed = some chosen) {n m : UInt64}
    (positive : 1 ≤ n) (fewer : n ≤ m) (environment : Environment) (threshold : Severity)
    (reference : String) :
    (∀ data, config.generated environment threshold reference seed m = .ok (.ok data) →
      ∃ values data', valuesIn? m data = some values ∧
        config.generated environment threshold reference seed n = .ok (.ok data') ∧
        valuesIn? n data' = some (values.take n.toNat)) ∧
    (shortage environment m = none →
      (∀ breakdown, config.generated environment threshold reference seed m ≠ .ok (.error breakdown)) ∧
      ∀ error, config.generated environment threshold reference seed n = .error error →
        config.generated environment threshold reference seed m = .error error) ∧
    (∀ breakdown, shortage environment m = some breakdown →
      config.generated environment threshold reference seed m =
        (config.looked environment.files threshold reference).map fun _ => .error breakdown) ∧
    ∀ data, config.generated environment threshold reference seed n = .ok (.ok data) ↔
      ∃ schema values after, config.looked environment.files threshold reference = .ok schema ∧
        shortage environment n = none ∧
        Successive (schema.generate source) (ChaChaStream.ofSeed chosen) values after ∧
        values.length = n.toNat ∧ valuesIn? n data = some values := by
  have notZero : n ≠ 0 := ne_zero_of_le (by decide) positive
  refine ⟨?_, ?_, ?_, ?_⟩
  · intro data answered
    exact generated_take notZero fewer answered
  · intro room
    refine ⟨generated_ne_breakdown (ne_zero_of_le notZero fewer) room, fun error failed => ?_⟩
    exact generated_eq_error_of_le notZero fewer failed room
  · intro breakdown short
    exact generated_of_shortage (ne_zero_of_le notZero fewer) short
  · intro data
    rw [generated_eq_ok_iff notZero, stream_eq_ofSeed seeded]
    constructor
    · intro answered
      obtain ⟨schema, found, room, answered⟩ := answered
      obtain ⟨values, after, told⟩ := called_eq_ok_iff.1 answered
      exact ⟨schema, values, after, found, room, told⟩
    · intro answered
      obtain ⟨schema, values, after, found, room, told⟩ := answered
      exact ⟨schema, found, room, called_eq_ok_iff.2 ⟨values, after, told⟩⟩

/-- A single value is the first of three, drawn from the seed of the command and not from
that of the configuration. -/
theorem generated_extends_to_three :
    let _ : Diagnosis := .brief
    let tree : FileTree := ⟨.directory [("work", .directory
      [("flag.json", .file "\x7b\"type\":\"boolean\"\x7d".toUTF8)])], ["work"]⟩
    let config : Config := { seed := some 4 }
    let environment : Environment := { files := tree.view, input := .ok "", entropy := .ofSeed 0 }
    let generated := config.generated environment .info "flag.json" (some 6)
    ∃ data values single, generated 3 = .ok (.ok data) ∧ data.text = "[true,false,false]" ∧
      valuesIn? 3 data = some values ∧ generated 1 = .ok (.ok single) ∧
      valuesIn? 1 single = some (values.take 1) := by
  intro diagnosis tree config environment generated
  have told : (generated 3).map (fun ended => ended.map Json.text) = .ok (.ok "[true,false,false]") := by
    decide +kernel
  have one : (1 : UInt64) ≤ 1 := by decide
  have three : (1 : UInt64) ≤ 3 := by decide
  have given : some (6 : UInt64) = some 6 ∨ some (6 : UInt64) = none ∧ config.seed = some 6 := .inl rfl
  have shared := generated_extends given one three environment .info "flag.json"
  rcases answered : generated 3 with error | breakdown | data
  · rw [answered] at told
    cases told
  · rw [answered] at told
    cases told
  · rw [answered] at told
    obtain ⟨values, single, held, first, shorter⟩ := shared.1 data answered
    exact ⟨data, values, single, rfl, Except.ok.inj (Except.ok.inj told), held, first, shorter⟩

/-- One value from an empty list of members is refused, but the greatest count breaks off before
any value is asked for. -/
theorem not_failed_alike_beyond_capacity :
    let _ : Diagnosis := .brief
    let tree : FileTree := ⟨.directory [("work", .directory
      [("s.json", .file "\x7b\"type\":\"string\",\"enum\":[]\x7d".toUTF8)])], ["work"]⟩
    let environment : Environment := { files := tree.view, input := .ok "", entropy := .ofSeed 0 }
    let generated := ({} : Config).generated environment .info "s.json" (some 1)
    let refused : CommandError := .schema (.malformed { steps := [] } .membersEmpty)
    generated 1 = .error refused ∧ generated 18446744073709551615 = .ok (.error .capacityOverflow) ∧
      ¬ ∀ error, generated 1 = .error error → generated 18446744073709551615 = .error error := by
  intro diagnosis tree environment generated refused
  have failed : generated 1 = .error refused := by
    have ended : (generated 1).map (fun _ => ()) = .error refused := by decide +kernel
    cases result : generated 1 with
    | error error =>
        rw [result] at ended
        cases ended
        rfl
    | ok answer =>
        rw [result] at ended
        cases ended
  have broken : generated 18446744073709551615 = .ok (.error .capacityOverflow) := by
    have found : (({} : Config).looked environment.files .info "s.json").isOk = true := by decide +kernel
    have short : shortage environment 18446744073709551615 = some .capacityOverflow := by decide
    refine (generated_of_shortage (by decide) short).trans ?_
    cases looked : ({} : Config).looked environment.files .info "s.json" with
    | error error =>
        rw [looked] at found
        cases found
    | ok schema => rfl
  refine ⟨failed, broken, fun alike => ?_⟩
  rw [alike refused failed] at broken
  cases broken

end Config
end CompactSchema
