import CompactSchema.Files.Tree
import CompactSchema.Proofs.Command.Work
import CompactSchema.Proofs.Json.Spelling
import CompactSchema.Proofs.Json.Unbroken

/-
Responses of commands.

A command whose configuration is in order answers with one line, and the line tells how
the command went: from it follow the code and the message of the error, or that there
was none.  A command whose configuration is at fault answers with nothing, and so does one
that breaks off because there is no room for the values that are wanted.
-/

namespace CompactSchema

theorem Response.ok_text_ne_failed_text (data : Json) (code message : String) :
    (Response.ok data).text ≠ (Response.failed code message).text := by
  intro same
  -- the two texts differ in the name of the first member
  have chars := congrArg String.toList same
  simp only [Json.text, String.toList_ofList, ok, failed, Json.write, Json.writeString] at chars
  have names : ("data".toList, "code".toList) = (['d', 'a', 't', 'a'], ['c', 'o', 'd', 'e']) := rfl
  rw [Prod.mk.injEq] at names
  rw [names.1, names.2] at chars
  simp [Json.writeChars, Json.escape] at chars

theorem Response.failed_text_injective {code message code' message' : String}
    (same : (Response.failed code message).text = (Response.failed code' message').text) :
    code = code' ∧ message = message' := by
  have integers (code message : String) : (Response.failed code message).IntegersOnly :=
    ⟨trivial, trivial, trivial, trivial⟩
  -- both hold strings only, so each text falls into the tokens of its own response
  have tokens : Json.spelling (Response.failed code message) [] =
      Json.spelling (Response.failed code' message') [] := by
    rw [← Json.tokens_text (integers code message), ← Json.tokens_text (integers code' message'), same]
  simpa [failed, Json.spelling, Json.membersSpelling] using tokens

namespace CommandOutcome

/-- The line of an outcome tells how the command went. -/
structure Told [Diagnosis] (outcome : CommandOutcome) : Prop where
  single : outcome.lines.length = 1
  done : outcome.failure = none ↔ ∃ data, outcome.lines = [(Response.ok data).text]
  failed (code message : String) : outcome.lines = [(Response.failed code message).text] ↔
    ∃ error, outcome.failure = some error ∧ error.code = code ∧ error.message = message

theorem unbroken_of_mem_lines {outcome : CommandOutcome} {line : String} (inside : line ∈ outcome.lines) :
    Unbroken line.toList := by
  rw [lines, Option.mem_toList, Option.map_eq_some_iff] at inside
  rcases inside with ⟨response, -, rfl⟩
  exact response.unbroken_text

section Work

variable [Diagnosis]

theorem lines_ofWork_ok (data : Json) : (ofWork (.ok (.ok data))).lines = [(Response.ok data).text] := rfl

theorem lines_ofWork_error (error : CommandError) :
    (ofWork (.error error)).lines = [(Response.failed error.code error.message).text] := rfl

/-- Work that does not break off is told of. -/
theorem told_ofWork (result : Except CommandError Json) : (ofWork (result.map .ok)).Told := by
  cases result with
  | ok data =>
      constructor
      · rfl
      · exact ⟨fun _ => ⟨data, rfl⟩, fun _ => rfl⟩
      · intro code message
        constructor
        · intro same
          rw [Except.map, lines_ofWork_ok, List.cons.injEq] at same
          exact absurd same.1 (Response.ok_text_ne_failed_text data code message)
        · intro failed
          rcases failed with ⟨error, impossible, -⟩
          cases impossible
  | error error =>
      constructor
      · rfl
      · constructor
        · nofun
        · intro answered
          rcases answered with ⟨data, same⟩
          rw [Except.map, lines_ofWork_error, List.cons.injEq] at same
          exact absurd same.1.symm (Response.ok_text_ne_failed_text data error.code error.message)
      · intro code message
        constructor
        · intro same
          rw [Except.map, lines_ofWork_error, List.cons.injEq] at same
          exact ⟨error, rfl, Response.failed_text_injective same.1⟩
        · intro failed
          rcases failed with ⟨other, here, rfl, rfl⟩
          cases here
          rfl

theorem breakdown_ofWork (result : Except CommandError Json) : (ofWork (result.map .ok)).breakdown = none := by
  cases result with
  | ok data => rfl
  | error error => rfl

end Work

end CommandOutcome

namespace Config

theorem exists_threshold_of_ofText {text : String} {config : Config}
    (read : ofText text = .ok config) : ∃ severity, config.threshold = .ok severity := by
  unfold ofText at read
  split at read
  · unfold validated at read
    split at read
    · cases read
    · split at read
      · rename_i severity known
        cases read
        exact ⟨severity, known⟩
      · cases read
  · cases read

theorem exists_threshold_of_load {files : FileSystem} {path : FilePath} {config : Config}
    (loaded : load files path = .ok config) : ∃ severity, config.threshold = .ok severity := by
  unfold load at loaded
  split at loaded
  · exact exists_threshold_of_ofText loaded
  · cases loaded

theorem exists_threshold_of_resolve {files : FileSystem} {path : Option FilePath} {config : Config}
    (resolved : resolve files path = .ok config) : ∃ severity, config.threshold = .ok severity := by
  unfold resolve at resolved
  split at resolved
  · exact exists_threshold_of_load resolved
  · split at resolved
    · exact exists_threshold_of_load resolved
    · cases resolved
      exact ⟨.info, by decide⟩

end Config

namespace Command

variable {environment : Environment} {command : Command}

theorem run_prepare_of_error {error : CommandError}
    (refused : Config.resolve environment.files command.config = .error error) (threshold : Severity) :
    (command.prepare environment).run.run threshold = ⟨.error error, [], threshold⟩ := by
  unfold prepare Work.ofExcept
  rw [refused]
  rfl

theorem run_prepare {config : Config} {severity : Severity}
    (resolved : Config.resolve environment.files command.config = .ok config)
    (known : config.threshold = .ok severity) (threshold : Severity) :
    (command.prepare environment).run.run threshold = ⟨.ok config, [], severity⟩ := by
  have begun : (command.prepare environment).run =
      (do config.apply; return config : Work Config).run := by
    unfold prepare
    rw [resolved]
    rfl
  rw [begun]
  unfold Config.apply
  rw [known]
  rfl

/-- The command asks for values of a schema that is found, and there is no room for so many. -/
def Breaks (config : Config) (environment : Environment) : Command → Breakdown → Prop
  | .generate reference count _ _, breakdown =>
      count ≠ 0 ∧ (∃ schema, config.referred environment.files reference = .ok schema) ∧
        Config.shortage environment count = some breakdown
  | .validate _ _ _, _ | .checkSchemas _, _ => False

section Runs

variable [Diagnosis]

theorem result_work_of_breaks {config : Config} {breakdown : Breakdown}
    (breaks : command.Breaks config environment breakdown) (threshold : Severity) :
    ((command.work config environment).run.run.run threshold).result = .ok (.error breakdown) := by
  cases command with
  | generate reference count seed _ =>
      obtain ⟨positive, ⟨schema, found⟩, short⟩ := breaks
      rw [work, Config.result_generate, if_neg positive, found, short]
      rfl
  | validate _ _ _ => exact breaks.elim
  | checkSchemas _ => exact breaks.elim

theorem exists_result_work {config : Config} (holds : ∀ breakdown, ¬ command.Breaks config environment breakdown)
    (threshold : Severity) : ∃ result : Except CommandError Json,
      ((command.work config environment).run.run.run threshold).result = result.map .ok := by
  cases command with
  | validate schema data _ => exact ⟨_, Task.result_lift _ threshold⟩
  | checkSchemas _ => exact ⟨_, Task.result_lift _ threshold⟩
  | generate reference count seed _ =>
      rw [work, Config.result_generate]
      by_cases zero : count = 0
      · rw [if_pos zero]
        exact ⟨.error .countZero, rfl⟩
      · rw [if_neg zero]
        cases found : config.referred environment.files reference with
        | error error => exact ⟨.error (.schema error), rfl⟩
        | ok schema =>
            cases short : Config.shortage environment count with
            | some breakdown => exact absurd ⟨zero, ⟨schema, found⟩, short⟩ (holds breakdown)
            | none => exact ⟨Config.called schema (config.stream environment seed) count, rfl⟩

theorem result_run_of_error {error : CommandError}
    (refused : Config.resolve environment.files command.config = .error error) (threshold : Severity) :
    ((command.run environment).run threshold).result = { failure := some error } := by
  rw [run, Logged.run_bind, run_prepare_of_error refused]
  rfl

theorem result_run {config : Config} {severity : Severity}
    (resolved : Config.resolve environment.files command.config = .ok config)
    (known : config.threshold = .ok severity) (threshold : Severity) :
    ((command.run environment).run threshold).result =
      .ofWork ((command.work config environment).run.run.run severity).result := by
  rw [run, Logged.run_bind, run_prepare resolved known]
  rfl

/-- A command answers with one line that tells how it went, unless its configuration is at fault
or it breaks off for want of room: then it writes no line at all. -/
theorem answer_run (environment : Environment) (command : Command) (threshold : Severity) :
    let outcome := ((command.run environment).run threshold).result
    (∀ line ∈ outcome.lines, Unbroken line.toList) ∧
      match Config.resolve environment.files command.config with
      | .ok config =>
          ((∀ breakdown, ¬ command.Breaks config environment breakdown) →
            outcome.Told ∧ outcome.breakdown = none) ∧
          ∀ breakdown, command.Breaks config environment breakdown →
            outcome.lines = [] ∧ outcome.failure = none ∧ outcome.breakdown = some breakdown
      | .error error => outcome.lines = [] ∧ outcome.failure = some error ∧ outcome.breakdown = none := by
  refine ⟨fun line => CommandOutcome.unbroken_of_mem_lines, ?_⟩
  cases resolved : Config.resolve environment.files command.config with
  | ok config =>
      obtain ⟨severity, known⟩ := Config.exists_threshold_of_resolve resolved
      rw [result_run resolved known]
      constructor
      · intro holds
        obtain ⟨result, ended⟩ := exists_result_work holds severity
        rw [ended]
        exact ⟨CommandOutcome.told_ofWork result, CommandOutcome.breakdown_ofWork result⟩
      · intro breakdown breaks
        rw [result_work_of_breaks breaks severity]
        exact ⟨rfl, rfl, rfl⟩
  | error error =>
      rw [result_run_of_error resolved]
      exact ⟨rfl, rfl, rfl⟩

end Runs

/-- A configuration that allows no level at all is at fault, and nothing is answered. -/
theorem not_told_run_at_depth_limit_zero :
    let _ : Diagnosis := .brief
    let content := "\x7b\"max_depth\":0\x7d"
    let tree : FileTree :=
      ⟨.directory [("work", .directory [("c.json", .file content.toUTF8)])], ["work"]⟩
    let environment : Environment := { files := tree.view, input := .ok "", entropy := .ofSeed 0 }
    let outcome := (((Command.checkSchemas (some "c.json")).run environment).run .info).result
    outcome.failure = some .depthLimitZero ∧ outcome.lines = [] ∧ ¬ outcome.Told := by
  intro diagnosis content tree environment outcome
  have refused : Config.resolve environment.files (some "c.json") = .error .depthLimitZero := by
    decide +kernel
  have silent : outcome = { failure := some .depthLimitZero } :=
    @result_run_of_error environment (.checkSchemas (some "c.json")) _ _ refused .info
  rw [silent]
  exact ⟨rfl, rfl, fun told => absurd told.single (by decide)⟩

end Command
end CompactSchema
