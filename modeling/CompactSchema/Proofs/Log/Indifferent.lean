import CompactSchema.Command.Run
import CompactSchema.Files.Tree
import CompactSchema.Registry.Operation

/-
The threshold of the log and everything else.

No activity but the choice of a threshold depends on the threshold: its result is the
same under each, and what it writes is what it writes under the lowest one, less the
events that lie below.  Pure results and reports are such activities, and so is one that
goes on from another; loading and the work of commands are made of these.
-/

namespace CompactSchema

namespace Logged

variable {α β : Type}

/-- The threshold decides which events are written, and nothing else. -/
structure Indifferent (activity : Logged α) : Prop where
  result (threshold : Severity) :
    (activity.run threshold).result = (activity.run .trace).result
  threshold (threshold : Severity) : (activity.run threshold).threshold = threshold
  events (threshold : Severity) : (activity.run threshold).events =
    (activity.run .trace).events.filter fun event => event.severity.meets threshold

theorem indifferent_pure (result : α) : (pure result : Logged α).Indifferent :=
  ⟨fun _ => rfl, fun _ => rfl, fun _ => rfl⟩

theorem indifferent_report (severity : Severity) (name : String) (fields : List (String × String)) :
    (report severity name fields).Indifferent := by
  refine ⟨fun _ => rfl, fun _ => rfl, fun threshold => ?_⟩
  have lowest : severity.meets .trace = true := by
    cases severity <;> rfl
  simp only [report, run, lowest, if_pos]
  split
  · rename_i meets
    simp [meets]
  · rename_i below
    simp [below]

theorem Indifferent.bind {first : Logged α} {next : α → Logged β} (before : first.Indifferent)
    (after : ∀ result, (next result).Indifferent) : (first >>= next).Indifferent := by
  constructor
  · intro threshold
    simp only [run_bind, before.threshold, before.result threshold]
    exact (after _).result threshold
  · intro threshold
    simp only [run_bind, before.threshold]
    exact (after _).threshold threshold
  · intro threshold
    simp only [run_bind, before.threshold, before.result threshold, List.filter_append]
    rw [← before.events, ← (after _).events]

end Logged

/-! ### Loading -/

namespace Registry

variable {α β : Type}

def Loading.Indifferent (activity : Loading α) : Prop :=
  ∀ registry, (activity.run registry).Indifferent

namespace Loading

theorem indifferent_pure (result : α) : Indifferent (pure result) :=
  fun _ => Logged.indifferent_pure _

theorem indifferent_get : Indifferent (get : Loading Registry) := fun _ => Logged.indifferent_pure _

theorem indifferent_modify (change : Registry → Registry) :
    Indifferent (modify change : Loading PUnit) :=
  fun _ => Logged.indifferent_pure _

theorem indifferent_report (severity : Severity) (name : String) (fields : List (String × String)) :
    Indifferent (Logged.report severity name fields : Loading Unit) := by
  intro registry
  show Logged.Indifferent (Logged.report severity name fields >>= fun done => pure (done, registry))
  exact (Logged.indifferent_report severity name fields).bind fun _ => Logged.indifferent_pure _

theorem Indifferent.bind {first : Loading α} {next : α → Loading β} (before : Indifferent first)
    (after : ∀ result, Indifferent (next result)) : Indifferent (first >>= next) := by
  intro registry
  rw [StateT.run_bind]
  exact (before registry).bind fun (result, changed) => after result changed

end Loading

open Loading

variable [Diagnosis]

theorem indifferent_loadFile (files : FileSystem) (limit : Nat) (path : FilePath) :
    Indifferent (loadFile files limit path) := by
  unfold loadFile
  split
  · exact indifferent_pure _
  · split
    · refine (indifferent_report _ _ _).bind fun _ => ?_
      exact (indifferent_modify _).bind fun _ => indifferent_pure _
    · exact (indifferent_report _ _ _).bind fun _ => indifferent_pure _

theorem indifferent_loadFiles (files : FileSystem) (limit : Nat) (paths : List FilePath) :
    Indifferent (loadFiles files limit paths) := by
  induction paths with
  | nil => exact indifferent_pure _
  | cons path paths ih =>
      refine (indifferent_loadFile files limit path).bind fun _ => ?_
      exact ih.bind fun _ => indifferent_pure _

theorem indifferent_loadEach (directory : SchemaDirectory) (files : FileSystem) :
    Indifferent (directory.loadEach files) := by
  unfold SchemaDirectory.loadEach
  split
  · exact indifferent_pure _
  · exact (indifferent_loadFiles _ _ _).bind fun _ => indifferent_pure _

theorem indifferent_loadNamed (directory : SchemaDirectory) (files : FileSystem) (name : String) :
    Indifferent (directory.loadNamed files name) := by
  unfold SchemaDirectory.loadNamed
  dsimp only
  split
  · refine (indifferent_loadFile _ _ _).bind fun outcome => ?_
    cases outcome with
    | error error => exact indifferent_pure _
    | ok loaded => exact indifferent_get.bind fun _ => indifferent_pure _
  · exact indifferent_pure _

theorem indifferent_perform (directory : SchemaDirectory) (files : FileSystem)
    (operation : Operation) : Indifferent (perform directory files operation) := by
  cases operation with
  | loadAll =>
      refine Indifferent.bind ?_ fun _ => indifferent_pure _
      exact (indifferent_loadEach directory files).bind fun _ => indifferent_pure _
  | loadEach => exact (indifferent_loadEach directory files).bind fun _ => indifferent_pure _
  | loadNamed name =>
      exact (indifferent_loadNamed directory files name).bind fun _ => indifferent_pure _
  | loadFile path =>
      exact (indifferent_loadFile files directory.depthLimit path).bind fun _ => indifferent_pure _
  | register name schema => exact (indifferent_modify _).bind fun _ => indifferent_pure _
  | get name => exact indifferent_get.bind fun _ => indifferent_pure _
  | require name => exact indifferent_get.bind fun _ => indifferent_pure _
  | names => exact indifferent_get.bind fun _ => indifferent_pure _
  | size => exact indifferent_get.bind fun _ => indifferent_pure _
  | inspect path => exact indifferent_pure _

theorem indifferent_performAll (directory : SchemaDirectory) (history : List Moment) :
    Indifferent (performAll directory history) := by
  induction history with
  | nil => exact indifferent_pure _
  | cons moment later ih =>
      refine (indifferent_perform directory moment.files moment.operation).bind fun _ => ?_
      exact ih.bind fun _ => indifferent_pure _

end Registry

/-! ### The work of commands -/

namespace Work

variable {α β : Type}

def Indifferent (activity : Work α) : Prop := Logged.Indifferent activity.run

theorem indifferent_ofExcept (result : Except CommandError α) : Indifferent (ofExcept result) :=
  Logged.indifferent_pure _

theorem indifferent_pure (result : α) : Indifferent (pure result) := Logged.indifferent_pure _

theorem indifferent_throw (error : CommandError) : Indifferent (throw error : Work α) :=
  Logged.indifferent_pure _

theorem indifferent_lift {activity : Logged α} (indifferent : activity.Indifferent) :
    Indifferent (activity : Work α) :=
  indifferent.bind fun _ => Logged.indifferent_pure _

theorem indifferent_onRegistry {activity : Registry.Loading (Except SchemaError α)}
    (indifferent : activity.Indifferent) : Indifferent (onRegistry activity) :=
  (indifferent .empty).bind fun _ => Logged.indifferent_pure _

theorem Indifferent.bind {first : Work α} {next : α → Work β} (before : Indifferent first)
    (after : ∀ result, Indifferent (next result)) : Indifferent (first >>= next) := by
  refine Logged.Indifferent.bind before fun outcome => ?_
  cases outcome with
  | ok result => exact after result
  | error error => exact Logged.indifferent_pure _

end Work

namespace Task

variable {α β : Type}

def Indifferent (activity : Task α) : Prop := Work.Indifferent activity.run

theorem indifferent_pure (result : α) : Indifferent (pure result) := Work.indifferent_pure _

theorem indifferent_throw (error : CommandError) : Indifferent (throwThe CommandError error : Task α) :=
  Work.indifferent_throw error

theorem indifferent_lift {activity : Work α} (indifferent : Work.Indifferent activity) :
    Indifferent (activity : Task α) := by
  show Work.Indifferent (Except.ok <$> activity)
  rw [map_eq_pure_bind]
  exact indifferent.bind fun _ => Work.indifferent_pure _

theorem Indifferent.bind {first : Task α} {next : α → Task β} (before : Indifferent first)
    (after : ∀ result, Indifferent (next result)) : Indifferent (first >>= next) := by
  refine Work.Indifferent.bind before fun outcome => ?_
  cases outcome with
  | ok result => exact after result
  | error breakdown => exact Work.indifferent_pure _

end Task

namespace Config

open Work

theorem indifferent_reserve (environment : Environment) (count : UInt64) :
    Task.Indifferent (reserve environment count) := by
  unfold reserve
  split
  · exact Work.indifferent_pure _
  · exact Task.indifferent_pure _

variable [Diagnosis]

theorem indifferent_resolveSchema (config : Config) (files : FileSystem) (reference : String) :
    Indifferent (config.resolveSchema files reference) := by
  unfold resolveSchema
  split
  · exact indifferent_ofExcept _
  · exact indifferent_onRegistry (Registry.indifferent_loadNamed _ _ _)

theorem indifferent_validateReport (reference : String) (schema : Schema) (data : Json) :
    (validateReport reference schema data).Indifferent := by
  unfold validateReport
  split
  · exact (Logged.indifferent_report _ _ _).bind fun _ => Logged.indifferent_pure _
  · exact (Logged.indifferent_report _ _ _).bind fun _ => Logged.indifferent_pure _

theorem indifferent_validate (config : Config) (environment : Environment) (reference : String)
    (data : Option FilePath) : Indifferent (config.validate environment reference data) := by
  refine (config.indifferent_resolveSchema _ reference).bind fun schema => ?_
  refine (indifferent_ofExcept _).bind fun data => ?_
  exact indifferent_lift (indifferent_validateReport reference schema data)

theorem indifferent_generate (config : Config) (environment : Environment) (reference : String)
    (count : UInt64) (seed : Option UInt64) :
    Task.Indifferent (config.generate environment reference count seed) := by
  have reports (severity : Severity) (name : String) (fields : List (String × String)) :
      Task.Indifferent (Logged.report severity name fields : Task Unit) :=
    Task.indifferent_lift (indifferent_lift (Logged.indifferent_report severity name fields))
  unfold generate
  dsimp only
  split
  · exact Task.indifferent_throw _
  · refine (Task.indifferent_lift (config.indifferent_resolveSchema _ reference)).bind fun schema => ?_
    refine (indifferent_reserve environment count).bind fun _ => ?_
    split
    · exact (reports _ _ _).bind fun _ => Task.indifferent_throw _
    · refine (reports _ _ _).bind fun _ => ?_
      split
      · exact Task.indifferent_pure _
      · exact Task.indifferent_pure _

theorem indifferent_checkSchemas (config : Config) (environment : Environment) :
    Indifferent (config.checkSchemas environment) := by
  unfold checkSchemas
  refine (indifferent_onRegistry (Registry.indifferent_loadEach _ _)).bind fun outcomes => ?_
  dsimp only
  split
  · exact (indifferent_lift (Logged.indifferent_report _ _ _)).bind fun _ => indifferent_pure _
  · exact indifferent_pure _

end Config

/-- A command that generates has a seed, its own or that of the configuration. -/
def Command.Seeded (config : Config) : Command → Prop
  | .generate _ _ seed _ => (seed <|> config.seed).isSome
  | _ => True

namespace Command

variable [Diagnosis]

theorem indifferent_work (config : Config) (environment : Environment) (command : Command) :
    Task.Indifferent (command.work config environment) := by
  cases command with
  | validate schema data _ => exact Task.indifferent_lift (config.indifferent_validate environment schema data)
  | generate schema count seed _ => exact config.indifferent_generate environment schema count seed
  | checkSchemas _ => exact Task.indifferent_lift (config.indifferent_checkSchemas environment)

theorem work_entropy {config : Config} {command : Command} (seeded : command.Seeded config)
    (environment : Environment) (entropy : ChaChaStream) :
    command.work config { environment with entropy } = command.work config environment := by
  cases command with
  | validate schema data _ => rfl
  | checkSchemas _ => rfl
  | generate schema count seed _ =>
      have same : config.stream { environment with entropy } seed = config.stream environment seed := by
        obtain ⟨chosen, found⟩ := Option.isSome_iff_exists.1 seeded
        unfold Config.stream
        rw [found]
      show config.generate { environment with entropy } schema count seed = _
      unfold Config.generate
      rw [same]
      rfl

end Command

/-! ### Runs under two log levels -/

namespace Written

variable {α : Type}

/-- The lines of the events from a severity on. -/
def linesFrom (severity : Severity) (written : Written α) : List String :=
  (written.events.filter fun event => event.severity.meets severity).map LogEvent.line

/-- Two runs end in the same result; if the second one writes every line, then the first
one writes those of its lines that meet the first one's threshold. -/
structure Alike (severity otherSeverity : Severity) (run otherRun : Written α) : Prop where
  result : run.result = otherRun.result
  lines : otherSeverity = .trace → run.lines = otherRun.linesFrom severity

end Written

theorem Logged.Indifferent.alike {α : Type} {activity : Logged α} (indifferent : activity.Indifferent)
    (severity otherSeverity : Severity) : Written.Alike severity otherSeverity
      (activity.run severity) (activity.run otherSeverity) := by
  constructor
  · rw [indifferent.result severity, indifferent.result otherSeverity]
  · intro lowest
    rw [lowest, Written.lines, indifferent.events severity]
    rfl

namespace Config

theorem threshold_eq_ok_iff {config : Config} {severity : Severity} :
    config.threshold = .ok severity ↔ Severity.ofName? config.logLevel = some severity := by
  unfold threshold
  cases Severity.ofName? config.logLevel <;> simp

theorem run_apply {config : Config} {severity : Severity} (known : config.threshold = .ok severity)
    {α : Type} (work : Work α) (before : Severity) :
    (do config.apply; work : Work α).run.run before = work.run.run severity := by
  unfold apply
  rw [known]
  rfl

/-- Of two configurations that differ only in the log level, both let a command end in
the same result, and both let the same loading end in the same answers and the same
registry.  The level decides which lines are written. -/
theorem alike_of_logLevels [Diagnosis] (config : Config) {level other : String}
    {severity otherSeverity : Severity}
    (known : Config.threshold { config with logLevel := level } = .ok severity)
    (otherKnown : Config.threshold { config with logLevel := other } = .ok otherSeverity)
    (before otherBefore : Severity) :
    let left : Config := { config with logLevel := level }
    let right : Config := { config with logLevel := other }
    (∀ (command : Command) (environment : Environment) (entropy : ChaChaStream),
      command.Seeded config →
        Written.Alike severity otherSeverity
          ((do left.apply; (command.work left environment).run :
            Work (Except Breakdown Json)).run.run before)
          ((do right.apply; (command.work right { environment with entropy }).run :
            Work (Except Breakdown Json)).run.run otherBefore)) ∧
      ∀ (history : List Registry.Moment) (registry : Registry),
        Written.Alike severity otherSeverity
          ((do left.apply; (Registry.performAll left.directory history).run registry :
            Work (List Registry.Answer × Registry)).run.run before)
          ((do right.apply; (Registry.performAll right.directory history).run registry :
            Work (List Registry.Answer × Registry)).run.run otherBefore) := by
  intro left right
  constructor
  · intro command environment entropy seeded
    have same : command.work right { environment with entropy } = command.work right environment :=
      Command.work_entropy seeded environment entropy
    rw [run_apply known, run_apply otherKnown, same]
    exact (command.indifferent_work config environment).alike severity otherSeverity
  · intro history registry
    rw [run_apply known, run_apply otherKnown]
    have indifferent := Registry.indifferent_performAll config.directory history registry
    exact Logged.Indifferent.alike (Work.indifferent_lift indifferent) severity otherSeverity

/-- Under a grave level the event of the file that could be loaded is not written. -/
theorem alike_of_warn_and_trace :
    let _ : Diagnosis := .brief
    let tree : FileTree := ⟨.directory [("work", .directory [("schemas", .directory
      [("bad.json", .file "5".toUTF8),
       ("id.json", .file "\x7b\"type\":\"id\"\x7d".toUTF8)])])], ["work"]⟩
    let environment : Environment := { files := tree.view, input := .ok "", entropy := .ofSeed 0 }
    let warn : Config := { ({} : Config) with logLevel := "WARN" }
    let trace : Config := { ({} : Config) with logLevel := "trace" }
    let run := (do warn.apply; (Command.work warn environment (.checkSchemas none)).run :
      Work (Except Breakdown Json)).run.run .info
    let fullRun := (do trace.apply; (Command.work trace environment (.checkSchemas none)).run :
      Work (Except Breakdown Json)).run.run .info
    warn.threshold = .ok .warn ∧ trace.threshold = .ok .trace ∧
      Command.Seeded {} (.checkSchemas none) ∧
      Written.Alike .warn .trace run fullRun ∧
      fullRun.events.map LogEvent.severity = [.error, .info, .warn] := by
  intro diagnosis tree environment warn trace run fullRun
  have known : warn.threshold = .ok .warn := threshold_eq_ok_iff.2 (by decide)
  have fullKnown : trace.threshold = .ok .trace := threshold_eq_ok_iff.2 (by decide)
  refine ⟨known, fullKnown, trivial, ?_, by decide +kernel⟩
  exact (alike_of_logLevels {} known fullKnown .info .info).1 (.checkSchemas none) environment
    environment.entropy trivial

end Config
end CompactSchema
