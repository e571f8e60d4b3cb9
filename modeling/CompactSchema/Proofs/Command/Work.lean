import CompactSchema.Command.Run
import CompactSchema.Proofs.Registry.History

/-
How the work of commands ends.

Work ends in a result or an error, and a task may break off besides.  The events that are
reported on the way do not change how it ends.
-/

namespace CompactSchema

open FilePath Registry

variable {α β : Type}

namespace Work

theorem result_bind (first : Work α) (next : α → Work β) (threshold : Severity) :
    ((first >>= next).run.run threshold).result =
      (first.run.run threshold).result.bind fun value =>
        ((next value).run.run (first.run.run threshold).threshold).result := by
  rw [ExceptT.run_bind, Logged.run_bind]
  dsimp only
  cases (first.run.run threshold).result with
  | error error => rfl
  | ok value => rfl

theorem result_onRegistry {activity : Loading (Except SchemaError α)}
    {result : Except SchemaError α} {changed : Registry}
    (ends : Loading.Ends activity .empty result changed) (threshold : Severity) :
    ((onRegistry activity).run.run threshold).result = result.mapError .schema := by
  have loaded : ((activity.run .empty).run threshold).result.1 = result :=
    congrArg Prod.fst (ends threshold)
  rw [← loaded]
  rfl

end Work

namespace Task

/-- Work that is done as a task does not break off. -/
theorem result_lift (work : Work α) (threshold : Severity) :
    ((work : Task α).run.run.run threshold).result = (work.run.run threshold).result.map .ok := by
  show ((Except.ok <$> work : Work (Except Breakdown α)).run.run threshold).result = _
  rw [map_eq_pure_bind, Work.result_bind]
  rfl

theorem result_lift_bind (work : Work α) (next : α → Task β) (threshold : Severity) :
    (((work : Task α) >>= next).run.run.run threshold).result =
      (work.run.run threshold).result.bind fun value =>
        ((next value).run.run.run (work.run.run threshold).threshold).result := by
  have run : ((work : Task α) >>= next).run = work >>= fun value => (next value).run := by
    rw [ExceptT.run_bind]
    show (Except.ok <$> work : Work (Except Breakdown α)) >>= _ = _
    rw [map_eq_pure_bind, bind_assoc]
    simp only [pure_bind]
  rw [run, Work.result_bind]

end Task

namespace Config

def referred (config : Config) (files : FileSystem) (reference : String) : Except SchemaError Schema :=
  if files.isFile reference then files.readSchema config.directory.depthLimit reference
  else named config.directory files reference

def looked [Diagnosis] (config : Config) (files : FileSystem) (threshold : Severity) (reference : String) :
    Except CommandError Schema :=
  ((config.resolveSchema files reference).run.run threshold).result

theorem looked_eq [Diagnosis] (config : Config) (files : FileSystem) (threshold : Severity) (reference : String) :
    config.looked files threshold reference = (config.referred files reference).mapError .schema := by
  unfold looked resolveSchema referred
  by_cases isFile : files.isFile reference = true
  · rw [if_pos isFile, if_pos isFile]
    rfl
  · rw [if_neg isFile, if_neg isFile]
    exact Work.result_onRegistry (ends_loadNamed config.directory files reference .empty) threshold

def answerOf : List Json → Json
  | [value] => value
  | values => .array values

def called (schema : Schema) (state : ChaChaStream) (count : UInt64) : Except CommandError Json :=
  (((generateValues schema count.toNat).run.run state).1.map answerOf).mapError .schema

theorem result_generate [Diagnosis] (config : Config) (environment : Environment) (reference : String)
    (count : UInt64) (seed : Option UInt64) (threshold : Severity) :
    ((config.generate environment reference count seed).run.run.run threshold).result =
      if count = 0 then .error .countZero
      else ((config.referred environment.files reference).mapError .schema).bind fun schema =>
        match shortage environment count with
        | some breakdown => .ok (.error breakdown)
        | none => (called schema (config.stream environment seed) count).map .ok := by
  unfold generate
  by_cases zero : count = 0
  · rw [if_pos zero, if_pos zero]
    rfl
  · rw [if_neg zero, if_neg zero]
    dsimp only
    rw [Task.result_lift_bind, ← looked, looked_eq]
    congr 1
    funext schema
    unfold reserve
    cases shortage environment count with
    | some breakdown => rfl
    | none =>
        unfold called
        cases ((generateValues schema count.toNat).run.run (config.stream environment seed)).1 with
        | error error => rfl
        | ok values =>
            cases values with
            | nil => rfl
            | cons first others => cases others <;> rfl

end Config
end CompactSchema
