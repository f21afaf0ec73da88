import FirewallPolicy.Workflow.Job

/-!
# Running a job

A workflow runs the steps of one job in one direction: first the validation, then the steps one
after the other.  The first failure ends the run and comes out unchanged, and then there is no
transcript.  A run starts from nothing, whatever ran before.
-/

namespace FirewallPolicy

/-- How far a workflow is. -/
inductive Phase where
  | pending
  | validating
  | generating
  | completed
  | failed
  deriving DecidableEq, Repr

/-- The name of a phase. -/
def Phase.name : Phase → String
  | .pending => "pending"
  | .validating => "validating"
  | .generating => "generating"
  | .completed => "completed"
  | .failed => "failed"

/-- What one run was given and what it gathered. -/
structure RunContext (γ : Type) where
  direction : Direction
  /-- The configuration as it was given. -/
  jobConfiguration : Value
  globalTrusted : List NetworkItem
  /-- The configuration as it was read. -/
  configuration : Option γ := none
  install : Transcript := []
  uninstall : Transcript := []

/-- A job to be run in a direction, and the traces of its last run. -/
structure Workflow (σ : Type) where
  job : Job σ
  direction : Direction
  phase : Phase := .pending
  /-- The last step that was begun; -1 before the first run. -/
  stepIndex : Int := -1
  context : Option (RunContext job.Config) := none

/-- The logger of workflows. -/
def workflowLog : Logger := ⟨"netfilterfabrik.jobs._workflow"⟩

/-- The name of the validation among the steps. -/
def validationName : String := "validateConfiguration"

/-- The state of a run between two steps. -/
structure Progress (γ : Type) where
  /-- The last step that was begun. -/
  index : Nat
  context : RunContext γ
  log : List LogEntry
  failure : Option JobError := none

/-- The entry for the begin of a step. -/
def stepBegun (job : String) (phase : Phase) (index : Nat) (step : String) : LogEntry :=
  workflowLog.debug s!"{job}: {phase.name} step {index} ({step})"

/-- The entry for the failure of a step. -/
def stepFailed (job step : String) (e : JobError) : LogEntry :=
  workflowLog.error
    s!"Error while executing the workflow of {job} at step {step}: {e.message}"

/-- A context with what a step adds. -/
def RunContext.add {γ : Type} (c : RunContext γ) (k : Contribution) : RunContext γ :=
  { c with install := c.install ++ k.install, uninstall := c.uninstall ++ k.uninstall }

/-- Runs steps in order up to the first that fails. -/
def runSteps {σ γ : Type} (job : String) (config : γ) (p : Progress γ) :
    List (Step σ γ) → StateM σ (Progress γ)
  | [] => return p
  | step :: rest => do
    let index := p.index + 1
    let log := p.log ++ [stepBegun job .generating index step.name]
    match ← (step.run config).run with
    | .ok k =>
      runSteps job config { index, context := p.context.add k, log := log ++ k.log } rest
    | .error e =>
      return { index, context := p.context, log := log ++ [stepFailed job step.name e],
               failure := some e }

/-- Validates a configuration and runs the steps of a job on it. -/
def Job.progress {σ : Type} (job : Job σ) (direction : Direction) (raw : Value)
    (globalTrusted : List NetworkItem) : StateM σ (Progress job.Config) := do
  let context : RunContext job.Config := { direction, jobConfiguration := raw, globalTrusted }
  let log := [stepBegun job.name .validating 0 validationName]
  match ← (job.validate raw globalTrusted).run with
  | .error e =>
    return { index := 0, context, log := log ++ [stepFailed job.name validationName e],
             failure := some e }
  | .ok config =>
    let context := { context with configuration := some config }
    runSteps job.name config { index := 0, context, log } (job.steps direction)

/-- The transcript of a context for its direction. -/
def RunContext.transcript {γ : Type} (c : RunContext γ) : Transcript :=
  match c.direction with
  | .install => c.install
  | .uninstall => c.uninstall

/-- What a run leaves behind. -/
structure Outcome (σ : Type) where
  workflow : Workflow σ
  result : Except JobError Transcript
  log : List LogEntry

namespace Workflow

/-- The names of the steps, the validation first. -/
def stepNames {σ : Type} (w : Workflow σ) : List String :=
  validationName :: (w.job.steps w.direction).map (·.name)

/-- The entry for a completed run. -/
def runCompleted {γ : Type} (job : String) (context : RunContext γ) : LogEntry :=
  workflowLog.info s!"{job}: {context.direction.name} produced {context.transcript.length} commands"

/-- What a run leaves behind, given how far it came. -/
def outcome {σ : Type} (w : Workflow σ) (p : Progress w.job.Config) : Outcome σ :=
  match p.failure with
  | some e =>
    { workflow := { w with phase := .failed, stepIndex := p.index, context := some p.context }
      result := .error e
      log := p.log }
  | none =>
    { workflow := { w with phase := .completed, stepIndex := p.index, context := some p.context }
      result := .ok p.context.transcript
      log := p.log ++ [runCompleted w.job.name p.context] }

/-- Runs a workflow in a world. -/
def run {σ : Type} (w : Workflow σ) (raw : Value) (globalTrusted : List NetworkItem)
    (world : σ) : Outcome σ × σ :=
  let (p, world) := (w.job.progress w.direction raw globalTrusted).run world
  (w.outcome p, world)

/-- The error for a token that names no direction, or for one that cannot even be shown. -/
def directionError (token : Value) : JobError :=
  if token.isWritable then .direction token else .configuration (.numeral .tooLongToWrite)

/-- A workflow for the direction that a token names. -/
def make {σ : Type} (job : Job σ) (token : Value) : Except JobError (Workflow σ) :=
  match Direction.ofToken? token with
  | some direction => .ok { job, direction }
  | none => .error (directionError token)

end Workflow

end FirewallPolicy
