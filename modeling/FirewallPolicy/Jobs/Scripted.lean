import FirewallPolicy.Jobs.BlacklistSync

/-!
# Jobs given as data

A scripted job says for each of its steps what the step adds or how it fails, and a scripted source
says what the entries of a blacklist are.  Both note every call in a journal, which has one record
for each job.
-/

namespace FirewallPolicy

/-- The calls that reached one job. -/
structure CallRecord where
  /-- The names of the steps that were begun. -/
  calls : List String := []
  /-- How often the source was asked. -/
  fetches : Nat := 0
  /-- The configuration with which the source was asked last. -/
  config : Option BlacklistConfig := none
  deriving DecidableEq, Repr

/-- The records of all jobs. -/
abbrev Journal := List CallRecord

/-- Changes the record of a job. -/
def Journal.note (slot : Nat) (f : CallRecord → CallRecord) : Action Journal Unit :=
  modify fun (j : Journal) => j.modify slot f

/-- The entries of a blacklist, or a failure. -/
structure ScriptedSource where
  entries : List Value
  failure : Option String := none

/-- The answer of a source. -/
def ScriptedSource.answer {σ : Type} (s : ScriptedSource) : Action σ (List Value) :=
  match s.failure with
  | some message => throw (.source (.custom message))
  | none => return s.entries

/-- A scripted source that notes with which configuration it was asked. -/
def ScriptedSource.noting (s : ScriptedSource) (slot : Nat) : BlacklistSync.Source Journal :=
  fun config => do
    Journal.note slot fun r => { r with fetches := r.fetches + 1, config := some config }
    s.answer

/-- A command whose kind is given by name. -/
structure NamedCommand where
  kind : Value
  arguments : String

/-- The kind that a value names. -/
def kindOf? : Value → Option CommandKind
  | .text name => CommandKind.ofName? name
  | _ => none

/-- The command, if there is a kind with its name. -/
def NamedCommand.command (c : NamedCommand) : Except JobError Command :=
  match kindOf? c.kind with
  | some kind => .ok ⟨kind, c.arguments⟩
  | none => .error (.commandKind c.kind)

/-- The commands up to the first of an unknown kind. -/
def namedTranscript (cs : List NamedCommand) : Except JobError Transcript :=
  cs.mapM NamedCommand.command

/-- What a step adds, or how it fails. -/
structure ScriptedStep where
  name : String
  install : List NamedCommand := []
  uninstall : List NamedCommand := []
  failure : Option String := none

/-- The contribution of a step. -/
def ScriptedStep.contribution (s : ScriptedStep) : Except JobError Contribution :=
  match s.failure with
  | some message => .error (.step message)
  | none => do
    let install ← namedTranscript s.install
    let uninstall ← namedTranscript s.uninstall
    return { install, uninstall }

/-- A job given as data. -/
structure ScriptedJob where
  name : String
  steps : List ScriptedStep
  /-- The message and the location of the violation that every configuration has. -/
  invalid : Option (String × String) := none
  /-- Whether the steps come in reverse when the policy is taken back. -/
  reverse : Bool := false

/-- A scripted step that notes that it was begun. -/
def ScriptedStep.noting (s : ScriptedStep) (slot : Nat) : Step Journal Value where
  name := s.name
  run := fun _ => do
    Journal.note slot fun r => { r with calls := r.calls ++ [s.name] }
    match s.contribution with
    | .ok k => return k
    | .error e => throw e

/-- The job that runs scripted steps and takes any value as its configuration. -/
def ScriptedJob.noting (j : ScriptedJob) (slot : Nat) : Job Journal where
  name := j.name
  Config := Value
  validate := fun raw _ => do
    Journal.note slot fun r => { r with calls := r.calls ++ ["validate"] }
    match j.invalid with
    | some (message, path) => throw (.configuration (.violation ⟨path, .custom message⟩))
    | none => return raw
  steps := fun direction =>
    let steps := j.steps.map (·.noting slot)
    if j.reverse && direction = .uninstall then steps.reverse else steps
  isConfigured := fun config => match config with
    | .null => false
    | _ => true

end FirewallPolicy
