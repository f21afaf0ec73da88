import FirewallPolicy.Jobs.Builtin
import FirewallPolicy.Jobs.Scripted

/-!
# Sessions

A session is a directory to which jobs are added, and workflows that are run, one request after the
other.  A request that fails leaves the session usable.
-/

namespace FirewallPolicy

/-- A job to be added to a directory. -/
inductive JobSpec where
  /-- A built-in job; the source is for the one that needs it. -/
  | builtin (name : String) (source : ScriptedSource)
  | scripted (job : ScriptedJob)

/-- Whether the job of a specification asks a source. -/
def JobSpec.asksSource : JobSpec → Bool
  | .builtin name _ => name == (BlacklistSync.job (BlacklistSync.databaseSource Journal)).name
  | .scripted _ => false

/-- The job of a specification, which notes its calls in a record. -/
def JobSpec.job (spec : JobSpec) (slot : Nat) : Except JobError (Job Journal) :=
  match spec with
  | .builtin name source => (Directory.builtin (source.noting slot)).find name
  | .scripted job => .ok (job.noting slot)

/-- A job that was added in a session. -/
structure Registration where
  /-- The name under which it was added. -/
  name : String
  /-- The place of its record in the journal. -/
  slot : Nat
  asksSource : Bool
  deriving DecidableEq, Repr

/-- A directory in use, with its workflows by their ids and the journal of its jobs. -/
structure Session where
  directory : Directory Journal
  journal : Journal := []
  /-- The jobs that were added, the last one first. -/
  registered : List Registration := []
  /-- The workflows, the last one first. -/
  workflows : List (String × Workflow Journal) := []

/-- A request to a session. -/
inductive SessionRequest where
  | register (spec : JobSpec) (name : Option String)
  | names
  | contains (name : String)
  | find (name : String)
  /-- Asks for the record of a job that was added. -/
  | calls (name : String)
  | compile (name : String) (token raw : Value) (globalTrusted : List NetworkItem)
  | workflow (id name : String) (token : Value)
  | steps (id : String)
  | run (id : String) (raw : Value) (globalTrusted : List NetworkItem)
  /-- Empties the transcript that the last run gave; the workflow keeps its own. -/
  | clearResult (id : String)
  | inspect (id : String)

/-- What the context of a run shows of itself. -/
structure ContextView where
  direction : Direction
  jobConfiguration : Value
  globalTrusted : List NetworkItem
  /-- Whether there is a configuration that was read. -/
  configured : Bool
  install : Transcript
  uninstall : Transcript

/-- What the context of a run of a job shows of itself. -/
def Job.viewContext {σ : Type} (job : Job σ) (c : RunContext job.Config) : ContextView where
  direction := c.direction
  jobConfiguration := c.jobConfiguration
  globalTrusted := c.globalTrusted
  configured := c.configuration.any job.isConfigured
  install := c.install
  uninstall := c.uninstall

/-- What a workflow shows of itself. -/
structure WorkflowView where
  phase : Phase
  stepIndex : Int
  direction : Direction
  context : Option ContextView

/-- What a workflow shows of itself. -/
def Workflow.view {σ : Type} (w : Workflow σ) : WorkflowView :=
  ⟨w.phase, w.stepIndex, w.direction, w.context.map w.job.viewContext⟩

/-- What a request that does not fail gives. -/
inductive SessionReply where
  | done
  | flag (b : Bool)
  | name (s : String)
  | names (ns : List String)
  | fetches (count : Nat) (config : Option BlacklistConfig)
  | transcript (t : Transcript)
  | view (v : WorkflowView)

/-- The answer to a request, with the workflow that it ran. -/
structure SessionAnswer where
  reply : Except JobError SessionReply
  ran : Option WorkflowView := none

namespace Session

/-- The workflow with an id. -/
def workflow? (s : Session) (id : String) : Option (Workflow Journal) :=
  (s.workflows.find? (·.1 == id)).map (·.2)

/-- The session with a workflow under an id. -/
def keep (s : Session) (id : String) (w : Workflow Journal) : Session :=
  { s with workflows := (id, w) :: s.workflows.filter (·.1 != id) }

/-- Adds a job under a name, or else under its own, with an empty record. -/
def register (s : Session) (spec : JobSpec) (name : Option String) :
    Except JobError SessionReply × Session :=
  let slot := s.journal.length
  match spec.job slot with
  | .error e => (.error e, s)
  | .ok job =>
    let registration := ⟨Directory.nameFor job name, slot, spec.asksSource⟩
    (.ok .done,
      { s with
        directory := s.directory.register job name
        journal := s.journal ++ [{}]
        registered := registration :: s.registered })

/-- The record of the job that was last added under a name. -/
def calls (s : Session) (name : String) : SessionReply :=
  match s.registered.find? (·.name == name) with
  | none => .done
  | some r =>
    let record := s.journal.getD r.slot {}
    if r.asksSource then .fetches record.fetches record.config else .names record.calls

/-- Makes a workflow of a job and keeps it. -/
def makeWorkflow (s : Session) (id name : String) (token : Value) :
    Except JobError SessionReply × Session :=
  match s.directory.find name >>= (Workflow.make · token) with
  | .error e => (.error e, s)
  | .ok w => (.ok (.view w.view), s.keep id w)

/-- Runs a workflow. -/
def run (s : Session) (id : String) (raw : Value) (globalTrusted : List NetworkItem) :
    SessionAnswer × Session :=
  match s.workflow? id with
  | none => (⟨.ok .done, none⟩, s)
  | some w =>
    let (outcome, journal) := w.run raw globalTrusted s.journal
    (⟨outcome.result.map .transcript, some outcome.workflow.view⟩,
      { s.keep id outcome.workflow with journal })

/-- Answers a request about a workflow. -/
def ofWorkflow (s : Session) (id : String) (f : Workflow Journal → SessionReply) : SessionAnswer :=
  ⟨.ok (((s.workflow? id).map f).getD .done), none⟩

/-- Answers a request. -/
def answer (s : Session) : SessionRequest → SessionAnswer × Session
  | .register spec name =>
    let (reply, s) := s.register spec name
    (⟨reply, none⟩, s)
  | .names => (⟨.ok (.names s.directory.names), none⟩, s)
  | .contains name => (⟨.ok (.flag (s.directory.contains name)), none⟩, s)
  | .find name => (⟨(s.directory.find name).map fun job => .name job.name, none⟩, s)
  | .calls name => (⟨.ok (s.calls name), none⟩, s)
  | .compile name token raw globalTrusted =>
    let (compiled, journal) := s.directory.compile name token raw globalTrusted s.journal
    (⟨compiled.result.map .transcript, none⟩, { s with journal })
  | .workflow id name token =>
    let (reply, s) := s.makeWorkflow id name token
    (⟨reply, none⟩, s)
  | .steps id => (s.ofWorkflow id fun w => .names w.stepNames, s)
  | .run id raw globalTrusted => s.run id raw globalTrusted
  | .clearResult _ => (⟨.ok .done, none⟩, s)
  | .inspect id => (s.ofWorkflow id fun w => .view w.view, s)

/-- Answers requests in order. -/
def answers (s : Session) : List SessionRequest → List SessionAnswer
  | [] => []
  | r :: rs =>
    let (a, s) := s.answer r
    a :: s.answers rs

end Session

end FirewallPolicy
