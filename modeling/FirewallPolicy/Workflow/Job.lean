import FirewallPolicy.Firewall.Operation
import FirewallPolicy.Policy.NetworkEntry
import FirewallPolicy.Text.Utf8
import FirewallPolicy.Workflow.Direction
import FirewallPolicy.Workflow.Log

/-!
# Jobs

A job reads its configuration and has a list of steps for each direction.  A step adds commands to
the transcripts of both directions, or fails; all it can touch besides is a state of the world,
which is how a job may ask a database or keep a record of its calls.
-/

namespace FirewallPolicy

/-- Why the networks of a blacklist are not to be had. -/
inductive SourceError where
  | cannotConnect
  | cannotFetch
  /-- A value of the blacklist is no IPv4 network. -/
  | notNetwork (entry : Value)
  /-- A failure in the words of the source. -/
  | custom (message : String)

/-- The wording of a source error. -/
def SourceError.message : SourceError → String
  | .cannotConnect => "Cannot connect to the blacklist database"
  | .cannotFetch => "Cannot fetch blacklisted networks"
  | .notNetwork entry => s!"Blacklist entry {entry.shown} is not an IPv4 network"
  | .custom message => message

/-- Why a job gives no transcript. -/
inductive JobError where
  | notFound (name : String)
  | direction (token : Value)
  /-- The configuration is not read, or what names no direction cannot be shown. -/
  | configuration (cause : ReadError)
  | source (cause : SourceError)
  /-- The URL of a source has a port that is no number, or what is no network cannot be shown. -/
  | sourcePort (cause : Text.NumeralError)
  /-- A part of the URL of a source has no bytes. -/
  | sourceUrl (cause : Text.EncodeError)
  /-- A step fails in its own words. -/
  | step (message : String)
  /-- A step makes a command for an unknown tool. -/
  | commandKind (kind : Value)

/-- The wording where a direction is asked for by its exact name. -/
def notADirection (token : Value) : String := s!"{token.shown} is not a valid Direction"

/-- The wording of a direction error. -/
def invalidDirection (token : Value) : String := s!"Invalid command {token.shown}"

/-- The wording of an unknown tool. -/
def invalidKind (kind : Value) : String := s!"{kind.shown} is not a valid CommandKind"

/-- The wording of a job error. -/
def JobError.message : JobError → String
  | .notFound name => s!"Job {name} not found"
  | .direction token => invalidDirection token
  | .configuration cause => cause.message
  | .source cause => cause.message
  | .sourcePort cause => cause.message
  | .sourceUrl cause => cause.message
  | .step message => message
  | .commandKind kind => invalidKind kind

/-- What a step adds to the transcripts of both directions, and what it reports. -/
structure Contribution where
  install : Transcript
  uninstall : Transcript
  log : List LogEntry := []

/-- The contribution of operations. -/
def Contribution.ofOperations (install uninstall : List Operation) (log : List LogEntry) :
    Contribution :=
  ⟨install.map Operation.command, uninstall.map Operation.command, log⟩

/-- A computation that may change the world, and still has changed it when it fails. -/
abbrev Action (σ α : Type) := ExceptT JobError (StateM σ) α

/-- A step that runs on a configuration. -/
structure Step (σ γ : Type) where
  name : String
  run : γ → Action σ Contribution

/-- A job with its own type of configuration. -/
structure Job (σ : Type) where
  name : String
  {Config : Type}
  /-- Reads the configuration, given the trusted networks that all hosts share. -/
  validate : Value → List NetworkItem → Action σ Config
  steps : Direction → List (Step σ Config)
  /-- Whether a configuration counts as one; only a job that takes any value may say no. -/
  isConfigured : Config → Bool := fun _ => true

/-- A step that only computes its contribution. -/
def Step.pure {σ γ : Type} (name : String) (f : γ → Contribution) : Step σ γ :=
  ⟨name, fun config => return f config⟩

/-- The reader of a configuration as the validation of a job. -/
def validateBy {σ γ : Type} (read : Reading γ) : Action σ γ :=
  match read with
  | .ok config => return config
  | .error cause => throw (.configuration cause)

end FirewallPolicy
