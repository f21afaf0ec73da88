import FirewallPolicy.Workflow.Run

/-!
# Directories of jobs

A directory finds a job by its name.  Compiling a job is to find it, to make a workflow of it and to
run that once.
-/

namespace FirewallPolicy

/-- Jobs under their names, in the order in which the names were first used. -/
abbrev Directory (σ : Type) := List (String × Job σ)

namespace Directory

/-- The directory with a job under a name; an earlier job of that name is replaced. -/
def insert {σ : Type} (d : Directory σ) (name : String) (job : Job σ) : Directory σ :=
  if d.any (·.1 == name) then d.map fun e => if e.1 == name then (name, job) else e
  else d ++ [(name, job)]

/-- The name a job goes by: the given one, or else its own. -/
def nameFor {σ : Type} (job : Job σ) : Option String → String
  | some name => if name.isEmpty then job.name else name
  | none => job.name

/-- The directory with one more job. -/
def register {σ : Type} (d : Directory σ) (job : Job σ) (name : Option String := none) :
    Directory σ :=
  d.insert (nameFor job name) job

/-- The job with a name. -/
def find {σ : Type} (d : Directory σ) (name : String) : Except JobError (Job σ) :=
  match d.find? (·.1 == name) with
  | some e => .ok e.2
  | none => .error (.notFound name)

/-- Whether there is a job with a name. -/
def contains {σ : Type} (d : Directory σ) (name : String) : Bool := d.any (·.1 == name)

/-- The names of all jobs in order. -/
def names {σ : Type} (d : Directory σ) : List String :=
  (d.map (·.1)).mergeSort fun a b => decide (a ≤ b)

/-- The logger of directories. -/
def log : Logger := ⟨"netfilterfabrik.jobs._directory"⟩

/-- The result of compiling a job with what it reported. -/
structure Compiled where
  result : Except JobError Transcript
  log : List LogEntry

/-- Compiles a job of the directory in a world. -/
def compile {σ : Type} (d : Directory σ) (name : String) (token raw : Value)
    (globalTrusted : List NetworkItem) (world : σ) : Compiled × σ :=
  match d.find name with
  | .error e => (⟨.error e, []⟩, world)
  | .ok job =>
    let found := log.debug s!"Job '{name}' found"
    match Workflow.make job token with
    | .error e => (⟨.error e, [found]⟩, world)
    | .ok w =>
      let (outcome, world) := w.run raw globalTrusted world
      (⟨outcome.result, found :: outcome.log⟩, world)

end Directory

end FirewallPolicy
