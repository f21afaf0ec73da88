import FirewallPolicy.Policy.JobConfig

/-!
# Configuration documents

A document groups the jobs of each host under the host's id.  Only the frame of the document is
checked here; the configuration of a job is read when the job is compiled.
-/

namespace FirewallPolicy

open FirewallPolicy.Scalar (Mapping)

/-- A job of a host with its configuration as it stands in the document. -/
structure JobEntry where
  name : String
  configuration : Mapping

/-- A host and its jobs. -/
structure Host where
  id : String
  jobs : List JobEntry

/-- A configuration document. -/
structure Configuration where
  version : String
  fileVersion : String
  globalTrusted : List NetworkEntry
  hosts : List Host

/-- Reads a job of a host. -/
def JobEntry.read (value : Value) (path : String) : Reading JobEntry := do
  let data ← Scalar.mapping value path
  let name ← Field.required Scalar.text data "name" path
  let configuration ← Field.required Scalar.mapping data "configuration" path
  return { name, configuration }

/-- Reads a host; its jobs come before its id. -/
def Host.read (value : Value) (path : String) : Reading Host := do
  let data ← Scalar.mapping value path
  let jobs ← Field.required Scalar.list data "jobs" path
  let jobs ← Field.elements JobEntry.read jobs (Location.key path "jobs")
  let id ← Field.required Scalar.text data "id" path
  return { id, jobs }

/-- A version: a number stands for its text, and anything else has to be a text. -/
def readVersion (data : Mapping) (key : String) : Reading String :=
  match Value.lookup? data key with
  | some (.int n) =>
    match Text.writeInt n with
    | .ok s => .ok s
    | .error e => .error (.numeral e)
  | some (.float x) => .ok (Decimal.text x)
  | _ => Field.required Scalar.text data key ""

/-- Reads a configuration document. -/
def Configuration.read (value : Value) : Reading Configuration := do
  let data ← Scalar.mapping value ""
  let global ← Field.withDefault [] Scalar.mapping data "global" ""
  let network ← Field.withDefault [] Scalar.mapping global "network" "global"
  let trusted ← Field.withDefault [] Scalar.list network "trustedItems" "global.network"
  let hosts ← Field.required Scalar.list data "configurations" ""
  let hosts ← Field.elements Host.read hosts "configurations"
  let version ← readVersion data "version"
  let fileVersion ← readVersion data "fileVersion"
  let globalTrusted ← NetworkEntry.readAll trusted globalTrustedPath
  return { version, fileVersion, globalTrusted, hosts }

/-- Why a document does not lead to a job. -/
inductive LookupError where
  | host (id : String)
  | job (name id : String)
  deriving DecidableEq, Repr

/-- The wording of a lookup error. -/
def LookupError.message : LookupError → String
  | .host id => invalidText "" s!"Cannot find the configuration id {id}"
  | .job name id => invalidText "" s!"Cannot find the job {name} in configuration {id}"

/-- The first job with a name, of the first host with an id. -/
def Configuration.find (c : Configuration) (id name : String) : Except LookupError JobEntry :=
  match c.hosts.find? (·.id == id) with
  | none => .error (.host id)
  | some host =>
    match host.jobs.find? (·.name == name) with
    | none => .error (.job name id)
    | some job => .ok job

end FirewallPolicy
