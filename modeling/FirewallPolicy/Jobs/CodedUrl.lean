import FirewallPolicy.Jobs.Builtin

/-!
# URLs with halves of characters

The connection URL of a blacklist is written anew, with some of its parts in percent coding, which
codes bytes.  A half in such a part has none, and then the configuration is not read any further.
-/

namespace FirewallPolicy

open FirewallPolicy.Text (EncodeError encode points)
open FirewallPolicy.Url (Connection)

/-- Whether the first row of code points comes before the second, or is the same. -/
def pointsLe : List Nat → List Nat → Bool
  | [], _ => true
  | _ :: _, [] => false
  | m :: ms, n :: ns => if m = n then pointsLe ms ns else decide (m < n)

/-- The parts of a connection URL that are coded, in the order in which they are written. -/
def Url.Connection.codedParts (u : Connection) : List (List Char) :=
  let query := u.query.mergeSort fun a b => pointsLe (points a.1) (points b.1)
  u.user.toList ++ u.password.toList ++ u.database.toList ++
    query.flatMap fun (key, values) => values.flatMap ([key, ·])

/-- Why a connection URL cannot be written. -/
def Url.Connection.uncoded? (u : Connection) : Option EncodeError :=
  u.codedParts.findSome? fun part =>
    match encode part with
    | .ok _ => none
    | .error e => some e

/-- The parts of the connection URL of a PostgreSQL database. -/
def Scalar.connectionParts (value : Value) (path : String) : Reading Connection := do
  let _ ← Scalar.connection value path
  let s ← Scalar.text value path
  match Connection.read s with
  | .ok u => return u
  | .error _ => refuse path (.notConnection s)

/-- Why the connection URL of a configuration cannot be written, if there is one. -/
def BlacklistConfig.uncoded? (value : Value) : Option EncodeError :=
  let url : Reading Connection := do
    let data ← Scalar.mapping value ""
    let database ← Field.required Scalar.mapping data "database" ""
    Field.required Scalar.connectionParts database "connectionString" "database"
  match url with
  | .ok u => u.uncoded?
  | .error _ => none

/-- The job that synchronises the blacklist, for texts that may have halves. -/
def BlacklistSync.codedJob {σ : Type} (source : Source σ) : Job σ where
  name := (job source).name
  Config := (job source).Config
  validate := fun raw globalTrusted =>
    match BlacklistConfig.uncoded? raw with
    | some e => throw (.sourceUrl e)
    | none => (job source).validate raw globalTrusted
  steps := (job source).steps

/-- The directory of all built-in jobs, for texts that may have halves. -/
def Directory.coded {σ : Type} (source : BlacklistSync.Source σ) : Directory σ :=
  (Directory.builtin source).register (BlacklistSync.codedJob source)

end FirewallPolicy
