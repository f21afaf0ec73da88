import FirewallPolicy.Blacklist.Database
import FirewallPolicy.Policy.JobConfig
import FirewallPolicy.Workflow.Job

/-!
# Synchronising the blacklist

The set of blocked networks is filled from a blacklist.  The set and the chain that uses it belong
to the job that prepares the host; here the entries are added, or all taken out.
-/

namespace FirewallPolicy.BlacklistSync

open FirewallPolicy.ChainName

/-- The logger of this job. -/
def log : Logger := ⟨"netfilterfabrik.jobs._sync_blacklist_ips"⟩

/-- Where a blacklist comes from: the entries for a configuration. -/
abbrev Source (σ : Type) := BlacklistConfig → Action σ (List Value)

/-- The blacklist of the configured database. -/
def databaseSource (σ : Type) : Source σ := fun config =>
  match Blacklist.fetch none config.connection config.table (some config.schema) with
  | .ok networks => return networks.map Value.text
  | .error e => throw e

/-- Adds networks to the set. -/
def install (networks : List String) : List Operation := networks.map (.addToSet blockSet)

/-- Empties the set. -/
def uninstall : List Operation := [.flushSet blockSet]

/-- The error for entries that are no blacklist, or for an entry that cannot even be shown. -/
def entryError : SourceError → JobError
  | .notNetwork entry =>
    if entry.isWritable then .source (.notNetwork entry) else .sourcePort .tooLongToWrite
  | cause => .source cause

/-- The contribution of the entries of a blacklist. -/
def contribution (entries : List Value) : Except JobError Contribution :=
  match Blacklist.normalize entries with
  | .error e => .error (entryError e)
  | .ok networks =>
    .ok (.ofOperations (install networks) uninstall
      [log.info s!"Adding {networks.length} networks to {blockSet}"])

/-- The only step of this job: it asks the source once. -/
def fetchNetworks {σ : Type} (source : Source σ) : Step σ BlacklistConfig where
  name := "fetchNetworks"
  run := fun config => do
    let entries ← source config
    match contribution entries with
    | .ok k => return k
    | .error e => throw e

/-- The job that synchronises the blacklist with a source. -/
def job {σ : Type} (source : Source σ) : Job σ where
  name := "sync-blacklist-ips"
  Config := BlacklistConfig
  validate := fun raw _ => validateBy (BlacklistConfig.read raw)
  steps := fun _ => [fetchNetworks source]

end FirewallPolicy.BlacklistSync
