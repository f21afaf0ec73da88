import FirewallPolicy.Jobs.BlacklistSync
import FirewallPolicy.Jobs.DnsForwarding
import FirewallPolicy.Jobs.Prepare
import FirewallPolicy.Jobs.Service
import FirewallPolicy.Workflow.Directory

/-!
# The built-in jobs
-/

namespace FirewallPolicy

/-- The directory of all built-in jobs, the blacklist coming from a source. -/
def Directory.builtin {σ : Type} (source : BlacklistSync.Source σ) : Directory σ :=
  (((Directory.register [] (Prepare.job σ)).register (BlacklistSync.job source)).register
    (DnsForwarding.job σ)).register (Service.job σ)

/-- The directory of all built-in jobs, the blacklist coming from its database. -/
def Directory.standard (σ : Type) : Directory σ :=
  Directory.builtin (BlacklistSync.databaseSource σ)

end FirewallPolicy
