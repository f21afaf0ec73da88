import FirewallPolicy.Policy.JobConfig
import FirewallPolicy.Workflow.Job

/-!
# Services

A service has two chains of its own, linked at the head of the chains for services.  The incoming
one accepts the declared ports from the declared networks; what it does not accept goes back to the
chain for services.
-/

namespace FirewallPolicy.Service

open FirewallPolicy.ChainName
open Operation (appendRule insertRule deleteRule teardown)

/-- The logger of this job. -/
def log : Logger := ⟨"netfilterfabrik.jobs._generic_service"⟩

/-- The rules of an item: one for each source, or a single one for any source. -/
def itemRules (item : ServiceItem) : List Rule :=
  let destination := item.destination.toList.map Condition.destination
  let rest := destination ++ [.protocol item.protocol, .sourcePort ephemeralPorts,
    .destinationPort (toString item.port)]
  if item.sources.isEmpty then [⟨rest, "ACCEPT"⟩]
  else item.sources.map fun source => ⟨.source source :: rest, "ACCEPT"⟩

/-- The rules of the incoming chain. -/
def inRules (config : ServiceConfig) : List Rule := config.items.flatMap itemRules ++ [Rule.leave]

/-- Makes and fills the chains of a service, then links them. -/
def install (config : ServiceConfig) : List Operation :=
  let chainIn := ingress config.chainName
  let chainOut := egress config.chainName
  [.newChain chainIn, .newChain chainOut] ++ (inRules config).map (appendRule chainIn) ++
  [appendRule chainOut Rule.leave, insertRule (ingress services) 1 (.jump [] chainIn),
    insertRule (egress services) 1 (.jump [] chainOut)]

/-- Takes out the links of a service, then removes its chains. -/
def uninstall (config : ServiceConfig) : List Operation :=
  let chainIn := ingress config.chainName
  let chainOut := egress config.chainName
  [deleteRule (ingress services) (.jump [] chainIn),
    deleteRule (egress services) (.jump [] chainOut)] ++ teardown chainIn ++ teardown chainOut

/-- What is reported about an item. -/
def itemLog (item : ServiceItem) : List LogEntry :=
  let sources := if item.sources.isEmpty then ["anywhere"] else item.sources
  sources.map fun source => log.debug s!"Accept {item.port}/{item.protocol} from {source}"

/-- The only step of this job. -/
def generateRules (config : ServiceConfig) : Contribution :=
  .ofOperations (install config) (uninstall config)
    (config.items.flatMap itemLog ++ [log.info "Last step RETURN",
      log.info s!"Install chain {config.chainName} to the INPUT/OUTPUT"])

/-- The job that opens the ports of a service. -/
def job (σ : Type) : Job σ where
  name := "engines/services/generic-service"
  Config := ServiceConfig
  validate := fun raw _ => validateBy (ServiceConfig.read raw)
  steps := fun _ => [.pure "generateRules" generateRules]

end FirewallPolicy.Service
