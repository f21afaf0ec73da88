import FirewallPolicy.Policy.JobConfig
import FirewallPolicy.Workflow.Job

/-!
# Forwarding names queries into a container

Queries for an address of the host are redirected to a name server in a container.  The redirected
traffic is accepted where it is forwarded, and queries for the address of the host in a chain of the
job, which is linked at the head of the chains for services.
-/

namespace FirewallPolicy.DnsForwarding

open FirewallPolicy.ChainName
open Operation (appendRule insertRule deleteRule teardown)

/-- The logger of this job. -/
def log : Logger := ⟨"netfilterfabrik.jobs._docker_dns_service"⟩

/-- The protocols of name queries. -/
def protocols : List String := ["tcp", "udp"]

/-- The rule that redirects queries. -/
def redirectRule (item : DnsForward) (protocol : String) : Rule where
  conditions := [.table "nat", .link item.interface, .protocol protocol,
    .destination item.sourceAddress, .destinationPort (toString item.sourcePort)]
  action := "DNAT --to " ++ item.destinationAddress ++ ":" ++ toString item.destinationPort

/-- The rule that accepts redirected queries. -/
def forwardRule (item : DnsForward) (protocol : String) : Rule :=
  ⟨[.protocol protocol, .destination item.destinationAddress,
    .destinationPort (toString item.destinationPort)], "ACCEPT"⟩

/-- The rule that accepts queries as they were sent, before they are redirected. -/
def acceptRule (item : DnsForward) (protocol : String) : Rule :=
  ⟨[.protocol protocol, .destination item.sourceAddress,
    .destinationPort (toString item.sourcePort)], "ACCEPT"⟩

/-- The chain for incoming queries. -/
def chainIn (config : DnsConfig) : String := ingress (dnsMark ++ config.chainName)

/-- The chain for outgoing queries. -/
def chainOut (config : DnsConfig) : String := egress (dnsMark ++ config.chainName)

/-- Redirects and accepts the queries of an item. -/
def itemInstall (chain : String) (item : DnsForward) : List Operation :=
  protocols.map (fun p => insertRule "PREROUTING" 1 (redirectRule item p)) ++
  protocols.map (fun p => insertRule "FORWARD" 1 (forwardRule item p)) ++
  protocols.map (fun p => appendRule chain (acceptRule item p))

/-- Takes out the rules of an item that stand in chains of the host. -/
def itemUninstall (item : DnsForward) : List Operation :=
  protocols.map (fun p => deleteRule "PREROUTING" (redirectRule item p)) ++
  protocols.map (fun p => deleteRule "FORWARD" (forwardRule item p))

/-- Makes and fills the chains of the job, then links them. -/
def install (config : DnsConfig) : List Operation :=
  [.newChain (chainIn config), .newChain (chainOut config)] ++
  config.items.flatMap (itemInstall (chainIn config)) ++
  [appendRule (chainIn config) Rule.leave, appendRule (chainOut config) Rule.leave,
    insertRule (ingress services) 1 (.jump [] (chainIn config)),
    insertRule (egress services) 1 (.jump [] (chainOut config))]

/-- Takes out the links of the job, removes its chains, then takes out the other rules. -/
def uninstall (config : DnsConfig) : List Operation :=
  [deleteRule (ingress services) (.jump [] (chainIn config)),
    deleteRule (egress services) (.jump [] (chainOut config))] ++
  teardown (chainIn config) ++ teardown (chainOut config) ++
  config.items.flatMap itemUninstall

/-- What is reported about an item. -/
def itemLog (i : DnsForward) : LogEntry :=
  log.debug (s!"Forward {i.sourceAddress}:{i.sourcePort} on {i.interface} to " ++
    s!"{i.destinationAddress}:{i.destinationPort}")

/-- The only step of this job. -/
def generateRules (config : DnsConfig) : Contribution :=
  .ofOperations (install config) (uninstall config)
    (config.items.map itemLog ++ [log.info "Last step RETURN",
      log.info s!"Install chain {config.chainName} to the INPUT/OUTPUT"])

/-- The job that forwards name queries. -/
def job (σ : Type) : Job σ where
  name := "services/docker-dns-service"
  Config := DnsConfig
  validate := fun raw _ => validateBy (DnsConfig.read raw)
  steps := fun _ => [.pure "generateRules" generateRules]

end FirewallPolicy.DnsForwarding
