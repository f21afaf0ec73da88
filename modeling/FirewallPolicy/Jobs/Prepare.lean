import FirewallPolicy.Policy.JobConfig
import FirewallPolicy.Workflow.Job

/-!
# Preparing a host

The base chains that all other jobs build on: vital traffic, blocked networks, services and trusted
networks, wired into `INPUT` and `OUTPUT`.

Installing makes and fills every chain before a base chain jumps to it.  Uninstalling runs the same
steps in the opposite order, so the jumps are gone before the chains are flushed and deleted.
-/

namespace FirewallPolicy.Prepare

open FirewallPolicy.ChainName
open Operation (appendRule insertRule deleteRule teardown)

/-- The logger of this job. -/
def log : Logger := ⟨"netfilterfabrik.jobs._prepare_netfilter"⟩

/-- The network of a host's own addresses. -/
def loopback : String := "127.0.0.0/8"

/-- Every address. -/
def anywhere : String := "0.0.0.0/0"

/-- The connection is new or goes on. -/
def stateNew : Condition := .state "NEW,ESTABLISHED,RELATED"

/-- The connection goes on. -/
def stateEstablished : Condition := .state "ESTABLISHED,RELATED"

/-- The rule that accepts packets that meet some conditions. -/
def accept (conditions : List Condition) : Rule := ⟨conditions, "ACCEPT"⟩

/-! ## Vital traffic -/

/-- The chain for incoming vital traffic. -/
def vitalIn : String := ingress vital

/-- The chain for outgoing vital traffic. -/
def vitalOut : String := egress vital

/-- Name queries over one protocol and their answers. -/
def dnsClient (name protocol : String) : List Operation :=
  [appendRule vitalOut (accept [.outInterface name, .protocol protocol, .sourcePort ephemeralPorts,
      .destinationPort "53", stateNew]),
    appendRule vitalIn (accept [.inInterface name, .protocol protocol, .sourcePort "53",
      .destinationPort ephemeralPorts, stateEstablished])]

/-- Traffic of a network that stays on the host. -/
def localTraffic (network : String) : List Operation :=
  [appendRule vitalIn (accept [.inInterface "lo", .source network, .destination network]),
    appendRule vitalIn (accept [.inInterface "lo", .source network, .destination loopback]),
    appendRule vitalOut (accept [.outInterface "lo", .source network, .destination network]),
    appendRule vitalOut (accept [.outInterface "lo", .source network, .destination loopback])]

/-- The vital traffic of an interface: address assignment, names, control messages, time, the
programs of the superuser, and whatever belongs to a known connection. -/
def vitalTraffic (i : PrimaryInterface) : List Operation :=
  let dhcp := [.protocol "udp", .destinationPort "67:68", .sourcePort "67:68"]
  [appendRule vitalIn (accept (.inInterface i.name :: dhcp)),
    appendRule vitalOut (accept (.outInterface i.name :: dhcp))] ++
  dnsClient i.name "udp" ++ dnsClient i.name "tcp" ++
  [appendRule vitalOut
      (accept [.protocol "icmp", .outInterface i.name, .destination anywhere, stateNew]),
    appendRule vitalIn
      (accept [.protocol "icmp", .inInterface i.name, .source anywhere, stateEstablished]),
    appendRule vitalIn
      (accept [.protocol "icmp", .icmpType 8, .inInterface i.name, .source anywhere, stateNew]),
    appendRule vitalOut
      (accept [.protocol "icmp", .outInterface i.name, .destination anywhere, stateEstablished]),
    appendRule vitalOut (accept [.outInterface i.name, .protocol "udp", .sourcePort ephemeralPorts,
      .destinationPort "123"]),
    appendRule vitalIn (accept [.inInterface i.name, .protocol "udp", .sourcePort "123",
      .destinationPort ephemeralPorts, stateEstablished]),
    appendRule vitalOut (accept [.outInterface i.name, .owner 0]),
    appendRule vitalIn (accept [.inInterface i.name, stateEstablished])] ++
  i.networks.flatMap fun n => localTraffic n.value

/-- Packets to the host's own addresses come from the host alone. -/
def vitalEnd : List Operation :=
  [appendRule vitalIn ⟨[.notInInterface "lo", .destination loopback], "REJECT"⟩,
    appendRule vitalOut (accept [.outInterface "lo", .destination loopback]),
    appendRule vitalIn Rule.leave,
    appendRule vitalOut Rule.leave]

/-- Makes and fills the chains of vital traffic. -/
def vitalInstall (config : PrepareConfig) : List Operation :=
  [.newChain vitalIn, .newChain vitalOut] ++ config.interfaces.flatMap vitalTraffic ++ vitalEnd

/-- Removes the chains of vital traffic. -/
def vitalUninstall : List Operation := teardown vitalIn ++ teardown vitalOut

/-- What is reported about the vital traffic of an interface. -/
def vitalTrafficLog (i : PrimaryInterface) : List LogEntry :=
  ["Adding DHCP for ", "Adding dns client for ", "Adding icmp for ", "Adding ntp for ",
    "Adding root access for ", "Adding accept known packets for "].map
    (fun what => log.info (what ++ i.name)) ++
  i.networks.map fun n => log.info ("Adding lo for network " ++ n.value)

/-- The step for vital traffic. -/
def generateVital (config : PrepareConfig) : Contribution :=
  .ofOperations (vitalInstall config) vitalUninstall
    (config.interfaces.flatMap vitalTrafficLog ++ [log.info "Last step RETURN"])

/-! ## Blocked networks -/

/-- The chain for packets of blocked networks. -/
def blockIn : String := ingress block

/-- Makes the chain and the set for blocked networks; the set is filled by another job. -/
def blockInstall : List Operation :=
  [.newChain blockIn, .createSet blockSet Operation.networkSet, appendRule blockIn ⟨[], "DROP"⟩]

/-- Removes the chain and the set for blocked networks. -/
def blockUninstall : List Operation := teardown blockIn ++ [.destroySet blockSet]

/-- The step for blocked networks. -/
def generateBlock (_ : PrepareConfig) : Contribution :=
  .ofOperations blockInstall blockUninstall
    [log.debug s!"Create the chain '{blockIn}'", log.debug s!"Add create ipset net '{blockSet}'",
      log.debug s!"Configure chain '{blockIn}'"]

/-! ## Services -/

/-- The two chains that services link into. -/
def serviceChains : List String := [ingress services, egress services]

/-- Makes the chains for services, which let everything pass. -/
def servicesInstall : List Operation :=
  serviceChains.flatMap fun chain => [.newChain chain, appendRule chain Rule.leave]

/-- Removes the chains for services. -/
def servicesUninstall : List Operation := serviceChains.flatMap teardown

/-- The step for services. -/
def generateServices (_ : PrepareConfig) : Contribution :=
  .ofOperations servicesInstall servicesUninstall
    (serviceChains.map fun chain => log.debug s!"Create the chain '{chain}'")

/-! ## Trusted networks -/

/-- The two chains for trusted networks, and the side of a packet they look at. -/
def trustedChains : List (String × String) := [(ingress trusted, "src"), (egress trusted, "dst")]

/-- Makes and fills the set and the chains for trusted networks. -/
def trustedInstall (config : PrepareConfig) : List Operation :=
  [.createSet trustedSet Operation.networkSet] ++
  config.trustedNetworks.map (.addToSet trustedSet) ++
  trustedChains.flatMap fun (chain, side) =>
    [.newChain chain, appendRule chain (accept [.inSet trustedSet side]),
      appendRule chain Rule.leave]

/-- Removes the chains and the set for trusted networks. -/
def trustedUninstall : List Operation :=
  trustedChains.flatMap (fun (chain, _) => teardown chain) ++ [.destroySet trustedSet]

/-- The step for trusted networks. -/
def generateTrusted (config : PrepareConfig) : Contribution :=
  .ofOperations (trustedInstall config) trustedUninstall
    ([log.debug s!"Add create ipset net '{trustedSet}'"] ++
      config.trustedNetworks.map (fun n => log.debug s!"Add trusted network '{n}'") ++
      trustedChains.map fun (chain, _) => log.debug s!"Create the chain '{chain}'")

/-! ## Base chains -/

/-- What `INPUT` jumps to, from its first rule on. -/
def inputJumps : List Rule :=
  [.jump [] (ingress trusted), .jump [] vitalIn, .jump [.inSet blockSet "src"] blockIn,
    .jump [] (ingress services)]

/-- What `OUTPUT` jumps to, from its first rule on. -/
def outputJumps : List Rule :=
  [.jump [] (egress trusted), .jump [] vitalOut, .jump [] (egress services)]

/-- The rule for packets of an interface that nothing else decided. -/
def defaultRule (i : PrimaryInterface) : Rule := ⟨[.inInterface i.name], i.inputAction⟩

/-- Puts jumps at the positions from one on. -/
def insertJumps (parent : String) (jumps : List Rule) : List Operation :=
  (jumps.zipIdx 1).map fun (rule, position) => insertRule parent position rule

/-- Links the chains into the base chains. -/
def rootInstall (config : PrepareConfig) : List Operation :=
  insertJumps "INPUT" inputJumps ++
  config.interfaces.map (fun i => appendRule "INPUT" (defaultRule i)) ++
  insertJumps "OUTPUT" outputJumps

/-- Takes the links out of the base chains, the last one first. -/
def rootUninstall (config : PrepareConfig) : List Operation :=
  (inputJumps.map (deleteRule "INPUT") ++
    config.interfaces.map (fun i => deleteRule "INPUT" (defaultRule i)) ++
    outputJumps.map (deleteRule "OUTPUT")).reverse

/-- What is reported about the links of a base chain. -/
def linkLog (parent : String) (jumps : List Rule) : List LogEntry :=
  (jumps.zipIdx 1).map fun (rule, position) =>
    log.debug s!"Link '{rule.action}' into {parent} at {position}"

/-- The step for the base chains. -/
def generateRoot (config : PrepareConfig) : Contribution :=
  .ofOperations (rootInstall config) (rootUninstall config)
    (linkLog "INPUT" inputJumps ++
      config.interfaces.map
        (fun i => log.debug s!"Default action for '{i.name}': {i.inputAction}") ++
      linkLog "OUTPUT" outputJumps)

/-! ## The job -/

/-- The steps in the order of an installation. -/
def installSteps {σ : Type} : List (Step σ PrepareConfig) :=
  [.pure "generateVitalAccessChain" generateVital,
    .pure "generateBlockNetworkChain" generateBlock,
    .pure "generateServiceAccessChain" generateServices,
    .pure "generateTrustedNetworkChain" generateTrusted,
    .pure "generateRootAccessChains" generateRoot]

/-- The job that prepares a host. -/
def job (σ : Type) : Job σ where
  name := "prepare-netfilter"
  Config := PrepareConfig
  validate := fun raw globalTrusted => validateBy (PrepareConfig.read raw globalTrusted)
  steps
    | .install => installSteps
    | .uninstall => installSteps.reverse

end FirewallPolicy.Prepare
