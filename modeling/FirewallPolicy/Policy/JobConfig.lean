import FirewallPolicy.Policy.ChainName
import FirewallPolicy.Policy.NetworkEntry

/-!
# Configurations of the jobs

Every job reads its configuration into one of these types before it makes a command.  A reader stops
at the first violation, in the order in which the fields are asked for here.
-/

namespace FirewallPolicy

open FirewallPolicy.Scalar (Mapping)

/-! ## Preparing the host -/

/-- A network interface of the host with the actions for packets that nothing else decided. -/
structure PrimaryInterface where
  name : String
  networks : List NetworkEntry
  inputAction : String
  outputAction : String
  deriving DecidableEq, Repr

/-- The configuration of the base chains. -/
structure PrepareConfig where
  trusted : List NetworkEntry
  interfaces : List PrimaryInterface
  globalTrusted : List NetworkEntry
  deriving DecidableEq, Repr

/-- Reads an interface. -/
def PrimaryInterface.read (value : Value) (path : String) : Reading PrimaryInterface := do
  let data ← Scalar.mapping value path
  let rulesPath := Location.key path "rules"
  let rules ← Field.required Scalar.mapping data "rules" path
  let input ← Field.required Scalar.mapping rules "input" rulesPath
  let output ← Field.required Scalar.mapping rules "output" rulesPath
  let name ← Field.required (Scalar.token (some ChainName.interfaceMaxLength)) data "name" path
  let networks ← Field.required Scalar.list data "networks" path
  let networks ← NetworkEntry.readAll networks (Location.key path "networks")
  let inputAction ←
    Field.required (Scalar.token none) input "defaultAction" (Location.key rulesPath "input")
  let outputAction ←
    Field.required (Scalar.token none) output "defaultAction" (Location.key rulesPath "output")
  return { name, networks, inputAction, outputAction }

/-- Where the trusted networks that all hosts share stand in a document. -/
def globalTrustedPath : String := "global.network.trustedItems"

/-- Reads the configuration of the base chains, given the trusted networks that all hosts share. -/
def PrepareConfig.read (value : Value) (global : List NetworkItem) : Reading PrepareConfig := do
  let data ← Scalar.mapping value ""
  let network ← Field.required Scalar.mapping data "network" ""
  let interfaces ← Field.required Scalar.list network "primaryInterfaces" "network"
  let trusted ← Field.withDefault [] Scalar.list network "trustedItems" "network"
  let trusted ← NetworkEntry.readAll trusted "network.trustedItems"
  let interfaces ← Field.elements PrimaryInterface.read interfaces "network.primaryInterfaces"
  let globalTrusted ← NetworkEntry.readAll global globalTrustedPath
  return { trusted, interfaces, globalTrusted }

/-- All trusted networks: those that all hosts share come first. -/
def PrepareConfig.trustedNetworks (config : PrepareConfig) : List String :=
  (config.globalTrusted ++ config.trusted).map (·.value)

/-! ## Items of a service -/

/-- The items of a service, all of them mappings before any is looked into. -/
def readItems {α : Type} (read : Mapping → String → Reading α) (data : Mapping) :
    Reading (List α) := do
  let network ← Field.required Scalar.mapping data "network" ""
  let items ← Field.required Scalar.list network "items" "network"
  let mappings ← Field.elements Scalar.mapping items "network.items"
  Field.elements read mappings "network.items"

/-- The chain name of a service; the names made from it with a mark in front stay within bounds. -/
def readChainName (default : String) (mark : String) (data : Mapping) : Reading String :=
  let limit : Int := ChainName.maxLength - (ChainName.egress mark).length
  Field.withDefault default (Scalar.token (some limit)) data "chainName" ""

/-! ## Services -/

/-- A port of a service with the networks that may reach it. -/
structure ServiceItem where
  port : Nat
  protocol : String
  sources : List String
  destination : Option String
  deriving DecidableEq, Repr

/-- The configuration of a service. -/
structure ServiceConfig where
  chainName : String
  items : List ServiceItem
  deriving DecidableEq, Repr

/-- Reads a port of a service. -/
def ServiceItem.read (data : Mapping) (path : String) : Reading ServiceItem := do
  let sources ← Field.withDefault [] Scalar.list data "sourceNetworks" path
  let port ← Field.required Scalar.port data "portNumber" path
  let protocol ← Field.required (Scalar.token none) data "protocol" path
  let sources ←
    Field.elements Scalar.addressOrNetwork sources (Location.key path "sourceNetworks")
  let destination ← Field.optional Scalar.addressOrNetwork data "destinationNetwork" path
  return { port, protocol, sources, destination }

/-- Reads the configuration of a service. -/
def ServiceConfig.read (value : Value) : Reading ServiceConfig := do
  let data ← Scalar.mapping value ""
  let items ← readItems ServiceItem.read data
  let chainName ← readChainName "genericServiceName" "" data
  return { chainName, items }

/-! ## Name services in containers -/

/-- A name server to which the queries for an address of the host go. -/
structure DnsForward where
  interface : String
  sourceAddress : String
  destinationAddress : String
  destinationPort : Nat
  sourcePort : Nat
  deriving DecidableEq, Repr

/-- The configuration of a name service. -/
structure DnsConfig where
  chainName : String
  items : List DnsForward
  deriving DecidableEq, Repr

/-- The port of name servers. -/
def dnsPort : Nat := 53

/-- Reads a forwarding. -/
def DnsForward.read (data : Mapping) (path : String) : Reading DnsForward := do
  let interface ←
    Field.required (Scalar.token (some ChainName.interfaceMaxLength)) data "sourceLinkName" path
  let sourceAddress ← Field.required Scalar.address data "sourceIpAddress" path
  let destinationAddress ← Field.required Scalar.address data "destinationIpAddress" path
  let destinationPort ← Field.required Scalar.port data "destinationPortNumber" path
  let sourcePort ← Field.withDefault dnsPort Scalar.port data "sourcePortNumber" path
  return { interface, sourceAddress, destinationAddress, destinationPort, sourcePort }

/-- Reads the configuration of a name service. -/
def DnsConfig.read (value : Value) : Reading DnsConfig := do
  let data ← Scalar.mapping value ""
  let items ← readItems DnsForward.read data
  let chainName ← readChainName "dockerDnsService" ChainName.dnsMark data
  return { chainName, items }

/-! ## Blacklists -/

/-- The configuration of a blacklist: where its database is and which table holds it. -/
structure BlacklistConfig where
  connection : String
  table : String
  schema : String
  deriving DecidableEq, Repr

/-- The table of a blacklist unless another is named. -/
def defaultTable : String := "blacklist_networks"

/-- The schema of that table unless another is named. -/
def defaultSchema : String := "security"

/-- Reads the configuration of a blacklist. -/
def BlacklistConfig.read (value : Value) : Reading BlacklistConfig := do
  let data ← Scalar.mapping value ""
  let database ← Field.required Scalar.mapping data "database" ""
  let connection ← Field.required Scalar.connection database "connectionString" "database"
  let table ← Field.withDefault defaultTable Scalar.text database "table" "database"
  let schema ← Field.withDefault defaultSchema Scalar.text database "schema" "database"
  return { connection, table, schema }

end FirewallPolicy
