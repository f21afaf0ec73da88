/-!
# Names of chains and sets

The managed chains of a host and how the names of a service's chains are made.  Other programs link
into these chains by name, so the names are fixed.
-/

namespace FirewallPolicy.ChainName

/-- The name of the incoming side of a managed chain. -/
def ingress (chain : String) : String := "IN_" ++ chain

/-- The name of the outgoing side of a managed chain. -/
def egress (chain : String) : String := "OUT_" ++ chain

/-- Traffic a host cannot live without. -/
def vital : String := "vital_access_0"

/-- Traffic of blocked networks. -/
def block : String := "block_access_0"

/-- Traffic of the services of a host. -/
def services : String := "services_access_0"

/-- Traffic of trusted networks. -/
def trusted : String := "trusted_access_0"

/-- The set of blocked networks. -/
def blockSet : String := "block_net"

/-- The set of trusted networks. -/
def trustedSet : String := "trusted_net"

/-- What stands before the chain name of a name service. -/
def dnsMark : String := "dns_"

/-- The most characters the name of a chain may have. -/
def maxLength : Nat := 28

/-- The most characters the name of a network interface may have. -/
def interfaceMaxLength : Nat := 15

end FirewallPolicy.ChainName
