/-!
# Rules

A rule is a list of conditions and the action for packets that meet all of them.  A chain holds
rules as texts: the words of the conditions, `-j` and the action.
-/

namespace FirewallPolicy

/-- Ports that programs use for their side of a connection. -/
def ephemeralPorts : String := "1024:65535"

/-- A condition on a packet. -/
inductive Condition where
  /-- The rule stands in another table than the usual one. -/
  | table (name : String)
  /-- The packet came in by a link. -/
  | link (name : String)
  | inInterface (name : String)
  | notInInterface (name : String)
  | outInterface (name : String)
  | protocol (name : String)
  | icmpType (n : Nat)
  | source (network : String)
  | destination (network : String)
  | sourcePort (ports : String)
  | destinationPort (ports : String)
  /-- The connection is in one of some states. -/
  | state (states : String)
  /-- The packet was made by a process of a user. -/
  | owner (user : Nat)
  /-- The source or the destination is in a set. -/
  | inSet (set side : String)
  deriving DecidableEq, Repr

/-- The words of a condition. -/
def Condition.text : Condition → String
  | .table name => "-t " ++ name
  | .link name => "-i " ++ name
  | .inInterface name => "--in-interface " ++ name
  | .notInInterface name => "! --in-interface " ++ name
  | .outInterface name => "--out-interface " ++ name
  | .protocol name => "-p " ++ name
  | .icmpType n => "--icmp-type " ++ toString n
  | .source network => "-s " ++ network
  | .destination network => "-d " ++ network
  | .sourcePort ports => "--sport " ++ ports
  | .destinationPort ports => "--dport " ++ ports
  | .state states => "-m state --state " ++ states
  | .owner user => "-m owner --uid-owner " ++ toString user
  | .inSet set side => "-m set --match-set " ++ set ++ " " ++ side

/-- Conditions and the action for the packets that meet them. -/
structure Rule where
  conditions : List Condition
  action : String
  deriving DecidableEq, Repr

/-- The parts of a rule that are not empty, with a blank between them. -/
def joinParts (parts : List String) : String :=
  " ".intercalate (parts.filter (!·.isEmpty))

/-- A rule as it stands in a chain. -/
def Rule.text (r : Rule) : String :=
  " ".intercalate (r.conditions.map Condition.text ++ ["-j " ++ r.action])

/-- The rule that sends every packet that meets some conditions into a chain. -/
def Rule.jump (conditions : List Condition) (chain : String) : Rule := ⟨conditions, chain⟩

/-- The rule at the end of a chain, which goes back to where the chain was entered. -/
def Rule.leave : Rule := ⟨[], "RETURN"⟩

end FirewallPolicy
