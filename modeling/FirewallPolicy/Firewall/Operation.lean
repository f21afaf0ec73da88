import FirewallPolicy.Firewall.Command
import FirewallPolicy.Firewall.Rule
import FirewallPolicy.Policy.ChainName

/-!
# Operations on the firewall

The changes a transcript makes to chains and sets.  Each of them is one command.
-/

namespace FirewallPolicy

/-- A change of one chain or set. -/
inductive Operation where
  | newChain (chain : String)
  | flushChain (chain : String)
  | deleteChain (chain : String)
  | append (chain rule : String)
  /-- Puts a rule at a position, counted from one. -/
  | insert (chain : String) (position : Int) (rule : String)
  | delete (chain rule : String)
  | createSet (set type : String)
  | destroySet (set : String)
  | addToSet (set entry : String)
  | flushSet (set : String)
  deriving DecidableEq, Repr

namespace Operation

/-- The type of the managed sets: networks. -/
def networkSet : String := "hash:net"

/-- The arguments of the command for an operation. -/
def arguments : Operation → String
  | .newChain chain => "-N " ++ chain
  | .flushChain chain => "-F " ++ chain
  | .deleteChain chain => "-X " ++ chain
  | .append chain rule => joinParts ["-A " ++ chain, rule]
  | .insert chain position rule => joinParts ["-I " ++ chain ++ " " ++ toString position, rule]
  | .delete chain rule => joinParts ["-D " ++ chain, rule]
  | .createSet set type => "-! create " ++ set ++ " " ++ type
  | .destroySet set => "-! destroy " ++ set
  | .addToSet set entry => "-! add " ++ set ++ " " ++ entry
  | .flushSet set => "flush " ++ set

/-- The tool for an operation. -/
def kind : Operation → CommandKind
  | .createSet .. | .destroySet .. | .addToSet .. | .flushSet .. => .ipset
  | _ => .iptables4

/-- The command for an operation. -/
def command (op : Operation) : Command := ⟨op.kind, op.arguments⟩

/-- The operations that undo the creation of a chain, whatever it holds. -/
def teardown (chain : String) : List Operation := [.flushChain chain, .deleteChain chain]

/-- The operation that puts a rule at the end of a chain. -/
def appendRule (chain : String) (rule : Rule) : Operation := .append chain rule.text

/-- The operation that puts a rule at a position of a chain. -/
def insertRule (chain : String) (position : Nat) (rule : Rule) : Operation :=
  .insert chain position rule.text

/-- The operation that takes a rule out of a chain. -/
def deleteRule (chain : String) (rule : Rule) : Operation := .delete chain rule.text

end Operation

end FirewallPolicy
