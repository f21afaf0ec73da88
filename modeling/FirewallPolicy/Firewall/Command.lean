import FirewallPolicy.Text.Quoted

/-!
# Commands and transcripts

A command is a tool and the arguments it is called with.  A transcript is the list of commands, in
the order in which they have to run.
-/

namespace FirewallPolicy

/-- The tool a command is for. -/
inductive CommandKind where
  | iptables4
  | ipset
  deriving DecidableEq, Repr

/-- The name of a kind. -/
def CommandKind.name : CommandKind → String
  | .iptables4 => "iptables-4"
  | .ipset => "ipset"

/-- The kind with a name. -/
def CommandKind.ofName? (name : String) : Option CommandKind :=
  if name = "iptables-4" then some .iptables4
  else if name = "ipset" then some .ipset
  else none

/-- One call of a tool. -/
structure Command where
  kind : CommandKind
  arguments : String
  deriving DecidableEq, Repr

/-- A command as text: its kind and its arguments. -/
def Command.text (c : Command) : String := c.kind.name ++ ": " ++ c.arguments

/-- Commands in the order in which they have to run. -/
abbrev Transcript := List Command

end FirewallPolicy
