import FirewallPolicy.Firewall.Command

/-!
# Transcripts as command lines

A command line is the program for a kind of command with the arguments of the command behind it.  A
listing frames the lines of a transcript by two separator lines on either side.
-/

namespace FirewallPolicy

/-- The programs to call. -/
structure ToolPaths where
  iptables : String := "iptables"
  ipset : String := "ipset"
  deriving DecidableEq, Repr

/-- The program for a kind of command. -/
def ToolPaths.tool (t : ToolPaths) : CommandKind → String
  | .iptables4 => t.iptables
  | .ipset => t.ipset

/-- A command as a command line. -/
def Command.line (c : Command) (tools : ToolPaths := {}) : String :=
  tools.tool c.kind ++ " " ++ c.arguments

/-- The line that frames a listing. -/
def separator : String := "--------------------"

/-- A transcript between separators. -/
def listing (transcript : Transcript) (tools : ToolPaths := {}) : String :=
  "\n".intercalate
    ([separator, separator] ++ transcript.map (·.line tools) ++ [separator, separator]) ++ "\n"

end FirewallPolicy
