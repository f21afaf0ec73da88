import FirewallPolicy.Document.Value
import FirewallPolicy.Text.Blank

/-!
# Directions

A job either applies its policy or takes it back.
-/

namespace FirewallPolicy

/-- Whether a policy is applied or taken back. -/
inductive Direction where
  | install
  | uninstall
  deriving DecidableEq, Repr

namespace Direction

/-- The name of a direction. -/
def name : Direction → String
  | .install => "install"
  | .uninstall => "uninstall"

/-- The direction with a name. -/
def ofName? (name : String) : Option Direction :=
  if name = "install" then some .install
  else if name = "uninstall" then some .uninstall
  else none

/-- The direction that a token names, in any case and with blanks around it.  Only ASCII letters
have a case here: no other letter has an ASCII one as its lower case and stands in a name. -/
def ofToken? (token : Value) : Option Direction :=
  match token with
  | .text s => ofName? (String.ofList ((Text.trim s).toList.map Char.toLower))
  | _ => none

end Direction

end FirewallPolicy
