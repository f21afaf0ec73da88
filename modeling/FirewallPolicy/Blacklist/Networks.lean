import FirewallPolicy.Address.IPv4
import FirewallPolicy.Text.Blank
import FirewallPolicy.Workflow.Job

/-!
# The networks of a blacklist

The entries of a blacklist are read as IPv4 networks and brought into one form: without host bits,
each network once, in the order of their addresses.
-/

namespace FirewallPolicy.Blacklist

open FirewallPolicy.Address (Network)

/-- Reads an entry as a network; whatever is no text counts as the text it is shown as. -/
def network? (entry : Value) : Option Network :=
  Network.ofChars? (Text.trim entry.plainText).toList

/-- Reads entries up to the first that is no network. -/
def readNetworks : List Value → Except SourceError (List Network)
  | [] => .ok []
  | entry :: rest =>
    match network? entry with
    | none => .error (.notNetwork entry)
    | some n => (readNetworks rest).map (n :: ·)

/-- Networks in strict order, with one more. -/
def insertNetwork (n : Network) : List Network → List Network
  | [] => [n]
  | m :: rest =>
    if n.before m then n :: m :: rest
    else if m.before n then m :: insertNetwork n rest
    else m :: rest

/-- Each of the networks once, in order. -/
def sortNetworks (networks : List Network) : List Network := networks.foldr insertNetwork []

/-- The form of a blacklist in which order, repetitions and host bits make no difference. -/
def normalize (entries : List Value) : Except SourceError (List String) :=
  (readNetworks entries).map fun networks => (sortNetworks networks).map Network.text

end FirewallPolicy.Blacklist
