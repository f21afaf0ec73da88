/-!
# Locations in a document

A location is written as the keys and list indexes that lead to it: `network.items[0].portNumber`.
The document itself has the empty location.
-/

namespace FirewallPolicy.Location

/-- The location of a key below a location. -/
def key (path name : String) : String := if path.isEmpty then name else path ++ "." ++ name

/-- The location of a list element below a location. -/
def index (path : String) (i : Int) : String := path ++ "[" ++ toString i ++ "]"

end FirewallPolicy.Location
