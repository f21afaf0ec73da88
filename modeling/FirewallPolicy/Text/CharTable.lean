/-!
# Tables of characters

A set of characters is written as the list of its maximal runs of code points, lowest first.
The tables themselves stand in the modules named for their property.
-/

namespace FirewallPolicy.Text

/-- A set of characters as runs of code points, both ends included. -/
abbrev CharTable := List (Nat × Nat)

/-- Whether a run of the table holds the character. -/
def CharTable.contains (table : CharTable) (c : Char) : Bool :=
  table.any fun run => decide (run.1 ≤ c.toNat) && decide (c.toNat ≤ run.2)

end FirewallPolicy.Text
