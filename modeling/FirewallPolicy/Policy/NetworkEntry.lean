import FirewallPolicy.Policy.Field

/-!
# Network entries

A network with a description for the reader of a policy.  A bare network may stand for an entry, and
so may an entry that was read before, which is taken as it is.
-/

namespace FirewallPolicy

/-- A network and what it is. -/
structure NetworkEntry where
  value : String
  description : String := ""
  deriving DecidableEq, Repr

/-- An item of a list of networks: a value of a document, or an entry that was read before. -/
inductive NetworkItem where
  | raw (value : Value)
  | entry (e : NetworkEntry)

/-- The items of a document. -/
instance : Coe (List Value) (List NetworkItem) := ⟨List.map .raw⟩

namespace NetworkEntry

/-- Reads a value: a network, or a mapping of `value` and an optional `description`. -/
def read (item : Value) (path : String) : Reading NetworkEntry :=
  match item with
  | .text _ => (Scalar.network item path).map (⟨·, ""⟩)
  | item => do
    let data ← Scalar.mapping item path
    let value ← Field.required Scalar.network data "value" path
    let description ← Field.withDefault "" Scalar.text data "description" path
    return ⟨value, description⟩

/-- Reads an item. -/
def ofItem : NetworkItem → String → Reading NetworkEntry
  | .entry e, _ => .ok e
  | .raw value, path => read value path

/-- Reads a list of items. -/
def readAll (items : List NetworkItem) (path : String) : Reading (List NetworkEntry) :=
  Field.elements ofItem items path

end NetworkEntry

end FirewallPolicy
