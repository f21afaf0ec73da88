import FirewallPolicy.Policy.Location
import FirewallPolicy.Policy.Scalar

/-!
# Fields of a mapping

A field is read by the reader of its value.  A null counts as an absent field, and keys that no
reader asks for are passed over.
-/

namespace FirewallPolicy.Field

open FirewallPolicy.Scalar (Mapping)

/-- How a value at a location is read. -/
abbrev Reader (α : Type) := Value → String → Reading α

/-- The value of a key, if there is one and it is not null. -/
def present? (data : Mapping) (key : String) : Option Value :=
  match Value.lookup? data key with
  | some .null => none
  | other => other

/-- A field that may be absent. -/
def optional {α : Type} (read : Reader α) (data : Mapping) (key path : String) :
    Reading (Option α) :=
  match present? data key with
  | none => .ok none
  | some value => (read value (Location.key path key)).map some

/-- A field that has to be there. -/
def required {α : Type} (read : Reader α) (data : Mapping) (key path : String) : Reading α :=
  match present? data key with
  | none => refuse (Location.key path key) .required
  | some value => read value (Location.key path key)

/-- A field with a default. -/
def withDefault {α : Type} (default : α) (read : Reader α) (data : Mapping) (key path : String) :
    Reading α :=
  (optional read data key path).map (·.getD default)

/-- The elements of a list, each read at its own location, the indexes counted from `start`. -/
def elementsFrom {α β : Type} (read : β → String → Reading α) (path : String) :
    Nat → List β → Reading (List α)
  | _, [] => .ok []
  | start, v :: vs => do
    let x ← read v (Location.index path start)
    let xs ← elementsFrom read path (start + 1) vs
    return x :: xs

/-- The elements of a list, each read at its own location. -/
def elements {α β : Type} (read : β → String → Reading α) (items : List β) (path : String) :
    Reading (List α) :=
  elementsFrom read path 0 items

end FirewallPolicy.Field
