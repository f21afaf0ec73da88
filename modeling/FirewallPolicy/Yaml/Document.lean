import FirewallPolicy.Yaml.Construct

/-!
# Documents

The value of a document is unfolded from what has been made of its nodes.
-/

namespace FirewallPolicy.Yaml

namespace Construction

/-- The entries with one more: a key that is there keeps its place and takes the new value.  A node
is the same key as itself, whatever its value. -/
def insertEntry (s : Construction) (es : List Entry) (e : Entry) : List Entry :=
  let same := fun (k : NodeId) => k == e.1 || match s.single? k, s.single? e.1 with
    | some v, some w => v.sameKey w
    | _, _ => false
  if es.any fun old => same old.1 then
    es.map fun old => if same old.1 then (old.1, e.2) else old
  else es ++ [e]

/-- How many levels of a value that stands in itself are kept.  No reader of documents goes that
deep. -/
def ringDepth : Nat := 16

/-- The value of a node inside others, from the innermost one on.  A value that stands in itself has
no end, and is cut off below some levels. -/
def value (s : Construction) : Nat → List NodeId → NodeId → Value
  | 0, _, _ => .null
  | left + 1, around, n =>
    match s.cells[n]? with
    | none => .null
    | some cell =>
      let cut := around.contains n && decide (ringDepth ≤ around.length)
      let inner := s.value left (n :: around)
      let items := match cell.content with
        | .sequence items => if cut then [] else items
        | _ => []
      let entries := match cell.content with
        | .mapping es => if cut then [] else es.foldl s.insertEntry []
        | _ => []
      match cell.made, kind? cell.tag with
      | some (.single v), _ => v
      | _, some .pairs => .list (items.flatMap fun item =>
          (s.cells.entries item).map fun e => .pair (inner e.1) (inner e.2))
      | _, some .map => .map (entries.map fun e => (inner e.1, inner e.2))
      | _, some .set => .set (entries.map fun e => inner e.1)
      | _, _ => .list (items.map inner)

end Construction

/-- The value of a document. -/
def Graph.value (g : Graph) : Except YamlFault Value := do
  let s ← g.construct
  return s.value (Construction.ringDepth + g.nodes.size + 1) [] g.root

/-- The value of the only document in some tokens; where there is none, it is null. -/
def documentOf (ts : List Token) : Except YamlFault Value := do
  match ← graphOf ts with
  | none => return .null
  | some g => g.value

end FirewallPolicy.Yaml
