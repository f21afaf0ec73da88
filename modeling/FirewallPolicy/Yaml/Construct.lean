import FirewallPolicy.Document.Value
import FirewallPolicy.Yaml.Node

/-!
# From nodes to values

The tag of a node says which value it stands for.  A single value is made at once.  A list, a
mapping or a set is made without its elements and waits to be filled; what goes into it is made
while it is filled.  They are filled in the order in which they were made, and each node is made
only once, so a collection may be an element of itself.

In a mapping, the key `<<` takes in the entries of other mappings in front of its own, and the key
`=` counts as text.  Both change the nodes for whoever comes to them later.
-/

namespace FirewallPolicy.Yaml

/-- A key and its value. -/
abbrev Entry := NodeId × NodeId

/-- The entries of a mapping; other nodes have none. -/
def Content.entries : Content → List Entry
  | .mapping es => es
  | _ => []

/-! ## Cells -/

/-- What has been made of a node. -/
inductive Made where
  | single (value : Value)
  | collection

/-- A node and what has been made of it. -/
structure Cell extends Node where
  made : Option Made := none

/-- The nodes of a document while values are made of them. -/
abbrev Cells := Array Cell

namespace Cells

/-- What a node holds. -/
def content? (cells : Cells) (n : NodeId) : Option Content := cells[n]?.map (·.content)

/-- Whether a node bears a tag. -/
def hasTag (cells : Cells) (tag : String) (n : NodeId) : Bool := cells[n]?.any (·.tag == tag)

/-- The entries of a node. -/
def entries (cells : Cells) (n : NodeId) : List Entry :=
  ((cells.content? n).map Content.entries).getD []

/-- The nodes with other entries in a mapping. -/
def setEntries (cells : Cells) (n : NodeId) (es : List Entry) : Cells :=
  cells.modify n fun c => { c with content := .mapping es }

/-- The nodes with another tag at one of them. -/
def setTag (cells : Cells) (n : NodeId) (tag : String) : Cells :=
  cells.modify n fun c => { c with tag }

/-- The nodes when something has been made of one. -/
def setMade (cells : Cells) (n : NodeId) (made : Made) : Cells :=
  cells.modify n fun c => { c with made := some made }

end Cells

/-! ## Entries taken in by a mapping -/

/-- Taking in entries changes the nodes, and may fail. -/
abbrev Taking := StateT Cells (Except YamlFault)

/-- Whether an entry stands for entries of other mappings. -/
def Cells.isMerge (cells : Cells) (e : Entry) : Bool := cells.hasTag mergeTag e.1

/-- How many entries stand for entries of other mappings. -/
def Cells.mergeCount (cells : Cells) : Nat :=
  (cells.toList.flatMap fun c => c.content.entries).countP cells.isMerge

/-- Takes the first key `<<` out of a mapping and gives the node that it stands for. -/
def takeOut (n : NodeId) : Taking (Option NodeId) := do
  let cells ← get
  let es := cells.entries n
  match es.find? cells.isMerge with
  | none => return none
  | some (_, source) =>
    set (cells.setEntries n (es.eraseP cells.isMerge))
    return some source

/-- The nodes when a key `=` has become text. -/
def asText (cells : Cells) (e : Entry) : Cells :=
  if cells.hasTag valueTag e.1 then cells.setTag e.1 strTag else cells

/-- Puts entries in front of those of a mapping, and gives all of them. -/
def putIn (n : NodeId) (taken : List Entry) : Taking (List Entry) := do
  let cells ← get
  let es := taken ++ cells.entries n
  set (es.foldl asText (cells.setEntries n es))
  return es

/-- The entries of a mapping with those that it takes in, given a way to take them in. -/
def flattenBy (takeAll : NodeId → Taking (List Entry)) (n : NodeId) : Taking (List Entry) := do
  match (← get).content? n with
  | some (.mapping _) => putIn n (← takeAll n)
  | _ => throw .construction

/-- The entries that a key `<<` stands for, given a way to take in more: those of a mapping, or
those of a list of mappings, the last of these first. -/
def entriesBy (takeAll : NodeId → Taking (List Entry)) (source : NodeId) : Taking (List Entry) := do
  match (← get).content? source with
  | some (.sequence items) =>
    let lists ← items.mapM (flattenBy takeAll)
    return lists.reverse.flatten
  | _ => flattenBy takeAll source

/-- Takes the keys `<<` out of a mapping one after the other, and gives the entries that they stand
for.  The number of those that are left in all mappings bounds what follows. -/
def takeAll : Nat → NodeId → Taking (List Entry)
  | 0, _ => return []
  | left + 1, n => do
    match ← takeOut n with
    | none => return []
    | some source =>
      let front ← entriesBy (takeAll left) source
      return front ++ (← takeAll left n)

/-- The entries of a mapping with those that it takes in. -/
def flatten (n : NodeId) : Taking (List Entry) := do
  flattenBy (takeAll (← get).mergeCount) n

/-! ## Single values -/

/-- The text that a node has as a scalar.  A mapping has the one under its key `=`; one that leads
back to itself has none, which the number of nodes tells. -/
def Cells.text (cells : Cells) : Nat → NodeId → Except YamlFault String
  | 0, _ => .error .endless
  | left + 1, n =>
    match cells.content? n with
    | some (.single text) => .ok text
    | some (.mapping es) =>
      match es.find? fun e => cells.hasTag valueTag e.1 with
      | some e => cells.text left e.2
      | none => .error .construction
    | _ => .error .construction

/-- The tag of dates and times. -/
def timestampTag : String := coreTag "timestamp"

/-- The rules by which the tag of a single value reads a text. -/
def reader? (tag : String) : Option (String → Except YamlFault Value) :=
  if tag = strTag then some fun text => .ok (.text text)
  else if tag = nullTag then some fun _ => .ok .null
  else if tag = coreTag "bool" then some fun text => (boolValue text).map .bool
  else if tag = coreTag "int" then some fun text => (intValue text).map .int
  else if tag = coreTag "float" then some fun text => (floatValue text).map .float
  else if tag = coreTag "binary" then some fun text => (bytesValue text).map .bytes
  else if tag = timestampTag then
    some fun text => (stampValue text).map fun stamp => match stamp with
      | .inl d => .date d
      | .inr t => .dateTime t
  else none

/-- The single value of a node.  A date is read off the node itself, which has to be a text. -/
def Cells.single (cells : Cells) (n : NodeId) (cell : Cell) : Except YamlFault Value :=
  match reader? cell.tag with
  | none => .error .construction
  | some read => do
    let text ← cells.text cells.size n
    match cell.content with
    | .single _ => read text
    | _ => if cell.tag = timestampTag then .error .dateOfMapping else read text

/-! ## Making and filling -/

/-- The kinds of values that are filled. -/
inductive Kind where
  | list
  | pairs
  | map
  | set
  deriving DecidableEq, Repr

/-- The kind of value that a tag asks for, if it is to be filled. -/
def kind? (tag : String) : Option Kind :=
  if tag = seqTag then some .list
  else if tag = coreTag "omap" ∨ tag = coreTag "pairs" then some .pairs
  else if tag = mapTag then some .map
  else if tag = coreTag "set" then some .set
  else none

/-- Values in the making: the nodes, and the collections that are still to be filled. -/
structure Construction where
  cells : Cells
  waiting : List NodeId := []

/-- What goes into a collection. -/
inductive Part where
  | item (n : NodeId)
  /-- A key, which may not be a collection. -/
  | key (n : NodeId)
  /-- Something else stands where there has to be a node. -/
  | misfit
  deriving DecidableEq, Repr

namespace Construction

/-- Makes the value of a node, unless it is there. -/
def make (s : Construction) (n : NodeId) : Except YamlFault Construction :=
  match s.cells[n]? with
  | none => .error .construction
  | some cell =>
    if cell.made.isSome then .ok s
    else if (kind? cell.tag).isSome then
      .ok { cells := s.cells.setMade n .collection, waiting := s.waiting ++ [n] }
    else (s.cells.single n cell).map fun v => { s with cells := s.cells.setMade n (.single v) }

/-- The value made of a node, if it is a single one. -/
def single? (s : Construction) (n : NodeId) : Option Value :=
  match s.cells[n]? with
  | some ⟨_, some (.single v)⟩ => some v
  | _ => none

/-- Makes what a part asks for. -/
def add (s : Construction) : Part → Except YamlFault Construction
  | .item n => s.make n
  | .key n => do
    let s ← s.make n
    if (s.single? n).isSome then return s else throw .construction
  | .misfit => .error .construction

/-- Makes what some parts ask for. -/
def addAll (s : Construction) : List Part → Except YamlFault Construction
  | [] => .ok s
  | p :: ps => do (← s.add p).addAll ps

/-- The key and the value of a pair. -/
def pairParts (cells : Cells) (item : NodeId) : List Part :=
  match cells.content? item with
  | some (.mapping [(k, v)]) => [.item k, .item v]
  | _ => [.misfit]

/-- The parts of a collection.  A mapping takes in what it has to before. -/
def parts (s : Construction) (n : NodeId) : Except YamlFault (List Part × Construction) :=
  match s.cells[n]? with
  | none => .ok ([.misfit], s)
  | some cell =>
    match kind? cell.tag, cell.content with
    | some .list, .sequence items => .ok (items.map .item, s)
    | some .pairs, .sequence items => .ok (items.flatMap (pairParts s.cells), s)
    | some .map, .mapping _ | some .set, .mapping _ => do
      let (es, cells) ← (flatten n).run s.cells
      return (es.flatMap fun e => [.key e.1, .item e.2], { s with cells })
    | _, _ => .ok ([.misfit], s)

/-- Fills the collections that wait, in turn, given a bound for their number. -/
def fillAll (s : Construction) : Nat → Except YamlFault Construction
  | 0 => .ok s
  | left + 1 =>
    match s.waiting with
    | [] => .ok s
    | n :: waiting => do
      let (ps, s) ← { s with waiting }.parts n
      (← s.addAll ps).fillAll left

/-- Where making the values of a document begins. -/
def ofNodes (nodes : Array Node) : Construction :=
  { cells := (nodes.toList.map fun n => { n with }).toArray }

end Construction

/-- Makes the values of all nodes that a document reaches. -/
def Graph.construct (g : Graph) : Except YamlFault Construction := do
  let s ← (Construction.ofNodes g.nodes).addAll [.item g.root]
  s.fillAll g.nodes.size

end FirewallPolicy.Yaml
