import FirewallPolicy.Yaml.Scalar
import FirewallPolicy.Yaml.Token

/-!
# Nodes

A document is made of scalars, lists and mappings, each with a tag.  Its nodes are kept in a store,
and a list or a mapping holds the places of others in it.  An alias is the place of the node that
bears its name, which may be a list or a mapping that the alias stands in.

Reading is bounded by a number of steps that grows with the number of tokens.
-/

namespace FirewallPolicy.Yaml

/-- The place of a node in the store. -/
abbrev NodeId := Nat

/-- What a node holds. -/
inductive Content where
  | single (text : String)
  | sequence (items : List NodeId)
  | mapping (entries : List (NodeId × NodeId))
  deriving DecidableEq, Repr

/-- A node of a document. -/
structure Node where
  tag : String
  content : Content
  deriving DecidableEq, Repr

/-- What is left to read, with the nodes so far, their names and the handles of tags. -/
structure TokenStream where
  tokens : List Token
  nodes : Array Node := #[]
  anchors : List (String × NodeId) := []
  handles : List (String × String) := []

/-- Reading nodes may fail. -/
abbrev Parse := StateT TokenStream (Except YamlFault)

namespace Parse

/-- The next token, if there is one. -/
def peek : Parse Token := do
  match (← get).tokens with
  | [] => throw .arrangement
  | .bad e :: _ => throw e
  | t :: _ => return t

/-- Goes behind the next token. -/
def skip : Parse Unit := modify fun s => { s with tokens := s.tokens.tail }

/-- Fails at the next token. -/
def fail {α : Type} : Parse α := do
  let _ ← peek
  throw .arrangement

/-- Goes behind a token that has to be there. -/
def expect (t : Token) : Parse Unit := do
  if (← peek) = t then skip else fail

/-- Whether the next token is one of some. -/
def isNext (ts : List Token) : Parse Bool := return ts.contains (← peek)

/-- Stores a node, under a name if it bears one. -/
def store (anchor : Option String) (n : Node) : Parse NodeId := do
  let s ← get
  let id := s.nodes.size
  let anchors := match anchor with
    | none => s.anchors
    | some a => (a, id) :: s.anchors
  set { s with nodes := s.nodes.push n, anchors }
  return id

/-- Fills a node that was stored before. -/
def fill (id : NodeId) (n : Node) : Parse NodeId := do
  modify fun s => { s with nodes := s.nodes.setIfInBounds id n }
  return id

/-- The handles that need no directive. -/
def defaultHandles : List (String × String) := [("!", "!"), ("!!", coreTag "")]

/-- The tag that a text stands for. -/
def expand (t : TagText) : Parse String := do
  match t.handle with
  | none => return t.suffix
  | some h =>
    match (← get).handles.find? (·.1 == h) with
    | some e => return e.2 ++ t.suffix
    | none => throw .arrangement

/-- Reads the name and the tag in front of a node, in either order. -/
def properties : Parse (Option String × Option String) := do
  match ← peek with
  | .anchor a =>
    skip
    match ← peek with
    | .tag t => skip; return (some a, some (← expand t))
    | _ => return (some a, none)
  | .tag t =>
    skip
    match ← peek with
    | .anchor a => skip; return (some a, some (← expand t))
    | _ => return (none, some (← expand t))
  | _ => return (none, none)

/-- A scalar that is not written. -/
def emptyScalar : Parse NodeId := store none ⟨nullTag, .single ""⟩

/-- The tag of a list or mapping: its own, or else the usual one. -/
def collectionTag (own : Option String) (usual : String) : String :=
  match own with
  | none => usual
  | some t => if t = "!" then usual else t

/-- The tag of a scalar: its own, or else by its form if it stands without quotes. -/
def scalarTag (own : Option String) (plain : Bool) (text : String) : String :=
  match own with
  | none => if plain then plainTag text else strTag
  | some t => if t = "!" then plainTag text else t

/-- Reads the node that an alias stands for. -/
def named (a : String) : Parse NodeId := do
  match (← get).anchors.find? (·.1 == a) with
  | some e => return e.2
  | none => throw .anchor

/-- Makes sure that no node bears a name yet. -/
def checkNew (anchor : Option String) : Parse Unit := do
  if let some a := anchor then
    if (← get).anchors.any (·.1 == a) then throw .anchor

/-- Reads a list whose name and tag are known, given a reader of its items. -/
def sequence (anchor own : Option String) (items : Parse (List NodeId)) : Parse NodeId := do
  let tag := collectionTag own seqTag
  let id ← store anchor ⟨tag, .sequence []⟩
  fill id ⟨tag, .sequence (← items)⟩

/-- Reads a mapping whose name and tag are known, given a reader of its entries. -/
def mapping (anchor own : Option String) (entries : Parse (List (NodeId × NodeId))) :
    Parse NodeId := do
  let tag := collectionTag own mapTag
  let id ← store anchor ⟨tag, .mapping []⟩
  fill id ⟨tag, .mapping (← entries)⟩

mutual

/-- Reads a node; a list by dashes may stand at the column of its key where that is allowed. -/
def node (fuel : Nat) (block dashes : Bool) : Parse NodeId :=
  match fuel with
  | 0 => fail
  | fuel + 1 => do
    if let .alias a ← peek then
      skip
      named a
    else
      let (anchor, tag) ← properties
      let t ← peek
      checkNew anchor
      match t, block, dashes with
      | .blockEntry, _, true => sequence anchor tag (dashedEntries fuel)
      | .scalar text plain, _, _ =>
        skip
        store anchor ⟨scalarTag tag plain text, .single text⟩
      | .flowSequenceStart, _, _ =>
        skip
        sequence anchor tag (flowItems fuel true)
      | .flowMappingStart, _, _ =>
        skip
        mapping anchor tag (flowEntries fuel true)
      | .blockSequenceStart, true, _ =>
        skip
        sequence anchor tag (blockItems fuel)
      | .blockMappingStart, true, _ =>
        skip
        mapping anchor tag (blockEntries fuel)
      | _, _, _ =>
        if anchor.isSome || tag.isSome then store anchor ⟨scalarTag tag true "", .single ""⟩
        else fail

/-- Reads the entries of an indented list. -/
def blockItems (fuel : Nat) : Parse (List NodeId) :=
  match fuel with
  | 0 => fail
  | fuel + 1 => do
    if ← isNext [.blockEntry] then
      skip
      let n ← if ← isNext [.blockEntry, .blockEnd] then emptyScalar else node fuel true false
      return n :: (← blockItems fuel)
    else
      expect .blockEnd
      return []

/-- Reads the entries of a list at the column of its key. -/
def dashedEntries (fuel : Nat) : Parse (List NodeId) :=
  match fuel with
  | 0 => fail
  | fuel + 1 => do
    if ← isNext [.blockEntry] then
      skip
      let n ← if ← isNext [.blockEntry, .key, .value, .blockEnd] then emptyScalar
        else node fuel true false
      return n :: (← dashedEntries fuel)
    else return []

/-- Reads the entries of an indented mapping. -/
def blockEntries (fuel : Nat) : Parse (List (NodeId × NodeId)) :=
  match fuel with
  | 0 => fail
  | fuel + 1 => do
    if ← isNext [.key] then
      skip
      let k ← if ← isNext [.key, .value, .blockEnd] then emptyScalar else node fuel true true
      let v ← if ← isNext [.value] then do
          skip
          if ← isNext [.key, .value, .blockEnd] then emptyScalar else node fuel true true
        else emptyScalar
      return (k, v) :: (← blockEntries fuel)
    else
      expect .blockEnd
      return []

/-- Reads the entries of a list in brackets; a key makes a mapping of one entry. -/
def flowItems (fuel : Nat) (first : Bool) : Parse (List NodeId) :=
  match fuel with
  | 0 => fail
  | fuel + 1 => do
    if ← isNext [.flowSequenceEnd] then
      skip
      return []
    if !first then expect .flowEntry
    if ← isNext [.key] then
      skip
      let k ← if ← isNext [.value, .flowEntry, .flowSequenceEnd] then emptyScalar
        else node fuel false false
      let v ← if ← isNext [.value] then do
          skip
          if ← isNext [.flowEntry, .flowSequenceEnd] then emptyScalar
          else node fuel false false
        else emptyScalar
      let n ← store none ⟨mapTag, .mapping [(k, v)]⟩
      return n :: (← flowItems fuel false)
    else if ← isNext [.flowSequenceEnd] then
      skip
      return []
    else
      let n ← node fuel false false
      return n :: (← flowItems fuel false)

/-- Reads the entries of a mapping in braces. -/
def flowEntries (fuel : Nat) (first : Bool) : Parse (List (NodeId × NodeId)) :=
  match fuel with
  | 0 => fail
  | fuel + 1 => do
    if ← isNext [.flowMappingEnd] then
      skip
      return []
    if !first then expect .flowEntry
    if ← isNext [.key] then
      skip
      let k ← if ← isNext [.value, .flowEntry, .flowMappingEnd] then emptyScalar
        else node fuel false false
      let v ← if ← isNext [.value] then do
          skip
          if ← isNext [.flowEntry, .flowMappingEnd] then emptyScalar
          else node fuel false false
        else emptyScalar
      return (k, v) :: (← flowEntries fuel false)
    else if ← isNext [.flowMappingEnd] then
      skip
      return []
    else
      let k ← node fuel false false
      return (k, ← emptyScalar) :: (← flowEntries fuel false)

end

/-- Reads the directives in front of a document: at most one version, which has to be 1, and each
handle once. -/
def directives (version : Bool) (handles : List (String × String)) :
    Nat → Parse (List (String × String))
  | 0 => fail
  | fuel + 1 => do
    match ← peek with
    | .directive (.version major _) =>
      if version ∨ major ≠ 1 then throw .arrangement
      skip
      directives true handles fuel
    | .directive (.tag h expansion) =>
      if handles.any (·.1 == h) then throw .arrangement
      skip
      directives version ((h, expansion) :: handles) fuel
    | .directive .other => skip; directives version handles fuel
    | _ => return handles

/-- Goes behind marks for the end of a document. -/
def skipEnds : Nat → Parse Unit
  | 0 => return ()
  | fuel + 1 => do
    if ← isNext [.documentEnd] then
      skip
      skipEnds fuel

/-- Reads the directives and the mark in front of a document. -/
def start (fuel : Nat) : Parse Unit := do
  let handles ← directives false [] fuel
  modify fun s => { s with handles := handles ++ defaultHandles }
  expect .documentStart

/-- Reads the start of a document and its node; none where there is no document. -/
def document (fuel : Nat) : Parse (Option NodeId) := do
  match ← peek with
  | .streamEnd => return none
  | .directive _ | .documentStart =>
    start fuel
    match ← peek with
    | .directive _ | .documentStart | .documentEnd | .streamEnd => return some (← emptyScalar)
    | _ => return some (← node fuel true false)
  | _ =>
    modify fun s => { s with handles := defaultHandles }
    return some (← node fuel true false)

/-- Reads the only document of a stream; none where the stream is empty.  The start of another
document is read before it is refused. -/
def single (fuel : Nat) : Parse (Option NodeId) := do
  match ← document fuel with
  | none => return none
  | some n =>
    skipEnds fuel
    if !(← isNext [.streamEnd]) then
      start fuel
      throw .arrangement
    return some n

end Parse

/-- The nodes of a document, and the one that all others stand in. -/
structure Graph where
  nodes : Array Node
  root : NodeId
  deriving DecidableEq, Repr

/-- The only document of some tokens. -/
def graphOf (tokens : List Token) : Except YamlFault (Option Graph) := do
  let (root, s) ← (Parse.single (4 * tokens.length + 16)).run { tokens }
  return root.map fun n => ⟨s.nodes, n⟩

end FirewallPolicy.Yaml
