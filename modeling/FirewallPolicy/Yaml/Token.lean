import FirewallPolicy.Yaml.Fault

/-!
# Tokens of YAML documents

The tokens say explicitly where a list or a mapping that is laid out by indentation begins and ends.
-/

namespace FirewallPolicy.Yaml

/-- A tag as it is written: a handle, if there is one, and the rest. -/
structure TagText where
  handle : Option String
  suffix : String
  deriving DecidableEq, Repr

/-- A directive in front of a document. -/
inductive Directive where
  | version (major minor : Nat)
  | tag (handle expansion : String)
  | other
  deriving DecidableEq, Repr

/-- A token. -/
inductive Token where
  | directive (d : Directive)
  | documentStart
  | documentEnd
  | streamEnd
  | blockSequenceStart
  | blockMappingStart
  | blockEnd
  | flowSequenceStart
  | flowSequenceEnd
  | flowMappingStart
  | flowMappingEnd
  | flowEntry
  | blockEntry
  | key
  | value
  | alias (name : String)
  | anchor (name : String)
  | tag (t : TagText)
  /-- A scalar, and whether it stands without quotes. -/
  | scalar (text : String) (plain : Bool)
  /-- Behind the last token of a text that is no YAML from there on. -/
  | bad (fault : YamlFault)
  deriving DecidableEq, Repr

end FirewallPolicy.Yaml
