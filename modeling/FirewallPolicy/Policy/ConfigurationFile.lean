import FirewallPolicy.Files.FileSystem
import FirewallPolicy.Policy.Configuration
import FirewallPolicy.Text.Lines
import FirewallPolicy.Text.Utf8
import FirewallPolicy.Workflow.Log
import FirewallPolicy.Yaml.Document
import FirewallPolicy.Yaml.Lexer

/-!
# Configuration files

A configuration file is a YAML document in UTF-8.  Reading one fails at the file, at its bytes, at
the document, at a scalar or at the policy, in this order.
-/

namespace FirewallPolicy

open FirewallPolicy.Files (FileSystem OsError Path)
open FirewallPolicy.Text (Utf8Error)
open FirewallPolicy.Yaml (Token YamlFault documentOf graphOf tokensOf)

/-- Why a configuration file is not read. -/
inductive LoadError where
  | file (cause : OsError)
  | encoding (path : Path) (cause : Utf8Error)
  /-- The text is no YAML. -/
  | malformed (path : Path) (cause : YamlFault)
  /-- The text is YAML, but a scalar in it has no value. -/
  | scalar (cause : YamlFault)
  | policy (cause : ReadError)

/-- The wording of a load error. -/
def LoadError.message : LoadError → String
  | .file cause => cause.message
  | .encoding path cause => invalidText "" s!"{path.text} is not UTF-8 encoded: {cause.message}"
  | .malformed path cause => invalidText "" s!"{path.text} is not valid YAML: {cause.message}"
  | .scalar cause => cause.message
  | .policy cause => cause.message

/-- How many bytes of a file are decoded at a time. -/
def chunkSize : Nat := 8192

/-- The bytes that have been decoded when a fault comes up: the chunks in front of the one with the
byte that cannot go on as begun, or all of them where they end too early. -/
def decodedBefore (bytes : List UInt8) (e : Utf8Error) : List UInt8 :=
  let upTo := fun (n : Nat) => bytes.take (n / chunkSize * chunkSize)
  match e.fault with
  | .start => upTo e.position
  | .continuation => upTo (e.position + e.count)
  | .unexpectedEnd => bytes

/-- The text that has been decoded when a fault comes up.  A carriage return at its end waits for
what follows it. -/
def textBefore (bytes : List UInt8) (e : Utf8Error) : List Char :=
  let (cs, _) := Text.decodeUtf8 (decodedBefore bytes e)
  Text.unifyLineEnds (if cs.getLast? = some '\r' then cs.dropLast else cs)

/-- The tokens in the bytes of a file. -/
def scanned (bytes : List UInt8) : List Token :=
  match Text.decodeFile bytes with
  | .ok text => tokensOf (Text.unifyLineEnds text)
  | .error e => tokensOf (textBefore bytes e) false

/-- The document in the bytes of a file.  Tokens are read while the bytes are decoded, so an escape
for a number that is no character may come before a byte that is no UTF-8. -/
def readDocument (path : Path) (bytes : List UInt8) : Except LoadError Value :=
  match Text.decodeFile bytes with
  | .error e =>
    match graphOf (scanned bytes) with
    | .error (.codePoint n) => .error (.scalar (.codePoint n))
    | _ => .error (.encoding path e)
  | .ok _ =>
    match documentOf (scanned bytes) with
    | .ok value => .ok value
    | .error e => .error (if e.isMalformed then .malformed path e else .scalar e)

/-- The configuration in the bytes of a file. -/
def readConfiguration (path : Path) (bytes : List UInt8) : Except LoadError Configuration := do
  let value ← readDocument path bytes
  (Configuration.read value).mapError .policy

/-- The configuration in a file. -/
def loadConfiguration (fs : FileSystem) (path : Path) : Except LoadError Configuration := do
  let bytes ← (fs.read path).mapError .file
  readConfiguration path bytes

/-- The logger of configuration files. -/
def configurationLog : Logger := ⟨"netfilterfabrik.core._configuration"⟩

/-- The entry for the begin of reading a file. -/
def loadBegun (path : Path) : LogEntry :=
  configurationLog.debug s!"Loading configuration from {path.text}"

end FirewallPolicy
