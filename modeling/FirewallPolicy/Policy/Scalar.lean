import FirewallPolicy.Address.IPv6
import FirewallPolicy.Policy.Fault
import FirewallPolicy.Text.Blank
import FirewallPolicy.Url.Connection

/-!
# Values of a policy

Each reader takes a value and its location and gives the checked value or the rule it breaks.  Texts
are read without the blanks at their ends; addresses and networks keep the notation of the document.
-/

namespace FirewallPolicy.Scalar

open FirewallPolicy.Text (trim isDigitRun readInt isWritable)
open FirewallPolicy.Url (Connection)

/-- The entries of a mapping, in order. -/
abbrev Mapping := List (Value × Value)

/-- A mapping. -/
def mapping (value : Value) (path : String) : Reading Mapping :=
  match value with
  | .map entries => .ok entries
  | v => refuse path (.notMapping v.kind)

/-- A list. -/
def list (value : Value) (path : String) : Reading (List Value) :=
  match value with
  | .list items => .ok items
  | v => refuse path (.notList v.kind)

/-- A text of which something is left without the blanks at its ends. -/
def text (value : Value) (path : String) : Reading String :=
  match value with
  | .text s => if (trim s).isEmpty then refuse path .empty else .ok (trim s)
  | v => refuse path (.notText v.kind)

/-- The characters that may stand unquoted in a command: letters, digits and `_ . : @ + -`. -/
def isTokenChar (c : Char) : Bool :=
  (Text.asciiDigit? c).isSome || c == '_' || c == '.' || c == ':' || c == '@' || c == '+' || c == '-'

/-- A single word of a command, of a limited length where there is a limit. -/
def token (limit : Option Int) (value : Value) (path : String) : Reading String := do
  let s ← text value path
  if !s.toList.all isTokenChar then refuse path (.notToken s)
  else match limit with
    | none => return s
    | some n => if n < s.length then refuse path (.tooLong s n) else return s

/-- The error for a value that is no port, or for one that cannot even be shown. -/
def portError {α : Type} (value : Value) (path : String) (fault : Fault) : Reading α :=
  if value.isWritable then refuse path fault else .error (.numeral .tooLongToWrite)

/-- A number in the range of ports. -/
def portNumber (n : Int) (path : String) : Reading Nat :=
  if 0 ≤ n ∧ n ≤ 65535 then .ok n.toNat else portError (.int n) path (.portOutOfRange n)

/-- A port: a number, or a text made of digits. -/
def port (value : Value) (path : String) : Reading Nat :=
  match value with
  | .bool _ => refuse path .truthAsPort
  | .int n => portNumber n path
  | .text s =>
    if isDigitRun (trim s) then
      match readInt (trim s) with
      | .ok n => portNumber n path
      | .error e => .error (.numeral e)
    else refuse path (.notPort value)
  | v => portError v path (.notPort v)

/-- A network, its length written behind a slash. -/
def network (value : Value) (path : String) : Reading String := do
  let s ← text value path
  if !s.toList.contains '/' then refuse path (.notCidr s)
  else if !Address.isNetwork s then refuse path (.notNetwork s)
  else return s

/-- A single address. -/
def address (value : Value) (path : String) : Reading String := do
  let s ← text value path
  if Address.isAddress s then return s else refuse path (.notAddress s)

/-- A network if there is a slash in it, and a single address otherwise. -/
def addressOrNetwork (value : Value) (path : String) : Reading String := do
  let s ← text value path
  if s.toList.contains '/' then network (.text s) path else address (.text s) path

/-- The driver used where the connection URL names none. -/
def defaultDriver : List Char := "psycopg".toList

/-- The kind of database and the driver that a URL names, around the first plus sign. -/
def splitBackend (driver : List Char) : List Char × List Char :=
  (Text.cutAt? '+' driver).getD (driver, [])

/-- A connection URL of a PostgreSQL database, in the form that names its driver. -/
def connection (value : Value) (path : String) : Reading String := do
  let s ← text value path
  match Connection.read s with
  | .error .malformed => refuse path (.notConnection s)
  | .error (.port cause) => .error (.numeral cause)
  | .ok url =>
    let (backend, driver) := splitBackend url.driver
    if backend = "postgres".toList ∨ backend = "postgresql".toList then
      let driver := if driver.isEmpty then defaultDriver else driver
      return { url with driver := "postgresql+".toList ++ driver : Connection }.text
    else refuse path (.scheme (String.ofList url.driver))

end FirewallPolicy.Scalar
