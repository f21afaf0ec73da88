import FirewallPolicy.Blacklist.Networks
import FirewallPolicy.Policy.JobConfig
import FirewallPolicy.Text.Digit
import FirewallPolicy.Url.Connection

/-!
# Blacklists in a database

A blacklist is a table with the columns `value` and `ip_version`, of which the rows of version 4
count.  The query names the columns by schema and table, quoted where SQL needs it.
-/

namespace FirewallPolicy.Blacklist

open FirewallPolicy.Url (Connection ConnectionError)

/-! ## The query -/

/-- The words of SQL that are no names. -/
def reservedWords : List String :=
  ["all", "analyse", "analyze", "and", "any", "array", "as", "asc", "asymmetric", "authorization",
    "between", "binary", "both", "case", "cast", "check", "collate", "column", "constraint",
    "create", "cross", "current_date", "current_role", "current_time", "current_timestamp",
    "current_user", "default", "deferrable", "desc", "distinct", "do", "else", "end", "except",
    "false", "for", "foreign", "freeze", "from", "full", "grant", "group", "having", "in",
    "initially", "inner", "intersect", "into", "is", "isnull", "join", "leading", "left", "like",
    "limit", "localtime", "localtimestamp", "natural", "new", "not", "notnull", "null", "off",
    "offset", "old", "on", "only", "or", "order", "outer", "overlaps", "placing", "primary",
    "references", "right", "select", "session_user", "set", "similar", "some", "symmetric", "table",
    "then", "to", "trailing", "true", "union", "unique", "user", "using", "verbose", "when",
    "where"]

/-- Whether a character may stand in a name without quotes: a lower-case letter, also one of the two
beyond ASCII that are the same as `s` and `i` in upper case, a digit, a low line or a dollar sign.
-/
def isPlainChar (c : Char) : Bool :=
  (decide ('a' ≤ c) && decide (c ≤ 'z')) || c == 'ſ' || c == 'ı' || Text.isAsciiDigit c ||
    c == '_' || c == '$'

/-- Whether a name needs no quotes. -/
def isPlainName (name : String) : Bool :=
  match name.toList with
  | [] => false
  | c :: cs =>
    !Text.isAsciiDigit c && c != '$' && (c :: cs).all isPlainChar && !reservedWords.contains name

/-- A name as it stands in a query: a quote inside quotes is written twice. -/
def sqlName (name : String) : String :=
  if isPlainName name then name
  else
    let inner := name.toList.flatMap fun c => if c = '"' then ['"', '"'] else [c]
    String.ofList ('"' :: inner ++ ['"'])

/-- The query for the networks of a blacklist. -/
def querySql (schema table : String) : String :=
  let name := sqlName schema ++ "." ++ sqlName table
  s!"SELECT {name}.value\nFROM {name}\nWHERE {name}.ip_version = :ip_version_1"

/-! ## A database in a file -/

/-- A database with a single table in its main schema. -/
structure TableFile where
  table : String
  /-- The value and the version of each row. -/
  rows : List (Value × Value)

/-- Names in a file database are the same in any case. -/
def sameName (a b : String) : Bool := a.toList.map Char.toLower == b.toList.map Char.toLower

/-- A value as the database gives it back: it has no truth values, only numbers. -/
def stored : Value → Value
  | .bool b => .int (if b then 1 else 0)
  | v => v

/-- Whether a version is the number four; no text is. -/
def isVersionFour (v : Value) : Bool := (stored v).sameKey (.int 4)

/-- The values of version four, if the table is there. -/
def TableFile.select? (file : TableFile) (table : String) (schema : Option String) :
    Option (List Value) :=
  let mainSchema := match schema with
    | none => true
    | some name => name.isEmpty || sameName name "main"
  if mainSchema && sameName table file.table then
    some ((file.rows.filter fun row => isVersionFour row.2).map fun row => stored row.1)
  else none

/-- What a connection URL leads to. -/
inductive Reach where
  /-- A database in a file, with the path of the file. -/
  | file (path : Option (List Char))
  /-- No database that can be talked to. -/
  | nothing

/-- What a connection URL leads to; only databases in files can be reached. -/
def reach (url : String) : Except ConnectionError Reach :=
  match Connection.read url with
  | .error .malformed => .ok .nothing
  | .error e => .error e
  | .ok u =>
    let isFile := u.driver = "sqlite".toList ∨ u.driver = "sqlite+pysqlite".toList
    let remote := (u.user.getD []).length + (u.password.getD []).length + (u.host.getD []).length
    if isFile ∧ remote = 0 ∧ (u.port = none ∨ u.port = some 0) then .ok (.file u.database)
    else .ok .nothing

/-- Reads all values as networks and writes them without host bits. -/
def writeNetworks (values : List Value) : Except SourceError (List String) :=
  (readNetworks values).map (·.map Address.Network.text)

/-- The networks behind a connection URL, given the file found there, if any. -/
def fetch (file : Option TableFile) (url table : String) (schema : Option String) :
    Except JobError (List String) :=
  match reach url with
  | .error (.port cause) => .error (.sourcePort cause)
  | .error .malformed => .error (.source .cannotConnect)
  | .ok .nothing => .error (.source .cannotConnect)
  | .ok (.file _) =>
    match file.bind (·.select? table schema) with
    | none => .error (.source .cannotFetch)
    | some values =>
      match writeNetworks values with
      | .ok networks => .ok networks
      | .error e => .error (.source e)

end FirewallPolicy.Blacklist
