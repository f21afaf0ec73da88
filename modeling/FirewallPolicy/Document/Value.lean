import FirewallPolicy.Calendar.Date
import FirewallPolicy.Decimal.Shortest
import FirewallPolicy.Text.Quoted

/-!
# Document values

What a policy document may hold: scalars, lists, and mappings whose entries keep their order.  The
readers of a policy only ever ask a mapping for the value of a text key.
-/

namespace FirewallPolicy

open FirewallPolicy.Calendar (Date DateTime)

/-- A value of a policy document. -/
inductive Value where
  | null
  | bool (b : Bool)
  | int (n : Int)
  | float (x : Float)
  | text (s : String)
  | list (items : List Value)
  | map (entries : List (Value × Value))
  | date (d : Date)
  | dateTime (t : DateTime)
  | bytes (b : List UInt8)
  | set (elements : List Value)
  /-- A pair of an ordered mapping. -/
  | pair (key value : Value)
  deriving Inhabited

namespace Value

/-- The name of a value's kind in messages. -/
def kind : Value → String
  | .null => "NoneType"
  | .bool _ => "bool"
  | .int _ => "int"
  | .float _ => "float"
  | .text _ => "str"
  | .list _ => "list"
  | .map _ => "dict"
  | .date _ => "date"
  | .dateTime _ => "datetime"
  | .bytes _ => "bytes"
  | .set _ => "set"
  | .pair _ _ => "tuple"

/-- The number a value counts as when it is compared: truth is one and falsehood is zero. -/
def number? : Value → Option Int
  | .bool b => some (if b then 1 else 0)
  | .int n => some n
  | _ => none

/-- Whether two scalars are the same key.  Numbers are compared by value, whatever their kind. -/
def sameKey (a b : Value) : Bool :=
  match a, b with
  | .null, .null => true
  | .text s, .text t => s == t
  | .bytes s, .bytes t => s == t
  | .date s, .date t => s == t
  | .dateTime s, .dateTime t => s.sameMoment t
  | .float x, .float y => Decimal.same x y
  | .float x, b => (b.number?.map (Decimal.equalsInt x)).getD false
  | a, .float y => (a.number?.map (Decimal.equalsInt y)).getD false
  | a, b =>
    match a.number?, b.number? with
    | some m, some n => m == n
    | _, _ => false

/-- Whether a value may be a key of a mapping: everything but lists, mappings and sets. -/
def isKey : Value → Bool
  | .list _ => false
  | .map _ => false
  | .set _ => false
  | .pair k v => k.isKey && v.isKey
  | _ => true

/-- The entries with one more: a key that is there keeps its place and takes the new value. -/
def insertEntry (entries : List (Value × Value)) (key value : Value) : List (Value × Value) :=
  if entries.any fun e => e.1.sameKey key then
    entries.map fun e => if e.1.sameKey key then (e.1, value) else e
  else entries ++ [(key, value)]

/-- The value that entries give to a text key. -/
def lookup? (entries : List (Value × Value)) (key : String) : Option Value :=
  (entries.find? fun e => match e.1 with
    | .text k => k == key
    | _ => false).map (·.2)

mutual

/-- Whether the numbers inside a value are all short enough to be written. -/
def isWritable : Value → Bool
  | .int n => Text.isWritable n
  | .list items => allWritable items
  | .set items => allWritable items
  | .map entries => entriesWritable entries
  | .pair k v => k.isWritable && v.isWritable
  | _ => true

/-- Whether all values of a list are short enough to be written. -/
def allWritable : List Value → Bool
  | [] => true
  | v :: vs => v.isWritable && allWritable vs

/-- Whether all keys and values of a mapping are short enough to be written. -/
def entriesWritable : List (Value × Value) → Bool
  | [] => true
  | (k, v) :: es => k.isWritable && v.isWritable && entriesWritable es

end

mutual

/-- A value as it is shown inside a message. -/
def shown : Value → String
  | .null => "None"
  | .bool true => "True"
  | .bool false => "False"
  | .int n => Text.decimalText n
  | .float x => Decimal.text x
  | .text s => Text.quote s
  | .list items => "[" ++ ", ".intercalate (shownAll items) ++ "]"
  | .map entries => "\x7b" ++ ", ".intercalate (shownEntries entries) ++ "\x7d"
  | .date d => d.shown
  | .dateTime t => t.shown
  | .bytes b => Text.quoteBytes b
  | .set [] => "set()"
  | .set items => "\x7b" ++ ", ".intercalate (shownAll items) ++ "\x7d"
  | .pair k v => "(" ++ k.shown ++ ", " ++ v.shown ++ ")"

/-- The values of a list as they are shown inside a message. -/
def shownAll : List Value → List String
  | [] => []
  | v :: vs => v.shown :: shownAll vs

/-- The entries of a mapping as they are shown inside a message. -/
def shownEntries : List (Value × Value) → List String
  | [] => []
  | (k, v) :: es => (k.shown ++ ": " ++ v.shown) :: shownEntries es

end

/-- A value as plain text: a text stands for itself and everything else is shown. -/
def plainText : Value → String
  | .text s => s
  | .date d => d.text
  | .dateTime t => t.text.map fun c => if c = 'T' then ' ' else c
  | v => v.shown

end Value

end FirewallPolicy
