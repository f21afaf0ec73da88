/-!
# Comma-separated records

A record is a list of fields with commas between them.  A field that begins with a quote goes on to
the next lone quote, over commas and line ends; inside it a quote is written twice.  What follows
the closing quote is taken as it stands.  Input comes line by line, and after the end of a line no
character may follow in the same line.
-/

namespace FirewallPolicy.Csv

/-- The most characters a field may have. -/
def fieldLimit : Nat := 131072

/-- Why records cannot be read. -/
inductive CsvError where
  | characterAfterLineEnd
  | fieldTooLarge
  deriving DecidableEq, Repr

/-- The wording of an error. -/
def CsvError.message : CsvError → String
  | .characterAfterLineEnd =>
    "new-line character seen in unquoted field - do you need to open the file in " ++
      "universal-newline mode?"
  | .fieldTooLarge => s!"field larger than field limit ({fieldLimit})"

/-- Where in a record the reader stands. -/
inductive Place where
  | recordStart
  | fieldStart
  | inField
  | inQuotes
  /-- Behind a quote inside quotes, which may be the first of two. -/
  | afterQuote
  /-- Behind the end of a line. -/
  | lineEnd
  deriving DecidableEq, Repr

/-- The state of the reader: its place, the field so far and the fields before it, both backwards,
and the size of the field so far. -/
structure Reader where
  place : Place := .recordStart
  field : List Char := []
  size : Nat := 0
  fields : List String := []
  deriving DecidableEq, Repr

namespace Reader

/-- The reader after the end of a field. -/
def saveField (r : Reader) (place : Place) : Reader :=
  ⟨place, [], 0, String.ofList r.field.reverse :: r.fields⟩

/-- The reader with one more character in its field. -/
def addChar (r : Reader) (c : Char) (place : Place) : Except CsvError Reader :=
  if fieldLimit ≤ r.size then .error .fieldTooLarge
  else .ok { r with place, field := c :: r.field, size := r.size + 1 }

/-- Whether a character ends a line. -/
def isLineEnd (c : Char) : Bool := c == '\n' || c == '\r'

/-- The reader after a character at the start of a field. -/
def stepFieldStart (r : Reader) (c : Char) : Except CsvError Reader :=
  if isLineEnd c then .ok (r.saveField .lineEnd)
  else if c = '"' then .ok { r with place := .inQuotes }
  else if c = ',' then .ok (r.saveField .fieldStart)
  else r.addChar c .inField

/-- The reader after a character. -/
def step (r : Reader) (c : Char) : Except CsvError Reader :=
  match r.place with
  | .recordStart => if isLineEnd c then .ok { r with place := .lineEnd } else r.stepFieldStart c
  | .fieldStart => r.stepFieldStart c
  | .inField =>
    if isLineEnd c then .ok (r.saveField .lineEnd)
    else if c = ',' then .ok (r.saveField .fieldStart)
    else r.addChar c .inField
  | .inQuotes => if c = '"' then .ok { r with place := .afterQuote } else r.addChar c .inQuotes
  | .afterQuote =>
    if c = '"' then r.addChar c .inQuotes
    else if c = ',' then .ok (r.saveField .fieldStart)
    else if isLineEnd c then .ok (r.saveField .lineEnd)
    else r.addChar c .inField
  | .lineEnd => if isLineEnd c then .ok r else .error .characterAfterLineEnd

/-- The reader after the last character of a line.  Inside quotes the record goes on. -/
def endLine (r : Reader) : Reader :=
  match r.place with
  | .recordStart => r
  | .lineEnd => { r with place := .recordStart }
  | .inQuotes => r
  | .fieldStart | .inField | .afterQuote => r.saveField .recordStart

/-- The reader after some characters. -/
def steps (r : Reader) : List Char → Except CsvError Reader
  | [] => .ok r
  | c :: cs => r.step c >>= (·.steps cs)

/-- The reader after a line. -/
def line (r : Reader) (cs : List Char) : Except CsvError Reader := (r.steps cs).map endLine

/-- The record that is still open where the input ends, if there is one. -/
def unfinished? (r : Reader) : Option (List String) :=
  if r.size ≠ 0 ∨ r.place = .inQuotes then some (r.saveField .recordStart).fields.reverse else none

end Reader

/-- The records of some lines, and how the lines end: at an error, or with the reader in a state. -/
def recordsFrom (r : Reader) : List (List Char) → List (List String) × Except CsvError Reader
  | [] => ([], .ok r)
  | l :: rest =>
    match r.line l with
    | .error e => ([], .error e)
    | .ok r' =>
      if r'.place = .recordStart then
        let (records, final) := recordsFrom {} rest
        (r'.fields.reverse :: records, final)
      else recordsFrom r' rest

/-- All records of the lines before the first error, and that error. -/
def records (lines : List (List Char)) : List (List String) × Option CsvError :=
  match recordsFrom {} lines with
  | (records, .error e) => (records, some e)
  | (records, .ok r) => (records ++ r.unfinished?.toList, none)

end FirewallPolicy.Csv
