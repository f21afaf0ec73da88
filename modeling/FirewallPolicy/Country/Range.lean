import FirewallPolicy.Address.Cover
import FirewallPolicy.Calendar.Date
import FirewallPolicy.Country.Csv
import FirewallPolicy.Policy.Fault
import FirewallPolicy.Text.Blank
import FirewallPolicy.Text.Numeral

/-!
# Ranges of countries

A list of countries holds one range of IPv4 addresses in each record: the first and the last address
as numbers, the registry, the time of assignment in seconds, two codes and the name of the country.
Empty records and records that begin with a number sign are comments.
-/

namespace FirewallPolicy.Country

open FirewallPolicy.Address (IPv4)
open FirewallPolicy.Calendar (CalendarError DateTime)
open FirewallPolicy.Csv (CsvError)
open FirewallPolicy.Text (NumeralError readInt trim)

/-- A range of addresses that belongs to a country. -/
structure Range where
  first : IPv4
  last : IPv4
  registry : String
  assigned : DateTime
  shortCode : String
  longCode : String
  country : String
  deriving DecidableEq, Repr

/-- The networks that cover a range. -/
def Range.networks (r : Range) : List Address.Network := Address.coverRange r.first r.last

/-- What is wrong with a record. -/
inductive RecordFault where
  | fieldCount (n : Nat)
  | numeral (cause : NumeralError)
  /-- A number is no IPv4 address. -/
  | address (n : Int)
  | calendar (cause : CalendarError)
  /-- The range ends before it starts. -/
  | order (first last : IPv4)
  deriving DecidableEq, Repr

/-- The wording of a fault.  The text that is no numeral comes from bytes and has no halves. -/
def RecordFault.message : RecordFault → String
  | .fieldCount n => s!"expected 7 fields, got {n}"
  | .numeral (.malformed base text) =>
    (NumeralError.malformed base (Text.markedText text)).message
  | .numeral cause => cause.message
  | .address n =>
    if n < 0 then s!"{n} (< 0) is not permitted as an IPv4 address"
    else s!"{n} (>= 2**32) is not permitted as an IPv4 address"
  | .calendar cause => cause.message
  | .order first last => s!"range end {last.text} is before its start {first.text}"

/-- Why the ranges of a list cannot be read. -/
inductive RangeError where
  /-- A record has a fault; records are counted from one. -/
  | record (number : Nat) (fault : RecordFault)
  | csv (cause : CsvError)
  /-- A time of assignment is beyond what the system can tell. -/
  | moment (cause : CalendarError)
  deriving DecidableEq, Repr

/-- The place of a record in messages. -/
def recordPath (number : Nat) : String := s!"line {number}"

/-- The wording of an error. -/
def RangeError.message : RangeError → String
  | .record number fault => invalidText (recordPath number) fault.message
  | .csv cause => cause.message
  | .moment cause => cause.message

/-- The address with a number. -/
def address (n : Int) : Except RecordFault IPv4 :=
  if h : 0 ≤ n ∧ n < 0x100000000 then .ok ⟨n.toNat, by omega⟩ else .error (.address n)

/-- A whole number in a record. -/
def number (text : String) : Except RecordFault Int := (readInt text).mapError .numeral

/-- The time of assignment; of its errors only a year outside the calendar is the record's fault. -/
def assignment (line : Nat) (seconds : Int) : Except RangeError DateTime :=
  match DateTime.ofEpoch seconds 0 with
  | .ok t => .ok t
  | .error .yearTooLarge => .error (.moment .yearTooLarge)
  | .error .momentTooLarge => .error (.moment .momentTooLarge)
  | .error e => .error (.record line (.calendar e))

/-- Reads a record of at least seven fields. -/
def readRange (line : Nat) (fields : List String) : Except RangeError Range :=
  match fields.map trim with
  | first :: last :: registry :: assigned :: shortCode :: longCode :: country :: _ => do
    let atLine := fun {α : Type} (r : Except RecordFault α) => r.mapError (RangeError.record line)
    let first ← atLine (number first >>= address)
    let last ← atLine (number last >>= address)
    let assigned ← atLine (number assigned) >>= assignment line
    if last.value < first.value then throw (.record line (.order first last))
    return { first, last, registry, assigned, shortCode, longCode, country }
  | fields => .error (.record line (.fieldCount fields.length))

/-- Whether a record holds no range. -/
def isComment (fields : List String) : Bool :=
  match fields with
  | [] => true
  | first :: _ => (Text.dropBlanks first.toList).head? == some '#'

/-- The ranges of records before the first error, and that error.  Records are counted on from the
given number. -/
def rangesFrom (line : Nat) : List (List String) → List Range × Option RangeError
  | [] => ([], none)
  | fields :: rest =>
    if isComment fields then rangesFrom (line + 1) rest
    else match readRange line fields with
      | .error e => ([], some e)
      | .ok range =>
        let (ranges, error) := rangesFrom (line + 1) rest
        (range :: ranges, error)

/-- The ranges of lines before the first error, and that error. -/
def readRanges (lines : List (List Char)) : List Range × Option RangeError :=
  let (records, csvError) := Csv.records lines
  match rangesFrom 1 records with
  | (ranges, some e) => (ranges, some e)
  | (ranges, none) => (ranges, csvError.map .csv)

end FirewallPolicy.Country
