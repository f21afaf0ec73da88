import FirewallPolicy.CommandLine.Surroundings
import FirewallPolicy.Country.Dump
import FirewallPolicy.Country.File

/-!
# Turning a file of country ranges into a database dump

The program reads the whole file before it writes anything.
-/

namespace FirewallPolicy.CountryDump

open FirewallPolicy.CommandLine
open FirewallPolicy.Country (FileError RangeError Range)
open FirewallPolicy.Files (Path)

/-- The name of the program. -/
def program : String := "nff-country-sql"

/-- The options of the program. -/
inductive Key where
  | input
  | output
  | verbose
  deriving DecidableEq, Repr

/-- The options by their names. -/
def rules : List (OptionRule Key) :=
  [⟨["-h", "--help"], .halt .help⟩,
    ⟨["-i", "--input-file-path"], .value .input none⟩,
    ⟨["-o", "--output-file-path"], .value .output none⟩,
    ⟨["-v", "--verbose"], .flag .verbose⟩,
    ⟨["-V", "--version"], .halt .version⟩]

/-- What the program is asked to do. -/
structure Arguments where
  input : String
  output : String
  verbosity : Nat
  deriving DecidableEq, Repr

/-- Reads the arguments of the program. -/
def Arguments.read (args : List String) : Except Halt Arguments := do
  let given ← readOptions rules [.input, .output] args
  return {
    input := valueOf given .input
    output := valueOf given .output
    verbosity := countOf given .verbose }

/-- The report where a file has no ranges: a bad record or a bad encoding is told, and so is a time
that the system refuses; anything else is a breakdown. -/
def failureReport (args : Arguments) : FileError → Report
  | .encoding cause => .failed [] s!"{args.input} is not UTF-8 encoded: {cause.message}"
  | .ranges (.record number fault) =>
    .failed [] s!"{args.input}: {(RangeError.record number fault).message}"
  | .ranges (.moment .yearTooLarge) =>
    .failed [] s!"cannot read {args.input}: {(RangeError.moment .yearTooLarge).message}"
  | .ranges cause => .broken [] (.ranges cause)

/-- The logger of this program. -/
def log : Logger := ⟨"netfilterfabrik.cli.nff_country_sql"⟩

section

variable {m : Type → Type} [Monad m] (s : Surroundings m)

/-- Writes the dump of ranges, whose texts come from bytes and have no halves. -/
def writeDump (args : Arguments) (ranges : List Range) : m Report := do
  let path := Path.ofText args.output
  let count := (ranges.flatMap Range.networks).length
  let text := Country.dump (← s.identifiers count) (← s.moment) ranges
  match ← s.write path (Text.encodeUtf8 text.toList) with
  | .error e => return .failed [] s!"cannot write {args.output}: {e.message}"
  | .ok () => return { log := shownLog args.verbosity [log.info s!"Wrote {path.text}"] }

/-- Does what the arguments ask for. -/
def runWith (args : Arguments) : m Report := do
  match ← s.read (Path.ofText args.input) with
  | .error e => return .failed [] s!"cannot read {args.input}: {e.message}"
  | .ok bytes =>
    match Country.readFile bytes with
    | (_, some e) => return failureReport args e
    | (ranges, none) => writeDump s args ranges

/-- Runs the program. -/
def run (args : List String) : m Report :=
  match Arguments.read args with
  | .error h => return .halted program h
  | .ok args => runWith s args

end

end FirewallPolicy.CountryDump
