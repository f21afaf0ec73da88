import FirewallPolicy.Calendar.Date
import FirewallPolicy.CommandLine.Options
import FirewallPolicy.Country.Range
import FirewallPolicy.Files.FileSystem
import FirewallPolicy.Policy.ConfigurationFile
import FirewallPolicy.Script.Script
import FirewallPolicy.Workflow.Job

/-!
# What a program meets and leaves behind

A program reads and writes files, asks for the time and has templates filled in.  It may run on real
files, or on a file system that is a value, which is how statements about its files are made.  All
its texts may have halves of characters in them, as names of files may too.
-/

namespace FirewallPolicy.CommandLine

open FirewallPolicy.Calendar (DateTime)
open FirewallPolicy.Files (FileSystem OsError Path)
open FirewallPolicy.Template (Bindings TemplateError)
open FirewallPolicy.Text (EncodeError Utf8Error)

/-- What a program can ask for. -/
structure Surroundings (m : Type → Type) where
  read : Path → m (Except OsError (List UInt8))
  /-- Writes a file and makes the directories on the way to it. -/
  write : Path → List UInt8 → m (Except OsError Unit)
  setMode : Path → Nat → m Unit
  isFile : Path → m Bool
  /-- Whether there is a directory, or why that cannot be told. -/
  isDirectory : Path → m (Except OsError Bool)
  /-- The directory of the user. -/
  home : m Path
  /-- Fills in a template of the user. -/
  fill : String → Bindings → Except TemplateError String
  /-- What is wrong with a text for the stream of the output, which then prints nothing of it. -/
  refusal? : String → Option EncodeError
  circumstances : m Circumstances
  moment : m DateTime
  /-- Identifiers by their number, as many as asked for. -/
  identifiers : Nat → m (Nat → String)

/-- What a program meets besides files, where all of it is a value. -/
structure Setting where
  home : Path
  fill : String → Bindings → Except TemplateError String
  refusal? : String → Option EncodeError
  circumstances : Circumstances
  moment : DateTime
  identifier : Nat → String

/-- Surroundings in a file system that is a value. -/
def Surroundings.simulated (given : Setting) : Surroundings (StateM FileSystem) where
  read := fun path => do
    return (← get).read path
  write := fun path bytes => do
    match Files.writeText (← get) path bytes with
    | (fs, none) => set fs; return .ok ()
    | (fs, some e) => set fs; return .error e
  setMode := fun path mode => modify (·.setMode path mode)
  isFile := fun path => do
    return (← get).isFile path
  isDirectory := fun path => do
    return (← get).askDirectory path
  home := return given.home
  fill := given.fill
  refusal? := given.refusal?
  circumstances := return given.circumstances
  moment := return given.moment
  identifiers := fun _ => return given.identifier

/-- A failure that a program does not report. -/
inductive Breakdown where
  /-- The value of an option is lost. -/
  | lostValue
  | load (cause : LoadError)
  | job (cause : JobError)
  | template (cause : TemplateError)
  /-- The template of the user cannot be read. -/
  | templateFile (cause : OsError)
  | templateEncoding (cause : Utf8Error)
  /-- A text that is to be printed or written has no bytes. -/
  | encoding (cause : EncodeError)
  | ranges (cause : Country.RangeError)

/-- The wording of a breakdown. -/
def Breakdown.message : Breakdown → String
  | .lostValue => "not enough values to unpack (expected 1, got 0)"
  | .load cause => cause.message
  | .job cause => cause.message
  | .template cause => cause.message
  | .templateFile cause => cause.message
  | .templateEncoding cause => cause.message
  | .encoding cause => cause.message
  | .ranges cause => cause.message

/-- What a program leaves behind, its files apart: how it ended, what it printed, and what it logged
and then told on the error stream. -/
structure Report where
  status : Except Breakdown Nat := .ok 0
  output : String := ""
  log : List LogEntry := []
  messages : List String := []

/-- The program ends in failure and says why. -/
def Report.failed (log : List LogEntry) (message : String) : Report :=
  { status := .ok 1, log, messages := ["Error: " ++ message] }

/-- The program breaks down. -/
def Report.broken (log : List LogEntry) (cause : Breakdown) : Report :=
  { status := .error cause, log }

/-- Who wrote the programs. -/
def author : String := "Linuxfabrik GmbH, Zurich/Switzerland"

/-- The line that tells the version of a program. -/
def versionLine (program : String) : String := s!"{program}: v{version} by {author}\n"

/-- The report where arguments lead to no run. -/
def Report.halted (program : String) : Halt → Report
  | .usage => { status := .ok 2, messages := [s!"{program}: error: wrong arguments"] }
  | .help => { output := s!"usage: {program} [options]\n" }
  | .version => { output := versionLine program }
  | .lostValue => .broken [] .lostValue

/-- The least level that is shown. -/
def shownFrom (verbosity : Nat) : LogLevel :=
  match verbosity with
  | 0 => .warning
  | 1 => .info
  | _ => .debug

/-- The log entries that are shown. -/
def shownLog (verbosity : Nat) (log : List LogEntry) : List LogEntry :=
  log.filter fun e => decide ((shownFrom verbosity).rank ≤ e.level.rank)

/-- What a report shows on the error stream, as lines. -/
def Report.errorLines (r : Report) : List String := r.log.map LogEntry.text ++ r.messages

end FirewallPolicy.CommandLine
