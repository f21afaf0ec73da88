import FirewallPolicy.CommandLine.Surroundings
import FirewallPolicy.Jobs.CodedUrl

/-!
# Compiling a job of a configuration file

The program reads a configuration file, compiles one job of one host, prints the transcript if asked
to, and writes a script if a file is named for it.  Nothing is printed or written unless the whole
transcript is there.  A template of the user takes the place of the one that comes with the program.
-/

namespace FirewallPolicy.CompileJob

open FirewallPolicy.CommandLine
open FirewallPolicy.Files (OsError Path)
open FirewallPolicy.Template (Bindings TemplateError)
open FirewallPolicy.Text (EncodeError)

/-- The name of the program. -/
def program : String := "nff-job"

/-- The options of the program. -/
inductive Key where
  | configFile
  | id
  | job
  | action
  | print
  | output
  | verbose
  deriving DecidableEq, Repr

/-- The options by their names. -/
def rules : List (OptionRule Key) :=
  [⟨["-h", "--help"], .halt .help⟩,
    ⟨["-c", "--config-file"], .value .configFile none⟩,
    ⟨["-i", "--id"], .value .id none⟩,
    ⟨["-j", "--job"], .value .job none⟩,
    ⟨["-a", "--action"], .value .action (some [Direction.install.name, Direction.uninstall.name])⟩,
    ⟨["-p", "--print"], .flag .print⟩,
    ⟨["-o", "--output"], .value .output none⟩,
    ⟨["-v", "--verbose"], .flag .verbose⟩,
    ⟨["-V", "--version"], .halt .version⟩]

/-- The options that have to be given. -/
def required : List Key := [.configFile, .id, .job, .action]

/-- What the program is asked to do. -/
structure Arguments where
  configFile : String
  id : String
  job : String
  action : String
  print : Bool
  /-- The file for the script; empty for none. -/
  output : String
  verbosity : Nat
  deriving DecidableEq, Repr

/-- Reads the arguments of the program. -/
def Arguments.read (args : List String) : Except Halt Arguments := do
  let given ← readOptions rules required args
  return {
    configFile := valueOf given .configFile
    id := valueOf given .id
    job := valueOf given .job
    action := valueOf given .action
    print := decide (countOf given .print ≠ 0)
    output := valueOf given .output
    verbosity := countOf given .verbose }

/-- The direction that the action names; no other actions are read. -/
def Arguments.direction (args : Arguments) : Direction :=
  (Direction.ofName? args.action).getD .install

/-- Why there is no transcript. -/
inductive Failure where
  | load (cause : LoadError)
  | find (cause : LookupError)
  | job (cause : JobError)

/-- A transcript, or why there is none, and what was logged on the way. -/
structure Compiled where
  result : Except Failure Transcript
  log : List LogEntry

/-- Compiles the job in the bytes of a configuration file, the blacklist coming from a source. -/
def compile (source : BlacklistSync.Source Unit) (args : Arguments)
    (file : Except OsError (List UInt8)) : Compiled :=
  let path := Path.ofText args.configFile
  let begun := [loadBegun path]
  match file.mapError LoadError.file >>= readConfiguration path with
  | .error e => ⟨.error (.load e), begun⟩
  | .ok configuration =>
    match configuration.find args.id args.job with
    | .error e => ⟨.error (.find e), begun⟩
    | .ok entry =>
      let globalTrusted := configuration.globalTrusted.map NetworkItem.entry
      let (compiled, _) := (Directory.coded source).compile entry.name (.text args.action)
        (.map entry.configuration) globalTrusted ()
      ⟨compiled.result.mapError Failure.job, begun ++ compiled.log⟩

/-- The report of a failure: an error of the policy, of its file or of a source is told, and
anything else is a breakdown. -/
def failureReport (args : Arguments) (log : List LogEntry) : Failure → Report
  | .load (.file cause) => .failed log s!"cannot read {args.configFile}: {cause.message}"
  | .load (.scalar cause) => .broken log (.load (.scalar cause))
  | .load (.policy (.numeral cause)) => .broken log (.load (.policy (.numeral cause)))
  | .load cause => .failed log cause.message
  | .find cause => .failed log cause.message
  | .job (.configuration (.numeral cause)) =>
    .broken log (.job (.configuration (.numeral cause)))
  | .job (.sourcePort cause) => .broken log (.job (.sourcePort cause))
  | .job (.sourceUrl cause) => .broken log (.job (.sourceUrl cause))
  | .job (.step message) => .broken log (.job (.step message))
  | .job (.commandKind name) => .broken log (.job (.commandKind name))
  | .job cause => .failed log cause.message

/-- The logger of this program. -/
def log : Logger := ⟨"netfilterfabrik.cli.nff_job"⟩

/-- The permissions of a script: its owner may run it. -/
def scriptMode : Nat := 0o740

/-- Where the templates of a user are, below the directory of the user. -/
def templateDirectory : List String := ["netfilterfabrik", "templates", "linux"]

/-- The name of the template for scripts. -/
def templateName : String := "apply_script.sh.j2"

/-- The script of a transcript, made from the template of the user where there is one. -/
def scriptOf (fill : String → Bindings → Except TemplateError String) (transcript : Transcript)
    (job : String) (direction : Direction) (made : Circumstances) :
    Option String → Except TemplateError String
  | none => renderScript transcript job direction {} made none
  | some template => fill template (scriptBindings transcript job direction {} made)

/-- Why a script is not written. -/
inductive ScriptError where
  | file (cause : OsError)
  | encoding (cause : EncodeError)
  deriving DecidableEq, Repr

section

variable {m : Type → Type} [Monad m] (source : BlacklistSync.Source Unit) (s : Surroundings m)

/-- The template of the user, if there is one. -/
def userTemplate : m (Except Breakdown (Option String)) := do
  let directory := (← s.home).below templateDirectory
  let path := directory.below [templateName]
  match ← s.isDirectory directory with
  | .error e => return .error (.templateFile e)
  | .ok false => return .ok none
  | .ok true =>
    if ← s.isFile path then
      match ← s.read path with
      | .error e => return .error (.templateFile e)
      | .ok bytes =>
        match Text.decodeUtf8 bytes with
        | (_, some e) => return .error (.templateEncoding e)
        | (cs, none) => return .ok (String.ofList (Text.marked (Text.unifyLineEnds cs)))
    else return .ok none

/-- Writes a script and makes it a program.  The file is opened before the script is turned into
bytes, so nothing is left in it of a script that has none. -/
def writeScript (path : Path) (script : String) : m (Except ScriptError Unit) := do
  match Text.encode script.toList with
  | .error e =>
    match ← s.write path [] with
    | .error cause => return .error (.file cause)
    | .ok () => return .error (.encoding e)
  | .ok bytes =>
    match ← s.write path bytes with
    | .error cause => return .error (.file cause)
    | .ok () =>
      s.setMode path scriptMode
      return .ok ()

/-- Makes the script of a transcript and writes it, adding to the report so far. -/
def outputScript (args : Arguments) (transcript : Transcript) (report : Report) : m Report := do
  match ← userTemplate s with
  | .error cause => return { report with status := .error cause }
  | .ok template =>
    match scriptOf s.fill transcript args.job args.direction (← s.circumstances) template with
    | .error e => return { report with status := .error (.template e) }
    | .ok script =>
      let path := Path.ofText args.output
      match ← writeScript s path script with
      | .error (.file e) =>
        return { report with
          status := .ok 1
          messages := [s!"Error: cannot write {args.output}: {e.message}"] }
      | .error (.encoding e) => return { report with status := .error (.encoding e) }
      | .ok () => return { report with messages := [s!"Script written to {path.text}"] }

/-- Does what the arguments ask for. -/
def runWith (args : Arguments) : m Report := do
  let compiled := compile source args (← s.read (Path.ofText args.configFile))
  match compiled.result with
  | .error e => return failureReport args (shownLog args.verbosity compiled.log) e
  | .ok transcript =>
    let entries := compiled.log ++ [log.debug s!"Execution of '{args.job}' done"]
    let log := shownLog args.verbosity entries
    match if args.print then s.refusal? (listing transcript) else none with
    | some e => return .broken log (.encoding e)
    | none =>
      let report : Report := { output := if args.print then listing transcript else "", log }
      if args.output.isEmpty then return report else outputScript s args transcript report

/-- Runs the program. -/
def run (args : List String) : m Report :=
  match Arguments.read args with
  | .error h => return .halted program h
  | .ok args => runWith source s args

end

end FirewallPolicy.CompileJob
