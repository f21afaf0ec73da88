import FirewallPolicy.CommandLine.CompileJob
import FirewallPolicy.CommandLine.CountryDump
import Std.Time.DateTime.Timestamp

/-!
# The programs on real files

The first argument names the program, the others are its arguments.  This module only joins the
programs to the files, the clock and the streams of the system, where texts have no marks.
-/

namespace FirewallPolicy.OnSystem

open FirewallPolicy.Calendar (DateTime)
open FirewallPolicy.CommandLine
open FirewallPolicy.Files (OsError OsFault Path)
open FirewallPolicy.Text (escapeByNumber isHalf markedText points)

/-- A text without marks; the halves in it are shown by their numbers. -/
def shown (s : String) : String :=
  String.ofList ((points s.toList).flatMap fun n =>
    if isHalf n then escapeByNumber n else [Char.ofNat n])

/-- The value of a variable of the environment. -/
def environment (name otherwise : String) : IO String := do
  return markedText ((← IO.getEnv name).getD otherwise)

/-- The fault behind an error of the system. -/
def faultOf : IO.Error → OsFault
  | .noFileOrDirectory _ _ _ => .notFound
  | .alreadyExists _ _ _ => .exists
  | .permissionDenied _ _ _ => .denied
  | .inappropriateType _ code _ => if code = 20 then .notDirectory else .isDirectory
  | .invalidArgument _ code _ => if code = 36 then .nameTooLong else .device
  | _ => .device

/-- Runs an action on a file and names the file if that fails. -/
def onFile {α : Type} (path : Path) (act : IO α) : IO (Except OsError α) := do
  try
    return .ok (← act)
  catch e => return .error ⟨faultOf e, path.text⟩

/-- The bits of permissions as rights of one class of users. -/
def rightOf (bits : Nat) : IO.AccessRight where
  read := bits / 4 % 2 = 1
  write := bits / 2 % 2 = 1
  execution := bits % 2 = 1

/-- The present moment. -/
def present : IO DateTime := do
  let now := (← Std.Time.Timestamp.now).toNanosecondsSinceUnixEpoch.val
  match DateTime.ofEpoch (now.fdiv 1000000000) ((now.fmod 1000000000).toNat / 1000) with
  | .ok t => return t
  | .error e => throw (IO.userError e.message)

/-- A random identifier in its fixed form: the bits for its version and variant are set. -/
def identifierOf (bytes : List UInt8) : String :=
  let bits := bytes.zipIdx.map fun (b, i) =>
    if i = 6 then b.toNat % 16 + 0x40 else if i = 8 then b.toNat % 64 + 0x80 else b.toNat
  Country.uuidText (bits.foldl (fun n b => n * 256 + b) 0)

/-- The bytes of a file. -/
def bytesOf (path : Path) : IO (Except OsError (List UInt8)) := onFile path do
  return (← IO.FS.readBinFile (shown path.text)).toList

/-- The surroundings of a program that runs on the system itself. -/
def surroundings : Surroundings IO where
  read := bytesOf
  write := fun path bytes => do
    match ← onFile path.parent (IO.FS.createDirAll (shown path.parent.text)) with
    | .error e => return .error e
    | .ok () => onFile path (IO.FS.writeBinFile (shown path.text) ⟨bytes.toArray⟩)
  setMode := fun path mode =>
    IO.setAccessRights (shown path.text)
      { user := rightOf (mode / 64), group := rightOf (mode / 8), other := rightOf mode }
  isFile := fun path => return (← bytesOf path).isOk
  isDirectory := fun path => do
    match ← bytesOf path with
    | .ok _ => return .ok false
    | .error e =>
      match e.fault with
      | .isDirectory => return .ok true
      | .notFound | .notDirectory => return .ok false
      | _ => return .error e
  home := return Path.ofText (← environment "HOME" "/")
  fill := Template.render
  refusal? := fun text =>
    match Text.encode text.toList with
    | .ok _ => none
    | .error e => some e
  circumstances := do
    return { timestamp := (← present).inWords, user := ← environment "USER" "unknown" }
  moment := present
  identifiers := fun count => do
    let bytes ← IO.getRandomBytes (count * 16).toUSize
    return fun n => identifierOf (bytes.extract ((n - 1) * 16) (n * 16)).toList

/-- Prints a report and gives the exit status. -/
def finish (r : Report) : IO UInt32 := do
  IO.print (shown r.output)
  for line in r.errorLines do
    IO.eprintln (shown line)
  match r.status with
  | .ok status => return status.toUInt32
  | .error cause =>
    IO.eprintln (shown cause.message)
    return 1

/-- Runs the program that the first argument names. -/
def start (args : List String) : IO UInt32 := do
  let name := args.head?.getD ""
  let args := args.tail.map markedText
  if name = CompileJob.program then
    finish (← CompileJob.run (BlacklistSync.databaseSource Unit) surroundings args)
  else if name = CountryDump.program then finish (← CountryDump.run surroundings args)
  else
    IO.eprintln s!"the first argument has to be {CompileJob.program} or {CountryDump.program}"
    return 2

end FirewallPolicy.OnSystem

/-- Runs the program that the first argument names. -/
def main (args : List String) : IO UInt32 := FirewallPolicy.OnSystem.start args
