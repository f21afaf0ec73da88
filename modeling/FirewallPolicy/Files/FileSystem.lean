import FirewallPolicy.Text.Quoted
import FirewallPolicy.Text.Split

/-!
# File systems

Files and directories below a root.  A path is a list of names; each name but the last has to lead
to a directory.  A path that does not begin at the root begins at the working directory.
-/

namespace FirewallPolicy.Files

open FirewallPolicy.Text (fieldsOf isHalf points quote)

/-- What stands at a path. -/
inductive Entry where
  | file (bytes : List UInt8) (mode : Nat)
  | directory
  deriving DecidableEq, Repr

/-- A path: the slashes it begins with, if it begins at the root, and the names on it. -/
structure Path where
  slashes : Nat
  names : List String
  deriving DecidableEq, Repr

/-- Reads a path; empty names and names of a single dot are left out.  Two slashes at the front are
kept, and more of them count as one. -/
def Path.ofText (s : String) : Path where
  slashes :=
    let n := (s.toList.takeWhile (· == '/')).length
    if n ≤ 2 then n else 1
  names := ((fieldsOf '/' s.toList).map String.ofList).filter fun n => !(n == "" || n == ".")

/-- A path as text. -/
def Path.text (p : Path) : String :=
  if p.slashes = 0 ∧ p.names = [] then "."
  else "".pushn '/' p.slashes ++ "/".intercalate p.names

/-- The directory that a path stands in. -/
def Path.parent (p : Path) : Path := { p with names := p.names.dropLast }

/-- The path with more names at its end. -/
def Path.below (p : Path) (names : List String) : Path := { p with names := p.names ++ names }

/-- Why an operation on files fails. -/
inductive OsFault where
  | notFound
  | exists
  | notDirectory
  | isDirectory
  | nameTooLong
  | denied
  /-- The system failed in some other way. -/
  | device
  deriving DecidableEq, Repr

/-- A failed operation and the path it was for. -/
structure OsError where
  fault : OsFault
  path : String
  deriving DecidableEq, Repr

/-- The number of a fault and its wording. -/
def OsFault.text : OsFault → String
  | .notFound => "[Errno 2] No such file or directory"
  | .exists => "[Errno 17] File exists"
  | .notDirectory => "[Errno 20] Not a directory"
  | .isDirectory => "[Errno 21] Is a directory"
  | .nameTooLong => "[Errno 36] File name too long"
  | .denied => "[Errno 13] Permission denied"
  | .device => "[Errno 5] Input/output error"

/-- The wording of an error. -/
def OsError.message (e : OsError) : String := e.fault.text ++ ": " ++ quote e.path

/-- The entries by the names that lead to them from the root, and the working directory. -/
structure FileSystem where
  entries : List (List String × Entry)
  here : List String := []
  deriving DecidableEq, Repr

namespace FileSystem

/-- The entry at some names; the root is always there. -/
def entry? (fs : FileSystem) (names : List String) : Option Entry :=
  if names.isEmpty then some .directory else (fs.entries.find? (·.1 == names)).map (·.2)

/-- The file system with an entry at some names. -/
def put (fs : FileSystem) (names : List String) (e : Entry) : FileSystem :=
  if fs.entries.any (·.1 == names) then
    { fs with entries := fs.entries.map fun x => if x.1 == names then (names, e) else x }
  else { fs with entries := fs.entries ++ [(names, e)] }

/-- The most bytes a name may have. -/
def nameLimit : Nat := 255

/-- How many bytes a name has.  A half in it stands for a byte that is no UTF-8. -/
def nameSize (name : String) : Nat :=
  (points name.toList).foldl (fun size n =>
    size + if isHalf n then 1 else (Char.ofNat n).utf8Size) 0

/-- Follows the names of a path, one after the other; two dots lead back, as far as the root. -/
def follow (fs : FileSystem) (here : List String) : List String → Except OsFault (List String)
  | [] => .ok here
  | name :: rest =>
    match fs.entry? here with
    | some .directory =>
      if nameLimit < nameSize name then .error .nameTooLong
      else follow fs (if name = ".." then here.dropLast else here ++ [name]) rest
    | some (.file ..) => .error .notDirectory
    | none => .error .notFound

/-- The names a path leads to. -/
def resolve (fs : FileSystem) (p : Path) : Except OsFault (List String) :=
  fs.follow (if p.slashes = 0 then fs.here else []) p.names

/-- An error at a path. -/
def fail {α : Type} (p : Path) (fault : OsFault) : Except OsError α := .error ⟨fault, p.text⟩

/-- The bytes of a file. -/
def read (fs : FileSystem) (p : Path) : Except OsError (List UInt8) :=
  match fs.resolve p with
  | .error fault => fail p fault
  | .ok names =>
    match fs.entry? names with
    | some (.file bytes _) => .ok bytes
    | some .directory => fail p .isDirectory
    | none => fail p .notFound

/-- The permissions of a new file. -/
def defaultMode : Nat := 0o644

/-- The file system with a file written; a file that is there keeps its permissions. -/
def write (fs : FileSystem) (p : Path) (bytes : List UInt8) : Except OsError FileSystem :=
  match fs.resolve p with
  | .error fault => fail p fault
  | .ok names =>
    match fs.entry? names with
    | some (.file _ mode) => .ok (fs.put names (.file bytes mode))
    | some .directory => fail p .isDirectory
    | none => .ok (fs.put names (.file bytes defaultMode))

/-- The file system with other permissions of a file. -/
def setMode (fs : FileSystem) (p : Path) (mode : Nat) : FileSystem :=
  match fs.resolve p with
  | .error _ => fs
  | .ok names =>
    match fs.entry? names with
    | some (.file bytes _) => fs.put names (.file bytes mode)
    | _ => fs

/-- Makes one directory. -/
def makeDirectory (fs : FileSystem) (p : Path) : Except OsError FileSystem :=
  match fs.resolve p with
  | .error fault => fail p fault
  | .ok names =>
    match fs.entry? names with
    | some _ => fail p .exists
    | none => .ok (fs.put names .directory)

/-- Whether a path leads to a directory. -/
def isDirectory (fs : FileSystem) (p : Path) : Bool :=
  match fs.resolve p with
  | .ok names => fs.entry? names == some .directory
  | .error _ => false

/-- Whether a path leads to a file. -/
def isFile (fs : FileSystem) (p : Path) : Bool :=
  match fs.read p with
  | .ok _ => true
  | .error _ => false

/-- Asks whether a path leads to a directory.  There is no answer if a name on it is too long. -/
def askDirectory (fs : FileSystem) (p : Path) : Except OsError Bool :=
  match fs.resolve p with
  | .error .nameTooLong => fail p .nameTooLong
  | _ => .ok (fs.isDirectory p)

/-- Makes a directory and those on the way to it, given how many names the path has; a directory
that is there is left alone. -/
def makeDirectories (fs : FileSystem) (p : Path) : Nat → Except OsError FileSystem
  | 0 => makeExisting fs p
  | n + 1 =>
    match fs.makeDirectory p with
    | .ok fs => .ok fs
    | .error ⟨.notFound, path⟩ =>
      if p.names.isEmpty then .error ⟨.notFound, path⟩
      else do
        let fs ← makeDirectories fs p.parent n
        makeExisting fs p
    | .error e => if fs.isDirectory p then .ok fs else .error e
where
  /-- Makes one directory unless it is there. -/
  makeExisting (fs : FileSystem) (p : Path) : Except OsError FileSystem :=
    match fs.makeDirectory p with
    | .ok fs => .ok fs
    | .error e => if fs.isDirectory p then .ok fs else .error e

/-- A file system with nothing but a working directory. -/
def empty (here : List String) : FileSystem where
  entries := (List.range here.length).map fun n => (here.take (n + 1), .directory)
  here := here

/-- A file system made of named files and directories, with the directories on the way to them. -/
def ofEntries (entries : List (String × Entry)) (here : List String := []) : FileSystem :=
  entries.foldl (fun fs (name, e) =>
    let p := Path.ofText name
    let fs := match fs.makeDirectories p.parent p.names.length with
      | .ok fs => fs
      | .error _ => fs
    match fs.resolve p with
    | .ok names => fs.put names e
    | .error _ => fs) (empty here)

end FileSystem

/-- The file system with a text written to a file, the directories on the way to it made, or else
the directories made so far and the error. -/
def writeText (fs : FileSystem) (p : Path) (bytes : List UInt8) :
    FileSystem × Option OsError :=
  match fs.makeDirectories p.parent p.names.length with
  | .error e => (fs, some e)
  | .ok made =>
    match made.write p bytes with
    | .ok written => (written, none)
    | .error e => (made, some e)

end FirewallPolicy.Files
