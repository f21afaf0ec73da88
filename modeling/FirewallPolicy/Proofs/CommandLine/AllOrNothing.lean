import FirewallPolicy.CommandLine.CountryDump
import FirewallPolicy.Proofs.CommandLine.WrittenScripts

/-!
# Programs that leave all or nothing

Neither program leaves anything behind before all that can fail has succeeded, writing apart.

* `CountryDump.rangesFor`: what a dump is made from, said without any effect.
* `CountryDump.allOrNothing`: what a run that makes a dump leaves behind.
* `programs_leave_all_or_nothing_iff`: the same of both programs, for every file system and all
  arguments.
-/

namespace FirewallPolicy

open CommandLine
open Files (FileSystem IsWritable Path)

section

variable {given : Setting} {fs : FileSystem}

/-! ## Dumping ranges -/

namespace CountryDump

variable {args : Arguments}

/-- The ranges in the input, if it can be read, is UTF-8, and all its records are ranges. -/
def rangesFor (args : Arguments) (fs : FileSystem) : Option (List Country.Range) :=
  match fs.read (Path.ofText args.input) with
  | .error _ => none
  | .ok bytes =>
    match Text.decodeUtf8 bytes with
    | (_, some _) => none
    | (cs, none) =>
      match Country.readRanges (Text.linesOf cs) with
      | (_, some _) => none
      | (ranges, none) => some ranges

/-- A file has ranges and no error just if it is UTF-8 and all its records are ranges. -/
lemma readFile_eq_none_iff {bytes : List UInt8} {ranges : List Country.Range} :
    Country.readFile bytes = (ranges, none) ↔ ∃ cs, Text.decodeUtf8 bytes = (cs, none) ∧
      Country.readRanges (Text.linesOf cs) = (ranges, none) := by
  unfold Country.readFile
  split
  · rename_i cs hdecoded
    rw [hdecoded]
    cases hranges : Country.readRanges (Text.linesOf cs) with
    | mk ranges' fault => cases fault <;> simp [hranges]
  · rename_i cs e hdecoded
    refine iff_of_false (fun h => ?_) (by simp [hdecoded])
    split at h
    · split at h <;> simp at h
    · simp at h

lemma rangesFor_eq_some_iff {ranges : List Country.Range} :
    rangesFor args fs = some ranges ↔ ∃ bytes, fs.read (Path.ofText args.input) = .ok bytes ∧
      Country.readFile bytes = (ranges, none) := by
  simp only [readFile_eq_none_iff]
  unfold rangesFor
  cases fs.read (Path.ofText args.input) with
  | error e => simp
  | ok bytes =>
    cases hdecoded : Text.decodeUtf8 bytes with
    | mk cs encoding =>
      cases encoding with
      | some e => simp [hdecoded]
      | none =>
        cases hranges : Country.readRanges (Text.linesOf cs) with
        | mk ranges' fault => cases fault <;> simp [hdecoded, hranges]

/-- Why there are no ranges is told on the error stream alone, and the program does not end well. -/
lemma failureReport_leaves_nothing (args : Arguments) (e : Country.FileError) :
    (failureReport args e).output = "" ∧ (failureReport args e).status ≠ .ok 0 := by
  unfold failureReport
  split <;> simp [Report.failed, Report.broken]

lemma runWith_of_read_error {e : Files.OsError}
    (h : fs.read (Path.ofText args.input) = .error e) :
    (runWith (.simulated given) args).run fs =
      (.failed [] s!"cannot read {args.input}: {e.message}", fs) := by
  have hread := @simulated_read_run given fs (Path.ofText args.input)
  rw [h] at hread
  exact run_bind_of_run hread _

lemma runWith_of_read_ok {bytes : List UInt8} (h : fs.read (Path.ofText args.input) = .ok bytes) :
    (runWith (.simulated given) args).run fs =
      (match Country.readFile bytes with
        | (_, some e) => pure (failureReport args e)
        | (ranges, none) => writeDump (.simulated given) args ranges :
          StateM FileSystem Report).run fs := by
  have hread := @simulated_read_run given fs (Path.ofText args.input)
  rw [h] at hread
  exact run_bind_of_run hread _

/-- What a run leaves behind: nothing if the input has no ranges, and else their dump if its file
can be written. -/
def AllOrNothing (given : Setting) (args : Arguments) (fs : FileSystem)
    (after : Report × FileSystem) : Prop :=
  let path := Path.ofText args.output
  match rangesFor args fs with
  | none => LeavesNothing fs after
  | some ranges => after.1.output = "" ∧ (after.1.status = .ok 0 ↔ IsWritable fs path) ∧
      (IsWritable fs path → after.2.read path =
        .ok (Text.encodeUtf8 (Country.dump given.identifier given.moment ranges).toList))

/-- A run on an input that has no ranges leaves the files alone. -/
lemma leavesNothing (given : Setting) (h : rangesFor args fs = none) :
    LeavesNothing fs ((runWith (.simulated given) args).run fs) := by
  have hnot : ∀ ranges bytes, fs.read (Path.ofText args.input) = .ok bytes →
      Country.readFile bytes ≠ (ranges, none) := by
    intro ranges bytes hbytes hfile
    rw [rangesFor_eq_some_iff.mpr ⟨bytes, hbytes, hfile⟩] at h
    cases h
  cases hbytes : fs.read (Path.ofText args.input) with
  | error e =>
    rw [runWith_of_read_error hbytes]
    exact ⟨rfl, rfl, by simp [Report.failed]⟩
  | ok bytes =>
    rw [runWith_of_read_ok hbytes]
    cases hfile : Country.readFile bytes with
    | mk ranges fault =>
      cases fault with
      | none => exact absurd hfile (hnot ranges bytes hbytes)
      | some e =>
        obtain ⟨houtput, hstatus⟩ := failureReport_leaves_nothing args e
        exact ⟨houtput, rfl, hstatus⟩

/-- A run leaves all or nothing. -/
theorem allOrNothing (given : Setting) (args : Arguments) (fs : FileSystem) :
    AllOrNothing given args fs ((runWith (.simulated given) args).run fs) := by
  unfold AllOrNothing
  dsimp only
  split
  · rename_i h
    exact leavesNothing given h
  · rename_i ranges h
    obtain ⟨bytes, hbytes, hfile⟩ := rangesFor_eq_some_iff.mp h
    rw [runWith_of_read_ok hbytes, hfile]
    dsimp only
    rw [writeDump, run_bind_of_run (simulated_identifiers_run _),
      run_bind_of_run simulated_moment_run]
    obtain ⟨after, hwrite, hwritable, hread⟩ | ⟨after, e, hwrite, hnot⟩ :=
      simulated_write_cases given fs (Path.ofText args.output)
        (Text.encodeUtf8 (Country.dump given.identifier given.moment ranges).toList)
    · rw [run_bind_of_run hwrite]
      exact ⟨rfl, iff_of_true rfl hwritable, fun _ => hread⟩
    · rw [run_bind_of_run hwrite]
      have hstatus : (Except.ok 1 : Except Breakdown Nat) ≠ .ok 0 := by simp
      exact ⟨rfl, iff_of_false hstatus hnot, fun h => absurd h hnot⟩

end CountryDump

end

/-! ## Both programs -/

/-- Neither program prints anything or touches a file before it has worked out all there is to be
printed and written.  Without arguments it can go by it touches no file at all.  With them the first
leaves all or nothing just if there is no half in what it prints and writes, and the second always
does so. -/
theorem programs_leave_all_or_nothing_iff (source : BlacklistSync.Source Unit) (given : Setting)
    (fs : FileSystem) (argv : List String) :
    let compiled := (CompileJob.run source (.simulated given) argv).run fs
    let dumped := (CountryDump.run (.simulated given) argv).run fs
    (match CompileJob.Arguments.read argv with
      | .error halt => compiled = (.halted CompileJob.program halt, fs)
      | .ok args => args.action = args.direction.name ∧
        (CompileJob.AllOrNothing source given args fs compiled ↔
          CompileJob.ComesUponNoHalf source given args fs)) ∧
    (match CountryDump.Arguments.read argv with
      | .error halt => dumped = (.halted CountryDump.program halt, fs)
      | .ok args => CountryDump.AllOrNothing given args fs dumped) := by
  intro compiled dumped
  constructor
  · cases hargs : CompileJob.Arguments.read argv with
    | error halt =>
      simp only [compiled, CompileJob.run, hargs]
      rfl
    | ok args =>
      have hcompiled : compiled = (CompileJob.runWith source (.simulated given) args).run fs := by
        simp only [compiled, CompileJob.run, hargs]
      rw [hcompiled]
      exact ⟨CompileJob.Arguments.action_eq hargs, CompileJob.allOrNothing_iff⟩
  · cases hargs : CountryDump.Arguments.read argv with
    | error halt =>
      simp only [dumped, CountryDump.run, hargs]
      rfl
    | ok args =>
      have hdumped : dumped = (CountryDump.runWith (.simulated given) args).run fs := by
        simp only [dumped, CountryDump.run, hargs]
      rw [hdumped]
      exact CountryDump.allOrNothing given args fs

/-- A configuration in which the zone of an address is the half of a character. -/
def halvedText : List Char :=
  ("version: 1\nfileVersion: 1\nconfigurations:\n- id: host\n  jobs:\n" ++
    "  - name: engines/services/generic-service\n    configuration:\n      network:\n" ++
    "        items:\n        - portNumber: 22\n          protocol: tcp\n" ++
    "          sourceNetworks: [\"fe80::1%\\uD800\"]\n").toList

/-- A directory that holds this configuration alone. -/
def halvedFiles : FileSystem where
  entries := [(["config.yml"], .file (Text.encodeUtf8 halvedText) 0o644)]

/-- Surroundings with no template of the user, and an output that takes any text. -/
def plainSetting : Setting where
  home := Path.ofText "/root"
  fill := Template.render
  refusal? := fun _ => none
  circumstances := ⟨"2024", "root"⟩
  moment := ⟨⟨2024, 1, 1⟩, 0, 0, 0, 0, some 0⟩
  identifier := Country.uuidText

/-- The arguments that ask for the script of the only job in this configuration. -/
def halvedArguments : List String :=
  ["-c", "config.yml", "-i", "host", "-j", "engines/services/generic-service", "-a", "install",
    "-o", "rules.sh"]

/-- The transcript of the only job in this configuration. -/
def halvedTranscript : Transcript :=
  [⟨.iptables4, "-N IN_genericServiceName"⟩, ⟨.iptables4, "-N OUT_genericServiceName"⟩,
    ⟨.iptables4, "-A IN_genericServiceName -s fe80::1%" ++ String.ofList (Text.written 0xD800) ++
      " -p tcp --sport 1024:65535 --dport 22 -j ACCEPT"⟩,
    ⟨.iptables4, "-A IN_genericServiceName -j RETURN"⟩,
    ⟨.iptables4, "-A OUT_genericServiceName -j RETURN"⟩,
    ⟨.iptables4, "-I IN_services_access_0 1 -j IN_genericServiceName"⟩,
    ⟨.iptables4, "-I OUT_services_access_0 1 -j OUT_genericServiceName"⟩]

/-- The job is compiled and its script can be written, but the file is left empty and the program
breaks down. -/
theorem halved_script_left_empty :
    let source := BlacklistSync.databaseSource Unit
    let args : CompileJob.Arguments :=
      ⟨"config.yml", "host", "engines/services/generic-service", "install", false, "rules.sh", 0⟩
    let after := (CompileJob.run source (.simulated plainSetting) halvedArguments).run halvedFiles
    CompileJob.Arguments.read halvedArguments = .ok args ∧
    CompileJob.transcriptFor source args halvedFiles = .ok halvedTranscript ∧
    (∃ script, CompileJob.scriptFor plainSetting args halvedTranscript halvedFiles = .ok script) ∧
    IsWritable halvedFiles (Path.ofText "rules.sh") ∧
    after.1.status = .error (.encoding ⟨375, 1, 0xD800⟩) ∧
    after.2.read (Path.ofText "rules.sh") = .ok [] ∧
    ¬ CompileJob.AllOrNothing source plainSetting args halvedFiles after := by
  intro source args after
  have hargs : CompileJob.Arguments.read halvedArguments = .ok args := by rfl
  have htranscript : CompileJob.transcriptFor source args halvedFiles = .ok halvedTranscript :=
    Except.eq_ok_of_toOption (by decide +kernel)
  have htemplate : CompileJob.templateFor plainSetting.home halvedFiles = .ok none := by rfl
  have hscript := CompileJob.scriptFor_packaged htemplate args halvedTranscript
  have hwritable : IsWritable halvedFiles (Path.ofText "rules.sh") :=
    (Files.isWritable_iff _ _ []).mpr (by decide +kernel)
  generalize hlines : Text.joinLines _ = script at hscript
  have hhalf : Text.encode script.toList = .error ⟨375, 1, 0xD800⟩ := by
    rw [← hlines, Text.toList_joinLines]
    decide +kernel
  have hafter : after =
      (CompileJob.runWith source (.simulated plainSetting) args).run halvedFiles := by
    simp only [after, CompileJob.run, hargs]
  obtain ⟨hstatus, hread⟩ := CompileJob.runWith_of_half htranscript nofun (by decide) hscript
    hwritable hhalf
  rw [← hafter] at hstatus hread
  refine ⟨hargs, htranscript, ⟨script, hscript⟩, hwritable, hstatus, hread, fun hall => ?_⟩
  rw [CompileJob.AllOrNothing, htranscript] at hall
  obtain ⟨bytes, hbytes, -⟩ := hall.script (by decide) script hscript hwritable
  cases hbytes.symm.trans hhalf

end FirewallPolicy
