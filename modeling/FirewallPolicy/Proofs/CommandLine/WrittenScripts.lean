import FirewallPolicy.CommandLine.CompileJob
import FirewallPolicy.Proofs.CommandLine.Options
import FirewallPolicy.Proofs.CommandLine.Simulated
import FirewallPolicy.Proofs.Files.Writing
import FirewallPolicy.Proofs.Jobs.CodedUrls
import FirewallPolicy.Proofs.Script.PackagedTemplate
import FirewallPolicy.Proofs.Text.Halves

/-!
# What compiling a job leaves behind

A run without a transcript leaves nothing.  Otherwise its transcript is printed and its script is
written as far as they were asked for, unless there is a half in them.

* `transcriptFor`, `scriptFor`: what a run works out from the files, said without any effect.
* `runWith_of_error`, `runWith_of_refused`, `outputScript_of_error`: what leaves the files alone.
* `runWith_of_half`: the file of a script with a half is left empty.
* `leavesAll_iff`: a run with a transcript leaves all of it just if there is no half in its script.
* `allOrNothing_iff`: a run leaves all or nothing just if it comes upon no half.
-/

namespace FirewallPolicy.CompileJob

open CommandLine
open Files (FileSystem IsWritable Path)

variable {source : BlacklistSync.Source Unit} {given : Setting} {args : Arguments} {fs : FileSystem}
  {transcript : Transcript} {script : String}

/-- The action that was read is the name of its direction. -/
lemma Arguments.action_eq {argv : List String} (h : Arguments.read argv = .ok args) :
    args.action = args.direction.name := by
  obtain ⟨d, hd⟩ := Arguments.exists_direction h
  rw [direction, hd]
  cases d <;> rfl

/-! ## Transcripts -/

/-- The transcript that the arguments ask for: the document is loaded, the job is looked up in it,
and the job's configuration is compiled with the trusted networks of the document. -/
def transcriptFor (source : BlacklistSync.Source Unit) (args : Arguments) (fs : FileSystem) :
    Except Failure Transcript := do
  let path := Path.ofText args.configFile
  let bytes ← (fs.read path).mapError fun e => .load (.file e)
  let document ← (readDocument path bytes).mapError .load
  let configuration ← (Configuration.read document).mapError fun e => .load (.policy e)
  let entry ← (configuration.find args.id args.job).mapError .find
  let (compiled, _) := (Directory.coded source).compile entry.name (.text args.action)
    (.map entry.configuration) (sharedItems document) ()
  compiled.result.mapError .job

/-- What the program compiles is what the arguments ask for. -/
lemma compile_result (source : BlacklistSync.Source Unit) (args : Arguments) (fs : FileSystem) :
    (compile source args (fs.read (Path.ofText args.configFile))).result =
      transcriptFor source args fs := by
  unfold compile transcriptFor
  simp only [readConfiguration, bind, Except.bind]
  generalize Path.ofText args.configFile = path
  cases fs.read path with
  | error e => rfl
  | ok bytes =>
    simp only [Except.mapError]
    cases readDocument path bytes with
    | error e => rfl
    | ok document =>
      simp only
      cases hconfiguration : Configuration.read document with
      | error e => rfl
      | ok configuration =>
        simp only
        cases configuration.find args.id args.job with
        | error e => rfl
        | ok entry =>
          have hglobals := Configuration.readAll_sharedItems hconfiguration
          simp only [Directory.compile_coded_entries hglobals]

/-- Why there is no transcript is told on the error stream alone, and the program does not end
well. -/
lemma failureReport_leaves_nothing (args : Arguments) (log : List LogEntry) (e : Failure) :
    (failureReport args log e).output = "" ∧ (failureReport args log e).status ≠ .ok 0 := by
  unfold failureReport
  split <;> simp [Report.failed, Report.broken]

/-- A run that comes to no transcript prints nothing and leaves the files alone. -/
lemma runWith_of_error (given : Setting) {e : Failure}
    (h : transcriptFor source args fs = .error e) :
    ∃ report, (runWith source (.simulated given) args).run fs = (report, fs) ∧
      report.output = "" ∧ report.status ≠ .ok 0 := by
  have hcompile := (compile_result source args fs).trans h
  refine ⟨failureReport args (shownLog args.verbosity
    (compile source args (fs.read (Path.ofText args.configFile))).log) e, ?_,
    failureReport_leaves_nothing _ _ _⟩
  rw [runWith, run_bind_of_run (simulated_read_run _)]
  simp only [hcompile]
  rfl

/-- What is logged up to the end of compiling. -/
def entriesFor (source : BlacklistSync.Source Unit) (args : Arguments) (fs : FileSystem) :
    List LogEntry :=
  (compile source args (fs.read (Path.ofText args.configFile))).log ++
    [log.debug s!"Execution of '{args.job}' done"]

/-- A run that comes to a transcript which the output refuses breaks down and leaves the files
alone. -/
lemma runWith_of_refused {e : Text.EncodeError} (h : transcriptFor source args fs = .ok transcript)
    (hprint : args.print = true) (hrefused : given.refusal? (listing transcript) = some e) :
    ∃ report, (runWith source (.simulated given) args).run fs = (report, fs) ∧
      report.output = "" ∧ report.status = .error (.encoding e) := by
  have hcompile := (compile_result source args fs).trans h
  have hrefused' : (Surroundings.simulated given).refusal? (listing transcript) = some e := hrefused
  refine ⟨.broken (shownLog args.verbosity (entriesFor source args fs)) (.encoding e), ?_, rfl, rfl⟩
  rw [runWith, run_bind_of_run (simulated_read_run _)]
  simp only [hcompile, hprint, if_true, hrefused']
  rfl

/-- Any other run prints its transcript if asked to, and goes on to its script if asked to. -/
lemma runWith_of_ok (h : transcriptFor source args fs = .ok transcript)
    (hprint : args.print = true → given.refusal? (listing transcript) = none) :
    ∃ report : Report, report.output = (if args.print then listing transcript else "") ∧
      report.status = .ok 0 ∧ (runWith source (.simulated given) args).run fs =
        if args.output = "" then (report, fs)
        else (outputScript (.simulated given) args transcript report).run fs := by
  have hcompile := (compile_result source args fs).trans h
  have hprint' : (if args.print then (Surroundings.simulated given).refusal? (listing transcript)
      else none) = none := ite_eq_right_iff.mpr hprint
  refine ⟨{ output := if args.print then listing transcript else "",
            log := shownLog args.verbosity (entriesFor source args fs) }, rfl, rfl, ?_⟩
  rw [runWith, run_bind_of_run (simulated_read_run _)]
  simp only [hcompile, hprint', String.isEmpty_iff]
  split <;> rfl

/-! ## Scripts -/

/-- The template of the user in a file system, if there is one. -/
def templateFor (home : Path) (fs : FileSystem) : Except Breakdown (Option String) := do
  let directory := home.below templateDirectory
  let path := directory.below [templateName]
  let isThere ← (fs.askDirectory directory).mapError .templateFile
  if isThere && fs.isFile path then
    let bytes ← (fs.read path).mapError .templateFile
    match Text.decodeUtf8 bytes with
    | (_, some e) => throw (.templateEncoding e)
    | (cs, none) => return some (String.ofList (Text.marked (Text.unifyLineEnds cs)))
  else return none

/-- The script of a transcript, by the template that stands in a file system or comes with the
program. -/
def scriptFor (given : Setting) (args : Arguments) (transcript : Transcript) (fs : FileSystem) :
    Except Breakdown String := do
  let template ← templateFor given.home fs
  (scriptOf given.fill transcript args.job args.direction given.circumstances template).mapError
    .template

/-- Without a template of the user there always is a script. -/
lemma scriptFor_packaged (h : templateFor given.home fs = .ok none) (args : Arguments)
    (transcript : Transcript) : scriptFor given args transcript fs =
      .ok (Text.joinLines (scriptHead args.job args.direction given.circumstances ++
        transcript.map (·.line {}))) := by
  rw [scriptFor, h]
  refine (pure_bind none _).trans ?_
  rw [scriptOf, renderScript_packaged]
  rfl

/-- Looking for the template of the user changes nothing. -/
lemma userTemplate_run : (userTemplate (.simulated given)).run fs =
    (templateFor given.home fs, fs) := by
  rw [userTemplate, run_bind_of_run simulated_home_run,
    run_bind_of_run (simulated_isDirectory_run _), templateFor]
  cases fs.askDirectory _ with
  | error e => rfl
  | ok isThere =>
    cases isThere with
    | false => rfl
    | true =>
      dsimp only
      rw [run_bind_of_run (simulated_isFile_run _)]
      cases fs.isFile _ with
      | false => rfl
      | true =>
        rw [if_pos rfl, run_bind_of_run (simulated_read_run _)]
        cases fs.read _ with
        | error e => rfl
        | ok bytes =>
          dsimp only
          split <;> rename_i hdecoded <;>
            simp [Except.mapError, bind, Except.bind, hdecoded] <;> rfl

/-- Writing a script ends in one of three ways: it is in its file, its file is empty because it has
a half, or its file cannot be written. -/
lemma writeScript_cases (given : Setting) (fs : FileSystem) (path : Path) (script : String) :
    let after := (writeScript (.simulated given) path script).run fs
    (∃ bytes, Text.encode script.toList = .ok bytes ∧ IsWritable fs path ∧ after.1 = .ok () ∧
      after.2.read path = .ok bytes) ∨
    (∃ e, Text.encode script.toList = .error e ∧ IsWritable fs path ∧
      after.1 = .error (.encoding e) ∧ after.2.read path = .ok []) ∨
    (∃ e, ¬ IsWritable fs path ∧ after.1 = .error (.file e)) := by
  intro after
  cases hscript : Text.encode script.toList with
  | ok bytes =>
    obtain ⟨written, hwrite, hwritable, hread⟩ | ⟨written, e, hwrite, hnot⟩ :=
      simulated_write_cases given fs path bytes
    · have hafter : after = (.ok (), written.setMode path scriptMode) := by
        simp only [after, writeScript, hscript]
        exact run_bind_of_run hwrite _
      rw [hafter]
      exact .inl ⟨bytes, rfl, hwritable, rfl, FileSystem.read_setMode scriptMode hread⟩
    · have hafter : after = (.error (.file e), written) := by
        simp only [after, writeScript, hscript]
        exact run_bind_of_run hwrite _
      rw [hafter]
      exact .inr (.inr ⟨e, hnot, rfl⟩)
  | error cause =>
    obtain ⟨written, hwrite, hwritable, hread⟩ | ⟨written, e, hwrite, hnot⟩ :=
      simulated_write_cases given fs path []
    · have hafter : after = (.error (.encoding cause), written) := by
        simp only [after, writeScript, hscript]
        exact run_bind_of_run hwrite _
      rw [hafter]
      exact .inr (.inl ⟨cause, rfl, hwritable, rfl, hread⟩)
    · have hafter : after = (.error (.file e), written) := by
        simp only [after, writeScript, hscript]
        exact run_bind_of_run hwrite _
      rw [hafter]
      exact .inr (.inr ⟨e, hnot, rfl⟩)

/-- What is told of a script, given how its writing ended. -/
def reportOf (args : Arguments) (report : Report) : Except ScriptError Unit → Report
  | .error (.file e) =>
    { report with
      status := .ok 1
      messages := [s!"Error: cannot write {args.output}: {e.message}"] }
  | .error (.encoding e) => { report with status := .error (.encoding e) }
  | .ok () => { report with messages := [s!"Script written to {(Path.ofText args.output).text}"] }

/-- Where there is no script, the files are left alone. -/
lemma outputScript_of_error {cause : Breakdown}
    (h : scriptFor given args transcript fs = .error cause) (report : Report) :
    (outputScript (.simulated given) args transcript report).run fs =
      ({ report with status := .error cause }, fs) := by
  have hfill : (Surroundings.simulated given).fill = given.fill := rfl
  simp only [scriptFor, bind, Except.bind] at h
  rw [outputScript, run_bind_of_run userTemplate_run]
  cases htemplate : templateFor given.home fs with
  | error e =>
    rw [htemplate] at h
    cases h
    rfl
  | ok template =>
    rw [htemplate] at h
    dsimp only at h ⊢
    rw [run_bind_of_run simulated_circumstances_run, hfill]
    cases hscript : scriptOf given.fill transcript args.job args.direction given.circumstances
      template with
    | error e =>
      rw [hscript] at h
      cases h
      rfl
    | ok script =>
      rw [hscript] at h
      cases h

/-- Where there is a script, it is written. -/
lemma outputScript_of_ok (h : scriptFor given args transcript fs = .ok script) (report : Report) :
    let after := (writeScript (.simulated given) (Path.ofText args.output) script).run fs
    (outputScript (.simulated given) args transcript report).run fs =
      (reportOf args report after.1, after.2) := by
  intro after
  have hfill : (Surroundings.simulated given).fill = given.fill := rfl
  simp only [scriptFor, bind, Except.bind] at h
  rw [outputScript, run_bind_of_run userTemplate_run]
  cases htemplate : templateFor given.home fs with
  | error e =>
    rw [htemplate] at h
    cases h
  | ok template =>
    rw [htemplate] at h
    dsimp only at h ⊢
    rw [run_bind_of_run simulated_circumstances_run, hfill]
    cases hscript : scriptOf given.fill transcript args.job args.direction given.circumstances
      template with
    | error e =>
      rw [hscript] at h
      cases h
    | ok script' =>
      rw [hscript] at h
      cases h
      obtain ⟨⟨result, left⟩, hwritten⟩ : ∃ written, after = written := ⟨after, rfl⟩
      rw [hwritten]
      refine (run_bind_of_run hwritten _).trans ?_
      rcases result with (e | e) | ⟨⟩ <;> rfl

/-! ## All or nothing -/

/-- A file holds a text: the text has bytes, and these are in the file. -/
def Holds (fs : FileSystem) (path : Path) (text : String) : Prop :=
  ∃ bytes, Text.encode text.toList = .ok bytes ∧ fs.read path = .ok bytes

/-- What a run leaves behind with a transcript: the transcript if it was to be printed, and its
script if there is one and its file can be written. -/
structure LeavesAll (given : Setting) (args : Arguments) (transcript : Transcript) (fs : FileSystem)
    (after : Report × FileSystem) : Prop where
  output : after.1.output = if args.print then listing transcript else ""
  noOutput : args.output = "" → after.2 = fs
  noScript : ∀ cause, scriptFor given args transcript fs = .error cause → after.2 = fs
  script : args.output ≠ "" → ∀ script, scriptFor given args transcript fs = .ok script →
    IsWritable fs (Path.ofText args.output) → Holds after.2 (Path.ofText args.output) script
  status : after.1.status = .ok 0 ↔ (args.output ≠ "" → IsWritable fs (Path.ofText args.output) ∧
    ∃ script, scriptFor given args transcript fs = .ok script)

/-- A run leaves all or nothing. -/
def AllOrNothing (source : BlacklistSync.Source Unit) (given : Setting) (args : Arguments)
    (fs : FileSystem) (after : Report × FileSystem) : Prop :=
  match transcriptFor source args fs with
  | .error _ => LeavesNothing fs after
  | .ok transcript => LeavesAll given args transcript fs after

/-- Nothing that a run has to print or to write has a half in it. -/
def ComesUponNoHalf (source : BlacklistSync.Source Unit) (given : Setting) (args : Arguments)
    (fs : FileSystem) : Prop :=
  ∀ transcript, transcriptFor source args fs = .ok transcript →
    (args.print = true → given.refusal? (listing transcript) = none) ∧
      (args.output ≠ "" → ∀ script, scriptFor given args transcript fs = .ok script →
        IsWritable fs (Path.ofText args.output) → Text.IsWhole script.toList)

/-- A listing has its frame at least. -/
lemma listing_ne_empty (transcript : Transcript) (tools : ToolPaths) :
    listing transcript tools ≠ "" := by
  unfold listing
  simp

/-- The file of a script with a half is left empty. -/
theorem runWith_of_half (h : transcriptFor source args fs = .ok transcript)
    (hprint : args.print = true → given.refusal? (listing transcript) = none)
    (houtput : args.output ≠ "") (hscript : scriptFor given args transcript fs = .ok script)
    (hwritable : IsWritable fs (Path.ofText args.output))
    {e : Text.EncodeError} (hhalf : Text.encode script.toList = .error e) :
    let after := (runWith source (.simulated given) args).run fs
    after.1.status = .error (.encoding e) ∧ after.2.read (Path.ofText args.output) = .ok [] := by
  intro after
  obtain ⟨report, -, -, hrun⟩ := runWith_of_ok h hprint
  have hafter : after = _ := hrun
  rw [if_neg houtput, outputScript_of_ok hscript] at hafter
  rw [hafter]
  obtain ⟨bytes, hbytes, -⟩ | ⟨e', he', -, hresult, hread⟩ | ⟨e', hnot, -⟩ :=
    writeScript_cases given fs (Path.ofText args.output) script
  · cases hbytes.symm.trans hhalf
  · cases he'.symm.trans hhalf
    dsimp only
    rw [hresult]
    exact ⟨rfl, hread⟩
  · exact absurd hwritable hnot

/-- A run that comes to a transcript leaves it and its script just if there is no half in the
script. -/
lemma leavesAll_iff (h : transcriptFor source args fs = .ok transcript)
    (hprint : args.print = true → given.refusal? (listing transcript) = none) :
    LeavesAll given args transcript fs ((runWith source (.simulated given) args).run fs) ↔
      (args.output ≠ "" → ∀ script, scriptFor given args transcript fs = .ok script →
        IsWritable fs (Path.ofText args.output) → Text.IsWhole script.toList) := by
  constructor
  · intro hall houtput script hscript hwritable
    obtain ⟨bytes, hbytes, -⟩ := hall.script houtput script hscript hwritable
    exact (Text.encode_eq_ok_iff.mp hbytes).1
  intro hwhole
  obtain ⟨report, hreport, hstatus, hrun⟩ := runWith_of_ok h hprint
  rw [hrun]
  by_cases houtput : args.output = ""
  · rw [if_pos houtput]
    exact {
      output := hreport
      noOutput := fun _ => rfl
      noScript := fun _ _ => rfl
      script := fun hne => absurd houtput hne
      status := iff_of_true hstatus fun hne => absurd houtput hne }
  rw [if_neg houtput]
  cases hscript : scriptFor given args transcript fs with
  | error cause =>
    rw [outputScript_of_error hscript]
    exact {
      output := hreport
      noOutput := fun heq => absurd heq houtput
      noScript := fun _ _ => rfl
      script := fun _ _ => by simp [hscript]
      status := iff_of_false (by simp) fun hall => by simpa [hscript] using hall houtput }
  | ok script =>
    rw [outputScript_of_ok hscript]
    obtain ⟨bytes, hbytes, hwritable, hresult, hread⟩ | ⟨e, he, hwritable, -⟩ |
      ⟨e, hnot, hresult⟩ := writeScript_cases given fs (Path.ofText args.output) script
    · rw [hresult]
      exact {
        output := hreport
        noOutput := fun heq => absurd heq houtput
        noScript := fun _ => by simp [hscript]
        script := fun _ script' hscript' _ => by
          cases hscript.symm.trans hscript'
          exact ⟨bytes, hbytes, hread⟩
        status := iff_of_true hstatus fun _ => ⟨hwritable, script, hscript⟩ }
    · have hbytes := Text.encode_eq_ok_iff.mpr ⟨hwhole houtput script hscript hwritable, rfl⟩
      cases he.symm.trans hbytes
    · rw [hresult]
      exact {
        output := hreport
        noOutput := fun heq => absurd heq houtput
        noScript := fun _ => by simp [hscript]
        script := fun _ _ _ hwritable => absurd hwritable hnot
        status := iff_of_false (by simp [reportOf]) fun hall => hnot (hall houtput).1 }

/-- A run leaves all or nothing just if it comes upon no half. -/
theorem allOrNothing_iff : AllOrNothing source given args fs
    ((runWith source (.simulated given) args).run fs) ↔ ComesUponNoHalf source given args fs := by
  unfold AllOrNothing ComesUponNoHalf
  cases h : transcriptFor source args fs with
  | error e =>
    obtain ⟨report, hrun, houtput, hstatus⟩ := runWith_of_error given h
    rw [hrun]
    exact iff_of_true ⟨houtput, rfl, hstatus⟩ nofun
  | ok transcript =>
    simp only [Except.ok.injEq, forall_eq']
    by_cases hprint : args.print = true → given.refusal? (listing transcript) = none
    · rw [leavesAll_iff h hprint]
      exact (and_iff_right hprint).symm
    · refine iff_of_false (fun hall => ?_) fun hboth => hprint hboth.1
      obtain ⟨hprinted, hrefused⟩ := Classical.not_imp.mp hprint
      obtain ⟨e, he⟩ := Option.ne_none_iff_exists'.mp hrefused
      obtain ⟨report, hrun, houtput, -⟩ := runWith_of_refused h hprinted he
      have hlisting := hall.output
      rw [hrun, if_pos hprinted] at hlisting
      exact listing_ne_empty transcript {} (hlisting.symm.trans houtput)

end FirewallPolicy.CompileJob
