import FirewallPolicy.Proofs.Jobs.Policies
import FirewallPolicy.Proofs.Workflow.Runs

/-!
# The questions to the source of a blacklist

Whoever uses a directory compiles its jobs, makes workflows of them and runs these again and again,
all of it in one world.  Only an execution of the job that synchronises the blacklist asks the
source, once if it accepts its configuration and not at all otherwise.

* `Desk.call_cases`: all that one call does.
* `BlacklistSync.run_accepted`, `BlacklistSync.run_refused`: an execution of the job.
* `Directory.builtin_shares`: no other built-in job asks.
* `BlacklistSync.accounts_call`: what one call adds to the questions.
* `BlacklistSync.calls_account_for_fetches`: the questions after any calls, by induction on them.
-/

namespace FirewallPolicy

variable {σ : Type}

/-! ## Executions -/

/-- A call to the jobs of a directory. -/
inductive Call where
  | compile (name : String) (token raw : Value) (globalTrusted : List NetworkItem)
  /-- Makes a workflow and keeps it. -/
  | make (name : String) (token : Value)
  /-- Runs one of the workflows that were kept, counted from the first. -/
  | run (index : Nat) (raw : Value) (globalTrusted : List NetworkItem)

/-- The workflow that a directory has for the name of a job and the token of a direction. -/
def Directory.workflowFor (directory : Directory σ) (name : String) (token : Value) :
    Except JobError (Workflow σ) :=
  directory.find name >>= (Workflow.make · token)

/-- The job of such a workflow is the one with the name. -/
lemma Directory.find_of_workflowFor {directory : Directory σ} {name : String} {token : Value}
    {w : Workflow σ} (h : directory.workflowFor name token = .ok w) :
    directory.find name = .ok w.job := by
  unfold workflowFor at h
  cases hfind : directory.find name with
  | error e =>
    rw [hfind] at h
    cases h
  | ok job =>
    rw [hfind] at h
    rw [Workflow.eq_of_make h]

/-- To compile a job is to run that workflow once. -/
lemma Directory.compile_of_workflowFor {directory : Directory σ} {name : String} {token : Value}
    {w : Workflow σ} (h : directory.workflowFor name token = .ok w) (raw : Value)
    (globals : List NetworkItem) (world : σ) :
    (directory.compile name token raw globals world).1.result = (w.run raw globals world).1.result ∧
      (directory.compile name token raw globals world).2 = (w.run raw globals world).2 := by
  unfold workflowFor at h
  cases hfind : directory.find name with
  | error e =>
    rw [hfind] at h
    cases h
  | ok job =>
    rw [hfind] at h
    have hmake : Workflow.make job token = .ok w := h
    simp [compile, hfind, hmake]

/-- Without a workflow nothing happens. -/
lemma Directory.compile_of_no_workflow {directory : Directory σ} {name : String} {token : Value}
    {e : JobError} (h : directory.workflowFor name token = .error e) (raw : Value)
    (globals : List NetworkItem) (world : σ) :
    (directory.compile name token raw globals world).2 = world := by
  unfold workflowFor at h
  cases hfind : directory.find name with
  | error e => simp [compile, hfind]
  | ok job =>
    rw [hfind] at h
    have hmake : Workflow.make job token = .error e := h
    simp [compile, hfind, hmake]

/-- A run of a job: the name under which the job was found, what it was given and what it gave. -/
structure Execution where
  name : String
  direction : Direction
  raw : Value
  result : Except JobError Transcript

/-- The workflows that were kept, with the names of their jobs, and the world they run in. -/
structure Desk (σ : Type) where
  workflows : List (String × Workflow σ) := []
  world : σ

namespace Desk

/-- Answers a call; there is no execution if no workflow comes of it. -/
def call (directory : Directory σ) (desk : Desk σ) : Call → Option Execution × Desk σ
  | .compile name token raw globals =>
    let (compiled, world) := directory.compile name token raw globals desk.world
    match directory.workflowFor name token with
    | .error _ => (none, { desk with world })
    | .ok w => (some ⟨name, w.direction, raw, compiled.result⟩, { desk with world })
  | .make name token =>
    match directory.workflowFor name token with
    | .error _ => (none, desk)
    | .ok w => (none, { desk with workflows := desk.workflows ++ [(name, w)] })
  | .run index raw globals =>
    match desk.workflows[index]? with
    | none => (none, desk)
    | some (name, w) =>
      let (outcome, world) := w.run raw globals desk.world
      (some ⟨name, w.direction, raw, outcome.result⟩,
        { workflows := desk.workflows.set index (name, outcome.workflow), world })

/-- Answers calls in order. -/
def calls (directory : Directory σ) (desk : Desk σ) : List Call → List Execution × Desk σ
  | [] => ([], desk)
  | c :: cs =>
    let (execution?, desk) := desk.call directory c
    let (executions, desk) := desk.calls directory cs
    (execution?.toList ++ executions, desk)

/-- The workflows that were kept are of the jobs that the directory has under their names. -/
def IsSound (directory : Directory σ) (desk : Desk σ) : Prop :=
  ∀ entry ∈ desk.workflows, directory.find entry.1 = .ok entry.2.job

/-- What a call does: nothing that reaches the world, or one run of a job of the directory, as if
its workflow was just made. -/
inductive Did (directory : Directory σ) (world : σ) : Option Execution → σ → Prop
  | nothing : Did directory world none world
  | ran {name : String} {job : Job σ} (hfind : directory.find name = .ok job) (d : Direction)
    (raw : Value) (globals : List NetworkItem) :
    Did directory world
      (some ⟨name, d, raw, (Workflow.run { job, direction := d } raw globals world).1.result⟩)
      (Workflow.run { job, direction := d } raw globals world).2

section Did

variable {directory : Directory σ} {world : σ} {name : String} {w : Workflow σ}

/-- A run of a workflow whose job the directory has is a run of a workflow that was just made. -/
lemma Did.of_run (hfind : directory.find name = .ok w.job) (raw : Value) (globals : List NetworkItem) :
    Did directory world (some ⟨name, w.direction, raw, (w.run raw globals world).1.result⟩)
      (w.run raw globals world).2 := by
  rw [← Workflow.run_untouched]
  exact .ran hfind w.direction raw globals

/-- All that one call does. -/
lemma call_cases {desk : Desk σ} (hdesk : desk.IsSound directory) (c : Call) :
    let after := desk.call directory c
    Did directory desk.world after.1 after.2.world ∧ after.2.IsSound directory := by
  cases c with
  | compile name token raw globals =>
    simp only [call]
    cases hw : directory.workflowFor name token with
    | error e =>
      refine ⟨?_, hdesk⟩
      rw [directory.compile_of_no_workflow hw raw globals desk.world]
      exact .nothing
    | ok w =>
      obtain ⟨hresult, hworld⟩ := directory.compile_of_workflowFor hw raw globals desk.world
      refine ⟨?_, hdesk⟩
      rw [hresult, hworld]
      exact .of_run (directory.find_of_workflowFor hw) raw globals
  | make name token =>
    simp only [call]
    cases hw : directory.workflowFor name token with
    | error e => exact ⟨.nothing, hdesk⟩
    | ok w =>
      refine ⟨.nothing, ?_⟩
      intro entry hentry
      rcases List.mem_append.mp hentry with hentry | hentry
      · exact hdesk entry hentry
      · rw [List.mem_singleton.mp hentry]
        exact directory.find_of_workflowFor hw
  | run index raw globals =>
    simp only [call]
    cases hentry : desk.workflows[index]? with
    | none => exact ⟨.nothing, hdesk⟩
    | some entry =>
      have hfind := hdesk entry (List.mem_of_getElem? hentry)
      refine ⟨.of_run hfind raw globals, ?_⟩
      intro entry' hmem
      rcases List.mem_or_eq_of_mem_set hmem with hmem | rfl
      · exact hdesk entry' hmem
      · have hjob := congrArg Workflow.job
          (Workflow.untouched_run entry.2 raw globals desk.world)
        exact hfind.trans (congrArg Except.ok hjob.symm)

end Did

end Desk

/-! ## Worlds -/

section Worlds

variable {job : Job σ} {d : Direction} {raw : Value} {globals : List NetworkItem}
  {read : Reading job.Config}

/-- A run on a configuration that is not read leaves the world as it was. -/
lemma Job.world_of_read_error {cause : ReadError} (world : σ)
    (hvalidate : job.validate raw globals = validateBy read) (hread : read = .error cause) :
    (Workflow.run { job, direction := d } raw globals world).2 = world := by
  have hanswers : AlwaysAnswers (job.validate raw globals) (.error (.configuration cause)) := by
    rw [hvalidate, hread]
    exact fun _ => rfl
  show ((job.progress d raw globals).run world).2 = world
  rw [Job.progress_of_error hanswers, hvalidate, hread]
  rfl

/-- On a configuration that is read, a run comes to the steps in the world in which it began. -/
lemma Job.world_of_read {config : job.Config} (world : σ)
    (hvalidate : job.validate raw globals = validateBy read) (hread : read = .ok config) :
    ∃ p : Progress job.Config, p.failure = none ∧
      (Workflow.run { job, direction := d } raw globals world).2 =
        ((runSteps job.name config p (job.steps d)).run world).2 := by
  have hanswers : AlwaysAnswers (job.validate raw globals) (.ok config) := by
    rw [hvalidate, hread]
    exact fun _ => rfl
  have hleft : worldLeft (job.validate raw globals) world = world := by
    rw [hvalidate, hread]
    rfl
  refine ⟨{ index := 0
            context := gathered d raw globals (some config) []
            log := [stepBegun job.name .validating 0 validationName] }, rfl, ?_⟩
  show ((job.progress d raw globals).run world).2 = _
  rw [Job.progress_of_ok hanswers, hleft]

/-- A job that only computes leaves the world as it was. -/
lemma Job.world_of_pure {steps : List (PureStep job.Config)} (world : σ)
    (hvalidate : job.validate raw globals = validateBy read)
    (hsteps : job.steps d = steps.map fun s => Step.pure s.1 s.2) :
    (Workflow.run { job, direction := d } raw globals world).2 = world := by
  cases hread : read with
  | error cause => exact Job.world_of_read_error world hvalidate hread
  | ok config =>
    obtain ⟨p, hp, hworld⟩ := Job.world_of_read (d := d) world hvalidate hread
    obtain ⟨q, hq, -⟩ := runSteps_pure job.name config steps p world hp
    rw [hworld, hsteps, hq]

/-- A job of one step leaves the world that the step leaves. -/
lemma Job.world_of_single {config : job.Config} {step : Step σ job.Config} (world : σ)
    (hvalidate : job.validate raw globals = validateBy read) (hread : read = .ok config)
    (hsteps : job.steps d = [step]) :
    (Workflow.run { job, direction := d } raw globals world).2 =
      ((step.run config).run.run world).2 := by
  obtain ⟨p, -, hworld⟩ := Job.world_of_read (d := d) world hvalidate hread
  rw [hworld, hsteps]
  cases hstep : (step.run config).run.run world with
  | mk answer world' =>
    cases answer with
    | error e => rw [runSteps_cons_error _ _ _ hstep]
    | ok k => rw [runSteps_cons_ok _ _ _ hstep, runSteps_nil]

end Worlds

/-! ## Questions to a source -/

/-- A question to a source: the configuration it was asked with, and its answer. -/
structure Fetch where
  config : BlacklistConfig
  answer : Except JobError (List Value)

/-- A world with a record of the questions to a source, in their order. -/
structure Recorded (σ : Type) where
  world : σ
  fetches : List Fetch := []

namespace BlacklistSync

/-- A source that is recorded.  In its own world it may answer each question in another way. -/
def recording (source : Source σ) : Source (Recorded σ) := fun config =>
  ExceptT.mk fun before =>
    let (answer, world) := (source config).run.run before.world
    (answer, { world, fetches := before.fetches ++ [⟨config, answer⟩] })

/-- What an execution gives for what the source answers. -/
def resultOf (d : Direction) (answer : Except JobError (List Value)) :
    Except JobError Transcript :=
  (answer >>= contribution).map (·.side d)

variable (source : Source σ)

/-- The step that fetches makes a contribution of what the source answers, and it is the source that
leaves the world. -/
lemma run_fetchNetworks (config : BlacklistConfig) (world : σ) :
    ((fetchNetworks source).run config).run.run world =
      (((source config).run.run world).1 >>= contribution, ((source config).run.run world).2) := by
  rw [fetchNetworks, ExceptT.run_bind, StateT.run_bind]
  cases (source config).run.run world with
  | mk answer world' =>
    cases answer with
    | error e => rfl
    | ok entries =>
      cases hk : contribution entries with
      | error e =>
        have hmade : (Except.ok entries >>= contribution) = .error e := hk
        rw [hmade]
        simp only [Bind.bind, hk]
        rfl
      | ok k =>
        have hmade : (Except.ok entries >>= contribution) = .ok k := hk
        rw [hmade]
        simp only [Bind.bind, hk]
        rfl

/-- An execution on a configuration that is accepted asks the source once, with that configuration,
and makes what it gives of the answer. -/
lemma run_accepted {raw : Value} {config : BlacklistConfig}
    (hread : BlacklistConfig.read raw = .ok config) (d : Direction) (globals : List NetworkItem)
    (before : Recorded σ) :
    let after := Workflow.run { job := job (recording source), direction := d } raw globals before
    ∃ answer, after.1.result = resultOf d answer ∧
      after.2.fetches = before.fetches ++ [⟨config, answer⟩] := by
  intro after
  have hvalidate : (job (recording source)).validate raw globals = validateBy (.ok config) := by
    rw [← hread]
    rfl
  refine ⟨((source config).run.run before.world).1, ?_, ?_⟩
  · show (Workflow.run _ raw globals before).1.result = _
    rw [Job.run_single before hvalidate rfl, run_fetchNetworks]
    rfl
  · show (Workflow.run _ raw globals before).2.fetches = _
    rw [Job.world_of_single before hvalidate rfl rfl, run_fetchNetworks]
    rfl

/-- An execution on a configuration that is refused fails for it and asks nothing. -/
lemma run_refused {raw : Value} {cause : ReadError}
    (hread : BlacklistConfig.read raw = .error cause) (d : Direction) (globals : List NetworkItem)
    (before : Recorded σ) :
    let after := Workflow.run { job := job (recording source), direction := d } raw globals before
    after.1.result = .error (.configuration cause) ∧ after.2.fetches = before.fetches := by
  intro after
  have hvalidate : (job (recording source)).validate raw globals =
      validateBy (BlacklistConfig.read raw) := rfl
  refine ⟨Job.run_of_read_error before hvalidate hread, ?_⟩
  show (Workflow.run _ raw globals before).2.fetches = _
  rw [Job.world_of_read_error before hvalidate hread]

end BlacklistSync

/-- A job whose runs leave the record of the questions as it is. -/
def Job.LeavesFetches (job : Job (Recorded σ)) : Prop :=
  ∀ d raw globals before,
    (Workflow.run { job, direction := d } raw globals before).2.fetches = before.fetches

/-- A directory that has a job under some names, and under all others only jobs that leave the
record of the questions as it is. -/
structure Directory.Shares (directory : Directory (Recorded σ)) (names : List String)
    (job : Job (Recorded σ)) : Prop where
  own : ∀ name ∈ names, directory.find name = .ok job
  others : ∀ name ∉ names, ∀ other, directory.find name = .ok other → other.LeavesFetches

/-- The built-in jobs share the job that synchronises the blacklist. -/
lemma Directory.builtin_shares (source : BlacklistSync.Source σ) :
    (Directory.builtin (BlacklistSync.recording source)).Shares ["sync-blacklist-ips"]
      (BlacklistSync.job (BlacklistSync.recording source)) where
  own := by
    intro name hname
    rw [List.mem_singleton.mp hname]
    exact Directory.find_blacklist _
  others := by
    intro name hname other hfind d raw globals before
    rw [List.mem_singleton] at hname
    rcases Directory.name_of_find hfind with rfl | hown | rfl | rfl
    · cases (Directory.find_prepare _).symm.trans hfind
      rw [Job.world_of_pure before rfl (Prepare.job_steps_eq d)]
    · exact absurd hown hname
    · cases (Directory.find_dns _).symm.trans hfind
      have hsteps : (DnsForwarding.job (Recorded σ)).steps d =
          ([("generateRules", DnsForwarding.generateRules)] : List (PureStep DnsConfig)).map
            fun s => Step.pure s.1 s.2 := rfl
      rw [Job.world_of_pure before rfl hsteps]
    · cases (Directory.find_service _).symm.trans hfind
      have hsteps : (Service.job (Recorded σ)).steps d =
          ([("generateRules", Service.generateRules)] : List (PureStep ServiceConfig)).map
            fun s => Step.pure s.1 s.2 := rfl
      rw [Job.world_of_pure before rfl hsteps]

namespace BlacklistSync

/-! ## Any calls -/

/-- Whether the configuration of an execution is one for the job. -/
def isAccepted (e : Execution) : Bool := (BlacklistConfig.read e.raw).isOk

/-- A question that was asked in an execution: with the configuration of that execution, which gave
what its direction and the answer make. -/
def BelongsTo (f : Fetch) (e : Execution) : Prop :=
  BlacklistConfig.read e.raw = .ok f.config ∧ e.result = resultOf e.direction f.answer

/-- Executions that account for the questions that were asked. -/
structure Accounts (executions : List Execution) (fetches : List Fetch) : Prop where
  /-- In order, one question belongs to each execution on a configuration that is accepted. -/
  asked : List.Forall₂ BelongsTo fetches (executions.filter isAccepted)
  /-- The other executions fail for their configurations. -/
  refused : ∀ e ∈ executions, ∀ cause, BlacklistConfig.read e.raw = .error cause →
    e.result = .error (.configuration cause)

lemma Accounts.nil : Accounts [] [] := ⟨.nil, nofun⟩

lemma Accounts.append {executions executions' : List Execution} {fetches fetches' : List Fetch}
    (h : Accounts executions fetches) (h' : Accounts executions' fetches') :
    Accounts (executions ++ executions') (fetches ++ fetches') where
  asked := by
    rw [List.filter_append]
    exact List.rel_append h.asked h'.asked
  refused := by
    intro e he
    rcases List.mem_append.mp he with he | he
    · exact h.refused e he
    · exact h'.refused e he

/-- The executions of the job that has some names. -/
def ownOf (names : List String) (executions : List Execution) : List Execution :=
  executions.filter (·.name ∈ names)

section Calls

variable {source : Source σ} {directory : Directory (Recorded σ)} {names : List String}

/-- One execution of the job accounts for the question that is asked in it, if there is one. -/
lemma accounts_run (name : String) (d : Direction) (raw : Value) (globals : List NetworkItem)
    (before : Recorded σ) :
    let after := Workflow.run { job := job (recording source), direction := d } raw globals before
    ∃ fetches, after.2.fetches = before.fetches ++ fetches ∧
      Accounts [⟨name, d, raw, after.1.result⟩] fetches := by
  intro after
  cases hread : BlacklistConfig.read raw with
  | ok config =>
    obtain ⟨answer, hresult, hfetches⟩ := run_accepted source hread d globals before
    refine ⟨[⟨config, answer⟩], hfetches, ?_, ?_⟩
    · have haccepted : isAccepted ⟨name, d, raw, after.1.result⟩ = true := by
        rw [isAccepted, hread]
        rfl
      rw [List.filter_cons_of_pos haccepted, List.filter_nil]
      exact .cons ⟨hread, hresult⟩ .nil
    · intro e he cause hcause
      rw [List.mem_singleton.mp he] at hcause
      cases hread.symm.trans hcause
  | error cause =>
    obtain ⟨hresult, hfetches⟩ := run_refused source hread d globals before
    refine ⟨[], by rw [hfetches, List.append_nil], ?_, ?_⟩
    · have hrefused : ¬ isAccepted ⟨name, d, raw, after.1.result⟩ = true := by
        rw [isAccepted, hread]
        exact Bool.false_ne_true
      rw [List.filter_cons_of_neg hrefused]
      exact .nil
    · intro e he cause' hcause
      rw [List.mem_singleton.mp he] at hcause ⊢
      cases hread.symm.trans hcause
      exact hresult

/-- The execution of one call, if there is one of the job, accounts for the questions that the call
adds to the record. -/
lemma accounts_call (h : directory.Shares names (job (recording source)))
    {before after : Recorded σ} {execution? : Option Execution}
    (hdid : Desk.Did directory before execution? after) :
    ∃ fetches, after.fetches = before.fetches ++ fetches ∧
      Accounts (ownOf names execution?.toList) fetches := by
  cases hdid with
  | nothing => exact ⟨[], (List.append_nil _).symm, .nil⟩
  | @ran name found hfind d raw globals =>
    by_cases hname : name ∈ names
    · cases (h.own name hname).symm.trans hfind
      obtain ⟨fetches, hfetches, haccounts⟩ := accounts_run name d raw globals before
      refine ⟨fetches, hfetches, ?_⟩
      rw [ownOf, Option.toList_some, List.filter_cons_of_pos (by simpa using hname)]
      exact haccounts
    · refine ⟨[], ?_, ?_⟩
      · rw [h.others name hname found hfind, List.append_nil]
      · rw [ownOf, Option.toList_some, List.filter_cons_of_neg (by simpa using hname)]
        exact .nil

/-- The executions of the job in any calls account for the questions that these calls add to the
record. -/
lemma accounts_calls (h : directory.Shares names (job (recording source)))
    {desk : Desk (Recorded σ)} (hdesk : desk.IsSound directory) (calls : List Call) :
    let after := desk.calls directory calls
    ∃ fetches, after.2.world.fetches = desk.world.fetches ++ fetches ∧
      Accounts (ownOf names after.1) fetches := by
  induction calls generalizing desk with
  | nil => exact ⟨[], (List.append_nil _).symm, .nil⟩
  | cons c calls ih =>
    obtain ⟨hdid, hsound⟩ := Desk.call_cases hdesk c
    obtain ⟨asked, hasked, hcall⟩ := accounts_call h hdid
    obtain ⟨rest, hrest, hcalls⟩ := ih hsound
    refine ⟨asked ++ rest, ?_, ?_⟩
    · rw [← List.append_assoc, ← hasked, ← hrest]
      rfl
    · have hown : ownOf names (desk.calls directory (c :: calls)).1 =
          ownOf names (desk.call directory c).1.toList ++
            ownOf names ((desk.call directory c).2.calls directory calls).1 := List.filter_append ..
      rw [hown]
      exact hcall.append hcalls

/-- Whatever a directory is called for, the source of the job that synchronises the blacklist is
asked once for each execution of that job on a configuration that is accepted, in order and each
time with that configuration; the execution gives what its direction and that answer make.  The
other executions of the job fail for their configurations. -/
theorem calls_account_for_fetches (h : directory.Shares names (job (recording source)))
    (calls : List Call) (world : σ) :
    let after := Desk.calls directory { world := { world } } calls
    let own := ownOf names after.1
    after.2.world.fetches.length = (own.filter isAccepted).length ∧
      Accounts own after.2.world.fetches := by
  intro after own
  have hdesk : Desk.IsSound directory { world := { world } } := nofun
  obtain ⟨fetches, hfetches, haccounts⟩ := accounts_calls h hdesk calls
  have hall : after.2.world.fetches = fetches := hfetches
  rw [hall]
  exact ⟨haccounts.asked.length_eq, haccounts⟩

end Calls

/-- A source whose world holds its answers to come. -/
def answering : Source (List (Except JobError (List Value))) := fun _ =>
  ExceptT.mk fun answers => (answers.headD (.ok []), answers.tail)

/-- A list with host bits, a failure and an empty list. -/
def mixedAnswers : List (Except JobError (List Value)) :=
  [.ok [.text "10.0.0.1/8"], .error (.source .cannotFetch), .ok []]

/-- Calls for both directions, among them one on a configuration that is refused and one for another
job. -/
def mixedCalls : List Call :=
  let raw : Value := .map [(.text "database",
    .map [(.text "connectionString", .text "postgres://host/db")])]
  [.make "sync-blacklist-ips" (.text "uninstall"),
    .compile "sync-blacklist-ips" (.text "install") raw [], .run 0 .null [], .run 0 raw [],
    .compile "prepare-netfilter" (.text "install") raw [], .run 0 raw []]

/-- Three of four executions ask this source, the last one after it failed. -/
theorem mixedCalls_account_for_fetches :
    let directory := Directory.builtin (recording answering)
    let after := Desk.calls directory { world := { world := mixedAnswers } } mixedCalls
    let own := ownOf ["sync-blacklist-ips"] after.1
    (own.length = 4 ∧ after.2.world.fetches.length = 3) ∧
      after.2.world.fetches.length = (own.filter isAccepted).length ∧
      Accounts own after.2.world.fetches := by
  have haccounts := calls_account_for_fetches (Directory.builtin_shares answering) mixedCalls
    mixedAnswers
  exact ⟨by decide +kernel, haccounts⟩

end BlacklistSync

end FirewallPolicy
