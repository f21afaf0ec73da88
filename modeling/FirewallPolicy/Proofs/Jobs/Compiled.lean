import FirewallPolicy.Jobs.Builtin
import Mathlib.Tactic.Common

/-!
# What the built-in jobs compile to

Compiling a built-in job gives a transcript exactly if the configuration is accepted, and then the
transcript is the list of commands of the operations that the job has for the configuration.

* `runSteps_pure`: steps that only compute add their contributions up.
* `Directory.compile_prepare_iff`, `Directory.compile_service_iff`, `Directory.compile_dns_iff`: the
  three jobs that work on chains.
* `Directory.compile_blacklist`: the job that fills the set of blocked networks.
-/

namespace FirewallPolicy

/-! ## Steps that only compute -/

/-- A step under a name that only computes its contribution. -/
abbrev PureStep (γ : Type) := String × (γ → Contribution)

/-- Steps that only compute run to the end, add their contributions up and leave the world alone. -/
theorem runSteps_pure {σ γ : Type} (job : String) (config : γ) (steps : List (PureStep γ))
    (p : Progress γ) (world : σ) (hp : p.failure = none) :
    ∃ q : Progress γ,
      (runSteps job config p (steps.map fun s => Step.pure s.1 s.2)).run world = (q, world) ∧
      q.failure = none ∧ q.context.direction = p.context.direction ∧
      q.context.install = p.context.install ++ steps.flatMap (fun s => (s.2 config).install) ∧
      q.context.uninstall =
        p.context.uninstall ++ steps.flatMap fun s => (s.2 config).uninstall := by
  induction steps generalizing p with
  | nil => exact ⟨p, rfl, hp, rfl, by simp, by simp⟩
  | cons s steps ih =>
    obtain ⟨q, hrun, hfail, hdir, hinst, hun⟩ := ih
      { index := p.index + 1, context := p.context.add (s.2 config),
        log := p.log ++ [stepBegun job .generating (p.index + 1) s.1] ++ (s.2 config).log } rfl
    refine ⟨q, hrun, hfail, hdir, ?_, ?_⟩
    · rw [hinst]
      simp [RunContext.add]
    · rw [hun]
      simp [RunContext.add]

/-- What a step contributes in a direction. -/
def Contribution.side (k : Contribution) : Direction → Transcript
  | .install => k.install
  | .uninstall => k.uninstall

/-- What steps that only compute contribute in a direction. -/
def pureTranscript {γ : Type} (steps : List (PureStep γ)) (config : γ) (d : Direction) :
    Transcript :=
  steps.flatMap fun s => (s.2 config).side d

/-- Where the configuration is not read, no step is run. -/
lemma Job.run_of_read_error {σ : Type} {job : Job σ} {d : Direction} {raw : Value}
    {globals : List NetworkItem} {read : Reading job.Config} {cause : ReadError} (world : σ)
    (hvalidate : job.validate raw globals = validateBy read) (hread : read = .error cause) :
    (Workflow.run { job, direction := d } raw globals world).1.result =
      .error (.configuration cause) := by
  have hprogress : ∃ p : Progress job.Config, (job.progress d raw globals).run world = (p, world) ∧
      p.failure = some (.configuration cause) := by
    rw [Job.progress, hvalidate, hread]
    exact ⟨_, rfl, rfl⟩
  obtain ⟨p, hp, hfail⟩ := hprogress
  simp [Workflow.run, hp, Workflow.outcome, hfail]

/-- A job of computing steps gives a transcript exactly for the configurations that it accepts. -/
theorem Job.run_pure_iff {σ : Type} {job : Job σ} {d : Direction} {raw : Value}
    {globals : List NetworkItem} {read : Reading job.Config} {steps : List (PureStep job.Config)}
    {world : σ} {transcript : Transcript} (hvalidate : job.validate raw globals = validateBy read)
    (hsteps : job.steps d = steps.map fun s => Step.pure s.1 s.2) :
    (Workflow.run { job, direction := d } raw globals world).1.result = .ok transcript ↔
      ∃ config, read = .ok config ∧ transcript = pureTranscript steps config d := by
  cases hread : read with
  | error cause =>
    rw [Job.run_of_read_error world hvalidate hread]
    simp
  | ok config =>
    obtain ⟨q, hq, hfail, hdir, hinst, hun⟩ := runSteps_pure job.name config steps
      { index := 0
        context :=
          { direction := d, jobConfiguration := raw, globalTrusted := globals,
            configuration := some config }
        log := [stepBegun job.name .validating 0 validationName] } world rfl
    have hprogress : (job.progress d raw globals).run world = (q, world) := by
      rw [← hq, Job.progress, hvalidate, hread, hsteps]
      rfl
    have htranscript : q.context.transcript = pureTranscript steps config d := by
      cases d
      · simpa [RunContext.transcript, hdir, pureTranscript, Contribution.side] using hinst
      · simpa [RunContext.transcript, hdir, pureTranscript, Contribution.side] using hun
    simp [Workflow.run, hprogress, Workflow.outcome, hfail, htranscript, eq_comm]

/-! ## Step by step -/

section FirstStep

variable {σ γ : Type} {config : γ} {step : Step σ γ} {world world' : σ}

/-- Without steps a run stays where it is. -/
lemma runSteps_nil (name : String) (p : Progress γ) :
    (runSteps name config p ([] : List (Step σ γ))).run world = (p, world) := rfl

/-- A step that succeeds is gone through, and the rest of the steps follows. -/
lemma runSteps_cons_ok (name : String) (p : Progress γ) (rest : List (Step σ γ)) {k : Contribution}
    (h : (step.run config).run.run world = (.ok k, world')) :
    (runSteps name config p (step :: rest)).run world =
      (runSteps name config
        { index := p.index + 1
          context := p.context.add k
          log := p.log ++ [stepBegun name .generating (p.index + 1) step.name] ++ k.log }
        rest).run world' := by
  rw [runSteps, StateT.run_bind, h]
  rfl

/-- A step that fails is the last one. -/
lemma runSteps_cons_error (name : String) (p : Progress γ) (rest : List (Step σ γ)) {e : JobError}
    (h : (step.run config).run.run world = (.error e, world')) :
    (runSteps name config p (step :: rest)).run world =
      ({ index := p.index + 1
         context := p.context
         log := p.log ++ [stepBegun name .generating (p.index + 1) step.name] ++
           [stepFailed name step.name e]
         failure := some e }, world') := by
  rw [runSteps, StateT.run_bind, h]
  rfl

end FirstStep

/-- What a job of one step gives for a configuration that it accepts is what the step gives. -/
theorem Job.run_single {σ : Type} {job : Job σ} {d : Direction} {raw : Value}
    {globals : List NetworkItem} {config : job.Config} {step : Step σ job.Config} (world : σ)
    (hvalidate : job.validate raw globals = validateBy (.ok config))
    (hsteps : job.steps d = [step]) :
    (Workflow.run { job, direction := d } raw globals world).1.result =
      ((step.run config).run.run world).1.map (·.side d) := by
  let start : Progress job.Config :=
    { index := 0
      context :=
        { direction := d, jobConfiguration := raw, globalTrusted := globals,
          configuration := some config }
      log := [stepBegun job.name .validating 0 validationName] }
  have hstart : (job.progress d raw globals).run world =
      (runSteps job.name config start [step]).run world := by
    rw [Job.progress, hvalidate, hsteps]
    rfl
  cases hstep : (step.run config).run.run world with
  | mk answer world' =>
    cases answer with
    | error cause =>
      rw [runSteps_cons_error _ _ _ hstep] at hstart
      simp [Workflow.run, hstart, Workflow.outcome, Except.map]
    | ok k =>
      have htranscript : (start.context.add k).transcript = k.side d := by
        cases d <;> simp [start, RunContext.transcript, RunContext.add, Contribution.side]
      rw [runSteps_cons_ok _ _ _ hstep, runSteps_nil] at hstart
      simp [Workflow.run, hstart, Workflow.outcome, htranscript, Except.map]

/-- A job of one step that gives a transcript has accepted the configuration, and its step has
succeeded. -/
theorem Job.run_single_ok {σ : Type} {job : Job σ} {d : Direction} {raw : Value}
    {globals : List NetworkItem} {read : Reading job.Config} {step : Step σ job.Config}
    {world : σ} {transcript : Transcript} (hvalidate : job.validate raw globals = validateBy read)
    (hsteps : job.steps d = [step])
    (h : (Workflow.run { job, direction := d } raw globals world).1.result = .ok transcript) :
    ∃ config k world', read = .ok config ∧ (step.run config).run.run world = (.ok k, world') ∧
      transcript = k.side d := by
  cases hread : read with
  | error cause =>
    rw [Job.run_of_read_error world hvalidate hread] at h
    cases h
  | ok config =>
    subst hread
    rw [Job.run_single world hvalidate hsteps] at h
    cases hstep : (step.run config).run.run world with
    | mk answer world' =>
      rw [hstep] at h
      cases answer with
      | error cause => cases h
      | ok k =>
        cases h
        exact ⟨config, k, world', rfl, hstep, rfl⟩

/-! ## Finding a job -/

/-- What a job compiles to is what a workflow of it gives. -/
lemma Directory.compile_result {σ : Type} {dir : Directory σ} {name : String} {job : Job σ}
    {token raw : Value} {globals : List NetworkItem} {world : σ} {d : Direction}
    (hfind : dir.find name = .ok job) (htoken : Direction.ofToken? token = some d) :
    (dir.compile name token raw globals world).1.result =
      (Workflow.run { job, direction := d } raw globals world).1.result := by
  simp [Directory.compile, hfind, Workflow.make, htoken]

section Builtin

variable {σ : Type} (source : BlacklistSync.Source σ)

/-- The four built-in jobs under their names. -/
lemma Directory.builtin_eq : Directory.builtin source =
    [("prepare-netfilter", Prepare.job σ), ("sync-blacklist-ips", BlacklistSync.job source),
      ("services/docker-dns-service", DnsForwarding.job σ),
      ("engines/services/generic-service", Service.job σ)] := by
  simp [Directory.builtin, Directory.register, Directory.insert, Directory.nameFor, Prepare.job,
    BlacklistSync.job, DnsForwarding.job, Service.job]

lemma Directory.find_prepare :
    (Directory.builtin source).find "prepare-netfilter" = .ok (Prepare.job σ) := by
  simp [Directory.find, Directory.builtin_eq]

lemma Directory.find_blacklist :
    (Directory.builtin source).find "sync-blacklist-ips" = .ok (BlacklistSync.job source) := by
  simp [Directory.find, Directory.builtin_eq]

lemma Directory.find_dns :
    (Directory.builtin source).find "services/docker-dns-service" =
      .ok (DnsForwarding.job σ) := by
  simp [Directory.find, Directory.builtin_eq]

lemma Directory.find_service :
    (Directory.builtin source).find "engines/services/generic-service" = .ok (Service.job σ) := by
  simp [Directory.find, Directory.builtin_eq]

end Builtin

/-! ## The transcripts of the built-in jobs -/

/-- The operations of the job that prepares a host, step by step. -/
def Prepare.operations (config : PrepareConfig) : Direction → List Operation
  | .install => vitalInstall config ++ blockInstall ++ servicesInstall ++ trustedInstall config ++
      rootInstall config
  | .uninstall => rootUninstall config ++ trustedUninstall ++ servicesUninstall ++
      blockUninstall ++ vitalUninstall

/-- The steps of the job that prepares a host, in the order of an installation. -/
def Prepare.pureSteps : List (PureStep PrepareConfig) :=
  [("generateVitalAccessChain", generateVital), ("generateBlockNetworkChain", generateBlock),
    ("generateServiceAccessChain", generateServices),
    ("generateTrustedNetworkChain", generateTrusted), ("generateRootAccessChains", generateRoot)]

/-- The steps of the job that prepares a host, in the order of a direction. -/
def Prepare.pureStepsOf : Direction → List (PureStep PrepareConfig)
  | .install => pureSteps
  | .uninstall => pureSteps.reverse

lemma Prepare.job_steps_eq {σ : Type} (d : Direction) :
    (Prepare.job σ).steps d = (pureStepsOf d).map fun s => Step.pure s.1 s.2 := by
  cases d <;> rfl

/-- The operations of the job that opens the ports of a service. -/
def Service.operations (config : ServiceConfig) : Direction → List Operation
  | .install => install config
  | .uninstall => uninstall config

/-- The operations of the job that forwards name queries. -/
def DnsForwarding.operations (config : DnsConfig) : Direction → List Operation
  | .install => install config
  | .uninstall => uninstall config

/-- The operations of the job that synchronises the blacklist, for the networks on it. -/
def BlacklistSync.operations (networks : List String) : Direction → List Operation
  | .install => install networks
  | .uninstall => uninstall

/-- What the only step of the job that synchronises the blacklist contributes was made of what the
source returned. -/
lemma BlacklistSync.contribution_of_fetchNetworks {σ : Type} {source : Source σ}
    {config : BlacklistConfig} {world world' : σ} {k : Contribution}
    (h : ((fetchNetworks source).run config).run.run world = (.ok k, world')) :
    ∃ entries, contribution entries = .ok k := by
  cases hasked : (source config).run.run world with
  | mk answer world₁ =>
    rw [fetchNetworks, ExceptT.run_bind, StateT.run_bind, hasked] at h
    cases answer with
    | error e => cases h
    | ok entries =>
      cases hk : contribution entries with
      | error e =>
        simp only [Bind.bind, hk] at h
        cases h
      | ok k' =>
        simp only [Bind.bind, hk] at h
        cases h
        exact ⟨entries, hk⟩

/-- That contribution is made of networks in their normal form. -/
lemma BlacklistSync.exists_networks_of_contribution {entries : List Value} {k : Contribution}
    (h : contribution entries = .ok k) :
    ∃ (networks : List Address.Network) (log : List LogEntry), k =
      .ofOperations (install (networks.map Address.Network.text)) uninstall log := by
  simp only [contribution, Blacklist.normalize] at h
  cases hread : Blacklist.readNetworks entries with
  | error e => simp [hread, Except.map] at h
  | ok networks =>
    simp only [hread, Except.map, Except.ok.injEq] at h
    exact ⟨Blacklist.sortNetworks networks, _, h.symm⟩

section Transcripts

variable {σ : Type} {source : BlacklistSync.Source σ} {token raw : Value} {globals : List NetworkItem}
  {world : σ} {d : Direction} {transcript : Transcript}

/-- Preparing a host compiles for the accepted configurations, to the operations of that job. -/
theorem Directory.compile_prepare_iff (htoken : Direction.ofToken? token = some d) :
    ((Directory.builtin source).compile "prepare-netfilter" token raw globals world).1.result =
        .ok transcript ↔
      ∃ config, PrepareConfig.read raw globals = .ok config ∧
        transcript = (Prepare.operations config d).map Operation.command := by
  have hrun : (Workflow.run { job := Prepare.job σ, direction := d } raw globals world).1.result =
      .ok transcript ↔
      ∃ config : PrepareConfig, PrepareConfig.read raw globals = .ok config ∧
        transcript = pureTranscript (Prepare.pureStepsOf d) config d :=
    Job.run_pure_iff rfl (Prepare.job_steps_eq d)
  have htext : ∀ config, pureTranscript (Prepare.pureStepsOf d) config d =
      (Prepare.operations config d).map Operation.command := by
    intro config
    cases d <;> simp [Prepare.pureStepsOf, pureTranscript, Prepare.pureSteps, Prepare.operations,
      Prepare.generateVital, Prepare.generateBlock, Prepare.generateServices,
      Prepare.generateTrusted, Prepare.generateRoot, Contribution.ofOperations, Contribution.side]
  rw [Directory.compile_result (Directory.find_prepare source) htoken, hrun]
  exact exists_congr fun config => by rw [htext]

/-- Opening the ports of a service compiles for the accepted configurations, to the operations of
that job. -/
theorem Directory.compile_service_iff (htoken : Direction.ofToken? token = some d) :
    ((Directory.builtin source).compile "engines/services/generic-service" token raw globals
        world).1.result = .ok transcript ↔
      ∃ config, ServiceConfig.read raw = .ok config ∧
        transcript = (Service.operations config d).map Operation.command := by
  let steps : List (PureStep ServiceConfig) := [("generateRules", Service.generateRules)]
  have hrun : (Workflow.run { job := Service.job σ, direction := d } raw globals world).1.result =
      .ok transcript ↔
      ∃ config : ServiceConfig, ServiceConfig.read raw = .ok config ∧
        transcript = pureTranscript steps config d := Job.run_pure_iff rfl rfl
  have htext : ∀ config, pureTranscript steps config d =
      (Service.operations config d).map Operation.command := by
    intro config
    cases d <;> simp [steps, pureTranscript, Service.operations, Service.generateRules,
      Contribution.ofOperations, Contribution.side]
  rw [Directory.compile_result (Directory.find_service source) htoken, hrun]
  exact exists_congr fun config => by rw [htext]

/-- Forwarding name queries compiles for the accepted configurations, to the operations of that
job. -/
theorem Directory.compile_dns_iff (htoken : Direction.ofToken? token = some d) :
    ((Directory.builtin source).compile "services/docker-dns-service" token raw globals
        world).1.result = .ok transcript ↔
      ∃ config, DnsConfig.read raw = .ok config ∧
        transcript = (DnsForwarding.operations config d).map Operation.command := by
  let steps : List (PureStep DnsConfig) := [("generateRules", DnsForwarding.generateRules)]
  have hrun : (Workflow.run { job := DnsForwarding.job σ, direction := d } raw globals
      world).1.result = .ok transcript ↔
      ∃ config : DnsConfig, DnsConfig.read raw = .ok config ∧
        transcript = pureTranscript steps config d := Job.run_pure_iff rfl rfl
  have htext : ∀ config, pureTranscript steps config d =
      (DnsForwarding.operations config d).map Operation.command := by
    intro config
    cases d <;> simp [steps, pureTranscript, DnsForwarding.operations,
      DnsForwarding.generateRules, Contribution.ofOperations, Contribution.side]
  rw [Directory.compile_result (Directory.find_dns source) htoken, hrun]
  exact exists_congr fun config => by rw [htext]

/-- Synchronising the blacklist compiles, if it does, to the operations of that job for some
networks, whatever the source returns. -/
theorem Directory.compile_blacklist (htoken : Direction.ofToken? token = some d)
    (h : ((Directory.builtin source).compile "sync-blacklist-ips" token raw globals
      world).1.result = .ok transcript) :
    ∃ networks : List Address.Network, transcript =
      (BlacklistSync.operations (networks.map Address.Network.text) d).map Operation.command := by
  rw [Directory.compile_result (Directory.find_blacklist source) htoken] at h
  obtain ⟨config, k, world', -, hstep, rfl⟩ := Job.run_single_ok rfl rfl h
  obtain ⟨entries, hk⟩ := BlacklistSync.contribution_of_fetchNetworks hstep
  obtain ⟨networks, log, rfl⟩ := BlacklistSync.exists_networks_of_contribution hk
  exact ⟨networks, by cases d <;> rfl⟩

end Transcripts

end FirewallPolicy
