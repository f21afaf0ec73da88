import FirewallPolicy.Proofs.Jobs.Policies
import FirewallPolicy.Proofs.Workflow.Runs

/-!
# What a failed run of a built-in job leaves

A run of a built-in job completes, or it fails before any step has contributed a command.

* `Step.NeverFails`: a step that contributes whatever the world is like.
* `completes_or_fails_first`: if only the first step of a job may fail, then a run that fails
  does so at its validation or at that step, and has gathered nothing.
* `run_completes_or_leaves_nothing`: this is so for all built-in jobs, and but for the job that asks
  a source no step fails at all.
-/

namespace FirewallPolicy

variable {σ γ : Type}

/-! ## How a run ends -/

/-- A run came to its end and gave a transcript. -/
structure Outcome.Completes (o : Outcome σ) : Prop where
  phase : o.workflow.phase = .completed
  result : ∃ transcript, o.result = .ok transcript

/-- A run failed at a step, by its index and its name, and there are no commands in its context. -/
structure Outcome.FailsAt (o : Outcome σ) (index : Nat) (step : String) (e : JobError) : Prop where
  phase : o.workflow.phase = .failed
  result : o.result = .error e
  stepIndex : o.workflow.stepIndex = index
  step : o.workflow.stepNames[index]? = some step
  nothing : ∃ c, o.workflow.context = some c ∧ c.install = [] ∧ c.uninstall = []

/-- A step that contributes whatever the world is like. -/
def Step.NeverFails (config : γ) (step : Step σ γ) : Prop :=
  ∀ world, ∃ k, answerIn (step.run config) world = .ok k

lemma Step.neverFails_pure (name : String) (f : γ → Contribution) (config : γ) :
    (Step.pure name f : Step σ γ).NeverFails config :=
  fun _ => ⟨f config, rfl⟩

/-- Steps that never fail are gone through to the end. -/
lemma runSteps_neverFails {job : String} {config : γ} {steps : List (Step σ γ)}
    (h : ∀ step ∈ steps, step.NeverFails config) (p : Progress γ) (hp : p.failure = none)
    (world : σ) : ((runSteps job config p steps).run world).1.failure = none := by
  induction steps generalizing p world with
  | nil => exact hp
  | cons step steps ih =>
    rw [List.forall_mem_cons] at h
    obtain ⟨k, hk⟩ := h.1 world
    have hrun : (step.run config).run.run world = (.ok k, worldLeft (step.run config) world) :=
      Prod.ext hk rfl
    rw [runSteps_cons_ok _ _ _ hrun]
    exact ih h.2 _ rfl _

section Outcomes

variable {w : Workflow σ} {p : Progress w.job.Config}

lemma Workflow.completes_outcome (h : p.failure = none) : (w.outcome p).Completes := by
  rw [Workflow.outcome, h]
  exact ⟨rfl, _, rfl⟩

lemma Workflow.failsAt_outcome {step : String} {e : JobError} (h : p.failure = some e)
    (hstep : w.stepNames[p.index]? = some step)
    (hnothing : p.context.install = [] ∧ p.context.uninstall = []) :
    (w.outcome p).FailsAt p.index step e := by
  rw [Workflow.outcome, h]
  exact ⟨rfl, rfl, rfl, hstep, _, rfl, hnothing⟩

end Outcomes

/-! ## Runs of one job -/

section Runs

variable {w : Workflow σ} {raw : Value} {globals : List NetworkItem} {world : σ}

/-- A run on a configuration that is refused fails at the validation. -/
lemma Workflow.failsAt_validation {e : JobError}
    (h : answerIn (w.job.validate raw globals) world = .error e) :
    (w.run raw globals world).1.FailsAt 0 validationName e := by
  have hvalidate : (w.job.validate raw globals).run.run world =
      (.error e, worldLeft (w.job.validate raw globals) world) := Prod.ext h rfl
  have hrun : ∃ log, (w.run raw globals world).1 = w.outcome
      { index := 0, context := gathered w.direction raw globals none [], log, failure := some e } := by
    rw [Workflow.run, Job.progress, StateT.run_bind, hvalidate]
    exact ⟨_, rfl⟩
  obtain ⟨log, hrun⟩ := hrun
  rw [hrun]
  exact failsAt_outcome rfl rfl ⟨rfl, rfl⟩

/-- A run on a configuration that is accepted gets to the steps. -/
lemma Workflow.run_of_validate_ok {config : w.job.Config}
    (h : answerIn (w.job.validate raw globals) world = .ok config) :
    ∃ (context : RunContext w.job.Config) (log : List LogEntry) (world' : σ),
      (context.install = [] ∧ context.uninstall = []) ∧
        (w.run raw globals world).1 =
          w.outcome ((runSteps w.job.name config { index := 0, context, log }
            (w.job.steps w.direction)).run world').1 := by
  have hvalidate : (w.job.validate raw globals).run.run world =
      (.ok config, worldLeft (w.job.validate raw globals) world) := Prod.ext h rfl
  refine ⟨gathered w.direction raw globals (some config) [],
    [stepBegun w.job.name .validating 0 validationName],
    worldLeft (w.job.validate raw globals) world, ⟨rfl, rfl⟩, ?_⟩
  rw [Workflow.run, Job.progress, StateT.run_bind, hvalidate]
  rfl

/-- Where no step fails, an accepted configuration is all a run needs. -/
lemma Workflow.completes_of_neverFails {config : w.job.Config}
    (h : answerIn (w.job.validate raw globals) world = .ok config)
    (hsteps : ∀ step ∈ w.job.steps w.direction, step.NeverFails config) :
    (w.run raw globals world).1.Completes := by
  obtain ⟨context, log, world', -, hrun⟩ := Workflow.run_of_validate_ok h
  rw [hrun]
  exact completes_outcome (runSteps_neverFails hsteps _ rfl _)

/-- Where only the first step may fail, a run that fails there has gathered nothing yet. -/
lemma Workflow.completes_or_fails_first {config : w.job.Config}
    {first : Step σ w.job.Config} {rest : List (Step σ w.job.Config)}
    (h : answerIn (w.job.validate raw globals) world = .ok config)
    (hsteps : w.job.steps w.direction = first :: rest)
    (hrest : ∀ step ∈ rest, step.NeverFails config) :
    (w.run raw globals world).1.Completes ∨
      ∃ e world', answerIn (first.run config) world' = .error e ∧
        (w.run raw globals world).1.FailsAt 1 first.name e := by
  obtain ⟨context, log, world', hnothing, hrun⟩ := Workflow.run_of_validate_ok h
  rw [hrun, hsteps]
  cases hfirst : answerIn (first.run config) world' with
  | ok k =>
    have hok : (first.run config).run.run world' = (.ok k, worldLeft (first.run config) world') :=
      Prod.ext hfirst rfl
    rw [runSteps_cons_ok _ _ _ hok]
    exact .inl (completes_outcome (runSteps_neverFails hrest _ rfl _))
  | error e =>
    have herror : (first.run config).run.run world' =
        (.error e, worldLeft (first.run config) world') := Prod.ext hfirst rfl
    refine .inr ⟨e, world', hfirst, ?_⟩
    rw [runSteps_cons_error _ _ _ herror]
    refine failsAt_outcome rfl ?_ hnothing
    rw [Workflow.stepNames, hsteps]
    rfl

end Runs

/-! ## Runs of the built-in jobs -/

/-- The steps of the built-in jobs that work on chains never fail. -/
lemma neverFails_chainJobs (d : Direction) :
    (∀ config, ∀ step ∈ (Prepare.job σ).steps d, step.NeverFails config) ∧
      (∀ config, ∀ step ∈ (Service.job σ).steps d, step.NeverFails config) ∧
      (∀ config, ∀ step ∈ (DnsForwarding.job σ).steps d, step.NeverFails config) := by
  have hpure : ∀ {γ : Type} (config : γ) (steps : List (PureStep γ)),
      ∀ step ∈ steps.map fun s => (Step.pure s.1 s.2 : Step σ γ), step.NeverFails config := by
    intro γ config steps step hstep
    obtain ⟨s, -, rfl⟩ := List.mem_map.mp hstep
    exact Step.neverFails_pure _ _ _
  refine ⟨fun config => ?_, fun config => ?_, fun config => ?_⟩
  · rw [Prepare.job_steps_eq]
    exact hpure config (Prepare.pureStepsOf d)
  · exact hpure config [("generateRules", Service.generateRules)]
  · exact hpure config [("generateRules", DnsForwarding.generateRules)]

/-- A run of a built-in job completes, or it fails and there are no commands in its context.  It
fails where the configuration is not read, or, for the one job that asks a source, at the step that
does so; on a configuration that was read, no step of the other jobs can fail. -/
theorem run_completes_or_leaves_nothing {source : BlacklistSync.Source σ} {name : String}
    {w : Workflow σ} (hfind : (Directory.builtin source).find name = .ok w.job) (raw : Value)
    (globals : List NetworkItem) (world : σ) :
    let o := (w.run raw globals world).1
    let read := answerIn (w.job.validate raw globals) world
    (o.Completes ∨ (∃ e, read = .error e ∧ o.FailsAt 0 "validateConfiguration" e) ∨
      (name = "sync-blacklist-ips" ∧ ∃ config e, read = .ok config ∧
        o.FailsAt 1 "fetchNetworks" e)) ∧
    (name ≠ "sync-blacklist-ips" → ∀ config, read = .ok config →
      (∀ step ∈ w.job.steps w.direction, step.NeverFails config) ∧ o.Completes) := by
  intro o read
  have hchains : ∀ config, read = .ok config → name ≠ "sync-blacklist-ips" →
      ∀ step ∈ w.job.steps w.direction, step.NeverFails config := by
    intro config _ hname
    obtain ⟨hprepare, hservice, hdns⟩ := neverFails_chainJobs (σ := σ) w.direction
    obtain ⟨job, d, phase, index, context⟩ := w
    rcases Directory.name_of_find hfind with rfl | rfl | rfl | rfl
    · cases (Directory.find_prepare source).symm.trans hfind
      exact hprepare config
    · exact absurd rfl hname
    · cases (Directory.find_dns source).symm.trans hfind
      exact hdns config
    · cases (Directory.find_service source).symm.trans hfind
      exact hservice config
  have hcompletes : ∀ config, read = .ok config → name ≠ "sync-blacklist-ips" → o.Completes :=
    fun config hconfig hname =>
      Workflow.completes_of_neverFails hconfig (hchains config hconfig hname)
  refine ⟨?_, fun hname config hconfig =>
    ⟨hchains config hconfig hname, hcompletes config hconfig hname⟩⟩
  cases hread : read with
  | error e => exact .inr (.inl ⟨e, rfl, Workflow.failsAt_validation hread⟩)
  | ok config =>
    by_cases hname : name = "sync-blacklist-ips"
    · obtain ⟨job, d, phase, index, context⟩ := w
      subst hname
      cases (Directory.find_blacklist source).symm.trans hfind
      rcases Workflow.completes_or_fails_first hread rfl (by simp) with h | ⟨e, -, -, h⟩
      · exact .inl h
      · exact .inr (.inr ⟨rfl, config, e, rfl, h⟩)
    · exact .inl (hcompletes config hread hname)

/-- A source that gives one network and an entry that is none. -/
def BlacklistSync.stainedSource : BlacklistSync.Source Unit :=
  fun _ => return [.text "10.0.0.0/8", .text "10.0.0.0/33"]

/-- A run that asks a source whose second entry is no network. -/
theorem stainedSource_completes_or_leaves_nothing :
    let name := "sync-blacklist-ips"
    let job := BlacklistSync.job BlacklistSync.stainedSource
    let w : Workflow Unit := { job, direction := .install }
    let raw : Value := .map [(.text "database",
      .map [(.text "connectionString", .text "postgres://host/db")])]
    let o := (w.run raw [] ()).1
    let read := answerIn (w.job.validate raw []) ()
    (Directory.builtin BlacklistSync.stainedSource).find name = .ok w.job ∧
    (o.Completes ∨ (∃ e, read = .error e ∧ o.FailsAt 0 "validateConfiguration" e) ∨
      (name = "sync-blacklist-ips" ∧ ∃ config e, read = .ok config ∧
        o.FailsAt 1 "fetchNetworks" e)) ∧
    (name ≠ "sync-blacklist-ips" → ∀ config, read = .ok config →
      (∀ step ∈ w.job.steps w.direction, step.NeverFails config) ∧ o.Completes) := by
  intro name job w raw o read
  have hfind : (Directory.builtin BlacklistSync.stainedSource).find name = .ok w.job :=
    Directory.find_blacklist _
  exact ⟨hfind, run_completes_or_leaves_nothing hfind raw [] ()⟩

end FirewallPolicy
