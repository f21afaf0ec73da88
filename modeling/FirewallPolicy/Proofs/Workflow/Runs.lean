import FirewallPolicy.Jobs.Scripted
import FirewallPolicy.Proofs.Jobs.Compiled
import Mathlib.Data.List.Forall2

/-!
# The runs of a workflow

A workflow may be run again and again.  What a run gives depends on its own request alone, provided
that the job gives the same answers whatever happened before it was asked.

* `runSteps_append`: what steps that succeed do to a run, by induction on them.
* `exists_adds_or_fails`: all steps succeed, or one of them is the first that fails.
* `Job.Course`: the three ways in which a run of a job can go.
* `Workflow.run_after_runs`: every run goes one of these ways, whatever ran before it.
-/

namespace FirewallPolicy

variable {σ γ : Type}

/-! ## Answers -/

/-- What an action answers in a world. -/
def answerIn {α : Type} (a : Action σ α) (world : σ) : Except JobError α := (a.run.run world).1

/-- The world that an action leaves. -/
def worldLeft {α : Type} (a : Action σ α) (world : σ) : σ := (a.run.run world).2

/-- An action that gives one answer in all worlds.  It may still leave its mark on a world, and so a
world can keep a record of what was done in it. -/
def AlwaysAnswers {α : Type} (a : Action σ α) (answer : Except JobError α) : Prop :=
  ∀ world : σ, answerIn a world = answer

/-- An action that does not ask the world for its answer. -/
def IsStateless {α : Type} (a : Action σ α) : Prop :=
  ∀ world world' : σ, answerIn a world = answerIn a world'

/-- An action that does not ask the world always succeeds, or it always fails. -/
lemma IsStateless.ok_or_error {α : Type} {a : Action σ α} (h : IsStateless a) (world : σ) :
    (∃ x, AlwaysAnswers a (.ok x)) ∨ ∃ e, AlwaysAnswers a (.error e) := by
  have hanswers : AlwaysAnswers a (answerIn a world) := fun world' => h world' world
  cases hanswer : answerIn a world with
  | ok x =>
    rw [hanswer] at hanswers
    exact .inl ⟨x, hanswers⟩
  | error e =>
    rw [hanswer] at hanswers
    exact .inr ⟨e, hanswers⟩

/-- An action has no two answers. -/
lemma AlwaysAnswers.eq {α : Type} {a : Action σ α} {answer answer' : Except JobError α}
    (h : AlwaysAnswers a answer) (h' : AlwaysAnswers a answer') (world : σ) : answer = answer' :=
  (h world).symm.trans (h' world)

/-- An action is its answer and the world that it leaves. -/
lemma AlwaysAnswers.run_eq {α : Type} {a : Action σ α} {answer : Except JobError α}
    (h : AlwaysAnswers a answer) (world : σ) : a.run.run world = (answer, worldLeft a world) :=
  Prod.ext (h world) rfl

/-- A step that contributes. -/
def Step.Adds (config : γ) (step : Step σ γ) (k : Contribution) : Prop :=
  AlwaysAnswers (step.run config) (.ok k)

/-- A step that fails. -/
def Step.Fails (config : γ) (step : Step σ γ) (e : JobError) : Prop :=
  AlwaysAnswers (step.run config) (.error e)

/-- The world after steps ran in it, once each and one after the other. -/
def worldAfter (config : γ) (steps : List (Step σ γ)) (world : σ) : σ :=
  steps.foldl (fun world step => worldLeft (step.run config) world) world

/-! ## Steps -/

/-- A context with what several steps add, in the order of the steps. -/
def RunContext.addAll (c : RunContext γ) (ks : List Contribution) : RunContext γ :=
  { c with
    install := c.install ++ ks.flatMap (·.install)
    uninstall := c.uninstall ++ ks.flatMap (·.uninstall) }

@[simp]
lemma RunContext.addAll_nil (c : RunContext γ) : c.addAll [] = c := by
  simp [addAll]

@[simp]
lemma RunContext.addAll_cons (c : RunContext γ) (k : Contribution) (ks : List Contribution) :
    c.addAll (k :: ks) = (c.add k).addAll ks := by
  simp [addAll, add]

section Steps

variable {job : String} {config : γ} {step : Step σ γ} {begun : List (Step σ γ)}
  {ks : List Contribution}

/-- Steps that contribute are gone through in order, and their contributions add up. -/
lemma runSteps_append (job : String) (h : List.Forall₂ (Step.Adds config) begun ks)
    (index : Nat) (context : RunContext γ) (log : List LogEntry) (rest : List (Step σ γ))
    (world : σ) :
    ∃ log', (runSteps job config { index, context, log } (begun ++ rest)).run world =
      (runSteps job config
        { index := index + begun.length, context := context.addAll ks, log := log' }
        rest).run (worldAfter config begun world) := by
  -- The world a step leaves is the one the next step runs in, so the world is general here, as are
  -- the index and what was gathered before.
  induction h generalizing index context log world with
  | nil =>
    refine ⟨log, ?_⟩
    rw [RunContext.addAll_nil]
    rfl
  | @cons step k begun ks hstep _ ih =>
    obtain ⟨log', hrest⟩ := ih (index + 1) (context.add k)
      (log ++ [stepBegun job .generating (index + 1) step.name] ++ k.log)
      (worldLeft (step.run config) world)
    refine ⟨log', ?_⟩
    rw [List.cons_append, runSteps_cons_ok _ _ _ (AlwaysAnswers.run_eq hstep world), hrest,
      RunContext.addAll_cons, List.length_cons, Nat.add_assoc, Nat.add_comm 1]
    rfl

/-- Steps that do not ask the world all contribute, or one of them is the first that fails. -/
lemma exists_adds_or_fails {steps : List (Step σ γ)}
    (h : ∀ step ∈ steps, IsStateless (step.run config)) (world : σ) :
    (∃ ks, List.Forall₂ (Step.Adds config) steps ks) ∨
      ∃ begun step rest ks e, steps = begun ++ step :: rest ∧
        List.Forall₂ (Step.Adds config) begun ks ∧ step.Fails config e := by
  induction steps with
  | nil => exact .inl ⟨[], .nil⟩
  | cons step steps ih =>
    rw [List.forall_mem_cons] at h
    rcases h.1.ok_or_error world with ⟨k, hadds⟩ | ⟨e, hfails⟩
    · rcases ih h.2 with ⟨ks, hks⟩ | ⟨begun, failing, rest, ks, e, rfl, hks, hfails⟩
      · exact .inl ⟨k :: ks, .cons hadds hks⟩
      · exact .inr ⟨step :: begun, failing, rest, k :: ks, e, rfl, .cons hadds hks, hfails⟩
    · exact .inr ⟨[], step, steps, [], e, rfl, .nil, hfails⟩

/-- How far steps come does not depend on the world if none of them asks it. -/
lemma runSteps_world {steps : List (Step σ γ)}
    (h : ∀ step ∈ steps, IsStateless (step.run config)) (p : Progress γ) (world world' : σ) :
    ((runSteps job config p steps).run world).1 = ((runSteps job config p steps).run world').1 := by
  induction steps generalizing p world world' with
  | nil => rfl
  | cons step steps ih =>
    rw [List.forall_mem_cons] at h
    rcases h.1.ok_or_error world with ⟨k, hadds⟩ | ⟨e, hfails⟩
    · rw [runSteps_cons_ok _ _ _ (hadds.run_eq world), runSteps_cons_ok _ _ _ (hadds.run_eq world')]
      exact ih h.2 _ _ _
    · rw [runSteps_cons_error _ _ _ (hfails.run_eq world),
        runSteps_cons_error _ _ _ (hfails.run_eq world')]

end Steps

/-! ## Runs -/

/-- A job that gives the same answers whatever happened before it was asked. -/
structure Job.IsStateless (job : Job σ) : Prop where
  validate : ∀ raw globals, FirewallPolicy.IsStateless (job.validate raw globals)
  steps : ∀ d, ∀ step ∈ job.steps d, ∀ config, FirewallPolicy.IsStateless (step.run config)

/-- The validation of a job and all its steps for a direction succeed. -/
def Job.Succeeds (job : Job σ) (d : Direction) (raw : Value) (globals : List NetworkItem) : Prop :=
  ∃ config, AlwaysAnswers (job.validate raw globals) (.ok config) ∧
    ∀ step ∈ job.steps d, ∃ k, step.Adds config k

/-- What a run was given, the configuration as it was read, and what it gathered of the
contributions of steps. -/
def gathered (d : Direction) (raw : Value) (globals : List NetworkItem) (configuration : Option γ)
    (ks : List Contribution) : RunContext γ where
  direction := d
  jobConfiguration := raw
  globalTrusted := globals
  configuration := configuration
  install := ks.flatMap (·.install)
  uninstall := ks.flatMap (·.uninstall)

/-- How a run of a job in a world goes: what is to be seen of the workflow after it, what it gives
and which world it leaves. -/
inductive Job.Course (job : Job σ) (d : Direction) (raw : Value) (globals : List NetworkItem)
    (world : σ) : Workflow σ → Except JobError Transcript → σ → Prop
  /-- The configuration is refused, and no step is begun. -/
  | refused {e : JobError} (hvalidate : AlwaysAnswers (job.validate raw globals) (.error e)) :
    Course job d raw globals world
      { job, direction := d, phase := .failed, stepIndex := 0
        context := some (gathered d raw globals none []) }
      (.error e) (worldLeft (job.validate raw globals) world)
  /-- Some steps contribute, and the one behind them fails; no step behind that one is begun. -/
  | stopped {config : job.Config} {begun rest : List (Step σ job.Config)}
    {step : Step σ job.Config} {ks : List Contribution} {e : JobError}
    (hvalidate : AlwaysAnswers (job.validate raw globals) (.ok config))
    (hsteps : job.steps d = begun ++ step :: rest)
    (hbegun : List.Forall₂ (Step.Adds config) begun ks) (hstep : step.Fails config e) :
    Course job d raw globals world
      { job, direction := d, phase := .failed, stepIndex := begun.length + 1
        context := some (gathered d raw globals (some config) ks) }
      (.error e)
      (worldAfter config (begun ++ [step]) (worldLeft (job.validate raw globals) world))
  /-- All steps contribute. -/
  | completed {config : job.Config} {ks : List Contribution}
    (hvalidate : AlwaysAnswers (job.validate raw globals) (.ok config))
    (hsteps : List.Forall₂ (Step.Adds config) (job.steps d) ks) :
    Course job d raw globals world
      { job, direction := d, phase := .completed, stepIndex := (job.steps d).length
        context := some (gathered d raw globals (some config) ks) }
      (.ok (ks.flatMap (·.side d)))
      (worldAfter config (job.steps d) (worldLeft (job.validate raw globals) world))

section Runs

variable {job : Job σ} {d : Direction} {raw : Value} {globals : List NetworkItem}

/-- The begin of a run on a configuration. -/
lemma Job.progress_of_ok {config : job.Config}
    (h : AlwaysAnswers (job.validate raw globals) (.ok config)) (world : σ) :
    (job.progress d raw globals).run world =
      (runSteps job.name config
        { index := 0
          context := gathered d raw globals (some config) []
          log := [stepBegun job.name .validating 0 validationName] }
        (job.steps d)).run (worldLeft (job.validate raw globals) world) := by
  rw [Job.progress, StateT.run_bind, h.run_eq]
  rfl

/-- A run on a configuration that is refused is over. -/
lemma Job.progress_of_error {e : JobError}
    (h : AlwaysAnswers (job.validate raw globals) (.error e)) (world : σ) :
    (job.progress d raw globals).run world =
      ({ index := 0
         context := gathered d raw globals none []
         log := [stepBegun job.name .validating 0 validationName] ++
           [stepFailed job.name validationName e]
         failure := some e }, worldLeft (job.validate raw globals) world) := by
  rw [Job.progress, StateT.run_bind, h.run_eq]
  rfl

lemma gathered_addAll (d : Direction) (raw : Value) (globals : List NetworkItem)
    (configuration : Option γ) (ks : List Contribution) :
    (gathered d raw globals configuration []).addAll ks = gathered d raw globals configuration ks :=
  rfl

/-- A run on a configuration that is refused. -/
lemma Job.course_of_refused {e : JobError}
    (hvalidate : AlwaysAnswers (job.validate raw globals) (.error e)) (world : σ) :
    let after := Workflow.run { job, direction := d } raw globals world
    job.Course d raw globals world after.1.workflow after.1.result after.2 := by
  intro after
  simp only [after, Workflow.run, Job.progress_of_error hvalidate]
  exact .refused hvalidate

/-- A run in which a step fails. -/
lemma Job.course_of_stopped {config : job.Config} {begun rest : List (Step σ job.Config)}
    {step : Step σ job.Config} {ks : List Contribution} {e : JobError}
    (hvalidate : AlwaysAnswers (job.validate raw globals) (.ok config))
    (hsteps : job.steps d = begun ++ step :: rest)
    (hbegun : List.Forall₂ (Step.Adds config) begun ks) (hstep : step.Fails config e)
    (world : σ) :
    let after := Workflow.run { job, direction := d } raw globals world
    job.Course d raw globals world after.1.workflow after.1.result after.2 := by
  intro after
  obtain ⟨log, hrun⟩ := runSteps_append job.name hbegun 0
    (gathered d raw globals (some config) [])
    [stepBegun job.name .validating 0 validationName] (step :: rest)
    (worldLeft (job.validate raw globals) world)
  have hworld : worldLeft (step.run config)
      (worldAfter config begun (worldLeft (job.validate raw globals) world)) =
      worldAfter config (begun ++ [step]) (worldLeft (job.validate raw globals) world) := by
    unfold worldAfter
    rw [List.foldl_append]
    rfl
  rw [runSteps_cons_error _ _ _ (AlwaysAnswers.run_eq hstep _), Nat.zero_add, gathered_addAll,
    hworld, ← hsteps, ← Job.progress_of_ok hvalidate] at hrun
  simp only [after, Workflow.run, hrun]
  exact .stopped hvalidate hsteps hbegun hstep

/-- A run in which all steps contribute. -/
lemma Job.course_of_completed {config : job.Config} {ks : List Contribution}
    (hvalidate : AlwaysAnswers (job.validate raw globals) (.ok config))
    (hsteps : List.Forall₂ (Step.Adds config) (job.steps d) ks) (world : σ) :
    let after := Workflow.run { job, direction := d } raw globals world
    job.Course d raw globals world after.1.workflow after.1.result after.2 := by
  intro after
  obtain ⟨log, hrun⟩ := runSteps_append job.name hsteps 0
    (gathered d raw globals (some config) [])
    [stepBegun job.name .validating 0 validationName] []
    (worldLeft (job.validate raw globals) world)
  rw [List.append_nil, ← Job.progress_of_ok hvalidate, Nat.zero_add, gathered_addAll] at hrun
  have htranscript : (gathered d raw globals (some config) ks).transcript =
      ks.flatMap (·.side d) := by
    cases d <;> rfl
  have hcourse : job.Course d raw globals world _ (.ok (ks.flatMap (·.side d))) _ :=
    .completed hvalidate hsteps
  rw [← htranscript] at hcourse
  simp only [after, Workflow.run, hrun]
  exact hcourse

/-- Every run of a job that asks no world goes one of the three ways. -/
lemma Job.course_run (hjob : job.IsStateless) (world : σ) :
    let after := Workflow.run { job, direction := d } raw globals world
    job.Course d raw globals world after.1.workflow after.1.result after.2 := by
  rcases (hjob.validate raw globals).ok_or_error world with ⟨config, hvalidate⟩ | ⟨e, hvalidate⟩
  · rcases exists_adds_or_fails (fun step hstep => hjob.steps d step hstep config) world with
      ⟨ks, hks⟩ | ⟨begun, step, rest, ks, e, hsteps, hks, hfails⟩
    · exact Job.course_of_completed hvalidate hks world
    · exact Job.course_of_stopped hvalidate hsteps hks hfails world
  · exact Job.course_of_refused hvalidate world

/-- What a run gives does not depend on the world if the job asks none. -/
lemma Job.run_world (hjob : job.IsStateless) (world world' : σ) :
    (Workflow.run { job, direction := d } raw globals world).1 =
      (Workflow.run { job, direction := d } raw globals world').1 := by
  have hprogress : ((job.progress d raw globals).run world).1 =
      ((job.progress d raw globals).run world').1 := by
    rcases (hjob.validate raw globals).ok_or_error world with ⟨config, hvalidate⟩ | ⟨e, hvalidate⟩
    · rw [Job.progress_of_ok hvalidate, Job.progress_of_ok hvalidate]
      exact runSteps_world (fun step hstep => hjob.steps d step hstep config) _ _ _
    · rw [Job.progress_of_error hvalidate, Job.progress_of_error hvalidate]
  exact congrArg (Workflow.outcome { job, direction := d }) hprogress

/-- A run that goes one of the three ways ends, and it completes exactly if everything succeeds. -/
lemma Job.Course.phase {world world' : σ} {w : Workflow σ} {result : Except JobError Transcript}
    (h : job.Course d raw globals world w result world') :
    (w.phase = .completed ∨ w.phase = .failed) ∧
      (w.phase = .completed ↔ job.Succeeds d raw globals) := by
  cases h with
  | refused hvalidate =>
    refine ⟨.inr rfl, nofun, ?_⟩
    intro ⟨config, hsucceeds, _⟩
    cases hvalidate.eq hsucceeds world
  | @stopped config begun rest step ks e hvalidate hsteps hbegun hstep =>
    refine ⟨.inr rfl, nofun, ?_⟩
    intro ⟨config', hsucceeds, hall⟩
    cases hvalidate.eq hsucceeds world
    obtain ⟨k, hadds⟩ := hall step (by rw [hsteps]; exact List.mem_append_cons_self)
    cases hstep.eq hadds world
  | @completed config ks hvalidate hsteps =>
    have hall : ∀ step ∈ job.steps d, ∃ k, step.Adds config k :=
      ((List.forall₂_and_left _ _).mp (hsteps.imp fun _ k hk => ⟨⟨k, hk⟩, hk⟩)).1
    exact ⟨.inl rfl, fun _ => ⟨config, hvalidate, hall⟩, fun _ => rfl⟩

/-- A job that only computes asks no world. -/
lemma Job.isStateless_of_pure {read : Value → List NetworkItem → Reading job.Config}
    {steps : Direction → List (PureStep job.Config)}
    (hvalidate : ∀ raw globals, job.validate raw globals = validateBy (read raw globals))
    (hsteps : ∀ d, job.steps d = (steps d).map fun s => Step.pure s.1 s.2) : job.IsStateless where
  validate := by
    intro raw globals world world'
    rw [hvalidate]
    cases read raw globals <;> rfl
  steps := by
    intro d step hstep config world world'
    rw [hsteps] at hstep
    obtain ⟨s, -, rfl⟩ := List.mem_map.mp hstep
    rfl

/-- The built-in jobs that work on chains ask no world. -/
lemma isStateless_chainJobs :
    (Prepare.job σ).IsStateless ∧ (Service.job σ).IsStateless ∧
      (DnsForwarding.job σ).IsStateless := by
  have hservice : ∀ d, (Service.job σ).steps d =
      ([("generateRules", Service.generateRules)] : List (PureStep ServiceConfig)).map
        fun s => Step.pure s.1 s.2 := fun _ => rfl
  have hdns : ∀ d, (DnsForwarding.job σ).steps d =
      ([("generateRules", DnsForwarding.generateRules)] : List (PureStep DnsConfig)).map
        fun s => Step.pure s.1 s.2 := fun _ => rfl
  exact ⟨Job.isStateless_of_pure (fun _ _ => rfl) Prepare.job_steps_eq,
    Job.isStateless_of_pure (fun _ _ => rfl) hservice,
    Job.isStateless_of_pure (fun _ _ => rfl) hdns⟩

/-- A job given as data asks no world; it only notes its calls. -/
lemma ScriptedJob.isStateless_noting (j : ScriptedJob) (slot : Nat) :
    (j.noting slot).IsStateless where
  validate := by
    intro raw globals world world'
    unfold noting
    cases j.invalid <;> rfl
  steps := by
    intro d step hstep config world world'
    have hmem : step ∈ j.steps.map (·.noting slot) := by
      unfold noting at hstep
      simp only at hstep
      split at hstep
      · exact List.mem_reverse.mp hstep
      · exact hstep
    obtain ⟨s, -, rfl⟩ := List.mem_map.mp hmem
    unfold ScriptedStep.noting
    cases s.contribution <;> rfl

end Runs

/-! ## Histories -/

/-- What a run is asked for: a configuration, and the networks that all hosts trust. -/
structure RunRequest where
  raw : Value
  globalTrusted : List NetworkItem

namespace Workflow

/-- A workflow and the world after several runs, one after the other. -/
def afterRuns (w : Workflow σ) (world : σ) : List RunRequest → Workflow σ × σ
  | [] => (w, world)
  | request :: rest =>
    let (outcome, world) := w.run request.raw request.globalTrusted world
    outcome.workflow.afterRuns world rest

/-- A workflow without the traces of a run. -/
def untouched (w : Workflow σ) : Workflow σ := { job := w.job, direction := w.direction }

/-- A run does not look at the traces of earlier ones. -/
lemma run_untouched (w : Workflow σ) (raw : Value) (globals : List NetworkItem) (world : σ) :
    w.untouched.run raw globals world = w.run raw globals world := by
  have houtcome : w.untouched.outcome = w.outcome := by
    funext p
    unfold outcome
    cases p.failure <;> rfl
  simp only [run, houtcome]
  rfl

/-- A run changes nothing of a workflow but the traces of runs. -/
lemma untouched_run (w : Workflow σ) (raw : Value) (globals : List NetworkItem) (world : σ) :
    (w.run raw globals world).1.workflow.untouched = w.untouched := by
  unfold run outcome
  split
  split <;> rfl

/-- Nor do several runs. -/
lemma untouched_afterRuns (w : Workflow σ) (world : σ) (requests : List RunRequest) :
    (w.afterRuns world requests).1.untouched = w.untouched := by
  induction requests generalizing w world with
  | nil => rfl
  | cons request requests ih =>
    unfold afterRuns
    rw [ih, untouched_run]

/-- A workflow that was just made has no traces of a run. -/
lemma eq_of_make {job : Job σ} {token : Value} {w : Workflow σ} (h : make job token = .ok w) :
    w = { job, direction := w.direction } := by
  unfold make at h
  split at h
  · cases h
    rfl
  · cases h

/-- A workflow of a job that asks no world is pending until it is run.  Whatever runs went before, a
run ends as completed or failed and gives what it would give as the first one; it is completed
exactly if the validation and all steps succeed; and it goes one of the three ways, of which each
tells how far it comes, what it gathers and gives, and what was done in the world. -/
theorem run_after_runs {job : Job σ} {token : Value} {w : Workflow σ} (hjob : job.IsStateless)
    (hmake : make job token = .ok w) (earlier : List RunRequest) (raw : Value)
    (globals : List NetworkItem) (world : σ) :
    (w.phase = .pending ∧ w.stepIndex = -1 ∧ w.context = none) ∧
      let before := w.afterRuns world earlier
      let after := before.1.run raw globals before.2
      (after.1.workflow.phase = .completed ∨ after.1.workflow.phase = .failed) ∧
        (∀ first : σ, after.1 = (w.run raw globals first).1) ∧
        (after.1.workflow.phase = .completed ↔ job.Succeeds w.direction raw globals) ∧
        job.Course w.direction raw globals before.2 after.1.workflow after.1.result after.2 := by
  have hw := eq_of_make hmake
  refine ⟨by rw [hw]; exact ⟨rfl, rfl, rfl⟩, ?_⟩
  intro before after
  have hrun : after = Workflow.run { job, direction := w.direction } raw globals before.2 := by
    have hbefore : before.1.untouched = { job, direction := w.direction } := by
      rw [untouched_afterRuns, hw]
      rfl
    rw [← hbefore, run_untouched]
  have hcourse : job.Course w.direction raw globals before.2 after.1.workflow after.1.result
      after.2 := by
    rw [hrun]
    exact Job.course_run hjob before.2
  refine ⟨hcourse.phase.1, ?_, hcourse.phase.2, hcourse⟩
  intro first
  rw [hrun, hw]
  exact Job.run_world hjob before.2 first

/-- A job given as data of which the second of three steps fails. -/
def stumbling : ScriptedJob where
  name := "stumbling"
  steps :=
    [{ name := "first"
       install := [⟨.text "iptables-4", "-N IN_a"⟩]
       uninstall := [⟨.text "iptables-4", "-X IN_a"⟩] },
      { name := "second", failure := some "boom" }, { name := "third" }]

/-- The third run of a workflow, of which a step fails. -/
theorem stumbling_run_after_runs :
    let job := stumbling.noting 0
    let w : Workflow Journal := { job, direction := .install }
    (w.phase = .pending ∧ w.stepIndex = -1 ∧ w.context = none) ∧
      let before := w.afterRuns [{}] [⟨.null, []⟩, ⟨.text "x", [.raw .null, .entry ⟨"10.0.0.0/8", ""⟩]⟩]
      let after := before.1.run (.text "y") [] before.2
      (after.1.workflow.phase = .completed ∨ after.1.workflow.phase = .failed) ∧
        (∀ first : Journal, after.1 = (w.run (.text "y") [] first).1) ∧
        (after.1.workflow.phase = .completed ↔ job.Succeeds w.direction (.text "y") []) ∧
        job.Course w.direction (.text "y") [] before.2 after.1.workflow after.1.result after.2 := by
  have hmake : make (stumbling.noting 0) (.text "install") =
      .ok { job := stumbling.noting 0, direction := .install } := rfl
  exact run_after_runs (stumbling.isStateless_noting 0) hmake
    [⟨.null, []⟩, ⟨.text "x", [.raw .null, .entry ⟨"10.0.0.0/8", ""⟩]⟩] (.text "y") [] [{}]

end Workflow

end FirewallPolicy
