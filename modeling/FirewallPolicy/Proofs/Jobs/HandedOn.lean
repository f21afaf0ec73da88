import FirewallPolicy.Proofs.Jobs.Policies
import FirewallPolicy.Proofs.Policy.SharedNetworks
import FirewallPolicy.Proofs.Policy.Validation

/-!
# What is handed on to a job

Besides its configuration a job is given the trusted networks that all hosts share.  A run keeps the
list as it was given, but its result depends on the validation alone, and of the built-in jobs only
one looks at the list there.

* `runSteps_sharing`: steps do not look at the list, by induction on them.
* `Directory.compile_result_congr`: lists that are validated alike give the same result.
* `Directory.compile_entries`: the networks as they were read do as well as those of the document.
-/

namespace FirewallPolicy

section

variable {σ γ : Type}

/-! ## Runs -/

/-- How far a run came, with another list of trusted networks. -/
def Progress.sharing {γ : Type} (p : Progress γ) (globals : List NetworkItem) : Progress γ :=
  { p with context := { p.context with globalTrusted := globals } }

/-- Steps do not look at the list of trusted networks. -/
lemma runSteps_sharing (job : String) (config : γ) (steps : List (Step σ γ)) (p : Progress γ)
    (globals : List NetworkItem) (world : σ) :
    (runSteps job config (p.sharing globals) steps).run world =
      (((runSteps job config p steps).run world).1.sharing globals,
        ((runSteps job config p steps).run world).2) := by
  induction steps generalizing p world with
  | nil => rfl
  | cons step steps ih =>
    cases hstep : (step.run config).run.run world with
    | mk answer world' =>
      cases answer with
      | ok k =>
        rw [runSteps_cons_ok job _ _ hstep, runSteps_cons_ok job _ _ hstep]
        exact ih
          { index := p.index + 1
            context := p.context.add k
            log := p.log ++ [stepBegun job .generating (p.index + 1) step.name] ++ k.log } world'
      | error e =>
        rw [runSteps_cons_error job _ _ hstep, runSteps_cons_error job _ _ hstep]
        rfl

variable {job : Job σ} {raw : Value} {globals globals' : List NetworkItem}

/-- Lists that are validated alike lead equally far. -/
lemma Job.progress_sharing (d : Direction)
    (h : job.validate raw globals = job.validate raw globals') (world : σ) :
    ((job.progress d raw globals').run world).1 =
      ((job.progress d raw globals).run world).1.sharing globals' := by
  rw [Job.progress, Job.progress, StateT.run_bind, StateT.run_bind, h]
  cases hvalidate : (job.validate raw globals').run.run world with
  | mk answer world' =>
    cases answer with
    | error e => rfl
    | ok config =>
      have hsteps := runSteps_sharing job.name config (job.steps d)
        { index := 0
          context :=
            { direction := d, jobConfiguration := raw, globalTrusted := globals,
              configuration := some config }
          log := [stepBegun job.name .validating 0 validationName] } globals' world'
      exact congrArg Prod.fst hsteps

/-- Lists that are validated alike give the same result. -/
lemma Workflow.run_result_congr (w : Workflow σ)
    (h : w.job.validate raw globals = w.job.validate raw globals') (world : σ) :
    (w.run raw globals world).1.result = (w.run raw globals' world).1.result := by
  have hresult : ∀ p : Progress w.job.Config,
      (w.outcome (p.sharing globals')).result = (w.outcome p).result := by
    intro p
    unfold outcome
    cases hfailure : p.failure <;> simp only [Progress.sharing, hfailure]
    rfl
  have hrun : ∀ list, (w.run raw list world).1.result =
      (w.outcome ((w.job.progress w.direction raw list).run world).1).result := fun _ => rfl
  rw [hrun, hrun, Job.progress_sharing w.direction h world, hresult]

/-- Compiling with lists that are validated alike gives the same result. -/
theorem Directory.compile_result_congr {dir : Directory σ} {name : String} (token : Value)
    (h : ∀ job, dir.find name = .ok job → job.validate raw globals = job.validate raw globals')
    (world : σ) :
    (dir.compile name token raw globals world).1.result =
      (dir.compile name token raw globals' world).1.result := by
  unfold Directory.compile
  cases hfind : dir.find name with
  | error e => rfl
  | ok job =>
    dsimp only
    cases hmake : Workflow.make job token with
    | error e => rfl
    | ok w =>
      have hjob : w.job = job := by
        unfold Workflow.make at hmake
        split at hmake <;> cases hmake
        rfl
      subst hjob
      exact w.run_result_congr (h _ hfind) world

end

/-! ## The built-in jobs -/

variable {σ : Type} {source : BlacklistSync.Source σ} {raw : Value}
  {globals globals' : List NetworkItem}

/-- The built-in jobs read the list of trusted networks or leave it aside. -/
lemma Directory.validate_congr
    (h : NetworkEntry.readAll globals globalTrustedPath =
      NetworkEntry.readAll globals' globalTrustedPath) {name : String} {job : Job σ}
    (hfind : (Directory.builtin source).find name = .ok job) :
    job.validate raw globals = job.validate raw globals' := by
  rcases name_of_find hfind with rfl | rfl | rfl | rfl
  · cases (find_prepare source).symm.trans hfind
    show validateBy (PrepareConfig.read raw globals) = validateBy (PrepareConfig.read raw globals')
    rw [PrepareConfig.read_eq, PrepareConfig.read_eq, h]
  · cases (find_blacklist source).symm.trans hfind
    rfl
  · cases (find_dns source).symm.trans hfind
    rfl
  · cases (find_service source).symm.trans hfind
    rfl

/-- A job that is given the networks as they were read compiles to what it compiles to if it is
given the items of the document. -/
theorem Directory.compile_entries {entries : List NetworkEntry}
    (h : NetworkEntry.readAll globals globalTrustedPath = .ok entries) (name : String)
    (token : Value) (world : σ) :
    ((Directory.builtin source).compile name token raw (entries.map .entry) world).1.result =
      ((Directory.builtin source).compile name token raw globals world).1.result := by
  have hsame : NetworkEntry.readAll (entries.map .entry) globalTrustedPath =
      NetworkEntry.readAll globals globalTrustedPath :=
    (NetworkEntry.readAll_entries entries _).trans h.symm
  exact compile_result_congr token (fun _ hfind => validate_congr hsame hfind) world

end FirewallPolicy
