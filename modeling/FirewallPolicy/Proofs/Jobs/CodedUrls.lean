import FirewallPolicy.Jobs.CodedUrl
import FirewallPolicy.Proofs.Jobs.HandedOn

/-!
# Jobs for texts with halves

Where the URL of a blacklist can be written, it makes no difference that its texts may have halves.

* `Directory.compile_coded`: what is compiled then is what the built-in jobs compile to.
* `Directory.compile_coded_entries`: whatever the URL is, the networks as they were read do as well
  as those of the document.
-/

namespace FirewallPolicy

variable {σ : Type} {source : BlacklistSync.Source σ} {raw : Value} {globals : List NetworkItem}

/-- The result of a run depends on a job's validation only as far as it validates what is given. -/
lemma Workflow.run_result_congr_validate {γ : Type} {name : String}
    {validate validate' : Value → List NetworkItem → Action σ γ}
    {steps : Direction → List (Step σ γ)} {isConfigured : γ → Bool} {d : Direction} (world : σ)
    (h : validate raw globals = validate' raw globals) :
    (Workflow.run { job := { name, validate, steps, isConfigured }, direction := d } raw globals
        world).1.result =
      (Workflow.run { job := { name, validate := validate', steps, isConfigured }, direction := d }
        raw globals world).1.result := by
  have hprogress : Job.progress { name, validate, steps, isConfigured } d raw globals =
      Job.progress { name, validate := validate', steps, isConfigured } d raw globals := by
    simp only [Job.progress, h]
    exact bind_congr fun validated => by cases validated <;> rfl
  simp only [Workflow.run, hprogress]
  generalize (Job.progress _ d raw globals).run world = reached
  obtain ⟨⟨index, context, log, failure⟩, after⟩ := reached
  cases failure <;> rfl

/-- For texts that may have halves one of the built-in jobs is replaced. -/
lemma Directory.coded_eq : Directory.coded source =
    [("prepare-netfilter", Prepare.job σ), ("sync-blacklist-ips", BlacklistSync.codedJob source),
      ("services/docker-dns-service", DnsForwarding.job σ),
      ("engines/services/generic-service", Service.job σ)] := by
  simp [coded, builtin_eq, register, insert, nameFor, BlacklistSync.codedJob, BlacklistSync.job]

/-- All jobs but the replaced one are the built-in jobs. -/
lemma Directory.find_coded {name : String} (hname : name ≠ "sync-blacklist-ips") :
    (Directory.coded source).find name = (Directory.builtin source).find name := by
  simp [find, coded_eq, builtin_eq, List.find?_cons, hname.symm]

lemma Directory.find_coded_blacklist : (Directory.coded source).find "sync-blacklist-ips" =
    .ok (BlacklistSync.codedJob source) := by
  simp [find, coded_eq]

/-- Where the URL of a blacklist has no halves that matter, the replaced job compiles to what the
built-in one compiles to. -/
theorem Directory.compile_coded (h : BlacklistConfig.uncoded? raw = none) (name : String)
    (token : Value) (world : σ) :
    ((Directory.coded source).compile name token raw globals world).1.result =
      ((Directory.builtin source).compile name token raw globals world).1.result := by
  by_cases hname : name = "sync-blacklist-ips"
  · subst hname
    cases htoken : Direction.ofToken? token with
    | none => simp only [compile, find_coded_blacklist, find_blacklist, Workflow.make, htoken]
    | some d =>
      rw [compile_result find_coded_blacklist htoken, compile_result (find_blacklist source) htoken]
      refine Workflow.run_result_congr_validate world ?_
      simp only [h]
      rfl
  · simp only [compile, find_coded hname]

/-- A job that is given the networks as they were read compiles to what it compiles to if it is
given the items of the document, for texts that may have halves too. -/
theorem Directory.compile_coded_entries {entries : List NetworkEntry}
    (h : NetworkEntry.readAll globals globalTrustedPath = .ok entries) (name : String)
    (token : Value) (world : σ) :
    ((Directory.coded source).compile name token raw (entries.map .entry) world).1.result =
      ((Directory.coded source).compile name token raw globals world).1.result := by
  by_cases hname : name = "sync-blacklist-ips"
  · subst hname
    refine compile_result_congr token (fun job hfind => ?_) world
    cases find_coded_blacklist.symm.trans hfind
    rfl
  · simp only [compile, find_coded hname]
    exact compile_entries h name token world

end FirewallPolicy
