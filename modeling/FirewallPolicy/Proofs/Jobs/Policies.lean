import FirewallPolicy.Proofs.Services.HostService

/-!
# What the built-in jobs make transcripts of

A policy is what one of the built-in jobs has read: a configuration, or the networks of a blacklist.

* `Policy.ReadFrom.unique`: in a document there is one policy for a job, unless it is a blacklist.
* `Directory.compile_ok`: whatever a built-in job compiles are the operations of a policy.
* `Policy.pasted`: the texts for addresses and networks that these operations take over from the
  document as they are.
-/

namespace FirewallPolicy

/-- What a built-in job has read. -/
inductive Policy where
  | host (config : PrepareConfig)
  | service (s : HostService)
  | blacklist (networks : List Address.Network)

namespace Policy

/-- A job of some name reads this policy in a document; what is on a blacklist stands elsewhere. -/
def ReadFrom (job : String) (raw : Value) (globals : List Value) : Policy → Prop
  | .host config => job = "prepare-netfilter" ∧ PrepareConfig.read raw globals = .ok config
  | .service s => job = s.jobName ∧ s.ReadFrom raw
  | .blacklist _ => job = "sync-blacklist-ips"

/-- A job reads one policy in a document, unless its policy stands elsewhere. -/
lemma ReadFrom.unique {job : String} {raw : Value} {globals : List Value} {policy policy' : Policy}
    (h : policy.ReadFrom job raw globals) (h' : policy'.ReadFrom job raw globals)
    (hjob : job ≠ "sync-blacklist-ips") : policy = policy' := by
  have hservice : ∀ s : HostService, s.jobName ≠ "prepare-netfilter" := by
    intro s
    cases s <;> simp [HostService.jobName]
  cases policy with
  | blacklist networks => exact absurd h hjob
  | host config =>
    cases policy' with
    | blacklist networks => exact absurd h' hjob
    | host config' => rw [Except.ok.inj (h.2.symm.trans h'.2)]
    | service s => exact absurd (h'.1.symm.trans h.1) (hservice s)
  | service s =>
    cases policy' with
    | blacklist networks => exact absurd h' hjob
    | host config => exact absurd (h.1.symm.trans h'.1) (hservice s)
    | service s' => rw [HostService.eq_of_readFrom (h.1.symm.trans h'.1) h.2 h'.2]

/-- The operations for a policy. -/
def operations : Policy → Direction → List Operation
  | .host config => Prepare.operations config
  | .service s => s.operations
  | .blacklist networks => BlacklistSync.operations (networks.map Address.Network.text)

/-- The addresses and networks that the operations take over from the document as they are. -/
def pasted : Policy → Direction → List String
  | .host config, .install =>
    config.trustedNetworks ++ config.interfaces.flatMap fun i => i.networks.map (·.value)
  | .service (.ports config), .install =>
    config.items.flatMap fun item => item.sources ++ item.destination.toList
  | .service (.names config), _ =>
    config.items.flatMap fun item => [item.sourceAddress, item.destinationAddress]
  | _, _ => []

end Policy

section Compiling

variable {σ : Type} {source : BlacklistSync.Source σ} {job : String} {token raw : Value}
  {globals : List Value} {world : σ} {transcript : Transcript}

/-- A transcript is for one of the two directions. -/
lemma Directory.exists_direction_of_compile {dir : Directory σ}
    (h : (dir.compile job token raw globals world).1.result = .ok transcript) :
    ∃ d, Direction.ofToken? token = some d := by
  cases htoken : Direction.ofToken? token with
  | some d => exact ⟨d, rfl⟩
  | none =>
    rw [Directory.compile] at h
    cases hfind : dir.find job with
    | error e => simp [hfind] at h
    | ok found => simp [hfind, Workflow.make, htoken] at h

/-- A transcript is made by a job of the directory. -/
lemma Directory.exists_job_of_compile {dir : Directory σ}
    (h : (dir.compile job token raw globals world).1.result = .ok transcript) :
    ∃ found, dir.find job = .ok found := by
  cases hfind : dir.find job with
  | ok found => exact ⟨found, rfl⟩
  | error e =>
    rw [Directory.compile] at h
    simp [hfind] at h

/-- The names of the built-in jobs. -/
lemma Directory.name_of_find {found : Job σ} (h : (Directory.builtin source).find job = .ok found) :
    job = "prepare-netfilter" ∨ job = "sync-blacklist-ips" ∨
      job = "services/docker-dns-service" ∨ job = "engines/services/generic-service" := by
  by_contra hnone
  simp only [not_or] at hnone
  obtain ⟨h₁, h₂, h₃, h₄⟩ := hnone
  simp [Directory.find, Directory.builtin_eq, Ne.symm h₁, Ne.symm h₂, Ne.symm h₃, Ne.symm h₄] at h

/-- Whatever a built-in job compiles are the operations of a policy that it has read. -/
theorem Directory.compile_ok
    (h : ((Directory.builtin source).compile job token raw globals world).1.result =
      .ok transcript) :
    ∃ (policy : Policy) (d : Direction), Direction.ofToken? token = some d ∧
      policy.ReadFrom job raw globals ∧
      transcript = (policy.operations d).map Operation.command := by
  obtain ⟨d, htoken⟩ := exists_direction_of_compile h
  obtain ⟨found, hfind⟩ := exists_job_of_compile h
  rcases name_of_find hfind with rfl | rfl | rfl | rfl
  · obtain ⟨config, hread, rfl⟩ := (compile_prepare_iff htoken).mp h
    exact ⟨.host config, d, htoken, ⟨rfl, hread⟩, rfl⟩
  · obtain ⟨networks, rfl⟩ := compile_blacklist htoken h
    exact ⟨.blacklist networks, d, htoken, rfl, rfl⟩
  · obtain ⟨config, hread, rfl⟩ := (compile_dns_iff htoken).mp h
    exact ⟨.service (.names config), d, htoken, ⟨rfl, hread⟩, rfl⟩
  · obtain ⟨config, hread, rfl⟩ := (compile_service_iff htoken).mp h
    exact ⟨.service (.ports config), d, htoken, ⟨rfl, hread⟩, rfl⟩

end Compiling

end FirewallPolicy
