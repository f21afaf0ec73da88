import FirewallPolicy.Proofs.Jobs.Compiled
import FirewallPolicy.Proofs.Policy.Accepted
import FirewallPolicy.Proofs.Services.SharedHost

/-!
# The services of a host

A service is a configuration of one of the two jobs that make chains of their own and link them into
the chains for services.  Here are the names of its chains and the rules that it puts into them and
into the shared chains.

* `HostService.compile_iff`: what the job compiles an accepted document to.
* The `tidy_…` lemmas: no rule of a service jumps to a managed chain, but for the links to its own
  chains, and unless a rule that redirects queries reads like such a jump.
-/

namespace FirewallPolicy

open FirewallPolicy.ChainName
open Operation (appendRule insertRule deleteRule teardown)

/-- A service of a host: what the job that makes it has read. -/
inductive HostService where
  | ports (config : ServiceConfig)
  | names (config : DnsConfig)

namespace HostService

/-- The name of the job that makes a service. -/
def jobName : HostService → String
  | .ports _ => "engines/services/generic-service"
  | .names _ => "services/docker-dns-service"

/-- The job accepts a document and reads this service in it. -/
def ReadFrom (raw : Value) : HostService → Prop
  | .ports config => ServiceConfig.read raw = .ok config
  | .names config => DnsConfig.read raw = .ok config

/-- A job reads one service in a document. -/
lemma eq_of_readFrom {s s' : HostService} {raw : Value} (hjob : s.jobName = s'.jobName)
    (h : s.ReadFrom raw) (h' : s'.ReadFrom raw) : s = s' := by
  match s, s', hjob, h, h' with
  | .ports config, .ports config', _, h, h' => rw [Except.ok.inj (h.symm.trans h')]
  | .names config, .names config', _, h, h' => rw [Except.ok.inj (h.symm.trans h')]
  | .ports _, .names _, hjob, _, _ => simp [jobName] at hjob
  | .names _, .ports _, hjob, _, _ => simp [jobName] at hjob

/-- What the names of the two chains of a service have in common. -/
def chainName : HostService → String
  | .ports config => config.chainName
  | .names config => dnsMark ++ config.chainName

/-- The incoming chain of a service. -/
def chainIn (s : HostService) : String := ingress s.chainName

/-- The outgoing chain of a service. -/
def chainOut (s : HostService) : String := egress s.chainName

/-- The two chains of a service. -/
def ownChains (s : HostService) : List String := [s.chainIn, s.chainOut]

/-- The operations of a service. -/
def operations : HostService → Direction → List Operation
  | .ports config => Service.operations config
  | .names config => DnsForwarding.operations config

/-! ## The rules of a service -/

/-- The rule that links the incoming chain. -/
def linkIn (s : HostService) : String := (Rule.jump [] s.chainIn).text

/-- The rule that links the outgoing chain. -/
def linkOut (s : HostService) : String := (Rule.jump [] s.chainOut).text

/-- The rules of the incoming chain. -/
def inRules : HostService → List String
  | .ports config => (Service.inRules config).map Rule.text
  | .names config =>
    (config.items.flatMap fun item =>
      DnsForwarding.protocols.map fun p => (DnsForwarding.acceptRule item p).text) ++
    [Rule.leave.text]

/-- The rules that redirect queries, in the order in which they are inserted. -/
def redirects : HostService → List String
  | .ports _ => []
  | .names config => config.items.flatMap fun item =>
      DnsForwarding.protocols.map fun p => (DnsForwarding.redirectRule item p).text

/-- The rules that accept redirected queries, in the order in which they are inserted. -/
def forwards : HostService → List String
  | .ports _ => []
  | .names config => config.items.flatMap fun item =>
      DnsForwarding.protocols.map fun p => (DnsForwarding.forwardRule item p).text

/-- The rules of a service for queries in a shared chain, the newest first. -/
def queryRules (s : HostService) (c : String) : List String :=
  if c = "FORWARD" then s.forwards.reverse
  else if c = "PREROUTING" then s.redirects.reverse
  else []

/-- The rules of a service at the head of a shared chain, the newest first. -/
def headRules (s : HostService) (c : String) : List String :=
  if c = ingress services then [s.linkIn]
  else if c = egress services then [s.linkOut]
  else s.queryRules c

/-- No rule that redirects queries reads like a jump to a managed chain. -/
def RedirectsPlainly (s : HostService) : Prop :=
  ∀ rule ∈ s.redirects, ∀ c ∈ ruleTarget? rule, ¬ isManagedName c

instance (s : HostService) : Decidable s.RedirectsPlainly :=
  inferInstanceAs (Decidable (∀ rule ∈ s.redirects, ∀ c ∈ ruleTarget? rule, ¬ isManagedName c))

/-- No rule that redirects queries reads like a jump to a chain of the service itself. -/
def RedirectsElsewhere (s : HostService) : Prop :=
  ∀ rule ∈ s.redirects, ∀ c ∈ ruleTarget? rule, c ∉ s.ownChains

instance (s : HostService) : Decidable s.RedirectsElsewhere :=
  inferInstanceAs (Decidable (∀ rule ∈ s.redirects, ∀ c ∈ ruleTarget? rule, c ∉ s.ownChains))

/-- What is known of a service that was read. -/
def Valid : HostService → Prop
  | .ports config => config.Valid
  | .names config => config.Valid

lemma valid_of_readFrom {s : HostService} {raw : Value} (h : s.ReadFrom raw) : s.Valid := by
  cases s with
  | ports config => exact ServiceConfig.read_valid h
  | names config => exact DnsConfig.read_valid h

/-- A job compiles what it accepts to the operations of the service. -/
theorem compile_iff {σ : Type} {source : BlacklistSync.Source σ} {token raw : Value}
    {globals : List NetworkItem} {world : σ} {d : Direction} {transcript : Transcript} {s : HostService}
    (hread : s.ReadFrom raw) (htoken : Direction.ofToken? token = some d) :
    ((Directory.builtin source).compile s.jobName token raw globals world).1.result =
        .ok transcript ↔
      transcript = (s.operations d).map Operation.command := by
  cases s with
  | ports config =>
    rw [jobName, Directory.compile_service_iff htoken]
    have hread' : ServiceConfig.read raw = .ok config := hread
    simp [hread', operations]
  | names config =>
    rw [jobName, Directory.compile_dns_iff htoken]
    have hread' : DnsConfig.read raw = .ok config := hread
    simp [hread', operations]

/-- The transcripts of a service. -/
def transcript (s : HostService) (d : Direction) : Transcript :=
  (s.operations d).map Operation.command

/-- A job compiles what it accepts to the transcripts of the service. -/
lemma compile_eq_transcript {σ : Type} {source : BlacklistSync.Source σ} {raw : Value}
    {globals : List NetworkItem} {world : σ} {s : HostService} (hread : s.ReadFrom raw) (d : Direction) :
    ((Directory.builtin source).compile s.jobName (.text d.name) raw globals world).1.result =
      .ok (s.transcript d) := by
  have htoken : Direction.ofToken? (.text d.name) = some d := by cases d <;> decide +kernel
  exact (compile_iff hread htoken).mpr rfl

/-! ## Names -/

section Names

variable {s : HostService}

/-- No blank stands in the names of the chains. -/
lemma blank_notMem_chainName (h : s.Valid) : ' ' ∉ s.chainName.toList := by
  cases s with
  | ports config => exact h.chainName.blank_notMem
  | names config =>
    have hmark : ' ' ∉ dnsMark.toList := by decide
    have hname : ' ' ∉ config.chainName.toList := h.chainName.blank_notMem
    simp [chainName, hmark, hname]

lemma isManagedName_ownChains : ∀ c ∈ s.ownChains, isManagedName c := by
  intro c hc
  simp only [ownChains, List.mem_cons, List.not_mem_nil, or_false] at hc
  rcases hc with rfl | rfl
  · exact isManagedName_ingress _
  · exact isManagedName_egress _

lemma RedirectsPlainly.elsewhere (h : s.RedirectsPlainly) : s.RedirectsElsewhere :=
  fun rule hrule c hc hown => h rule hrule c hc (isManagedName_ownChains c hown)

end Names

/-! ## The rules keep to the service -/

section Rules

variable {s : HostService}

/-- The rules for a port accept, and look into no set. -/
lemma itemRules_spec {item : ServiceItem} {r : Rule} (hr : r ∈ Service.itemRules item) :
    r.action = "ACCEPT" ∧ ∀ set side, .inSet set side ∉ r.conditions := by
  unfold Service.itemRules at hr
  split at hr
  · rw [List.mem_singleton.mp hr]
    refine ⟨rfl, fun set side h => ?_⟩
    cases item.destination <;> simp at h
  · obtain ⟨source, -, rfl⟩ := List.mem_map.mp hr
    refine ⟨rfl, fun set side h => ?_⟩
    cases item.destination <;> simp at h

/-- The rules for a port ask for the port. -/
lemma itemRules_conditions_ne_nil {item : ServiceItem} {r : Rule}
    (hr : r ∈ Service.itemRules item) : r.conditions ≠ [] := by
  unfold Service.itemRules at hr
  split at hr
  · rw [List.mem_singleton.mp hr]
    simp
  · obtain ⟨source, -, rfl⟩ := List.mem_map.mp hr
    simp

lemma tidy_inRules (own : List String) : ∀ rule ∈ s.inRules, Tidy own rule := by
  intro rule hrule
  cases s with
  | ports config =>
    obtain ⟨r, hr, rfl⟩ := List.mem_map.mp hrule
    rcases List.mem_append.mp hr with hr | hr
    · obtain ⟨item, -, hr⟩ := List.mem_flatMap.mp hr
      obtain ⟨haction, hset⟩ := itemRules_spec hr
      refine tidy_of_action (by rw [haction]; decide) (by rw [haction]; decide) ?_
      intro set side h
      exact hset set side (List.mem_of_head? h)
    · rw [List.mem_singleton.mp hr]
      exact tidy_leave
  | names config =>
    rcases List.mem_append.mp hrule with hrule | hrule
    · obtain ⟨item, -, hrule⟩ := List.mem_flatMap.mp hrule
      obtain ⟨p, -, rfl⟩ := List.mem_map.mp hrule
      exact tidy_of_action (by simp [DnsForwarding.acceptRule])
        (by simp [DnsForwarding.acceptRule, isManagedName]) (by simp [DnsForwarding.acceptRule])
    · rw [List.mem_singleton.mp hrule]
      exact tidy_leave

lemma tidy_forwards (own : List String) : ∀ rule ∈ s.forwards, Tidy own rule := by
  intro rule hrule
  cases s with
  | ports config => cases hrule
  | names config =>
    obtain ⟨item, -, hrule⟩ := List.mem_flatMap.mp hrule
    obtain ⟨p, -, rfl⟩ := List.mem_map.mp hrule
    exact tidy_of_action (by simp [DnsForwarding.forwardRule])
      (by simp [DnsForwarding.forwardRule, isManagedName]) (by simp [DnsForwarding.forwardRule])

lemma matchedSet?_redirects : ∀ rule ∈ s.redirects, matchedSet? rule = none := by
  intro rule hrule
  cases s with
  | ports config => cases hrule
  | names config =>
    obtain ⟨item, -, hrule⟩ := List.mem_flatMap.mp hrule
    obtain ⟨p, -, rfl⟩ := List.mem_map.mp hrule
    exact Rule.matchedSet?_text_eq_none (by simp [DnsForwarding.redirectRule])

lemma tidy_redirects (own : List String) (h : s.RedirectsPlainly) :
    ∀ rule ∈ s.redirects, Tidy own rule := fun rule hrule =>
  ⟨fun c hc hmanaged => absurd hmanaged (h rule hrule c hc), matchedSet?_redirects rule hrule⟩

lemma tidy_linkIn (h : s.Valid) : Tidy s.ownChains s.linkIn :=
  tidy_jump (blank_notMem_ingress (blank_notMem_chainName h)) (by simp [ownChains])

lemma tidy_linkOut (h : s.Valid) : Tidy s.ownChains s.linkOut :=
  tidy_jump (blank_notMem_egress (blank_notMem_chainName h)) (by simp [ownChains])

end Rules

end HostService

end FirewallPolicy
