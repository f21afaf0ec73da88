import FirewallPolicy.Proofs.Jobs.Policies
import FirewallPolicy.Proofs.Prepare.SafeRuns
import FirewallPolicy.Proofs.Services.SafeRuns

/-!
# Which policies are put into force safely

A script that stops in between leaves the host with what its first commands have made.  For every
policy that makes chains this is safe on every host that lacks them, unless the policy redirects
queries by a rule that reads like a jump to one of these chains.

* `Transcript.IsNewTo`: a host lacks what a transcript makes.
* `Policy.runs_safely_iff`: the policies whose two transcripts can stop anywhere.
-/

namespace FirewallPolicy

open Firewall (unguarded)

/-- Nothing that a transcript makes is there, and no rule asks for it. -/
structure Transcript.IsNewTo (t : Transcript) (f : Firewall) : Prop where
  chain : ∀ c, t.MakesChain c → f.chain? c = none
  unreferred : ∀ c, t.MakesChain c → ¬ f.Refers c
  set : ∀ s, t.MakesSet s → f.set? s = none
  unmatched : ∀ s, t.MakesSet s → ¬ f.Matches s

namespace Policy

/-- The transcripts of a policy. -/
def transcript (policy : Policy) (d : Direction) : Transcript :=
  (policy.operations d).map Operation.command

/-- The chains that have to be there before a policy is put into force. -/
def needs : Policy → List String
  | .host _ => ["INPUT", "OUTPUT"]
  | .service s => s.needs
  | .blacklist _ => []

/-- A host on which a policy can be put into force. -/
structure MayStartOn (policy : Policy) (f : Firewall) : Prop where
  needs : ∀ c ∈ policy.needs, (f.chain? c).isSome
  isNew : (policy.transcript .install).IsNewTo f

/-- A policy can be put into force on a host and taken back, and both may stop at every point. -/
def RunsSafelyOn (policy : Policy) (f : Firewall) : Prop :=
  ∃ g e, InstallsSafely f.entryChains (policy.transcript .install) f g ∧
    UninstallsSafely f.entryChains (policy.transcript .uninstall) g e

/-- No rule that redirects queries reads like a jump to a chain that the policy makes. -/
def RedirectsElsewhere : Policy → Prop
  | .service s => s.RedirectsElsewhere
  | _ => True

variable {f : Firewall} {config : PrepareConfig} {s : HostService}

/-- A host that lacks what preparing it makes is not prepared. -/
lemma MayStartOn.unprepared (h : (host config).MayStartOn f) : Unprepared f := by
  have hchain : ∀ c ∈ Prepare.managedChains, ((host config).transcript .install).MakesChain c :=
    fun c hc => (Transcript.makesChain_iff Prepare.wellFormed_operations).mpr
      (Prepare.newChain_mem_install hc)
  have hset : ∀ s ∈ Prepare.managedSets, ((host config).transcript .install).MakesSet s :=
    fun s hs => (Transcript.makesSet_iff Prepare.wellFormed_operations).mpr
      ⟨_, Prepare.createSet_mem_install hs⟩
  refine ⟨h.needs "INPUT" (by simp [Policy.needs]), h.needs "OUTPUT" (by simp [Policy.needs]), ?_⟩
  constructor
  case chain => exact fun c hc => h.isNew.chain c (hchain c hc)
  case unreferred => exact fun c hc => h.isNew.unreferred c (hchain c hc)
  case set => exact fun s hs => h.isNew.set s (hset s hs)
  case unmatched => exact fun s hs => h.isNew.unmatched s (hset s hs)

/-- What a service makes are its own chains. -/
lemma mayStartOn_service_iff (hvalid : s.Valid) :
    (service s).MayStartOn f ↔ s.AbsentFrom f := by
  have hwf : ∀ op ∈ s.operations .install, op.WellFormed := fun _ hop =>
    HostService.wellFormed_operations hvalid hop
  have hchain : ∀ c, ((service s).transcript .install).MakesChain c ↔ c ∈ s.ownChains := fun c =>
    (Transcript.makesChain_iff hwf).trans
      ⟨HostService.mem_ownChains_of_newChain, HostService.newChain_mem_install⟩
  have hset : ∀ set, ¬ ((service s).transcript .install).MakesSet set := by
    intro set hmakes
    obtain ⟨type, hmem⟩ := (Transcript.makesSet_iff hwf).mp hmakes
    exact HostService.createSet_notMem_install hmem
  constructor
  · rintro ⟨hneeds, hnew⟩
    exact ⟨hneeds, fun c hc => hnew.chain c ((hchain c).mpr hc),
      fun c hc => hnew.unreferred c ((hchain c).mpr hc)⟩
  · rintro ⟨hneeds, habsent, hunreferred⟩
    refine ⟨hneeds, ?_⟩
    constructor
    case chain => exact fun c hc => habsent c ((hchain c).mp hc)
    case unreferred => exact fun c hc => hunreferred c ((hchain c).mp hc)
    case set => exact fun set h => absurd h (hset set)
    case unmatched => exact fun set h => absurd h (hset set)

section Compiling

variable {σ : Type} {source : BlacklistSync.Source σ} {job : String} {raw : Value}
  {globals : List Value} {policy : Policy}

/-- What a job has read is compiled to the transcripts of the policy. -/
lemma compile_eq_transcript (hread : policy.ReadFrom job raw globals)
    (hjob : job ≠ "sync-blacklist-ips") (d : Direction) (world : σ) :
    ((Directory.builtin source).compile job (.text d.name) raw globals world).1.result =
      .ok (policy.transcript d) := by
  cases policy with
  | host config =>
    obtain ⟨rfl, hconfig⟩ := hread
    exact Prepare.compile_eq_transcript hconfig d
  | service s =>
    obtain ⟨rfl, hservice⟩ := hread
    exact HostService.compile_eq_transcript hservice d
  | blacklist networks => exact absurd hread hjob

/-- A policy that makes chains is put into force and taken back safely on every host that lacks
them, exactly if no rule that redirects queries reads like a jump to one of them. -/
theorem runs_safely_iff (hread : policy.ReadFrom job raw globals)
    (hjob : job ≠ "sync-blacklist-ips") :
    (∀ (d : Direction) (world : σ),
      ((Directory.builtin source).compile job (.text d.name) raw globals world).1.result =
        .ok (policy.transcript d)) ∧
    ((∀ f, policy.MayStartOn f → policy.RunsSafelyOn f) ↔ policy.RedirectsElsewhere) := by
  refine ⟨compile_eq_transcript hread hjob, ?_⟩
  cases policy with
  | host config =>
    obtain ⟨-, hconfig⟩ := hread
    refine iff_of_true (fun f hstart => ?_) trivial
    exact Prepare.runs_safely (PrepareConfig.read_valid hconfig) hstart.unprepared
  | service s =>
    have hvalid := HostService.valid_of_readFrom hread.2
    constructor
    · intro hsafe
      by_contra h
      obtain ⟨hstart, hunsafe⟩ := HostService.not_runs_safely hvalid h
      exact hunsafe (hsafe _ ((mayStartOn_service_iff hvalid).mpr hstart))
    · intro h f hstart
      exact HostService.runs_safely hvalid h ((mayStartOn_service_iff hvalid).mp hstart)
  | blacklist networks => exact absurd hread hjob

end Compiling

end Policy

/-! ## Two name services on one host -/

/-- A plain name service runs safely, even where all packets pass its redirections. -/
theorem resolver_runs_safely :
    (∀ d : Direction, ((Directory.builtin (BlacklistSync.databaseSource Unit)).compile
      "services/docker-dns-service" (.text d.name) resolverDocument [] ()).1.result =
        .ok ((Policy.service (webAndResolver false)).transcript d)) ∧
    (Policy.service (webAndResolver false)).RunsSafelyOn HostService.relayHost := by
  have hread : (Policy.service (webAndResolver false)).ReadFrom "services/docker-dns-service"
      resolverDocument [] := ⟨rfl, Except.eq_ok_of_toOption (by decide +kernel)⟩
  have helsewhere : (webAndResolver false).RedirectsElsewhere := by decide +kernel
  have hstart : (Policy.service (webAndResolver false)).MayStartOn HostService.relayHost :=
    (Policy.mayStartOn_service_iff (HostService.valid_of_readFrom hread.2)).mpr
      (HostService.absentFrom_relayHost _)
  have hpolicy := @Policy.runs_safely_iff Unit (BlacklistSync.databaseSource Unit) _ _ _ _ hread
    (by decide)
  refine ⟨fun d => ?_, ?_⟩
  · simpa only [List.map_nil] using hpolicy.1 d ()
  · exact hpolicy.2.mpr helsewhere _ hstart

/-- A forwarding to an address whose scope reads like a jump to a chain of the service itself. -/
def loopingForward : DnsForward where
  interface := "eth0"
  sourceAddress := "10.0.0.1"
  destinationAddress := "fe80::1%y -j IN_dns_x"
  destinationPort := 53
  sourcePort := 53

/-- The name service with that forwarding. -/
def loopingService : HostService := .names { chainName := "x:53", items := [loopingForward] }

/-- A document with that name service. -/
def loopingDocument : Value :=
  .map [(.text "chainName", .text "x:53"), (.text "network", .map [(.text "items", .list [.map
    [(.text "sourceLinkName", .text "eth0"), (.text "sourceIpAddress", .text "10.0.0.1"),
      (.text "destinationIpAddress", .text "fe80::1%y -j IN_dns_x"),
      (.text "destinationPortNumber", .int 53)]])])]

/-- Its transcripts are compiled, and it can be installed on that host, but when it is uninstalled
there, one of its chains is emptied while packets reach it. -/
theorem loopingService_flushed :
    (∀ d : Direction, ((Directory.builtin (BlacklistSync.databaseSource Unit)).compile
      "services/docker-dns-service" (.text d.name) loopingDocument [] ()).1.result =
        .ok ((Policy.service loopingService).transcript d)) ∧
    (Policy.service loopingService).MayStartOn HostService.relayHost ∧
    (∃ g g' first c rest,
      HostService.relayHost.run unguarded ((Policy.service loopingService).transcript .install) =
        some g ∧
      (Policy.service loopingService).transcript .uninstall =
        first ++ (Operation.flushChain c).command :: rest ∧
      g.run unguarded first = some g' ∧ g'.Reaches HostService.relayHost.entryChains c) ∧
    ¬ (Policy.service loopingService).RunsSafelyOn HostService.relayHost := by
  have hread : (Policy.service loopingService).ReadFrom "services/docker-dns-service"
      loopingDocument [] := ⟨rfl, Except.eq_ok_of_toOption (by decide +kernel)⟩
  have hvalid : loopingService.Valid := HostService.valid_of_readFrom hread.2
  have hloops : ¬ loopingService.RedirectsElsewhere := by decide +kernel
  obtain ⟨hstart, hflush⟩ := HostService.flushes_reached_chain hvalid hloops
  refine ⟨fun d => ?_, ?_, hflush, ?_⟩
  · simpa only [List.map_nil] using Policy.compile_eq_transcript hread (by decide) d ()
  · exact (Policy.mayStartOn_service_iff hvalid).mpr hstart
  · exact (HostService.not_runs_safely hvalid hloops).2

end FirewallPolicy
