import FirewallPolicy.Proofs.Firewall.Reachability
import FirewallPolicy.Proofs.Services.Composition

/-!
# When installing a service is safe at every point

The two chains of a service are complete before they are linked, and the links are taken out before
the chains are removed.  This fails only where a rule that redirects queries reads like a jump to
one of the chains, because such a rule comes before the links and goes after the chains.

* `linkLast_install`, `flushToDelete_uninstall`: the order of the operations.
* `runs_safely`: both transcripts can stop anywhere.
* `flushes_reached_chain`: if there is such a rule, a host on which they cannot.
-/

namespace FirewallPolicy.HostService

open FirewallPolicy.ChainName
open Firewall (unguarded)
open Operation (LinkLast FlushToDelete teardown)

/-- A host that a service can be installed on: the shared chains are there that the service needs,
and its own chains are neither there nor asked for. -/
structure AbsentFrom (s : HostService) (f : Firewall) : Prop where
  needs : ∀ c ∈ s.needs, (f.chain? c).isSome
  absent : ∀ c ∈ s.ownChains, f.chain? c = none
  unreferred : ∀ c ∈ s.ownChains, ¬ f.Refers c

variable {s : HostService} {f : Firewall} {c rule : String}

/-- The own chains are none of the chains that have to be there. -/
lemma AbsentFrom.ne_of_mem_needs (h : s.AbsentFrom f) (hc : c ∈ s.ownChains) {d : String}
    (hd : d ∈ s.needs) : d ≠ c :=
  Firewall.ne_of_chain?_eq_none (h.absent c hc) (h.needs d hd)

lemma AbsentFrom.notMem_entryChains (h : s.AbsentFrom f) (hc : c ∈ s.ownChains) :
    c ∉ f.entryChains := by
  have hmanaged : isManagedName c := isManagedName_ownChains c hc
  exact Firewall.notMem_entryChains (h.absent c hc)
    (ne_of_not_isManagedName hmanaged (by decide)) (ne_of_not_isManagedName hmanaged (by decide))

/-- Installing fails nowhere on such a host, whatever the rules of the service read like. -/
lemma AbsentFrom.applyAll_install (h : s.AbsentFrom f) (hvalid : s.Valid) :
    ∃ g, f.applyAll unguarded (s.operations .install) = some g ∧
      g.chain? = s.installedOn f.chain? ∧ g.set? = f.set? := by
  have htargets : ∀ op ∈ s.fill, ∀ rule ∈ op.addedRule?, ∀ t ∈ ruleTarget? rule, unguarded t →
      t ∈ s.ownChains := fun _ _ _ _ _ _ hguarded => nomatch hguarded
  exact applyAll_install_of_targets hvalid htargets (h.absent _ (by simp [ownChains]))
    (h.absent _ (by simp [ownChains])) h.needs

/-! ## The order of the operations -/

/-- The own chains are complete before anything links to them. -/
lemma linkLast_install (h : s.RedirectsElsewhere) (hstart : s.AbsentFrom f)
    (hc : c ∈ s.ownChains) : LinkLast (s.operations .install) c := by
  have hmanaged : isManagedName c := isManagedName_ownChains c hc
  refine ⟨[.newChain s.chainIn, .newChain s.chainOut] ++ s.complete, s.link, ?_,
    fun op hop rule hrule => ?_, fun op hop hchain => ?_⟩
  · rw [operations_install, fill_eq, List.append_assoc]
  · rcases List.mem_append.mp hop with hop | hop
    · rcases List.mem_pair.mp hop with rfl | rfl <;> cases hrule
    · rcases mem_complete hop with ⟨r, hr, rfl⟩ | rfl | ⟨r, hr, rfl⟩ | ⟨r, hr, rfl⟩
      · cases hrule
        exact (tidy_inRules [] rule hr).ruleTarget?_ne hmanaged
      · cases hrule
        exact tidy_leave.ruleTarget?_ne hmanaged
      · cases hrule
        exact fun htarget => h rule hr c htarget hc
      · cases hrule
        exact (tidy_forwards [] rule hr).ruleTarget?_ne hmanaged
  · rcases List.mem_pair.mp hop with rfl | rfl
    · exact hstart.ne_of_mem_needs hc ingress_mem_needs (Option.some.inj hchain)
    · exact hstart.ne_of_mem_needs hc egress_mem_needs (Option.some.inj hchain)

/-- Both chains of a service are made. -/
lemma newChain_mem_install (hc : c ∈ s.ownChains) : .newChain c ∈ s.operations .install := by
  rw [operations_install]
  rcases List.mem_pair.mp hc with rfl | rfl <;> simp

/-- A service makes no sets. -/
lemma createSet_notMem_install {set type : String} :
    .createSet set type ∉ s.operations .install := by
  intro hop
  rw [operations_install] at hop
  rcases List.mem_append.mp hop with hop | hop
  · simp at hop
  · rcases mem_fill hop with ⟨r, -, h⟩ | h | h | h | ⟨r, -, h⟩ | ⟨r, -, h⟩ <;> cases h

lemma flushToDelete_uninstall : FlushToDelete (s.operations .uninstall) := by
  rw [operations_uninstall, List.append_assoc, List.append_assoc]
  refine Operation.flushToDelete_append (by simp [unlink]) ?_
  refine Operation.flushToDelete_teardown _ (Operation.flushToDelete_teardown _ ?_)
  have hwithdraw : ∀ op ∈ s.withdraw, ∀ c, op ≠ .flushChain c := by
    intro op hop c
    obtain ⟨d, -, -, r, rfl⟩ := exists_delete_of_mem_withdraw hop
    exact Operation.noConfusion
  rw [← List.append_nil s.withdraw]
  exact Operation.flushToDelete_append hwithdraw trivial

/-! ## Safe transcripts -/

/-- Installing a service is safe at every point, and so is uninstalling it, if no rule that
redirects queries reads like a jump to one of its chains. -/
theorem runs_safely (hvalid : s.Valid) (h : s.RedirectsElsewhere) (hstart : s.AbsentFrom f) :
    ∃ g e, InstallsSafely f.entryChains (s.transcript .install) f g ∧
      UninstallsSafely f.entryChains (s.transcript .uninstall) g e := by
  have hin : f.chain? s.chainIn = none := hstart.absent _ (by simp [ownChains])
  have hout : f.chain? s.chainOut = none := hstart.absent _ (by simp [ownChains])
  obtain ⟨g, hinstall, hchains, hsets⟩ := hstart.applyAll_install hvalid
  have huninstall : g.applyAll unguarded (s.operations .uninstall) = some f :=
    applyAll_uninstall h hin hout hstart.needs hstart.unreferred hchains hsets
  refine ⟨g, f, installsSafely_of_applyAll (fun _ hop => wellFormed_operations hvalid hop) hinstall
    (fun c hc => ?_) (fun set type hset => absurd hset createSet_notMem_install),
    uninstallsSafely_of_applyAll (fun _ hop => wellFormed_operations hvalid hop) huninstall
    flushToDelete_uninstall fun c hc => ?_⟩
  · have hown := mem_ownChains_of_newChain hc
    exact ⟨hstart.notMem_entryChains hown, hstart.unreferred c hown,
      linkLast_install h hstart hown⟩
  · exact hstart.notMem_entryChains (confined_uninstall _ hc)

/-! ## Transcripts that are not safe -/

/-- A host that sends all its packets through the chain of redirections. -/
def relayHost : Firewall := bareHost.setChain "INPUT" ["-j PREROUTING"]

lemma relayHost_chain? (c : String) : relayHost.chain? c =
    if c = "INPUT" then some ["-j PREROUTING"] else if c ∈ sharedChains then some [] else none := by
  rw [relayHost, Firewall.chain?_setChain, Function.update_apply, bareHost_chain?]

/-- Any name service can be installed on that host. -/
lemma absentFrom_relayHost (config : DnsConfig) : (names config).AbsentFrom relayHost where
  needs c hc := by
    have hshared : c ∈ sharedChains := hc
    rw [relayHost_chain?, if_pos hshared]
    split <;> rfl
  absent c hc := by
    have hmanaged : isManagedName c := isManagedName_ownChains c hc
    -- The mark of name services tells their chains from those for all services.
    have hmark : dnsMark ++ config.chainName ≠ services := by
      intro h
      have hhead := congrArg (fun name : String => name.toList.head?) h
      simp [dnsMark, services] at hhead
    have hshared : c ∉ sharedChains := by
      simp only [ownChains, List.mem_cons, List.not_mem_nil, or_false] at hc
      rcases hc with rfl | rfl
      · exact notMem_sharedChains hmanaged (fun h => hmark (ingress_inj.mp h))
          (ingress_ne_egress _ _)
      · exact notMem_sharedChains hmanaged (egress_ne_ingress _ _)
          fun h => hmark (egress_inj.mp h)
    rw [relayHost_chain?, if_neg (ne_of_not_isManagedName hmanaged (by decide)), if_neg hshared]
  unreferred c hc hrefers := by
    have hmanaged : isManagedName c := isManagedName_ownChains c hc
    rcases Firewall.AnyRule.of_setChain hrefers with hbare | ⟨rule, hrule, htarget⟩
    · exact bareHost_not_refers c hbare
    · rw [List.mem_singleton.mp hrule] at htarget
      have hprerouting : ruleTarget? "-j PREROUTING" = some "PREROUTING" := by decide +kernel
      rw [hprerouting] at htarget
      cases htarget
      exact absurd hmanaged (by decide)

/-- Between the links being taken out and the rules for queries being deleted, packets reach what a
rule that redirects queries reads like a jump to. -/
lemma reaches_of_unlinkedOn {g : Firewall} {d : String}
    (hinput : g.chain? "INPUT" = s.unlinkedOn relayHost.chain? "INPUT")
    (hprerouting : g.chain? "PREROUTING" = s.unlinkedOn relayHost.chain? "PREROUTING")
    (hrule : rule ∈ s.redirects) (hd : ruleTarget? rule = some d) :
    g.Reaches relayHost.entryChains d := by
  have hchain : ∀ c rules, ¬ isManagedName c → relayHost.chain? c = some rules →
      s.unlinkedOn relayHost.chain? c = some (s.queryRules c ++ rules) := by
    intro c rules hmanaged hc
    have hin : c ≠ s.chainIn := (ne_of_not_isManagedName (isManagedName_ingress _) hmanaged).symm
    have hout : c ≠ s.chainOut := (ne_of_not_isManagedName (isManagedName_egress _) hmanaged).symm
    rw [unlinkedOn, if_neg hin, if_neg hout, hc]
    rfl
  have hrelay : g.JumpsTo "INPUT" "PREROUTING" := by
    refine ⟨"-j PREROUTING", ⟨_, hinput.trans (hchain _ ["-j PREROUTING"] (by decide) ?_), ?_⟩, ?_⟩
    · rw [relayHost_chain?, if_pos rfl]
    · exact List.mem_append_right _ (List.mem_singleton_self _)
    · decide +kernel
  have hjump : g.JumpsTo "PREROUTING" d := by
    refine ⟨rule, ⟨_, hprerouting.trans (hchain _ [] (by decide) ?_), ?_⟩, hd⟩
    · rw [relayHost_chain?, if_neg (by decide), if_pos (by decide)]
    · exact List.mem_append_left _ (List.mem_reverse.mpr hrule)
  refine ⟨"INPUT", List.mem_append_left _ (by simp), ?_⟩
  exact (Relation.ReflTransGen.single hrelay).tail hjump

/-- If a rule that redirects queries reads like a jump to a chain of the service, the chain is
emptied while packets reach it. -/
lemma exists_flush_of_reached {g : Firewall} (h : ¬ s.RedirectsElsewhere)
    (hstart : s.AbsentFrom relayHost) (hg : g.chain? = s.installedOn relayHost.chain?) :
    ∃ first c rest g', s.operations .uninstall = first ++ .flushChain c :: rest ∧
      g.applyAll unguarded first = some g' ∧ g'.Reaches relayHost.entryChains c := by
  have hinOwn : s.chainIn ∈ s.ownChains := by simp [ownChains]
  have houtOwn : s.chainOut ∈ s.ownChains := by simp [ownChains]
  obtain ⟨g₁, hunlink, hchain₁, -⟩ : ∃ g₁, g.applyAll unguarded s.unlink = some g₁ ∧
      g₁.chain? = s.unlinkedOn relayHost.chain? ∧ g₁.set? = g.set? :=
    applyAll_unlink (hstart.absent _ hinOwn) (hstart.absent _ houtOwn) hstart.needs hg
  by_cases hin : ∃ rule ∈ s.redirects, ruleTarget? rule = some s.chainIn
  · -- The first chain is emptied as soon as the links are taken out.
    obtain ⟨rule, hrule, htarget⟩ := hin
    refine ⟨s.unlink, s.chainIn, .deleteChain s.chainIn :: teardown s.chainOut ++ s.withdraw, g₁,
      ?_, hunlink, reaches_of_unlinkedOn (by rw [hchain₁]) (by rw [hchain₁]) hrule htarget⟩
    simp [operations_uninstall, teardown]
  · -- The first chain can be removed, so it is the second one.
    have hredirects : ∀ rule ∈ s.redirects, ruleTarget? rule ≠ some s.chainIn := by
      simpa using hin
    obtain ⟨rule, hrule, htarget⟩ : ∃ rule ∈ s.redirects, ruleTarget? rule = some s.chainOut := by
      simp only [RedirectsElsewhere, not_forall, not_not] at h
      obtain ⟨rule, hrule, c, hc, hown⟩ := h
      rcases List.mem_pair.mp hown with rfl | rfl
      · exact absurd hc (hredirects rule hrule)
      · exact ⟨rule, hrule, hc⟩
    have hteardown : g₁.applyAll unguarded (teardown s.chainIn) =
        some (g₁.dropChain s.chainIn) := by
      refine Firewall.applyAll_teardown ?_
        (not_refers_of_unlinkedOn hinOwn hredirects (hstart.unreferred _ hinOwn) hchain₁)
      rw [hchain₁, unlinkedOn, if_pos rfl]
      exact Option.some_ne_none _
    have hkept : ∀ c, ¬ isManagedName c →
        (g₁.dropChain s.chainIn).chain? c = s.unlinkedOn relayHost.chain? c := by
      intro c hc
      have hne : c ≠ s.chainIn := (ne_of_not_isManagedName (isManagedName_ingress _) hc).symm
      rw [Firewall.chain?_dropChain, Function.update_of_ne hne, hchain₁]
    refine ⟨s.unlink ++ teardown s.chainIn, s.chainOut, .deleteChain s.chainOut :: s.withdraw,
      g₁.dropChain s.chainIn, ?_, ?_,
      reaches_of_unlinkedOn (hkept _ (by decide)) (hkept _ (by decide)) hrule htarget⟩
    · simp [operations_uninstall, teardown]
    · rw [Firewall.applyAll_append, hunlink, Option.bind_some, hteardown]

/-- If a rule that redirects queries reads like a jump to a chain of the service, then on some host
the service can be installed, but one of its chains is emptied while packets reach it. -/
theorem flushes_reached_chain (hvalid : s.Valid) (h : ¬ s.RedirectsElsewhere) :
    s.AbsentFrom relayHost ∧ ∃ g g' first c rest,
      relayHost.run unguarded (s.transcript .install) = some g ∧
      s.transcript .uninstall = first ++ (Operation.flushChain c).command :: rest ∧
      g.run unguarded first = some g' ∧ g'.Reaches relayHost.entryChains c := by
  have hstart : s.AbsentFrom relayHost := by
    cases s with
    | ports config =>
      refine absurd (fun rule hrule => ?_) h
      cases hrule
    | names config => exact absentFrom_relayHost config
  have hwf : ∀ d, ∀ op ∈ s.operations d, op.WellFormed := fun _ _ hop =>
    wellFormed_operations hvalid hop
  obtain ⟨g, hinstall, hchains, -⟩ := hstart.applyAll_install hvalid
  obtain ⟨first, c, rest, g', hsplit, hfirst, hreaches⟩ :=
    exists_flush_of_reached h hstart hchains
  refine ⟨hstart, g, g', first.map Operation.command, c, rest.map Operation.command, ?_, ?_, ?_,
    hreaches⟩
  · rw [transcript, Firewall.run_operations (hwf _), hinstall]
  · rw [transcript, hsplit, List.map_append, List.map_cons]
  · rw [Firewall.run_operations fun op hop =>
      hwf .uninstall op (by rw [hsplit]; exact List.mem_append_left _ hop), hfirst]

/-- On that host the service is not installed and uninstalled safely. -/
theorem not_runs_safely (hvalid : s.Valid) (h : ¬ s.RedirectsElsewhere) :
    s.AbsentFrom relayHost ∧
    ¬ ∃ g e, InstallsSafely relayHost.entryChains (s.transcript .install) relayHost g ∧
      UninstallsSafely relayHost.entryChains (s.transcript .uninstall) g e := by
  obtain ⟨hstart, g, g', first, c, rest, hinstall, hsplit, hfirst, hreaches⟩ :=
    flushes_reached_chain hvalid h
  refine ⟨hstart, ?_⟩
  rintro ⟨g₁, e, hsafe, hunsafe⟩
  have hg : g₁ = g := Option.some.inj (hsafe.completes.symm.trans hinstall)
  subst hg
  exact hunsafe.chains first _ rest g' hsplit hfirst c
    (.inl (Operation.operation?_command trivial)) hreaches

end FirewallPolicy.HostService
