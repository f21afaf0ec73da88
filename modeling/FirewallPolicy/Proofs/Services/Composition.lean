import FirewallPolicy.Proofs.Services.Interleaving

/-!
# When services compose

Services compose in every order exactly if none of their rules for queries reads like a jump to a
managed chain.  Such a rule is possible, because the scope of an address may hold any text.

* `HostService.redirectsPlainly_of_applyAll`: a service with such a rule cannot even be installed
  and uninstalled once.
* `composable_iff_redirectsPlainly`: the exact condition, for compiled transcripts.
* `hijackingService_not_composable`: an accepted document whose transcripts do not compose.
-/

namespace FirewallPolicy

open FirewallPolicy.ChainName

/-! ## A rule that reads like a jump -/

/-- Where a colon stands in the last word of a rule, it stands in the target of the rule. -/
lemma colon_mem_of_ruleTarget? {rule c : String} {front word : List Char}
    (hc : ruleTarget? rule = some c) (hrule : rule.toList = front ++ ':' :: word)
    (hword : ' ' ∉ word) : ':' ∈ c.toList := by
  obtain ⟨-, hsuffix⟩ := (ruleTarget?_eq_some_iff _ _).mp hc
  have hblank : ' ' :: c.toList <:+ rule.toList := by
    refine List.IsSuffix.trans ?_ hsuffix
    exact ⟨['-', 'j'], by simp⟩
  have hcolon : ':' :: word <:+ rule.toList := ⟨front, hrule.symm⟩
  -- The target begins behind a blank, and there is none behind the colon.
  rcases List.suffix_or_suffix_of_suffix hblank hcolon with h | h
  · have hmem : ' ' ∈ ':' :: word := h.subset List.mem_cons_self
    rcases List.mem_cons.mp hmem with h' | h'
    · cases h'
    · exact absurd h' hword
  · have hmem : ':' ∈ ' ' :: c.toList := h.subset List.mem_cons_self
    rcases List.mem_cons.mp hmem with h' | h'
    · cases h'
    · exact h'

namespace HostService

variable {s : HostService} {rule c : String}

/-- The target of a rule that redirects queries ends in a port. -/
lemma colon_mem_of_redirect (hrule : rule ∈ s.redirects) (hc : ruleTarget? rule = some c) :
    ':' ∈ c.toList := by
  cases s with
  | ports config => cases hrule
  | names config =>
    obtain ⟨item, -, hrule⟩ := List.mem_flatMap.mp hrule
    obtain ⟨p, -, rfl⟩ := List.mem_map.mp hrule
    have haction : ∃ front, (DnsForwarding.redirectRule item p).action.toList =
        front ++ ':' :: Nat.toDigits 10 item.destinationPort :=
      ⟨("DNAT --to " ++ item.destinationAddress).toList, by simp [DnsForwarding.redirectRule]⟩
    obtain ⟨front, hfront⟩ := haction
    obtain ⟨before, hbefore⟩ := Rule.suffix_text (DnsForwarding.redirectRule item p)
    rw [String.toList_append, hfront, ← List.append_assoc, ← List.append_assoc] at hbefore
    exact colon_mem_of_ruleTarget? hc hbefore.symm (blank_notMem_toDigits _)

/-- A service inserts each of its rules that redirect queries when it is installed. -/
lemma insert_mem_of_redirect (hrule : rule ∈ s.redirects) :
    .insert "PREROUTING" 1 rule ∈ s.operations .install := by
  rw [operations_install]
  refine List.mem_append_right _ ?_
  -- What filling puts at the head of the chain are these rules.
  have hhead : rule ∈ s.fill.filterMap (Operation.headTo "PREROUTING") := by
    have hheads : s.headRules "PREROUTING" = s.redirects.reverse := rfl
    rw [filterMap_headTo_fill, hheads, List.reverse_reverse]
    exact hrule
  obtain ⟨op, hop, hrule'⟩ := List.mem_filterMap.mp hhead
  cases op with
  | insert d p r =>
    simp only [Operation.headTo, Option.ite_none_right_eq_some, Option.some.injEq] at hrule'
    obtain ⟨⟨rfl, rfl⟩, rfl⟩ := hrule'
    exact hop
  | _ => cases hrule'

/-- The chains that a service makes are its own two. -/
lemma mem_ownChains_of_newChain (h : .newChain c ∈ s.operations .install) : c ∈ s.ownChains := by
  rw [operations_install] at h
  rcases List.mem_append.mp h with h | h
  · simp only [List.mem_cons, Operation.newChain.injEq, List.not_mem_nil, or_false] at h
    simpa [ownChains] using h
  · rcases mem_fill h with ⟨r, -, h⟩ | h | h | h | ⟨r, -, h⟩ | ⟨r, -, h⟩ <;> cases h

/-- Installing deletes no rule and removes no chain. -/
lemma keeps_of_mem_install {op : Operation} (hop : op ∈ s.operations .install) (d : String) :
    op ≠ .delete d rule ∧ op ≠ .flushChain d ∧ op ≠ .deleteChain d := by
  rw [operations_install] at hop
  rcases List.mem_append.mp hop with hop | hop
  · simp only [List.mem_cons, List.not_mem_nil, or_false] at hop
    rcases hop with rfl | rfl <;> simp
  · rcases mem_fill hop with ⟨r, -, rfl⟩ | rfl | rfl | rfl | ⟨r, -, rfl⟩ | ⟨r, -, rfl⟩ <;> simp

/-- When a service removes one of its chains, its rules that redirect queries are still there. -/
lemma exists_deleteChain (rule : String) (hc : c ∈ s.ownChains) :
    ∃ first last, s.operations .uninstall = first ++ .deleteChain c :: last ∧
      ∀ op ∈ first, op ≠ .delete "PREROUTING" rule ∧ op ≠ .flushChain "PREROUTING" ∧
        op ≠ .deleteChain "PREROUTING" := by
  have hin : s.chainIn ≠ "PREROUTING" :=
    ne_of_not_isManagedName (isManagedName_ingress _) (by decide)
  have hout : s.chainOut ≠ "PREROUTING" :=
    ne_of_not_isManagedName (isManagedName_egress _) (by decide)
  have hlinkIn : ingress services ≠ "PREROUTING" := by decide
  have hlinkOut : egress services ≠ "PREROUTING" := by decide
  simp only [ownChains, List.mem_cons, List.not_mem_nil, or_false] at hc
  rcases hc with rfl | rfl
  · refine ⟨s.unlink ++ [.flushChain s.chainIn],
      Operation.teardown s.chainOut ++ s.withdraw, ?_, ?_⟩
    · rw [operations_uninstall]
      simp [Operation.teardown]
    · intro op hop
      simp only [unlink, List.mem_append, List.mem_cons, List.not_mem_nil, or_false] at hop
      rcases hop with (rfl | rfl) | rfl
      · simp [hlinkIn]
      · simp [hlinkOut]
      · simp [hin]
  · refine ⟨s.unlink ++ Operation.teardown s.chainIn ++ [.flushChain s.chainOut], s.withdraw,
      ?_, ?_⟩
    · rw [operations_uninstall]
      simp [Operation.teardown]
    · intro op hop
      simp only [unlink, Operation.teardown, List.mem_append, List.mem_cons, List.not_mem_nil,
        or_false] at hop
      rcases hop with ((rfl | rfl) | rfl | rfl) | rfl
      · simp [hlinkIn]
      · simp [hlinkOut]
      · simp [hin]
      · simp [hin]
      · simp [hout]

/-- A service that can be installed and uninstalled on an empty host has no rule for queries that
reads like a jump to a managed chain: the chain would have to be there, so it would be one of the
service's own, and that could not be removed before the rule. -/
theorem redirectsPlainly_of_applyAll {f : Firewall}
    (h : bareHost.applyAll isManagedName (s.operations .install ++ s.operations .uninstall) =
      some f) : s.RedirectsPlainly := by
  intro rule hrule c hc hmanaged
  obtain ⟨g, hinstall, huninstall⟩ := Firewall.applyAll_append_eq_some_iff.mp h
  obtain ⟨first, last, hsplit⟩ := List.append_of_mem (insert_mem_of_redirect hrule)
  have hkeep : ∀ op ∈ last, op ≠ .delete "PREROUTING" rule ∧ op ≠ .flushChain "PREROUTING" ∧
      op ≠ .deleteChain "PREROUTING" := fun op hop =>
    keeps_of_mem_install (by rw [hsplit]; simp [hop]) _
  rw [hsplit] at hinstall
  obtain ⟨g₁, hg₁, hrest⟩ := Firewall.applyAll_append_eq_some_iff.mp hinstall
  obtain ⟨g₂, hg₂, hg⟩ := Firewall.applyAll_cons_eq_some_iff.mp hrest
  obtain ⟨hadmits, -⟩ := Firewall.apply_insert_iff.mp hg₂
  -- The chain is there, so it is a shared one or the service has made it; no shared one has a
  -- colon.
  have hown : c ∈ s.ownChains := by
    rcases Firewall.isSome_chain?_of_applyAll hg₁ (hadmits.1 c hc hmanaged) with hsome | hnew
    · rw [bareHost_chain?] at hsome
      split at hsome
      · rename_i hshared
        have hnone : ∀ d ∈ sharedChains, ':' ∉ d.toList := by decide
        exact absurd (colon_mem_of_redirect hrule hc) (hnone c hshared)
      · cases hsome
    · exact mem_ownChains_of_newChain (by rw [hsplit]; exact List.mem_append_left _ hnew)
  -- The rule stands in its chain, and stays there until the chain it jumps to is removed.
  have hhas' := (Firewall.has_of_apply_insert hg₂).applyAll hg hkeep
  obtain ⟨before, after, hsplit', hkeep'⟩ := exists_deleteChain rule hown
  rw [hsplit'] at huninstall
  obtain ⟨g₃, hg₃, hrest'⟩ := Firewall.applyAll_append_eq_some_iff.mp huninstall
  obtain ⟨g₄, hg₄, -⟩ := Firewall.applyAll_cons_eq_some_iff.mp hrest'
  obtain ⟨rules'', hrules'', hmem⟩ := hhas'.applyAll hg₃ hkeep'
  exact (Firewall.apply_deleteChain_iff.mp hg₄).2.1 ⟨_, rules'', hrules'', rule, hmem, hc⟩

end HostService

/-! ## The exact condition -/

section Exact

variable {σ ι : Type} {source : BlacklistSync.Source σ} {globals : List NetworkItem} {world : σ}
  {service : ι → HostService} {raw : ι → Value} {transcript : ι → Direction → Transcript}

/-- The commands of one service, one after the other. -/
def commandsOn (i : ι) (commands : Transcript) : List (ι × Command) := commands.map fun c => (i, c)

lemma commandsOf_commandsOn [DecidableEq ι] (i j : ι) (commands : Transcript) :
    commandsOf j (commandsOn i commands) = if i = j then commands else [] := by
  by_cases h : i = j <;> simp [commandsOf, commandsOn, List.filter_map, Function.comp_def, h]

/-- An empty host will do for services that any host will do for. -/
lemma HostFor.bareHost {base : Firewall} (h : HostFor service base) :
    HostFor service bareHost where
  present c hc := by
    rw [bareHost_chain?, if_pos hc]
    rfl
  absent i c hc := by
    have hc' : c ∉ sharedChains := fun hmem =>
      Firewall.ne_of_chain?_eq_none (h.absent i c hc) (h.present c hmem) rfl
    rw [bareHost_chain?, if_neg hc']
  unreferred _ c _ := bareHost_not_refers c

/-- Accepted services whose chains have different names compose on every host, in whatever order the
commands of their compiled transcripts come, exactly if none of their rules for queries reads like a
jump to a managed chain. -/
theorem composable_iff_redirectsPlainly [Fintype ι] [DecidableEq ι]
    (hread : ∀ i, (service i).ReadFrom (raw i))
    (hcompile : ∀ i d, ((Directory.builtin source).compile (service i).jobName (.text d.name)
      (raw i) globals world).1.result = .ok (transcript i d))
    (hdistinct : ∀ i j, i ≠ j → ∀ c ∈ (service i).ownChains, c ∉ (service j).ownChains)
    (hhost : ∃ base, HostFor service base) :
    Composable service transcript ↔ ∀ i, (service i).RedirectsPlainly := by
  obtain rfl : transcript = fun i => (service i).transcript := by
    funext i d
    have hboth := (hcompile i d).symm.trans (HostService.compile_eq_transcript (hread i) d)
    exact Except.ok.inj hboth
  have hvalid : ∀ i, (service i).Valid := fun i => HostService.valid_of_readFrom (hread i)
  have hinj : Function.Injective fun i => (service i).chainName := by
    intro i j hij
    by_contra hne
    have hsame : (service i).chainIn = (service j).chainIn := congrArg ingress hij
    exact hdistinct i j hne (service i).chainIn (by simp [HostService.ownChains])
      (by simp [HostService.ownChains, hsame])
  constructor
  · intro h i
    obtain ⟨base, hbase⟩ := hhost
    -- The service is installed and uninstalled once, and nobody else does anything.
    let round := (service i).operations .install ++ (service i).operations .uninstall
    have hround : (service i).transcript .install ++ (service i).transcript .uninstall =
        round.map Operation.command := (List.map_append).symm
    obtain ⟨f, hf, -⟩ := h bareHost hbase.bareHost
      (commandsOn i ((service i).transcript .install ++ (service i).transcript .uninstall)) (by
        intro j
        rw [commandsOf_commandsOn]
        split
        · rename_i hij
          subst hij
          exact ⟨1, by simp [rounds]⟩
        · exact ⟨0, List.nil_prefix⟩)
    have hwf : ∀ op ∈ round, op.WellFormed := by
      intro op hop
      rcases List.mem_append.mp hop with hop | hop <;>
        exact HostService.wellFormed_operations (hvalid i) hop
    have hrun : (commandsOn i (round.map Operation.command)).map (·.2) =
        round.map Operation.command := by simp [commandsOn, Function.comp_def]
    rw [hround, hrun, Firewall.run_operations hwf] at hf
    exact HostService.redirectsPlainly_of_applyAll hf
  · intro h
    exact composable_of_redirectsPlainly hvalid h hinj

end Exact

/-! ## Services that compose -/

/-- A document that opens two ports of a service. -/
def webDocument : Value :=
  .map [(.text "chainName", .text "web"), (.text "network", .map [(.text "items", .list
    [.map [(.text "portNumber", .int 443), (.text "protocol", .text "tcp"),
        (.text "sourceNetworks", .list [.text "10.0.0.0/8", .text "fe80::/10"])],
      .map [(.text "portNumber", .text "80"), (.text "protocol", .text "tcp")]])])]

/-- A document that forwards name queries. -/
def resolverDocument : Value :=
  .map [(.text "chainName", .text "resolver"), (.text "network", .map [(.text "items", .list
    [.map [(.text "sourceLinkName", .text "eth0"), (.text "sourceIpAddress", .text "10.0.0.1"),
      (.text "destinationIpAddress", .text "172.17.0.2"),
      (.text "destinationPortNumber", .int 53)]])])]

/-- The services in these documents. -/
def webAndResolver : Bool → HostService
  | true => .ports
      { chainName := "web"
        items := [{ port := 443, protocol := "tcp", sources := ["10.0.0.0/8", "fe80::/10"],
                    destination := none },
          { port := 80, protocol := "tcp", sources := [], destination := none }] }
  | false => .names
      { chainName := "resolver"
        items := [{ interface := "eth0", sourceAddress := "10.0.0.1",
                    destinationAddress := "172.17.0.2", destinationPort := 53,
                    sourcePort := 53 }] }

/-- These two services compose. -/
theorem webAndResolver_composable :
    Composable webAndResolver fun i => (webAndResolver i).transcript := by
  have hread : ∀ i, (webAndResolver i).ReadFrom (if i then webDocument else resolverDocument) := by
    intro i
    cases i
    · exact Except.eq_ok_of_toOption (by decide +kernel)
    · exact Except.eq_ok_of_toOption (by decide +kernel)
  have hown : ∀ i, ∀ c ∈ (webAndResolver i).ownChains, c ∉ sharedChains := by decide +kernel
  have hhost : HostFor webAndResolver bareHost :=
    { present := fun c hc => by
        rw [bareHost_chain?, if_pos hc]
        rfl
      absent := fun i c hc => by rw [bareHost_chain?, if_neg (hown i c hc)]
      unreferred := fun _ c _ => bareHost_not_refers c }
  have hplain : ∀ i, (webAndResolver i).RedirectsPlainly := by decide +kernel
  have hcompile : ∀ i (d : Direction),
      ((Directory.builtin (BlacklistSync.databaseSource Unit)).compile (webAndResolver i).jobName
        (.text d.name) (if i then webDocument else resolverDocument) [] ()).1.result =
          .ok ((webAndResolver i).transcript d) := fun i d =>
    HostService.compile_eq_transcript (hread i) d
  exact (composable_iff_redirectsPlainly hread hcompile (by decide +kernel) ⟨_, hhost⟩).mpr hplain

/-! ## A service that does not -/

/-- A forwarding to an address whose scope reads like a jump. -/
def hijackingForward : DnsForward where
  interface := "eth0"
  sourceAddress := "10.0.0.1"
  destinationAddress := "fe80::1%x -j IN_web"
  destinationPort := 53
  sourcePort := 53

/-- The name service with that forwarding. -/
def hijackingService : HostService :=
  .names { chainName := "dockerDnsService", items := [hijackingForward] }

/-- A document with that name service. -/
def hijackingDocument : Value :=
  .map [(.text "network", .map [(.text "items", .list [.map
    [(.text "sourceLinkName", .text "eth0"), (.text "sourceIpAddress", .text "10.0.0.1"),
      (.text "destinationIpAddress", .text "fe80::1%x -j IN_web"),
      (.text "destinationPortNumber", .int 53)]])])]

/-- Its transcripts are compiled, but do not compose: installing it fails on an empty host. -/
theorem hijackingService_not_composable :
    hijackingService.ReadFrom hijackingDocument ∧
    (∀ d : Direction, ((Directory.builtin (BlacklistSync.databaseSource Unit)).compile
      hijackingService.jobName (.text d.name) hijackingDocument [] ()).1.result =
        .ok (hijackingService.transcript d)) ∧
    HostFor (fun _ : Unit => hijackingService) bareHost ∧
    bareHost.run isManagedName (hijackingService.transcript .install) = none ∧
    ¬ Composable (fun _ : Unit => hijackingService) fun _ => hijackingService.transcript := by
  have hread : hijackingService.ReadFrom hijackingDocument :=
    Except.eq_ok_of_toOption (by decide +kernel)
  have hrun : bareHost.run isManagedName (hijackingService.transcript .install) = none :=
    Option.isNone_iff_eq_none.mp (by decide +kernel)
  have hhost : HostFor (fun _ : Unit => hijackingService) bareHost := by
    constructor
    case present =>
      intro c hc
      rw [bareHost_chain?, if_pos hc]
      rfl
    case absent =>
      intro i c hc
      have hown : ∀ c ∈ hijackingService.ownChains, c ∉ sharedChains := by decide +kernel
      rw [bareHost_chain?, if_neg (hown c hc)]
    case unreferred => exact fun _ c _ => bareHost_not_refers c
  refine ⟨hread, fun d => ?_, hhost, hrun, fun h => ?_⟩
  · exact HostService.compile_eq_transcript hread d
  · obtain ⟨f, hf, -⟩ := h bareHost hhost (commandsOn () (hijackingService.transcript .install)) (by
      intro i
      rw [commandsOf_commandsOn, if_pos rfl]
      exact ⟨1, by simp [rounds]⟩)
    have hcommands : (commandsOn () (hijackingService.transcript .install)).map (·.2) =
        hijackingService.transcript .install := by simp [commandsOn, Function.comp_def]
    rw [hcommands, hrun] at hf
    cases hf

end FirewallPolicy
