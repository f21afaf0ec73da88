import FirewallPolicy.Proofs.Firewall.Commands
import FirewallPolicy.Proofs.Firewall.Edits
import FirewallPolicy.Proofs.Services.HostService

/-!
# Installing and uninstalling a service

A single service on a host where nobody else interferes.

* `HostService.applyAll_install`: what installing makes of a state.
* `HostService.applyAll_uninstall`: uninstalling gives the state back.
* `HostService.confined_operations`: a service keeps to its own chains and to its part of the shared
  ones.
* `HostService.wellFormed_operations`: its operations can be read off their commands.
-/

namespace FirewallPolicy.HostService

open FirewallPolicy.ChainName
open Operation (appendRule insertRule deleteRule teardown headTo_appendRule headTo_insertRule
  tailTo_appendRule tailTo_insertRule)

/-! ## Installing -/

/-- What installing does once the two chains are there: it fills them, puts rules at the head of the
shared chains, and links the two chains. -/
def fill : HostService → List Operation
  | .ports config =>
    (Service.inRules config).map (appendRule (ingress config.chainName)) ++
    [appendRule (egress config.chainName) Rule.leave,
      insertRule (ingress services) 1 (.jump [] (ingress config.chainName)),
      insertRule (egress services) 1 (.jump [] (egress config.chainName))]
  | .names config =>
    config.items.flatMap (DnsForwarding.itemInstall (DnsForwarding.chainIn config)) ++
    [appendRule (DnsForwarding.chainIn config) Rule.leave,
      appendRule (DnsForwarding.chainOut config) Rule.leave,
      insertRule (ingress services) 1 (.jump [] (DnsForwarding.chainIn config)),
      insertRule (egress services) 1 (.jump [] (DnsForwarding.chainOut config))]

section Install

variable {s : HostService}

lemma operations_install :
    s.operations .install = [.newChain s.chainIn, .newChain s.chainOut] ++ s.fill := by
  cases s with
  | ports config =>
    simp [operations, Service.operations, Service.install, fill, chainIn, chainOut, chainName]
  | names config =>
    simp [operations, DnsForwarding.operations, DnsForwarding.install, fill, chainIn, chainOut,
      chainName, DnsForwarding.chainIn, DnsForwarding.chainOut]

/-- What installing does to the two chains and for queries, before it links the chains. -/
def complete : HostService → List Operation
  | .ports config =>
    (Service.inRules config).map (appendRule (ingress config.chainName)) ++
    [appendRule (egress config.chainName) Rule.leave]
  | .names config =>
    config.items.flatMap (DnsForwarding.itemInstall (DnsForwarding.chainIn config)) ++
    [appendRule (DnsForwarding.chainIn config) Rule.leave,
      appendRule (DnsForwarding.chainOut config) Rule.leave]

/-- What installing does last: it links the two chains. -/
def link (s : HostService) : List Operation :=
  [.insert (ingress services) 1 s.linkIn, .insert (egress services) 1 s.linkOut]

lemma fill_eq : s.fill = s.complete ++ s.link := by
  cases s with
  | ports config => simp [fill, complete, link, linkIn, linkOut, chainIn, chainOut, chainName,
      insertRule]
  | names config => simp [fill, complete, link, linkIn, linkOut, chainIn, chainOut, chainName,
      insertRule, DnsForwarding.chainIn, DnsForwarding.chainOut]

/-- What is added before the two chains are linked, and where. -/
lemma mem_complete {op : Operation} (h : op ∈ s.complete) :
    (∃ rule ∈ s.inRules, op = .append s.chainIn rule) ∨ op = .append s.chainOut Rule.leave.text ∨
    (∃ rule ∈ s.redirects, op = .insert "PREROUTING" 1 rule) ∨
    ∃ rule ∈ s.forwards, op = .insert "FORWARD" 1 rule := by
  cases s with
  | ports config =>
    rcases List.mem_append.mp h with h | h
    · obtain ⟨r, hr, rfl⟩ := List.mem_map.mp h
      exact .inl ⟨r.text, List.mem_map_of_mem hr, rfl⟩
    · exact .inr (.inl (List.mem_singleton.mp h))
  | names config =>
    rcases List.mem_append.mp h with h | h
    · obtain ⟨item, hitem, h⟩ := List.mem_flatMap.mp h
      simp only [DnsForwarding.itemInstall, List.mem_append] at h
      rcases h with (h | h) | h
      · obtain ⟨p, hp, rfl⟩ := List.mem_map.mp h
        exact .inr (.inr (.inl
          ⟨_, List.mem_flatMap.mpr ⟨item, hitem, List.mem_map_of_mem hp⟩, rfl⟩))
      · obtain ⟨p, hp, rfl⟩ := List.mem_map.mp h
        exact .inr (.inr (.inr
          ⟨_, List.mem_flatMap.mpr ⟨item, hitem, List.mem_map_of_mem hp⟩, rfl⟩))
      · obtain ⟨p, hp, rfl⟩ := List.mem_map.mp h
        exact .inl ⟨_, List.mem_append_left _
          (List.mem_flatMap.mpr ⟨item, hitem, List.mem_map_of_mem hp⟩), rfl⟩
    · rcases List.mem_pair.mp h with rfl | rfl
      · exact .inl ⟨_, List.mem_append_right _ (List.mem_singleton_self _), rfl⟩
      · exact .inr (.inl rfl)

/-- What filling adds, and where. -/
lemma mem_fill {op : Operation} (h : op ∈ s.fill) :
    (∃ rule ∈ s.inRules, op = .append s.chainIn rule) ∨ op = .append s.chainOut Rule.leave.text ∨
    op = .insert (ingress services) 1 s.linkIn ∨ op = .insert (egress services) 1 s.linkOut ∨
    (∃ rule ∈ s.redirects, op = .insert "PREROUTING" 1 rule) ∨
    ∃ rule ∈ s.forwards, op = .insert "FORWARD" 1 rule := by
  rw [fill_eq] at h
  rcases List.mem_append.mp h with h | h
  · rcases mem_complete h with h | h | h
    · exact .inl h
    · exact .inr (.inl h)
    · exact .inr (.inr (.inr (.inr h)))
  · rcases List.mem_pair.mp h with rfl | rfl
    · exact .inr (.inr (.inl rfl))
    · exact .inr (.inr (.inr (.inl rfl)))

/-- The rules of an item at the head of a shared chain, in the order in which they are inserted. -/
lemma filterMap_headTo_itemInstall (d c : String) (item : DnsForward) :
    (DnsForwarding.itemInstall c item).filterMap (Operation.headTo d) =
      if d = "FORWARD" then
        DnsForwarding.protocols.map fun p => (DnsForwarding.forwardRule item p).text
      else if d = "PREROUTING" then
        DnsForwarding.protocols.map fun p => (DnsForwarding.redirectRule item p).text
      else [] := by
  by_cases h₁ : d = "FORWARD"
  · subst h₁
    simp [DnsForwarding.itemInstall, DnsForwarding.protocols, headTo_appendRule, headTo_insertRule]
  by_cases h₂ : d = "PREROUTING"
  · subst h₂
    simp [DnsForwarding.itemInstall, DnsForwarding.protocols, headTo_appendRule, headTo_insertRule]
  · have h₁' : "FORWARD" ≠ d := Ne.symm h₁
    have h₂' : "PREROUTING" ≠ d := Ne.symm h₂
    simp [DnsForwarding.itemInstall, DnsForwarding.protocols, headTo_appendRule, headTo_insertRule,
      h₁, h₂, h₁', h₂']

/-- Filling puts the rules of the service at the head of each shared chain. -/
lemma filterMap_headTo_fill (d : String) :
    s.fill.filterMap (Operation.headTo d) = (s.headRules d).reverse := by
  have hmap : ∀ (c : String) (rules : List Rule),
      (rules.map (appendRule c)).filterMap (Operation.headTo d) = [] := by
    intro c rules
    simp [List.filterMap_map, List.filterMap_eq_nil_iff, headTo_appendRule]
  -- The rules for queries come first, and then the two links.
  have hbody : s.fill.filterMap (Operation.headTo d) =
      (if d = "FORWARD" then s.forwards else if d = "PREROUTING" then s.redirects else []) ++
      [insertRule (ingress services) 1 (.jump [] s.chainIn),
        insertRule (egress services) 1 (.jump [] s.chainOut)].filterMap (Operation.headTo d) := by
    cases s with
    | ports config =>
      rw [fill, List.filterMap_append, hmap, List.filterMap_cons_none (headTo_appendRule ..)]
      simp [forwards, redirects, chainIn, chainOut, chainName]
    | names config =>
      rw [fill, List.filterMap_append, List.filterMap_flatMap,
        List.filterMap_cons_none (headTo_appendRule ..),
        List.filterMap_cons_none (headTo_appendRule ..)]
      simp only [filterMap_headTo_itemInstall]
      congr 1
      split
      · rfl
      · split
        · rfl
        · simp
  rw [hbody]
  by_cases h₁ : d = ingress services
  · subst h₁
    simp [headTo_insertRule, headRules, linkIn, ingress, egress, services]
  by_cases h₂ : d = egress services
  · subst h₂
    simp [headTo_insertRule, headRules, linkOut, ingress, egress, services]
  · have h₁' : ingress services ≠ d := Ne.symm h₁
    have h₂' : egress services ≠ d := Ne.symm h₂
    simp only [headTo_insertRule, headRules, queryRules, h₁, h₂, h₁', h₂', List.filterMap_cons,
      if_false, List.filterMap_nil, List.append_nil]
    split
    · rw [List.reverse_reverse]
    · split
      · rw [List.reverse_reverse]
      · rfl

/-- The rules of an item at the end of a chain. -/
lemma filterMap_tailTo_itemInstall (d c : String) (item : DnsForward) :
    (DnsForwarding.itemInstall c item).filterMap (Operation.tailTo d) =
      if c = d then DnsForwarding.protocols.map fun p => (DnsForwarding.acceptRule item p).text
      else [] := by
  by_cases h : c = d <;>
    simp [DnsForwarding.itemInstall, DnsForwarding.protocols, List.filterMap_cons,
      tailTo_appendRule, tailTo_insertRule, h]

/-- Filling puts the rules of its two chains at their ends. -/
lemma filterMap_tailTo_fill (d : String) :
    s.fill.filterMap (Operation.tailTo d) =
      if d = s.chainIn then s.inRules else if d = s.chainOut then [Rule.leave.text] else [] := by
  have hmap : ∀ rules : List Rule, (rules.map (appendRule s.chainIn)).filterMap
      (Operation.tailTo d) = if s.chainIn = d then rules.map Rule.text else [] := by
    intro rules
    by_cases h : s.chainIn = d
    · simp [List.filterMap_map, Function.comp_def, tailTo_appendRule, h]
    · simp [List.filterMap_map, List.filterMap_eq_nil_iff, tailTo_appendRule, h]
  have hbody : s.fill.filterMap (Operation.tailTo d) =
      (if s.chainIn = d then s.inRules else []) ++
      if s.chainOut = d then [Rule.leave.text] else [] := by
    cases s with
    | ports config =>
      rw [fill, List.filterMap_append]
      congr 1
      · exact hmap _
      · by_cases h : egress config.chainName = d <;>
          simp [tailTo_appendRule, tailTo_insertRule, chainOut, chainName, h]
    | names config =>
      rw [fill, List.filterMap_append, List.filterMap_flatMap]
      simp only [filterMap_tailTo_itemInstall]
      have hends : [appendRule (DnsForwarding.chainIn config) Rule.leave,
          appendRule (DnsForwarding.chainOut config) Rule.leave,
          insertRule (ingress services) 1 (.jump [] (DnsForwarding.chainIn config)),
          insertRule (egress services) 1 (.jump [] (DnsForwarding.chainOut config))].filterMap
            (Operation.tailTo d) =
          (if DnsForwarding.chainIn config = d then [Rule.leave.text] else []) ++
          if DnsForwarding.chainOut config = d then [Rule.leave.text] else [] := by
        by_cases h₁ : DnsForwarding.chainIn config = d <;>
          by_cases h₂ : DnsForwarding.chainOut config = d <;>
          simp [List.filterMap_cons, tailTo_appendRule, tailTo_insertRule, h₁, h₂]
      rw [hends, ← List.append_assoc]
      congr 1
      show _ = if DnsForwarding.chainIn config = d then _ else _
      split
      · rfl
      · simp
  rw [hbody]
  by_cases h₁ : d = s.chainIn
  · subst h₁
    simp [chainIn, chainOut]
  · simp [h₁, Ne.symm h₁, eq_comm (a := d)]

/-- Filling only adds rules at the ends of chains. -/
lemma addsAtEnd_fill : ∀ op ∈ s.fill, op.AddsAtEnd := by
  intro op hop
  rcases mem_fill hop with ⟨r, -, rfl⟩ | rfl | rfl | rfl | ⟨r, -, rfl⟩ | ⟨r, -, rfl⟩
  · exact .inl ⟨_, _, rfl⟩
  · exact .inl ⟨_, _, rfl⟩
  · exact .inr ⟨_, _, rfl⟩
  · exact .inr ⟨_, _, rfl⟩
  · exact .inr ⟨_, _, rfl⟩
  · exact .inr ⟨_, _, rfl⟩

/-- The shared chains that a service puts rules into. -/
def needs : HostService → List String
  | .ports _ => [ingress services, egress services]
  | .names _ => sharedChains

lemma ingress_mem_needs : ingress services ∈ s.needs := by
  cases s <;> simp [needs, sharedChains]

lemma egress_mem_needs : egress services ∈ s.needs := by
  cases s <;> simp [needs, sharedChains]

/-- Filling changes the own chains and these shared ones, and adds no rule that looks into a set. -/
lemma edits_fill (h : s.Valid) {op : Operation} (hop : op ∈ s.fill) :
    (∃ c, op.editedChain? = some c ∧ (c ∈ s.ownChains ∨ c ∈ s.needs)) ∧
      ∀ rule ∈ op.addedRule?, matchedSet? rule = none := by
  have hin : s.chainIn ∈ s.ownChains := by simp [ownChains]
  have hout : s.chainOut ∈ s.ownChains := by simp [ownChains]
  have htidy : ∀ rule, (∃ own, Tidy own rule) → matchedSet? rule = none := by
    rintro rule ⟨own, h⟩
    exact h.2
  -- Own rules and the last one, the two links, then the rules for queries.
  rcases mem_fill hop with ⟨r, hr, rfl⟩ | rfl | rfl | rfl | ⟨r, hr, rfl⟩ | ⟨r, hr, rfl⟩
  · exact ⟨⟨_, rfl, .inl hin⟩, by rintro _ ⟨⟩; exact htidy _ ⟨[], tidy_inRules [] r hr⟩⟩
  · exact ⟨⟨_, rfl, .inl hout⟩, by rintro _ ⟨⟩; exact htidy _ ⟨[], tidy_leave⟩⟩
  · exact ⟨⟨_, rfl, .inr ingress_mem_needs⟩, by rintro _ ⟨⟩; exact htidy _ ⟨_, tidy_linkIn h⟩⟩
  · exact ⟨⟨_, rfl, .inr egress_mem_needs⟩, by rintro _ ⟨⟩; exact htidy _ ⟨_, tidy_linkOut h⟩⟩
  · refine ⟨⟨_, rfl, .inr ?_⟩, by rintro _ ⟨⟩; exact matchedSet?_redirects r hr⟩
    cases s with
    | ports config => cases hr
    | names config => simp [needs, sharedChains]
  · refine ⟨⟨_, rfl, .inr ?_⟩, by rintro _ ⟨⟩; exact htidy _ ⟨[], tidy_forwards [] r hr⟩⟩
    cases s with
    | ports config => cases hr
    | names config => simp [needs, sharedChains]

/-- Filling keeps to the service. -/
lemma confined_fill (h : s.Valid) (hplain : s.RedirectsPlainly) {op : Operation}
    (hop : op ∈ s.fill) :
    Confined s.ownChains op ∧ ∀ rule ∈ op.addedRule?, Tidy s.ownChains rule := by
  have hin : s.chainIn ∈ s.ownChains := by simp [ownChains]
  have hout : s.chainOut ∈ s.ownChains := by simp [ownChains]
  have hlinkIn := tidy_linkIn h
  have hlinkOut := tidy_linkOut h
  rcases mem_fill hop with ⟨r, hr, rfl⟩ | rfl | rfl | rfl | ⟨r, hr, rfl⟩ | ⟨r, hr, rfl⟩
  · have htidy := tidy_inRules s.ownChains r hr
    exact ⟨⟨hin, htidy⟩, by rintro _ ⟨⟩; exact htidy⟩
  · exact ⟨⟨hout, tidy_leave⟩, by rintro _ ⟨⟩; exact tidy_leave⟩
  · exact ⟨⟨by simp [sharedChains], rfl, hlinkIn⟩, by rintro _ ⟨⟩; exact hlinkIn⟩
  · exact ⟨⟨by simp [sharedChains], rfl, hlinkOut⟩, by rintro _ ⟨⟩; exact hlinkOut⟩
  · have htidy := tidy_redirects s.ownChains hplain r hr
    exact ⟨⟨by simp [sharedChains], rfl, htidy⟩, by rintro _ ⟨⟩; exact htidy⟩
  · have htidy := tidy_forwards s.ownChains r hr
    exact ⟨⟨by simp [sharedChains], rfl, htidy⟩, by rintro _ ⟨⟩; exact htidy⟩

/-- A service puts nothing at the head of the chains that are not shared. -/
lemma headRules_of_notMem {c : String} (hc : c ∉ sharedChains) : s.headRules c = [] := by
  simp only [sharedChains, List.mem_cons, List.not_mem_nil, or_false, not_or] at hc
  obtain ⟨hin, hout, hforward, hprerouting⟩ := hc
  rw [headRules, if_neg hin, if_neg hout, queryRules, if_neg hforward, if_neg hprerouting]

/-- Of the managed chains, only those for services are shared. -/
lemma notMem_sharedChains {c : String} (hmanaged : isManagedName c) (hin : c ≠ ingress services)
    (hout : c ≠ egress services) : c ∉ sharedChains := by
  simp only [sharedChains, List.mem_cons, List.not_mem_nil, or_false, not_or]
  exact ⟨hin, hout, ne_of_not_isManagedName hmanaged (by decide),
    ne_of_not_isManagedName hmanaged (by decide)⟩

/-- What the chains are after a service has been installed where they were `before`. -/
def installedOn (s : HostService) (before : String → Option (List String)) (c : String) :
    Option (List String) :=
  if c = s.chainIn then some s.inRules
  else if c = s.chainOut then some [Rule.leave.text]
  else (before c).map (s.headRules c ++ ·)

/-- A state to which the two chains of a service have been added. -/
def withOwnChains (s : HostService) (f : Firewall) : Firewall :=
  (f.setChain s.chainIn []).setChain s.chainOut []

lemma chain?_withOwnChains (f : Firewall) (c : String) :
    (s.withOwnChains f).chain? c = if c = s.chainOut then some [] else
      if c = s.chainIn then some [] else f.chain? c := by
  simp only [withOwnChains, Firewall.chain?_setChain, Function.update_apply]

section Filling

variable {guarded : String → Bool} {f : Firewall}

lemma applyAll_newChains (hin : f.chain? s.chainIn = none) (hout : f.chain? s.chainOut = none) :
    f.applyAll guarded [.newChain s.chainIn, .newChain s.chainOut] = some (s.withOwnChains f) := by
  have hne : s.chainOut ≠ s.chainIn := egress_ne_ingress _ _
  rw [Firewall.applyAll_cons, Firewall.apply_newChain_iff.mpr ⟨hin, rfl⟩, Option.bind_some,
    Firewall.applyAll_cons, Firewall.apply_newChain_iff.mpr ⟨?_, rfl⟩]
  · rfl
  · rw [Firewall.chain?_setChain_of_ne _ _ hne, hout]

/-- Filling finds the chains it needs, if its rules jump to no guarded chain but to the service's
own. -/
lemma ready_fill (h : s.Valid)
    (htargets : ∀ op ∈ s.fill, ∀ rule ∈ op.addedRule?, ∀ t ∈ ruleTarget? rule, guarded t →
      t ∈ s.ownChains)
    (hneeds : ∀ c ∈ s.needs, (f.chain? c).isSome) :
    ∀ op ∈ s.fill, Operation.Ready guarded (s.withOwnChains f) op := by
  have hne : s.chainIn ≠ s.chainOut := ingress_ne_egress _ _
  have hown : ∀ c ∈ s.ownChains, ((s.withOwnChains f).chain? c).isSome := by
    intro c hc
    rw [chain?_withOwnChains]
    rcases List.mem_pair.mp hc with rfl | rfl
    · rw [if_neg hne, if_pos rfl]
      rfl
    · rw [if_pos rfl]
      rfl
  have hkeep : ∀ c, (f.chain? c).isSome → ((s.withOwnChains f).chain? c).isSome := by
    intro c hc
    rw [chain?_withOwnChains]
    split
    · rfl
    · split
      · rfl
      · exact hc
  intro op hop
  obtain ⟨⟨c, hedited, hc⟩, hsets⟩ := edits_fill h hop
  refine ⟨⟨c, hedited, ?_⟩, fun rule hrule => ⟨fun t ht hguarded => ?_, fun set hset => ?_⟩⟩
  · rcases hc with hc | hc
    · exact hown c hc
    · exact hkeep c (hneeds c hc)
  -- A rule that jumps to a chain of the service finds it there, because both were made first.
  · exact hown t (htargets op hop rule hrule t ht hguarded)
  · rw [hsets rule hrule] at hset
    cases hset

/-- What filling makes of the rules of a chain. -/
lemma editAll_fill (d : String) (rules : List String) :
    Operation.editAll d s.fill rules = some (s.headRules d ++ rules ++
      if d = s.chainIn then s.inRules else if d = s.chainOut then [Rule.leave.text] else []) := by
  rw [Operation.editAll_adds addsAtEnd_fill, filterMap_headTo_fill, filterMap_tailTo_fill,
    List.reverse_reverse]

/-- A service puts nothing at the head of its own chains, where they are not shared. -/
lemma headRules_of_mem_ownChains {c : String} (hc : c ∈ s.ownChains) (habsent : f.chain? c = none)
    (hneeds : ∀ c ∈ s.needs, (f.chain? c).isSome) : s.headRules c = [] := by
  have hne : ∀ d ∈ s.needs, c ≠ d := fun d hd =>
    (Firewall.ne_of_chain?_eq_none habsent (hneeds d hd)).symm
  exact headRules_of_notMem (notMem_sharedChains (isManagedName_ownChains c hc)
    (hne _ ingress_mem_needs) (hne _ egress_mem_needs))

/-- Installing a service on a host without its chains fails nowhere, if its rules jump to no guarded
chain but to its own; it makes the two chains and puts the rules of the service at the head of the
shared ones. -/
theorem applyAll_install_of_targets (h : s.Valid)
    (htargets : ∀ op ∈ s.fill, ∀ rule ∈ op.addedRule?, ∀ t ∈ ruleTarget? rule, guarded t →
      t ∈ s.ownChains)
    (hin : f.chain? s.chainIn = none) (hout : f.chain? s.chainOut = none)
    (hneeds : ∀ c ∈ s.needs, (f.chain? c).isSome) :
    ∃ g, f.applyAll guarded (s.operations .install) = some g ∧
      g.chain? = s.installedOn f.chain? ∧ g.set? = f.set? := by
  have hne : s.chainOut ≠ s.chainIn := egress_ne_ingress _ _
  have hheadIn : s.headRules s.chainIn = [] :=
    headRules_of_mem_ownChains (by simp [ownChains]) hin hneeds
  have hheadOut : s.headRules s.chainOut = [] :=
    headRules_of_mem_ownChains (by simp [ownChains]) hout hneeds
  obtain ⟨g, hg, hchains, hsets⟩ := Firewall.applyAll_edits (ready_fill h htargets hneeds)
    fun d rules _ => ⟨_, editAll_fill d rules⟩
  refine ⟨g, ?_, ?_, hsets⟩
  · rw [operations_install]
    exact Firewall.applyAll_append_eq_some_iff.mpr ⟨_, applyAll_newChains hin hout, hg⟩
  · funext d
    rw [hchains d, chain?_withOwnChains, installedOn]
    by_cases h₁ : d = s.chainIn
    · subst h₁
      rw [if_neg hne.symm, if_pos rfl, if_pos rfl, Option.bind_some, editAll_fill, if_pos rfl,
        hheadIn]
      rfl
    by_cases h₂ : d = s.chainOut
    · subst h₂
      rw [if_pos rfl, if_neg h₁, if_pos rfl, Option.bind_some, editAll_fill, if_neg h₁, if_pos rfl,
        hheadOut]
      rfl
    · rw [if_neg h₂, if_neg h₁, if_neg h₁, if_neg h₂]
      cases f.chain? d with
      | none => rfl
      | some rules =>
        rw [Option.bind_some, editAll_fill, if_neg h₁, if_neg h₂, List.append_nil]
        rfl

end Filling

/-- Installing fails nowhere if no rule for queries reads like a jump to a managed chain. -/
theorem applyAll_install {f : Firewall} (h : s.Valid) (hplain : s.RedirectsPlainly)
    (hin : f.chain? s.chainIn = none) (hout : f.chain? s.chainOut = none)
    (hneeds : ∀ c ∈ s.needs, (f.chain? c).isSome) :
    ∃ g, f.applyAll isManagedName (s.operations .install) = some g ∧
      g.chain? = s.installedOn f.chain? ∧ g.set? = f.set? :=
  applyAll_install_of_targets h
    (fun _ hop rule hrule => ((confined_fill h hplain hop).2 rule hrule).1) hin hout hneeds

end Install

/-! ## Uninstalling -/

/-- What uninstalling does first: it takes out the links. -/
def unlink (s : HostService) : List Operation :=
  [.delete (ingress services) s.linkIn, .delete (egress services) s.linkOut]

/-- What uninstalling does last: it takes the other rules out of the shared chains. -/
def withdraw : HostService → List Operation
  | .ports _ => []
  | .names config => config.items.flatMap DnsForwarding.itemUninstall

section Uninstall

variable {guarded : String → Bool} {s : HostService} {f g : Firewall}

lemma operations_uninstall :
    s.operations .uninstall =
      s.unlink ++ teardown s.chainIn ++ teardown s.chainOut ++ s.withdraw := by
  cases s with
  | ports config =>
    simp [operations, Service.operations, Service.uninstall, unlink, withdraw, chainIn, chainOut,
      chainName, linkIn, linkOut, deleteRule]
  | names config =>
    simp [operations, DnsForwarding.operations, DnsForwarding.uninstall, unlink, withdraw, chainIn,
      chainOut, chainName, linkIn, linkOut, deleteRule, DnsForwarding.chainIn,
      DnsForwarding.chainOut]

/-- The last part of uninstalling deletes rules, from shared chains that the service needs and that
are no chains for services. -/
lemma exists_delete_of_mem_withdraw {op : Operation} (h : op ∈ s.withdraw) :
    ∃ c ∈ s.needs, ¬ isManagedName c ∧ ∃ r : Rule, op = .delete c r.text := by
  cases s with
  | ports config => cases h
  | names config =>
    obtain ⟨item, hitem, h⟩ := List.mem_flatMap.mp h
    rcases List.mem_append.mp h with h | h
    · obtain ⟨p, hp, rfl⟩ := List.mem_map.mp h
      exact ⟨"PREROUTING", by simp [needs, sharedChains], by decide, _, rfl⟩
    · obtain ⟨p, hp, rfl⟩ := List.mem_map.mp h
      exact ⟨"FORWARD", by simp [needs, sharedChains], by decide, _, rfl⟩

lemma needs_subset_sharedChains : ∀ c ∈ s.needs, c ∈ sharedChains := by
  cases s <;> simp [needs, sharedChains]

/-- Uninstalling keeps to the service. -/
lemma confined_uninstall : ∀ op ∈ s.operations .uninstall, Confined s.ownChains op := by
  intro op hop
  rw [operations_uninstall] at hop
  simp only [List.mem_append, unlink, teardown, List.mem_cons, List.not_mem_nil, or_false] at hop
  rcases hop with (((rfl | rfl) | rfl | rfl) | rfl | rfl) | hop
  · simp [Confined, sharedChains]
  · simp [Confined, sharedChains]
  · simp [Confined, ownChains]
  · simp [Confined, ownChains]
  · simp [Confined, ownChains]
  · simp [Confined, ownChains]
  · obtain ⟨c, hc, -, r, rfl⟩ := exists_delete_of_mem_withdraw hop
    exact needs_subset_sharedChains c hc

/-- What the last part of uninstalling takes out of a chain. -/
lemma filterMap_takenFrom_withdraw (d : String) :
    s.withdraw.filterMap (Operation.takenFrom d) =
      if d = "FORWARD" then s.forwards else if d = "PREROUTING" then s.redirects else [] := by
  cases s with
  | ports config => simp [withdraw, forwards, redirects]
  | names config =>
    have hitem : ∀ item, (DnsForwarding.itemUninstall item).filterMap (Operation.takenFrom d) =
        if d = "FORWARD" then
          DnsForwarding.protocols.map fun p => (DnsForwarding.forwardRule item p).text
        else if d = "PREROUTING" then
          DnsForwarding.protocols.map fun p => (DnsForwarding.redirectRule item p).text
        else [] := by
      intro item
      by_cases h₁ : d = "FORWARD"
      · subst h₁
        simp [DnsForwarding.itemUninstall, DnsForwarding.protocols, deleteRule,
          Operation.takenFrom]
      by_cases h₂ : d = "PREROUTING"
      · subst h₂
        simp [DnsForwarding.itemUninstall, DnsForwarding.protocols, deleteRule,
          Operation.takenFrom]
      · simp [DnsForwarding.itemUninstall, DnsForwarding.protocols, deleteRule,
          Operation.takenFrom, h₁, h₂, Ne.symm h₁, Ne.symm h₂]
    rw [withdraw, List.filterMap_flatMap]
    simp only [hitem]
    split
    · rfl
    · split
      · rfl
      · simp

/-- What the chains are between the links of the service being taken out and its chains being
removed. -/
def unlinkedOn (s : HostService) (before : String → Option (List String)) (c : String) :
    Option (List String) :=
  if c = s.chainIn then some s.inRules
  else if c = s.chainOut then some [Rule.leave.text]
  else (before c).map (s.queryRules c ++ ·)

/-- Without its links, no rule that a service has added jumps to a chain of its own that no rule for
queries jumps to. -/
lemma target_of_mem_unlinkedOn {c : String} (hc : c ∈ s.ownChains)
    (hredirects : ∀ rule ∈ s.redirects, ruleTarget? rule ≠ some c)
    {before : String → Option (List String)} {d : String} {rules : List String}
    (hd : s.unlinkedOn before d = some rules) {rule : String} (hrule : rule ∈ rules) :
    ruleTarget? rule ≠ some c ∨ ∃ rules', before d = some rules' ∧ rule ∈ rules' := by
  have hmanaged : isManagedName c := isManagedName_ownChains c hc
  rw [unlinkedOn] at hd
  split at hd
  · cases hd
    exact .inl ((tidy_inRules [] rule hrule).ruleTarget?_ne hmanaged)
  split at hd
  · cases hd
    obtain rfl := List.mem_singleton.mp hrule
    exact .inl (tidy_leave.ruleTarget?_ne hmanaged)
  · obtain ⟨rules', hbefore, rfl⟩ := Option.map_eq_some_iff.mp hd
    rcases List.mem_append.mp hrule with hhead | htail
    · rw [queryRules] at hhead
      split at hhead
      · have htidy := tidy_forwards [] rule (List.mem_reverse.mp hhead)
        exact .inl (htidy.ruleTarget?_ne hmanaged)
      split at hhead
      · exact .inl (hredirects rule (List.mem_reverse.mp hhead))
      · cases hhead
    · exact .inr ⟨rules', hbefore, htail⟩

/-- Without the links nothing jumps to such a chain any more. -/
lemma not_refers_of_unlinkedOn {c : String} (hc : c ∈ s.ownChains)
    (hredirects : ∀ rule ∈ s.redirects, ruleTarget? rule ≠ some c) (hrefers : ¬ f.Refers c)
    (hg : g.chain? = s.unlinkedOn f.chain?) : ¬ g.Refers c := by
  rintro ⟨d, rules, hd, rule, hrule, htarget⟩
  rw [hg] at hd
  rcases target_of_mem_unlinkedOn hc hredirects hd hrule with helsewhere | ⟨rules', hf, hmem⟩
  · exact helsewhere htarget
  · exact hrefers ⟨d, rules', hf, rule, hmem, htarget⟩

/-- Taking out the links. -/
lemma applyAll_unlink (hin : f.chain? s.chainIn = none) (hout : f.chain? s.chainOut = none)
    (hneeds : ∀ c ∈ s.needs, (f.chain? c).isSome) (hg : g.chain? = s.installedOn f.chain?) :
    ∃ g', g.applyAll guarded s.unlink = some g' ∧ g'.chain? = s.unlinkedOn f.chain? ∧
      g'.set? = g.set? := by
  -- The chains for services are there and those of the service were not, so they differ.
  have hown : ∀ c ∈ s.needs, c ≠ s.chainIn ∧ c ≠ s.chainOut := fun c hc =>
    ⟨Firewall.ne_of_chain?_eq_none hin (hneeds c hc),
      Firewall.ne_of_chain?_eq_none hout (hneeds c hc)⟩
  have hin' := hown _ ingress_mem_needs
  have hout' := hown _ egress_mem_needs
  obtain ⟨inRest, hinRest⟩ := Option.isSome_iff_exists.mp (hneeds _ ingress_mem_needs)
  obtain ⟨outRest, houtRest⟩ := Option.isSome_iff_exists.mp (hneeds _ egress_mem_needs)
  -- The link stands at the head of its chain, so deleting it leaves what was behind it.
  have hgin : g.chain? (ingress services) = some (s.linkIn :: inRest) := by
    rw [hg, installedOn, if_neg hin'.1, if_neg hin'.2, hinRest, headRules, if_pos rfl]
    rfl
  have hgout : g.chain? (egress services) = some (s.linkOut :: outRest) := by
    rw [hg, installedOn, if_neg hout'.1, if_neg hout'.2, houtRest, headRules,
      if_neg (egress_ne_ingress _ _), if_pos rfl]
    rfl
  let g₁ := g.setChain (ingress services) inRest
  have hg₁ : g.apply guarded (.delete (ingress services) s.linkIn) = some g₁ :=
    Firewall.apply_delete_iff.mpr ⟨_, hgin, List.mem_cons_self, by rw [List.erase_cons_head]⟩
  have hg₁out : g₁.chain? (egress services) = some (s.linkOut :: outRest) := by
    rw [Firewall.chain?_setChain_of_ne _ _ (egress_ne_ingress _ _), hgout]
  let g₂ := g₁.setChain (egress services) outRest
  have hg₂ : g₁.apply guarded (.delete (egress services) s.linkOut) = some g₂ :=
    Firewall.apply_delete_iff.mpr ⟨_, hg₁out, List.mem_cons_self, by rw [List.erase_cons_head]⟩
  refine ⟨g₂, ?_, ?_, rfl⟩
  · rw [unlink, Firewall.applyAll_cons, hg₁, Option.bind_some, Firewall.applyAll_cons, hg₂]
    rfl
  · funext c
    rw [Firewall.chain?_setChain, Firewall.chain?_setChain, unlinkedOn]
    by_cases h₁ : c = egress services
    · subst h₁
      rw [Function.update_self, if_neg hout'.1, if_neg hout'.2, houtRest]
      rfl
    by_cases h₂ : c = ingress services
    · subst h₂
      rw [Function.update_of_ne h₁, Function.update_self, if_neg hin'.1, if_neg hin'.2, hinRest]
      rfl
    · rw [Function.update_of_ne h₁, Function.update_of_ne h₂, hg, installedOn, headRules,
        if_neg h₂, if_neg h₁]

/-- Removing the two chains where nothing jumps to them, which leaves only the rules for queries. -/
lemma applyAll_teardowns (hin : f.chain? s.chainIn = none) (hout : f.chain? s.chainOut = none)
    (hrefers : ∀ c ∈ s.ownChains, ¬ g.Refers c) (hg : g.chain? = s.unlinkedOn f.chain?) :
    ∃ g', g.applyAll guarded (teardown s.chainIn ++ teardown s.chainOut) = some g' ∧
      (∀ c, g'.chain? c = (f.chain? c).map (s.queryRules c ++ ·)) ∧ g'.set? = g.set? := by
  have hne : s.chainOut ≠ s.chainIn := egress_ne_ingress _ _
  have hteardownIn : g.applyAll guarded (teardown s.chainIn) = some (g.dropChain s.chainIn) := by
    refine Firewall.applyAll_teardown ?_ (hrefers _ (by simp [ownChains]))
    rw [hg, unlinkedOn, if_pos rfl]
    exact Option.some_ne_none _
  have hteardownOut : (g.dropChain s.chainIn).applyAll guarded (teardown s.chainOut) =
      some ((g.dropChain s.chainIn).dropChain s.chainOut) := by
    refine Firewall.applyAll_teardown ?_ fun h =>
      hrefers s.chainOut (by simp [ownChains]) h.of_dropChain
    rw [Firewall.chain?_dropChain, Function.update_of_ne hne, hg, unlinkedOn, if_neg hne,
      if_pos rfl]
    exact Option.some_ne_none _
  refine ⟨_, Firewall.applyAll_append_eq_some_iff.mpr ⟨_, hteardownIn, hteardownOut⟩,
    fun c => ?_, rfl⟩
  rw [Firewall.chain?_dropChain, Firewall.chain?_dropChain]
  by_cases h₁ : c = s.chainOut
  · subst h₁
    rw [Function.update_self, hout]
    rfl
  by_cases h₂ : c = s.chainIn
  · subst h₂
    rw [Function.update_of_ne h₁, Function.update_self, hin]
    rfl
  · rw [Function.update_of_ne h₁, Function.update_of_ne h₂, hg, unlinkedOn, if_neg h₂, if_neg h₁]

/-- Taking the rules for queries out of the shared chains. -/
lemma applyAll_withdraw (hneeds : ∀ c ∈ s.needs, (f.chain? c).isSome)
    (hg : ∀ c, g.chain? c = (f.chain? c).map (s.queryRules c ++ ·)) (hset : g.set? = f.set?) :
    g.applyAll guarded s.withdraw = some f := by
  have hdeletes : ∀ op ∈ s.withdraw, ∃ c rule, op = .delete c rule := by
    intro op hop
    obtain ⟨c, -, -, r, rfl⟩ := exists_delete_of_mem_withdraw hop
    exact ⟨c, r.text, rfl⟩
  have hready : ∀ op ∈ s.withdraw, Operation.Ready guarded g op := by
    intro op hop
    obtain ⟨c, hc, -, r, rfl⟩ := exists_delete_of_mem_withdraw hop
    refine ⟨⟨c, rfl, ?_⟩, by rintro _ ⟨⟩⟩
    rw [hg, Option.isSome_map]
    exact hneeds c hc
  -- The rules for queries are deleted in the order in which they were inserted.
  have hperm : ∀ c, (s.queryRules c).Perm (s.withdraw.filterMap (Operation.takenFrom c)) := by
    intro c
    rw [filterMap_takenFrom_withdraw, queryRules]
    split
    · exact List.reverse_perm _
    split
    · exact List.reverse_perm _
    · exact .refl _
  have hedit : ∀ c rules,
      Operation.editAll c s.withdraw (s.queryRules c ++ rules) = some rules := by
    intro c rules
    rw [Operation.editAll_deletes hdeletes, Operation.diff_append_of_perm (hperm c)]
    exact (hperm c).symm.subperm.trans (List.sublist_append_left _ _).subperm
  obtain ⟨g', hg', hchains, hsets⟩ := Firewall.applyAll_edits hready (by
    intro c rules hc
    rw [hg] at hc
    obtain ⟨rules', -, rfl⟩ := Option.map_eq_some_iff.mp hc
    exact ⟨_, hedit c rules'⟩)
  have hback : g' = f := by
    refine Firewall.ext_chain?_set? (funext fun c => ?_) (hsets.trans hset)
    rw [hchains, hg]
    cases f.chain? c with
    | none => rfl
    | some rules => exact hedit c rules
  rw [hg', hback]

/-- Uninstalling a service that was installed fails nowhere and gives the state back in which it was
installed. -/
theorem applyAll_uninstall (h : s.RedirectsElsewhere) (hin : f.chain? s.chainIn = none)
    (hout : f.chain? s.chainOut = none) (hneeds : ∀ c ∈ s.needs, (f.chain? c).isSome)
    (hrefers : ∀ c ∈ s.ownChains, ¬ f.Refers c) (hg : g.chain? = s.installedOn f.chain?)
    (hset : g.set? = f.set?) :
    g.applyAll guarded (s.operations .uninstall) = some f := by
  obtain ⟨g₁, hg₁, hchain₁, hset₁⟩ := applyAll_unlink hin hout hneeds hg
  have hrefers₁ : ∀ c ∈ s.ownChains, ¬ g₁.Refers c := fun c hc =>
    not_refers_of_unlinkedOn hc (fun rule hrule htarget => h rule hrule c htarget hc)
      (hrefers c hc) hchain₁
  obtain ⟨g₂, hg₂, hchain₂, hset₂⟩ := applyAll_teardowns hin hout hrefers₁ hchain₁
  rw [operations_uninstall, List.append_assoc s.unlink]
  exact Firewall.applyAll_append_eq_some_iff.mpr
    ⟨g₂, Firewall.applyAll_append_eq_some_iff.mpr ⟨g₁, hg₁, hg₂⟩,
      applyAll_withdraw hneeds hchain₂ (hset₂.trans (hset₁.trans hset))⟩

end Uninstall

/-! ## The operations of a service -/

section Operations

variable {s : HostService}

/-- A service keeps to its own chains and to its part of the shared ones. -/
lemma confined_operations (h : s.Valid) (hplain : s.RedirectsPlainly) {d : Direction}
    {op : Operation} (hop : op ∈ s.operations d) : Confined s.ownChains op := by
  cases d with
  | install =>
    rw [operations_install] at hop
    rcases List.mem_append.mp hop with hop | hop
    · simp only [List.mem_cons, List.not_mem_nil, or_false] at hop
      rcases hop with rfl | rfl <;> simp [Confined, ownChains]
    · exact (confined_fill h hplain hop).1
  | uninstall => exact confined_uninstall op hop

/-- What a service inserts into or deletes from a chain for services is its link there. -/
lemma links_of_mem_operations {d : Direction} {op : Operation} (hop : op ∈ s.operations d) :
    (∀ position rule, op = .insert (ingress services) position rule →
      position = 1 ∧ rule = s.linkIn) ∧
    (∀ rule, op = .delete (ingress services) rule → rule = s.linkIn) ∧
    (∀ position rule, op = .insert (egress services) position rule →
      position = 1 ∧ rule = s.linkOut) ∧
    ∀ rule, op = .delete (egress services) rule → rule = s.linkOut := by
  have hinout : ingress services ≠ egress services := ingress_ne_egress _ _
  cases d with
  | install =>
    rw [operations_install] at hop
    have hpre : "PREROUTING" ≠ ingress services ∧ "PREROUTING" ≠ egress services := by decide
    have hfor : "FORWARD" ≠ ingress services ∧ "FORWARD" ≠ egress services := by decide
    rcases List.mem_append.mp hop with hop | hop
    · simp only [List.mem_cons, List.not_mem_nil, or_false] at hop
      rcases hop with rfl | rfl <;> simp
    rcases mem_fill hop with ⟨r, -, rfl⟩ | rfl | rfl | rfl | ⟨r, -, rfl⟩ | ⟨r, -, rfl⟩
    · simp
    · simp
    · simp [eq_comm]
    · simp [hinout.symm, eq_comm]
    · simp [hpre]
    · simp [hfor]
  | uninstall =>
    rw [operations_uninstall] at hop
    simp only [List.mem_append, unlink, teardown, List.mem_cons, List.not_mem_nil, or_false] at hop
    rcases hop with (((rfl | rfl) | rfl | rfl) | rfl | rfl) | hop
    · simp [eq_comm]
    · simp [hinout.symm, eq_comm]
    · simp
    · simp
    · simp
    · simp
    · obtain ⟨c, -, hc, r, rfl⟩ := exists_delete_of_mem_withdraw hop
      -- The rules for queries are deleted from chains that are not managed.
      have hin : ingress services ≠ c := ne_of_not_isManagedName (isManagedName_ingress _) hc
      have hout : egress services ≠ c := ne_of_not_isManagedName (isManagedName_egress _) hc
      simp [hin.symm, hout.symm]

/-- Every rule of a service is the text of a structured rule. -/
lemma exists_rule_of_mem {rule : String}
    (h : rule ∈ s.inRules ∨ rule ∈ s.redirects ∨ rule ∈ s.forwards) :
    ∃ r : Rule, rule = r.text := by
  cases s with
  | ports config =>
    rcases h with h | h | h
    · obtain ⟨r, -, rfl⟩ := List.mem_map.mp h
      exact ⟨r, rfl⟩
    · cases h
    · cases h
  | names config =>
    rcases h with h | h | h
    · rcases List.mem_append.mp h with h | h
      · obtain ⟨item, -, h⟩ := List.mem_flatMap.mp h
        obtain ⟨p, -, rfl⟩ := List.mem_map.mp h
        exact ⟨_, rfl⟩
      · exact ⟨_, List.mem_singleton.mp h⟩
    · obtain ⟨item, -, h⟩ := List.mem_flatMap.mp h
      obtain ⟨p, -, rfl⟩ := List.mem_map.mp h
      exact ⟨_, rfl⟩
    · obtain ⟨item, -, h⟩ := List.mem_flatMap.mp h
      obtain ⟨p, -, rfl⟩ := List.mem_map.mp h
      exact ⟨_, rfl⟩

/-- The names of the chains that a service works on are single words. -/
lemma blank_notMem_chains (h : s.Valid) {c : String} (hc : c ∈ s.ownChains ∨ c ∈ sharedChains) :
    ' ' ∉ c.toList := by
  rcases hc with hc | hc
  · simp only [ownChains, List.mem_cons, List.not_mem_nil, or_false] at hc
    rcases hc with rfl | rfl
    · exact blank_notMem_ingress (blank_notMem_chainName h)
    · exact blank_notMem_egress (blank_notMem_chainName h)
  · have hall : ∀ d ∈ sharedChains, ' ' ∉ d.toList := by decide
    exact hall c hc

/-- Every operation of a service is well formed. -/
lemma wellFormed_operations (h : s.Valid) {d : Direction} {op : Operation}
    (hop : op ∈ s.operations d) : op.WellFormed := by
  have hin : s.chainIn ∈ s.ownChains := by simp [ownChains]
  have hout : s.chainOut ∈ s.ownChains := by simp [ownChains]
  cases d with
  | install =>
    rw [operations_install] at hop
    rcases List.mem_append.mp hop with hop | hop
    · simp only [List.mem_cons, List.not_mem_nil, or_false] at hop
      rcases hop with rfl | rfl <;> trivial
    rcases mem_fill hop with ⟨r, hr, rfl⟩ | rfl | rfl | rfl | ⟨r, hr, rfl⟩ | ⟨r, hr, rfl⟩
    · obtain ⟨rule, rfl⟩ := exists_rule_of_mem (.inl hr)
      exact ⟨blank_notMem_chains h (.inl hin), rule.text_ne_empty⟩
    · exact ⟨blank_notMem_chains h (.inl hout), Rule.text_ne_empty _⟩
    · exact ⟨blank_notMem_chains h (.inr (by decide)), by decide, Rule.text_ne_empty _⟩
    · exact ⟨blank_notMem_chains h (.inr (by decide)), by decide, Rule.text_ne_empty _⟩
    · obtain ⟨rule, rfl⟩ := exists_rule_of_mem (.inr (.inl hr))
      exact ⟨blank_notMem_chains h (.inr (by decide)), by decide, rule.text_ne_empty⟩
    · obtain ⟨rule, rfl⟩ := exists_rule_of_mem (.inr (.inr hr))
      exact ⟨blank_notMem_chains h (.inr (by decide)), by decide, rule.text_ne_empty⟩
  | uninstall =>
    rw [operations_uninstall] at hop
    simp only [List.mem_append, unlink, teardown, List.mem_cons, List.not_mem_nil, or_false] at hop
    rcases hop with (((rfl | rfl) | rfl | rfl) | rfl | rfl) | hop
    · exact ⟨blank_notMem_chains h (.inr (by decide)), Rule.text_ne_empty _⟩
    · exact ⟨blank_notMem_chains h (.inr (by decide)), Rule.text_ne_empty _⟩
    · trivial
    · trivial
    · trivial
    · trivial
    · obtain ⟨c, hc, -, r, rfl⟩ := exists_delete_of_mem_withdraw hop
      exact ⟨blank_notMem_chains h (.inr (needs_subset_sharedChains c hc)), r.text_ne_empty⟩

end Operations

end FirewallPolicy.HostService
