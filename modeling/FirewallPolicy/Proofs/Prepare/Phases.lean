import FirewallPolicy.Proofs.Firewall.Edits
import FirewallPolicy.Proofs.Firewall.Reversal
import FirewallPolicy.Proofs.Jobs.Compiled
import FirewallPolicy.Proofs.Policy.ChainNames

/-!
# The pieces of a prepared host

Preparing a host makes seven chains and two sets, piece by piece, and then links the chains into the
base chains.  Here every piece is followed by itself.

* `managedChains`, `managedSets` and `managedRules`: what the pieces make.
* `reversible_vital`, `reversible_block`, `reversible_services`, `reversible_trusted`: each piece is
  undone by its own operations, whatever else is on the host.
* `reversible_chains`: so are all four, the last one first.
-/

namespace FirewallPolicy.Prepare

open FirewallPolicy.ChainName
open Firewall (Lacks Reversible Spares)
open Operation (appendRule insertRule deleteRule teardown)

/-! ## Names and rules -/

/-- The chains of a prepared host. -/
def managedChains : List String :=
  [vitalIn, vitalOut, blockIn, ingress services, egress services, ingress trusted, egress trusted]

/-- The sets of a prepared host. -/
def managedSets : List String := [blockSet, trustedSet]

/-- The operations that fill the chains for vital traffic. -/
def vitalFill (config : PrepareConfig) : List Operation :=
  config.interfaces.flatMap vitalTraffic ++ vitalEnd

/-- The chains for vital traffic are made and then filled. -/
lemma vitalInstall_eq (config : PrepareConfig) : vitalInstall config =
    .newChain vitalIn :: .newChain vitalOut :: vitalFill config := by
  simp [vitalInstall, vitalFill]

/-- The rules that filling puts into a chain for vital traffic, in their order. -/
def vitalRules (config : PrepareConfig) (chain : String) : List String :=
  (vitalFill config).filterMap (Operation.tailTo chain)

/-- The rules of the chain for blocked networks. -/
def blockRules : List Rule := [⟨[], "DROP"⟩]

/-- The rules of a chain for trusted networks, which looks at one side of a packet. -/
def trustedRules (side : String) : List Rule := [accept [.inSet trustedSet side], Rule.leave]

/-- The rules of a chain of a prepared host. -/
def managedRules (config : PrepareConfig) (c : String) : List String :=
  if c = vitalIn ∨ c = vitalOut then vitalRules config c
  else if c = blockIn then blockRules.map Rule.text
  else if c = ingress trusted then (trustedRules "src").map Rule.text
  else if c = egress trusted then (trustedRules "dst").map Rule.text
  else [Rule.leave.text]

/-- All these chains have names of the managed form. -/
lemma isManagedName_managedChains : ∀ c ∈ managedChains, isManagedName c := by decide

variable {guarded : String → Bool} {f : Firewall} {config : PrepareConfig} {rule : String}
  {chains sets : List String}

/-- A tidy rule is admitted everywhere, if no more is asked than that managed chains are there. -/
lemma admits_of_tidy (hguard : ∀ c, guarded c → isManagedName c) (h : Tidy [] rule) :
    f.Admits guarded rule := by
  refine ⟨fun c hc hguarded => ?_, fun s hs => ?_⟩
  · exact absurd hc (h.ruleTarget?_ne (hguard c hguarded))
  · rw [h.2] at hs
    cases hs

/-- A tidy rule spares all managed chains and all sets. -/
lemma spares_of_tidy (hchains : ∀ c ∈ chains, isManagedName c) (h : Tidy [] rule) :
    Spares chains sets rule := by
  refine ⟨fun c hc hmem => ?_, fun s hs => ?_⟩
  · exact absurd hc (h.ruleTarget?_ne (hchains c hmem))
  · rw [h.2] at hs
    cases hs

/-! ## Vital traffic -/

/-- An operation appends a rule to a chain for vital traffic; the rule decides or leaves, and looks
into no set. -/
def FillsVital (op : Operation) : Prop :=
  ∃ c ∈ [vitalIn, vitalOut], ∃ r : Rule, op = appendRule c r ∧
    r.action ∈ ["ACCEPT", "REJECT", "RETURN"] ∧ ∀ set side, .inSet set side ∉ r.conditions

lemma fillsVital_appendRule {c : String} {r : Rule} (hc : c ∈ [vitalIn, vitalOut])
    (haction : r.action ∈ ["ACCEPT", "REJECT", "RETURN"])
    (hset : ∀ set side, .inSet set side ∉ r.conditions) : FillsVital (appendRule c r) :=
  ⟨c, hc, r, rfl, haction, hset⟩

lemma fillsVital_dnsClient (name protocol : String) :
    ∀ op ∈ dnsClient name protocol, FillsVital op := by
  simp only [dnsClient, List.forall_mem_cons]
  refine ⟨?_, ?_, by simp⟩ <;>
    exact fillsVital_appendRule (by simp) (by simp [accept])
      (by simp [accept, stateNew, stateEstablished])

lemma fillsVital_localTraffic (network : String) :
    ∀ op ∈ localTraffic network, FillsVital op := by
  simp only [localTraffic, List.forall_mem_cons]
  refine ⟨?_, ?_, ?_, ?_, by simp⟩ <;>
    exact fillsVital_appendRule (by simp) (by simp [accept]) (by simp [accept])

lemma fillsVital_vitalTraffic (i : PrimaryInterface) : ∀ op ∈ vitalTraffic i, FillsVital op := by
  have hlocal : ∀ op ∈ i.networks.flatMap fun n => localTraffic n.value, FillsVital op := by
    intro op hop
    obtain ⟨n, -, hop⟩ := List.mem_flatMap.mp hop
    exact fillsVital_localTraffic n.value op hop
  simp only [vitalTraffic, List.forall_mem_append, List.forall_mem_cons]
  refine ⟨⟨⟨⟨⟨?_, ?_, by simp⟩, fillsVital_dnsClient _ _⟩, fillsVital_dnsClient _ _⟩,
    ?_, ?_, ?_, ?_, ?_, ?_, ?_, ?_, by simp⟩, hlocal⟩ <;>
    exact fillsVital_appendRule (by simp) (by simp [accept])
      (by simp [accept, stateNew, stateEstablished])

lemma fillsVital_vitalEnd : ∀ op ∈ vitalEnd, FillsVital op := by
  simp only [vitalEnd, List.forall_mem_cons]
  refine ⟨?_, ?_, ?_, ?_, by simp⟩ <;>
    exact fillsVital_appendRule (by simp) (by simp [accept, Rule.leave])
      (by simp [accept, Rule.leave])

/-- All that fills the chains for vital traffic is of this kind. -/
lemma fillsVital_vitalFill : ∀ op ∈ vitalFill config, FillsVital op := by
  intro op hop
  rcases List.mem_append.mp hop with hop | hop
  · obtain ⟨i, -, hop⟩ := List.mem_flatMap.mp hop
    exact fillsVital_vitalTraffic i op hop
  · exact fillsVital_vitalEnd op hop

/-- A rule that decides or leaves, and looks into no set, is tidy. -/
lemma tidy_of_fillsVital {r : Rule} (haction : r.action ∈ ["ACCEPT", "REJECT", "RETURN"])
    (hset : ∀ set side, .inSet set side ∉ r.conditions) : Tidy [] r.text := by
  have hplain : ∀ a ∈ ["ACCEPT", "REJECT", "RETURN"], ' ' ∉ a.toList ∧ ¬ isManagedName a := by
    decide
  obtain ⟨hblank, hmanaged⟩ := hplain _ haction
  exact tidy_of_action hblank hmanaged fun set side h => hset set side (List.mem_of_head? h)

/-- A rule for vital traffic comes from a structured rule that decides or leaves. -/
lemma exists_of_mem_vitalRules {c : String} (h : rule ∈ vitalRules config c) :
    ∃ r : Rule, rule = r.text ∧ r.action ∈ ["ACCEPT", "REJECT", "RETURN"] ∧
      ∀ set side, .inSet set side ∉ r.conditions := by
  obtain ⟨op, hop, htail⟩ := List.mem_filterMap.mp h
  obtain ⟨d, -, r, rfl, haction, hset⟩ := fillsVital_vitalFill op hop
  rw [Operation.tailTo_appendRule] at htail
  split at htail
  · cases htail
    exact ⟨r, rfl, haction, hset⟩
  · cases htail

lemma tidy_vitalRules {c : String} : ∀ rule ∈ vitalRules config c, Tidy [] rule := by
  intro rule hrule
  obtain ⟨r, rfl, haction, hset⟩ := exists_of_mem_vitalRules hrule
  exact tidy_of_fillsVital haction hset

/-- The state with the chains for vital traffic. -/
def withVital (config : PrepareConfig) (f : Firewall) : Firewall :=
  (f.setChain vitalIn (vitalRules config vitalIn)).setChain vitalOut (vitalRules config vitalOut)

/-- Filling the chains for vital traffic inserts nothing at a head. -/
lemma filterMap_headTo_vitalFill (c : String) :
    (vitalFill config).filterMap (Operation.headTo c) = [] := by
  rw [List.filterMap_eq_nil_iff]
  intro op hop
  obtain ⟨d, -, r, rfl, -, -⟩ := fillsVital_vitalFill op hop
  exact Operation.headTo_appendRule c d r

/-- It puts nothing into other chains. -/
lemma vitalRules_of_ne {c : String} (hin : c ≠ vitalIn) (hout : c ≠ vitalOut) :
    vitalRules config c = [] := by
  rw [vitalRules, List.filterMap_eq_nil_iff]
  intro op hop
  obtain ⟨d, hd, r, rfl, -, -⟩ := fillsVital_vitalFill op hop
  rcases List.mem_pair.mp hd with rfl | rfl
  · rw [Operation.tailTo_appendRule, if_neg (Ne.symm hin)]
  · rw [Operation.tailTo_appendRule, if_neg (Ne.symm hout)]

/-- Filling the two chains where they are empty. -/
lemma applyAll_vitalFill (hguard : ∀ c, guarded c → isManagedName c) :
    ((f.setChain vitalIn []).setChain vitalOut []).applyAll guarded (vitalFill config) =
      some (withVital config f) := by
  have hready : ∀ op ∈ vitalFill config,
      Operation.Ready guarded ((f.setChain vitalIn []).setChain vitalOut []) op := by
    intro op hop
    obtain ⟨c, hc, r, rfl, haction, hset⟩ := fillsVital_vitalFill op hop
    refine ⟨⟨c, rfl, ?_⟩, ?_⟩
    · rcases List.mem_pair.mp hc with rfl | rfl <;> simp [Function.update_apply]
    · rintro _ ⟨⟩
      exact admits_of_tidy hguard (tidy_of_fillsVital haction hset)
  have hadds : ∀ op ∈ vitalFill config, op.AddsAtEnd := by
    intro op hop
    obtain ⟨c, -, r, rfl, -, -⟩ := fillsVital_vitalFill op hop
    exact .inl ⟨c, r.text, rfl⟩
  -- Nothing comes in front of the rules of a chain, so they are followed by those for it.
  have hedit : ∀ d rules, Operation.editAll d (vitalFill config) rules =
      some (rules ++ vitalRules config d) := by
    intro d rules
    rw [Operation.editAll_adds hadds, filterMap_headTo_vitalFill]
    rfl
  obtain ⟨g, hg, hchains, hsets⟩ := Firewall.applyAll_edits hready fun d rules _ => ⟨_, hedit d rules⟩
  have hsame : g = withVital config f := by
    refine Firewall.ext_chain?_set? (funext fun d => ?_) hsets
    simp only [hchains, hedit, withVital, Firewall.chain?_setChain, Function.update_apply]
    by_cases hout : d = vitalOut
    · simp [hout]
    by_cases hin : d = vitalIn
    · simp [hin, vitalIn, vitalOut]
    · cases f.chain? d <;> simp [hin, hout, vitalRules_of_ne hin hout]
  rw [hg, hsame]

/-- The chains for vital traffic come and go. -/
lemma reversible_vital (hguard : ∀ c, guarded c → isManagedName c)
    (h : f.Lacks [vitalIn, vitalOut] []) :
    Reversible guarded f (vitalInstall config) vitalUninstall (withVital config f) where
  there := by
    have hout : (f.setChain vitalIn []).chain? vitalOut = none := by
      rw [Firewall.chain?_setChain_of_ne _ _ (by decide)]
      exact h.chain vitalOut (by simp)
    rw [vitalInstall_eq, Firewall.applyAll_cons,
      Firewall.apply_newChain_iff.mpr ⟨h.chain vitalIn (by simp), rfl⟩, Option.bind_some,
      Firewall.applyAll_cons, Firewall.apply_newChain_iff.mpr ⟨hout, rfl⟩, Option.bind_some,
      applyAll_vitalFill hguard]
  back := by
    have hnames : ∀ c ∈ [vitalIn, vitalOut], isManagedName c := by decide
    have hspares : ∀ c, ∀ rule ∈ vitalRules config c, Spares [vitalIn, vitalOut] [] rule :=
      fun c rule hrule => spares_of_tidy hnames (tidy_vitalRules rule hrule)
    exact Firewall.applyAll_teardown_pair (by decide) h (hspares _) (hspares _)

/-- Other names stay unknown when the chains for vital traffic are made. -/
lemma lacks_withVital (h : f.Lacks chains sets) (hin : vitalIn ∉ chains) (hout : vitalOut ∉ chains)
    (hnames : ∀ c ∈ chains, isManagedName c) : (withVital config f).Lacks chains sets := by
  have hspares : ∀ c, ∀ rule ∈ vitalRules config c, Spares chains sets rule :=
    fun c rule hrule => spares_of_tidy hnames (tidy_vitalRules rule hrule)
  exact (h.setChain hin (hspares _)).setChain hout (hspares _)

/-! ## Blocked networks -/

/-- The state with the chain and the set for blocked networks. -/
def withBlock (f : Firewall) : Firewall :=
  (f.setEntries blockSet ∅).setChain blockIn (blockRules.map Rule.text)

lemma tidy_blockRules : ∀ rule ∈ blockRules.map Rule.text, Tidy [] rule := by
  intro rule hrule
  obtain ⟨r, hr, rfl⟩ := List.mem_map.mp hrule
  rw [List.mem_singleton.mp hr]
  exact tidy_of_action (by decide) (by decide) (by simp)

/-- The chain and the set for blocked networks come and go. -/
lemma reversible_block (hguard : ∀ c, guarded c → isManagedName c)
    (h : f.Lacks [blockIn] [blockSet]) :
    Reversible guarded f blockInstall blockUninstall (withBlock f) where
  there := by
    let f₁ := (f.setChain blockIn []).setEntries blockSet ∅
    have hset : (f.setChain blockIn []).set? blockSet = none := h.set blockSet (by simp)
    have hnew : f.apply guarded (.newChain blockIn) = some (f.setChain blockIn []) :=
      Firewall.apply_newChain_iff.mpr ⟨h.chain blockIn (by simp), rfl⟩
    have hcreate : (f.setChain blockIn []).apply guarded
        (.createSet blockSet Operation.networkSet) = some f₁ := Firewall.apply_createSet hset
    have hfill : f₁.applyAll guarded (blockRules.map fun r => appendRule blockIn r) =
        some (withBlock f) := by
      have hsame : f₁.setChain blockIn ([] ++ blockRules.map Rule.text) = withBlock f :=
        Firewall.ext_chain?_set? (by simp [f₁, withBlock]) rfl
      have happends : f₁.applyAll guarded ((blockRules.map Rule.text).map (.append blockIn)) =
          some (f₁.setChain blockIn ([] ++ blockRules.map Rule.text)) :=
        Firewall.applyAll_appends (by simp [f₁]) fun rule hrule =>
          admits_of_tidy hguard (tidy_blockRules rule hrule)
      rw [← hsame, ← happends, List.map_map]
      rfl
    have hinstall : blockInstall = .newChain blockIn ::
        .createSet blockSet Operation.networkSet ::
          blockRules.map fun r => appendRule blockIn r := rfl
    rw [hinstall, Firewall.applyAll_cons, hnew, Option.bind_some, Firewall.applyAll_cons, hcreate,
      Option.bind_some, hfill]
  back := by
    let f₁ := f.setEntries blockSet ∅
    -- The chain is torn down before the set is destroyed, which its rules might look into.
    have htargets : ∀ rule ∈ blockRules.map Rule.text, ruleTarget? rule ≠ some blockIn :=
      fun rule hrule => (tidy_blockRules rule hrule).ruleTarget?_ne (by decide)
    have hchain : f₁.chain? blockIn = none := h.chain blockIn (by simp)
    have hrefers : ¬ f₁.Refers blockIn := h.unreferred blockIn (by simp)
    have hteardown : (withBlock f).applyAll guarded (teardown blockIn) = some f₁ :=
      Firewall.applyAll_teardown_setChain hchain hrefers htargets
    have hset : f₁.apply guarded (.destroySet blockSet) = some f :=
      Firewall.apply_destroySet_setEntries (h.set _ (by simp)) (h.unmatched _ (by simp))
    rw [blockUninstall, Firewall.applyAll_append, hteardown, Option.bind_some,
      Firewall.applyAll_cons, hset]
    rfl

/-- Other names stay unknown when the chain and the set for blocked networks are made. -/
lemma lacks_withBlock (h : f.Lacks chains sets) (hin : blockIn ∉ chains) (hset : blockSet ∉ sets)
    (hnames : ∀ c ∈ chains, isManagedName c) : (withBlock f).Lacks chains sets :=
  (h.setEntries hset).setChain hin fun rule hrule =>
    spares_of_tidy hnames (tidy_blockRules rule hrule)

/-! ## Services -/

/-- The state with the two chains for services. -/
def withServices (f : Firewall) : Firewall :=
  (f.setChain (ingress services) [Rule.leave.text]).setChain (egress services) [Rule.leave.text]

/-- The chains for services come and go. -/
lemma reversible_services (hguard : ∀ c, guarded c → isManagedName c)
    (h : f.Lacks [ingress services, egress services] []) :
    Reversible guarded f servicesInstall servicesUninstall (withServices f) where
  there := by
    have hadmits : ∀ g : Firewall, ∀ rule ∈ [Rule.leave.text], g.Admits guarded rule := by
      intro g rule hrule
      rw [List.mem_singleton.mp hrule]
      exact admits_of_tidy hguard tidy_leave
    have hout : (f.setChain (ingress services) [Rule.leave.text]).chain? (egress services) =
        none := by
      rw [Firewall.chain?_setChain_of_ne _ _ (by decide)]
      exact h.chain _ (by simp)
    have hinstall : servicesInstall =
        (.newChain (ingress services) :: [Rule.leave.text].map (.append (ingress services))) ++
        (.newChain (egress services) :: [Rule.leave.text].map (.append (egress services))) := rfl
    rw [hinstall, Firewall.applyAll_append,
      Firewall.applyAll_makeChain (h.chain _ (by simp)) (hadmits _), Option.bind_some,
      Firewall.applyAll_makeChain hout (hadmits _)]
    rfl
  back := by
    have hspares : ∀ rule ∈ [Rule.leave.text],
        Spares [ingress services, egress services] [] rule := by
      intro rule hrule
      rw [List.mem_singleton.mp hrule]
      exact spares_of_tidy (by decide) tidy_leave
    exact Firewall.applyAll_teardown_pair (by decide) h hspares hspares

/-- Other names stay unknown when the chains for services are made. -/
lemma lacks_withServices (h : f.Lacks chains sets) (hin : ingress services ∉ chains)
    (hout : egress services ∉ chains) (hnames : ∀ c ∈ chains, isManagedName c) :
    (withServices f).Lacks chains sets := by
  have hspares : ∀ rule ∈ [Rule.leave.text], Spares chains sets rule := by
    intro rule hrule
    rw [List.mem_singleton.mp hrule]
    exact spares_of_tidy hnames tidy_leave
  exact (h.setChain hin hspares).setChain hout hspares

/-! ## Trusted networks -/

/-- The state with the set and the two chains for trusted networks. -/
def withTrusted (config : PrepareConfig) (f : Firewall) : Firewall :=
  ((f.setEntries trustedSet config.trustedNetworks.toFinset).setChain (ingress trusted)
    ((trustedRules "src").map Rule.text)).setChain (egress trusted)
      ((trustedRules "dst").map Rule.text)

/-- What the rules of a chain for trusted networks ask for. -/
lemma trustedRules_spec {side : String} (h : rule ∈ (trustedRules side).map Rule.text) :
    (∀ c ∈ ruleTarget? rule, ¬ isManagedName c) ∧ ∀ s ∈ matchedSet? rule, s = trustedSet := by
  obtain ⟨r, hr, rfl⟩ := List.mem_map.mp h
  simp only [trustedRules, List.mem_cons, List.not_mem_nil, or_false] at hr
  rcases hr with rfl | rfl
  · refine ⟨fun c hc => ?_, fun s hs => ?_⟩
    · rw [Rule.ruleTarget?_text (by simp [accept])] at hc
      cases hc
      simp [accept, isManagedName]
    · rw [Rule.matchedSet?_text_inSet rfl (by decide)] at hs
      exact (Option.some.inj hs).symm
  · have htidy : Tidy [] Rule.leave.text := tidy_leave
    obtain ⟨htarget, hset⟩ := htidy
    refine ⟨fun c hc hmanaged => ?_, fun s hs => ?_⟩
    · exact absurd (htarget c hc hmanaged) List.not_mem_nil
    · rw [hset] at hs
      cases hs

/-- The set and the chains for trusted networks come and go. -/
lemma reversible_trusted (hguard : ∀ c, guarded c → isManagedName c)
    (h : f.Lacks [ingress trusted, egress trusted] [trustedSet]) :
    Reversible guarded f (trustedInstall config) trustedUninstall (withTrusted config f) where
  there := by
    let f₁ := f.setEntries trustedSet config.trustedNetworks.toFinset
    let f₂ := f₁.setChain (ingress trusted) ((trustedRules "src").map Rule.text)
    have hadmits : ∀ g : Firewall, (g.set? trustedSet).isSome → ∀ side,
        ∀ rule ∈ (trustedRules side).map Rule.text, g.Admits guarded rule := by
      intro g hset side rule hrule
      obtain ⟨htarget, hmatched⟩ := trustedRules_spec hrule
      refine ⟨fun c hc hguarded => absurd (hguard c hguarded) (htarget c hc), fun s hs => ?_⟩
      rw [hmatched s hs]
      exact hset
    have hin : f₁.chain? (ingress trusted) = none := h.chain _ (by simp)
    have hout : f₂.chain? (egress trusted) = none := by
      rw [Firewall.chain?_setChain_of_ne _ _ (by decide)]
      exact h.chain _ (by simp)
    have hinstall : trustedInstall config =
        (.createSet trustedSet Operation.networkSet ::
          config.trustedNetworks.map (.addToSet trustedSet)) ++
        ((.newChain (ingress trusted) ::
          ((trustedRules "src").map Rule.text).map (.append (ingress trusted))) ++
        (.newChain (egress trusted) ::
          ((trustedRules "dst").map Rule.text).map (.append (egress trusted)))) := by
      simp [trustedInstall, trustedChains, trustedRules, appendRule]
    rw [hinstall, Firewall.applyAll_append, Firewall.applyAll_makeSet (h.set _ (by simp)),
      Option.bind_some, Firewall.applyAll_append,
      Firewall.applyAll_makeChain hin (hadmits f₁ (by simp [f₁]) _), Option.bind_some,
      Firewall.applyAll_makeChain hout (hadmits f₂ (by simp [f₂, f₁]) _)]
    rfl
  back := by
    let f₁ := f.setEntries trustedSet config.trustedNetworks.toFinset
    have hf₁ : f₁.Lacks [ingress trusted, egress trusted] [] :=
      (h.mono (List.Subset.refl _) (List.nil_subset _)).setEntries (by simp)
    have hspares : ∀ side, ∀ rule ∈ (trustedRules side).map Rule.text,
        Spares [ingress trusted, egress trusted] [] rule := by
      have hnames : ∀ c ∈ [ingress trusted, egress trusted], isManagedName c := by decide
      intro side rule hrule
      obtain ⟨htarget, -⟩ := trustedRules_spec hrule
      exact ⟨fun c hc hmem => htarget c hc (hnames c hmem), fun _ _ => List.not_mem_nil⟩
    have hchains : (withTrusted config f).applyAll guarded
        (teardown (ingress trusted) ++ teardown (egress trusted)) = some f₁ :=
      Firewall.applyAll_teardown_pair (by decide) hf₁ (hspares _) (hspares _)
    have hset : f₁.apply guarded (.destroySet trustedSet) = some f :=
      Firewall.apply_destroySet_setEntries (h.set _ (by simp)) (h.unmatched _ (by simp))
    have huninstall : trustedUninstall =
        (teardown (ingress trusted) ++ teardown (egress trusted)) ++ [.destroySet trustedSet] := rfl
    rw [huninstall, Firewall.applyAll_append, hchains, Option.bind_some, Firewall.applyAll_cons,
      hset]
    rfl

/-! ## All of them -/

/-- The state with all chains and sets, which nothing links to as yet. -/
def withChains (config : PrepareConfig) (f : Firewall) : Firewall :=
  withTrusted config (withServices (withBlock (withVital config f)))

/-- All chains and sets come and go, where none of them is there and no rule asks for any. -/
theorem reversible_chains (hguard : ∀ c, guarded c → isManagedName c)
    (h : f.Lacks managedChains managedSets) :
    Reversible guarded f
      (vitalInstall config ++ blockInstall ++ servicesInstall ++ trustedInstall config)
      (trustedUninstall ++ (servicesUninstall ++ (blockUninstall ++ vitalUninstall)))
      (withChains config f) := by
  have hvital : f.Lacks [vitalIn, vitalOut] [] := h.mono (by decide) (by decide)
  have hblock : (withVital config f).Lacks [blockIn] [blockSet] :=
    lacks_withVital (h.mono (by decide) (by decide)) (by decide) (by decide) (by decide)
  have hservices : (withBlock (withVital config f)).Lacks
      [ingress services, egress services] [] :=
    lacks_withBlock (lacks_withVital (h.mono (by decide) (by decide)) (by decide) (by decide)
      (by decide)) (by decide) (by decide) (by decide)
  have htrusted : (withServices (withBlock (withVital config f))).Lacks
      [ingress trusted, egress trusted] [trustedSet] :=
    lacks_withServices (lacks_withBlock (lacks_withVital (h.mono (by decide) (by decide))
      (by decide) (by decide) (by decide)) (by decide) (by decide) (by decide)) (by decide)
      (by decide) (by decide)
  exact (((reversible_vital hguard hvital).trans (reversible_block hguard hblock)).trans
    (reversible_services hguard hservices)).trans (reversible_trusted hguard htrusted)

/-- What the chains are, once they have all been made. -/
lemma chain?_withChains (c : String) :
    (withChains config f).chain? c =
      if c ∈ managedChains then some (managedRules config c) else f.chain? c := by
  simp only [withChains, withTrusted, withServices, withBlock, withVital, Firewall.chain?_setChain,
    Firewall.chain?_setEntries, Function.update_apply]
  by_cases h : c ∈ managedChains
  · rw [if_pos h]
    simp only [managedChains, List.mem_cons, List.not_mem_nil, or_false] at h
    rcases h with rfl | rfl | rfl | rfl | rfl | rfl | rfl <;>
      simp [managedRules, vitalIn, vitalOut, blockIn, vital, block, services, trusted]
  · rw [if_neg h]
    simp only [managedChains, List.mem_cons, List.not_mem_nil, or_false, not_or] at h
    simp [h]

/-- What the sets are, once they have all been made. -/
lemma set?_withChains (s : String) :
    (withChains config f).set? s =
      if s = trustedSet then some config.trustedNetworks.toFinset
      else if s = blockSet then some ∅
      else f.set? s := by
  rw [withChains, withTrusted, withServices, withBlock, withVital, Firewall.set?_setChain,
    Firewall.set?_setChain, Firewall.set?_setEntries, Firewall.set?_setChain,
    Firewall.set?_setChain, Firewall.set?_setChain, Firewall.set?_setEntries,
    Firewall.set?_setChain, Firewall.set?_setChain, Function.update_apply, Function.update_apply]

end FirewallPolicy.Prepare
