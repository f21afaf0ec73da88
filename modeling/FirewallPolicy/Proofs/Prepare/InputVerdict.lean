import FirewallPolicy.Proofs.Firewall.Verdict
import FirewallPolicy.Proofs.Prepare.Wiring
import FirewallPolicy.Proofs.Services.InSequence

/-!
# What becomes of an incoming packet

On a host that was prepared and on which services were installed afterwards, `INPUT` asks in this
order: the trusted networks, the vital traffic, the blocked networks, the services, the rules that
were there before, and the default actions of the interfaces.

* `inputVerdict`: what the first of them decides.
* `Guarding`: the state of such a host.
* `Guarding.walk_input`: the way of a packet through `INPUT`.
* `run_installs_decides`: the compiled transcripts lead to it, for every accepted configuration.
-/

namespace FirewallPolicy

open FirewallPolicy.ChainName
open Prepare

/-! ## The order of the policy -/

section Order

variable {P : Type} (t : Traffic P) (p : P)

/-- Packets from trusted networks are accepted. -/
def trustedVerdict (config : PrepareConfig) : Option Verdict :=
  if (config.globalTrusted ++ config.trusted).any fun n => t.liesIn p n.value then some .accept
  else none

/-- Vital traffic is decided by its own rules. -/
def vitalVerdict (f : Firewall) (config : PrepareConfig) : Option Verdict :=
  firstVerdict (t.meetsRule f p) (vitalRules config vitalIn)

/-- Packets from blocked networks are dropped. -/
def blockVerdict (blocked : Finset String) : Option Verdict :=
  if ∃ n ∈ blocked, t.liesIn p n then some .drop else none

/-- A packet meets a rule for a port of a service. -/
def isServed (s : ServiceConfig) : Bool :=
  (s.items.flatMap Service.itemRules).any fun r => t.meets p r.matchText

/-- Packets for the ports of a service are accepted. -/
def serviceVerdict (services : List ServiceConfig) : Option Verdict :=
  if services.any (isServed t p) then some .accept else none

/-- A packet came in by an interface. -/
def isEntrance (i : PrimaryInterface) : Bool := t.meets p ("--in-interface " ++ i.name)

/-- Other packets are decided by the first interface by which they came in. -/
def defaultVerdict (config : PrepareConfig) : Option Verdict :=
  (config.interfaces.find? (isEntrance t p)).bind fun i => Verdict.ofTarget? i.inputAction

/-- What becomes of an incoming packet on a host that had these rules in the state `f`. -/
def inputVerdict (config : PrepareConfig) (services : List ServiceConfig) (f : Firewall)
    (old : List String) (blocked : Finset String) : Option Verdict :=
  trustedVerdict t p config <|> vitalVerdict t p f config <|> blockVerdict t p blocked <|>
    serviceVerdict t p services <|> firstVerdict (t.meetsRule f p) old <|> defaultVerdict t p config

end Order

/-! ## The chains of the policy -/

/-- The state of a host that was in the state `f`, was prepared, and then got services; and whose
set of blocked networks was filled. -/
structure Guarding (config : PrepareConfig) (services : List ServiceConfig) (f : Firewall)
    (old : List String) (blocked : Finset String) (h : Firewall) : Prop where
  input : h.chain? "INPUT" = some (inputLinks ++ old ++ defaults config)
  trusted : h.chain? (ingress trusted) = some ((trustedRules "src").map Rule.text)
  vital : h.chain? vitalIn = some (vitalRules config vitalIn)
  block : h.chain? blockIn = some (blockRules.map Rule.text)
  links : h.chain? (ingress ChainName.services) =
    some ((services.map fun s => (HostService.ports s).linkIn).reverse ++ [Rule.leave.text])
  services : ∀ s ∈ services,
    h.chain? (ingress s.chainName) = some ((Service.inRules s).map Rule.text)
  trustedSet : h.set? trustedSet = some config.trustedNetworks.toFinset
  blockSet : h.set? blockSet = some blocked
  otherSets : ∀ s ∉ managedSets, h.set? s = f.set? s

section Chains

variable {P : Type} {t : Traffic P} {p : P} {config : PrepareConfig} {services : List ServiceConfig}
  {f h : Firewall} {old : List String} {blocked : Finset String}

/-- The chain for trusted networks accepts their packets, and lets all others pass. -/
lemma Guarding.walk_trusted (hg : Guarding config services f old blocked h) :
    Walk (t.meetsRule h p) h.chain? ((trustedRules "src").map Rule.text)
      (trustedVerdict t p config) := by
  let first : Rule := accept [.inSet ChainName.trustedSet "src"]
  have haccept : ruleTarget? first.text = some "ACCEPT" :=
    Rule.ruleTarget?_text (by simp [first, accept])
  have hleave : ruleTarget? Rule.leave.text = some "RETURN" := Rule.ruleTarget?_text (by decide)
  have hmeets : t.meetsRule h p first.text =
      (config.globalTrusted ++ config.trusted).any fun n => t.liesIn p n.value := by
    rw [Traffic.meetsRule_text_inSet (by simp [first, accept]) (by decide) rfl, hg.trustedSet,
      Bool.eq_iff_iff]
    simp [PrepareConfig.trustedNetworks, or_and_right, exists_or]
  have hverdict : firstVerdict (t.meetsRule h p) [first.text, Rule.leave.text] =
      trustedVerdict t p config := by
    rw [firstVerdict, firstVerdict_leave, haccept, hmeets]
    rfl
  rw [← hverdict]
  refine walk_firstVerdict fun rule hrule => ?_
  rcases List.mem_pair.mp hrule with rfl | rfl
  · exact ⟨_, by decide, haccept⟩
  · exact ⟨_, by decide, hleave⟩

/-- The chain for vital traffic goes by its own rules. -/
lemma walk_vital : Walk (t.meetsRule h p) h.chain? (vitalRules config vitalIn)
    (vitalVerdict t p f config) := by
  -- These rules look into no set, so they are met in the new state as in the old one.
  have hsame : firstVerdict (t.meetsRule h p) (vitalRules config vitalIn) =
      vitalVerdict t p f config := by
    refine firstVerdict_congr fun rule hrule => Traffic.meetsRule_congr fun s hs => ?_
    rw [(tidy_vitalRules rule hrule).2] at hs
    cases hs
  rw [← hsame]
  refine walk_firstVerdict fun rule hrule => ?_
  obtain ⟨r, rfl, haction, -⟩ := exists_of_mem_vitalRules hrule
  have hbuiltin : ∀ a ∈ ["ACCEPT", "REJECT", "RETURN"], a ∈ builtinTargets ∧ ' ' ∉ a.toList := by
    decide
  exact ⟨r.action, (hbuiltin _ haction).1, Rule.ruleTarget?_text (hbuiltin _ haction).2⟩

/-- The chain for blocked networks drops whatever comes there. -/
lemma walk_block : Walk (t.meetsRule h p) h.chain? (blockRules.map Rule.text) (some .drop) := by
  have htarget : ruleTarget? (⟨[], "DROP"⟩ : Rule).text = some Verdict.drop.target :=
    Rule.ruleTarget?_text (by decide)
  exact .stop (Traffic.meetsRule_text_of_nil (by decide) rfl) htarget

/-- The rules for a port accept the packets that their conditions ask for. -/
lemma accepts_of_mem_itemRules {s : ServiceConfig} {r : Rule}
    (hr : r ∈ s.items.flatMap Service.itemRules) :
    ruleTarget? r.text = some Verdict.accept.target ∧
      t.meetsRule h p r.text = t.meets p r.matchText := by
  obtain ⟨item, -, hr⟩ := List.mem_flatMap.mp hr
  obtain ⟨haction, hset⟩ := HostService.itemRules_spec hr
  have hblank : ' ' ∉ r.action.toList := by
    rw [haction]
    decide
  refine ⟨(Rule.ruleTarget?_text hblank).trans (congrArg some haction), ?_⟩
  exact Traffic.meetsRule_text hblank (HostService.itemRules_conditions_ne_nil hr)
    fun set side hhead => hset set side (List.mem_of_head? hhead)

/-- One of them is met by the packets that the service is for. -/
lemma any_itemRules (s : ServiceConfig) :
    ((s.items.flatMap Service.itemRules).map Rule.text).any (t.meetsRule h p) =
      isServed t p s := by
  rw [isServed, List.any_map, Bool.eq_iff_iff, List.any_eq_true, List.any_eq_true]
  refine exists_congr fun r => and_congr_right fun hr => ?_
  rw [Function.comp_apply, (accepts_of_mem_itemRules hr).2]

/-- The chain of a service accepts the packets for its ports, and lets all others pass. -/
lemma walk_service (s : ServiceConfig) :
    Walk (t.meetsRule h p) h.chain? ((Service.inRules s).map Rule.text)
      (if isServed t p s then some .accept else none) := by
  have hall : ∀ rule ∈ (s.items.flatMap Service.itemRules).map Rule.text,
      ruleTarget? rule = some Verdict.accept.target := by
    intro rule hrule
    obtain ⟨r, hr, rfl⟩ := List.mem_map.mp hrule
    exact (accepts_of_mem_itemRules (t := t) (p := p) (h := h) hr).1
  have hverdict : firstVerdict (t.meetsRule h p) ((Service.inRules s).map Rule.text) =
      if isServed t p s then some .accept else none := by
    have hdecides : ∀ rule ∈ (s.items.flatMap Service.itemRules).map Rule.text,
        ∃ v : Verdict, ruleTarget? rule = some v.target := fun rule hrule => ⟨_, hall rule hrule⟩
    rw [Service.inRules, List.map_append, firstVerdict_append hdecides, firstVerdict_of_forall hall,
      List.map_singleton, firstVerdict_leave, any_itemRules]
    split <;> rfl
  rw [← hverdict]
  refine walk_firstVerdict fun rule hrule => ?_
  rw [Service.inRules, List.map_append, List.mem_append] at hrule
  rcases hrule with hrule | hrule
  · exact ⟨_, Verdict.target_mem _, hall rule hrule⟩
  · rw [List.mem_singleton.mp hrule]
    exact ⟨_, by decide, Rule.ruleTarget?_text (by decide)⟩

/-- Behind the links of some services, a packet that none of them accepts leaves the chain. -/
lemma walk_links (hplain : ∀ s ∈ services, ' ' ∉ s.chainName.toList)
    (hchains : ∀ s ∈ services,
      h.chain? (ingress s.chainName) = some ((Service.inRules s).map Rule.text)) :
    Walk (t.meetsRule h p) h.chain?
      ((services.map fun s => (HostService.ports s).linkIn) ++ [Rule.leave.text])
      (serviceVerdict t p services) := by
  induction services with
  | nil =>
    exact .leave (Traffic.meetsRule_text_of_nil (by decide) rfl) (Rule.ruleTarget?_text (by decide))
  | cons s services ih =>
    rw [List.forall_mem_cons] at hplain hchains
    have hblank : ' ' ∉ (ingress s.chainName).toList := blank_notMem_ingress hplain.1
    have hmeets : t.meetsRule h p (HostService.ports s).linkIn :=
      Traffic.meetsRule_text_of_nil hblank rfl
    have htarget : ruleTarget? (HostService.ports s).linkIn = some (ingress s.chainName) :=
      Rule.ruleTarget?_text hblank
    have hjump : ingress s.chainName ∉ builtinTargets :=
      notMem_builtinTargets (isManagedName_ingress _)
    -- A packet goes through the chain of the first service, and `ih` is about the links behind it.
    have hwalk := Walk.jump htarget hjump hchains.1 (walk_service (t := t) (p := p) s)
      (ih hplain.2 hchains.2)
    have hverdict : serviceVerdict t p (s :: services) =
        ((if isServed t p s then some .accept else none) <|> serviceVerdict t p services) := by
      rw [serviceVerdict, serviceVerdict, List.any_cons]
      by_cases hs : isServed t p s <;> simp [hs]
    rw [if_pos hmeets, ← hverdict] at hwalk
    exact hwalk

/-- The default actions decide by the first interface by which a packet came in. -/
lemma firstVerdict_defaults {interfaces : List PrimaryInterface}
    (hblank : ∀ i ∈ interfaces, ' ' ∉ i.inputAction.toList) :
    firstVerdict (t.meetsRule h p) (interfaces.map fun i => (defaultRule i).text) =
      (interfaces.find? (isEntrance t p)).bind fun i => Verdict.ofTarget? i.inputAction := by
  induction interfaces with
  | nil => rfl
  | cons i interfaces ih =>
    rw [List.forall_mem_cons] at hblank
    have htarget : ruleTarget? (defaultRule i).text = some i.inputAction :=
      Rule.ruleTarget?_text hblank.1
    have htext : (defaultRule i).matchText = "--in-interface " ++ i.name := by
      rw [Rule.matchText, defaultRule, List.map_singleton, String.intercalate_singleton]
      rfl
    have hmeets : t.meetsRule h p (defaultRule i).text = isEntrance t p i := by
      rw [isEntrance, ← htext]
      exact Traffic.meetsRule_text hblank.1 (by simp [defaultRule]) (by simp [defaultRule])
    rw [List.map_cons, firstVerdict, htarget, hmeets, ih hblank.2]
    by_cases hfound : isEntrance t p i
    · rw [if_pos hfound, List.find?_cons_of_pos hfound]
      rfl
    · rw [if_neg hfound, List.find?_cons_of_neg hfound]

/-- The rules that were there before decide as they did, and behind them stand the default
actions. -/
lemma Guarding.walk_rest (hg : Guarding config services f old blocked h)
    (hactions : ∀ i ∈ config.interfaces, i.inputAction ∈ ["ACCEPT", "DROP", "REJECT"])
    (hold : ∀ rule ∈ old, ∃ v : Verdict, ruleTarget? rule = some v.target)
    (hunmatched : ∀ rule ∈ old, ∀ s ∈ matchedSet? rule, s ∉ managedSets) :
    Walk (t.meetsRule h p) h.chain? (old ++ defaults config)
      (firstVerdict (t.meetsRule f p) old <|> defaultVerdict t p config) := by
  have hplain : ∀ a ∈ ["ACCEPT", "DROP", "REJECT"], a ∈ builtinTargets ∧ ' ' ∉ a.toList := by decide
  have hblank : ∀ i ∈ config.interfaces, ' ' ∉ i.inputAction.toList :=
    fun i hi => (hplain _ (hactions i hi)).2
  -- The old rules look into no managed set, and no other set has changed.
  have hsame : firstVerdict (t.meetsRule h p) old = firstVerdict (t.meetsRule f p) old :=
    firstVerdict_congr fun rule hrule => Traffic.meetsRule_congr fun s hs =>
      hg.otherSets s (hunmatched rule hrule s hs)
  have hverdict : firstVerdict (t.meetsRule h p) (old ++ defaults config) =
      (firstVerdict (t.meetsRule f p) old <|> defaultVerdict t p config) := by
    rw [firstVerdict_append hold, hsame, defaults, firstVerdict_defaults hblank]
    rfl
  rw [← hverdict]
  refine walk_firstVerdict fun rule hrule => ?_
  rcases List.mem_append.mp hrule with hrule | hrule
  · obtain ⟨v, hv⟩ := hold rule hrule
    exact ⟨_, v.target_mem, hv⟩
  · obtain ⟨i, hi, rfl⟩ := List.mem_map.mp hrule
    exact ⟨_, (hplain _ (hactions i hi)).1, Rule.ruleTarget?_text (hblank i hi)⟩

/-- Every packet goes through a chain that is linked without a condition. -/
lemma walk_link {c : String} (hc : c ∈ managedChains) {rules rest : List String}
    {o o' : Option Verdict} (hchain : h.chain? c = some rules)
    (hrules : Walk (t.meetsRule h p) h.chain? rules o)
    (hrest : Walk (t.meetsRule h p) h.chain? rest o') :
    Walk (t.meetsRule h p) h.chain? ((Rule.jump [] c).text :: rest) (o <|> o') := by
  have hplain : ∀ d ∈ managedChains, ' ' ∉ d.toList := by decide
  have htarget : ruleTarget? (Rule.jump [] c).text = some c := Rule.ruleTarget?_text (hplain c hc)
  have hmeets : t.meetsRule h p (Rule.jump [] c).text :=
    Traffic.meetsRule_text_of_nil (hplain c hc) rfl
  have hjump : c ∉ builtinTargets := notMem_builtinTargets (isManagedName_managedChains c hc)
  have hwalk := Walk.jump htarget hjump hchain hrules hrest
  rwa [if_pos hmeets] at hwalk

/-- The packets of blocked networks go through the chain for them. -/
lemma Guarding.walk_blockLink (hg : Guarding config services f old blocked h) {rest : List String}
    {o : Option Verdict} (hrest : Walk (t.meetsRule h p) h.chain? rest o) :
    Walk (t.meetsRule h p) h.chain?
      ((Rule.jump [.inSet ChainName.blockSet "src"] blockIn).text :: rest)
      (blockVerdict t p blocked <|> o) := by
  have htarget : ruleTarget? (Rule.jump [.inSet ChainName.blockSet "src"] blockIn).text =
      some blockIn := Rule.ruleTarget?_text (by decide)
  have hmeets : t.meetsRule h p (Rule.jump [.inSet ChainName.blockSet "src"] blockIn).text =
      decide (∃ n ∈ blocked, t.liesIn p n) := by
    rw [Traffic.meetsRule_text_inSet (by decide) (by decide) rfl, hg.blockSet]
    rfl
  have hwalk := Walk.jump htarget (by decide) hg.block walk_block hrest
  rw [hmeets] at hwalk
  simpa only [blockVerdict, decide_eq_true_eq] using hwalk

/-- A packet goes through `INPUT` in the order of the policy. -/
theorem Guarding.walk_input (hg : Guarding config services f old blocked h)
    (hactions : ∀ i ∈ config.interfaces, i.inputAction ∈ ["ACCEPT", "DROP", "REJECT"])
    (hold : ∀ rule ∈ old, ∃ v : Verdict, ruleTarget? rule = some v.target)
    (hunmatched : ∀ rule ∈ old, ∀ s ∈ matchedSet? rule, s ∉ managedSets)
    (hnames : ∀ s ∈ services, ' ' ∉ s.chainName.toList) :
    Walk (t.meetsRule h p) h.chain? (inputLinks ++ old ++ defaults config)
      (inputVerdict t p config services f old blocked) := by
  have hlinks : Walk (t.meetsRule h p) h.chain?
      ((services.map fun s => (HostService.ports s).linkIn).reverse ++ [Rule.leave.text])
      (serviceVerdict t p services) := by
    have hreverse : serviceVerdict t p services = serviceVerdict t p services.reverse := by
      rw [serviceVerdict, serviceVerdict, List.any_reverse]
    rw [hreverse, ← List.map_reverse]
    exact walk_links (fun s hs => hnames s (List.mem_reverse.mp hs))
      fun s hs => hg.services s (List.mem_reverse.mp hs)
  -- From the last link to the first, since a link needs to know what comes behind it.
  have hrest := hg.walk_rest (t := t) (p := p) hactions hold hunmatched
  have hservices := walk_link (by decide) hg.links hlinks hrest
  have hblock := hg.walk_blockLink hservices
  have hvital := walk_link (by decide) hg.vital (walk_vital (f := f)) hblock
  have htrusted := walk_link (by decide) hg.trusted hg.walk_trusted hvital
  rw [← map_text_inputJumps, List.append_assoc]
  exact htrusted

end Chains

/-! ## The compiled transcripts -/

section Transcripts

variable {config : PrepareConfig} {services : List ServiceConfig} {f g g' : Firewall}
  {old : List String}

/-- A prepared host on which services were installed goes by the policy, whatever networks are
blocked. -/
lemma Wired.guarding (hwired : Wired config f g) (hinput : f.chain? "INPUT" = some old)
    (hserving : HostService.Serving (services.map .ports) g g')
    (hfresh : ∀ s ∈ services, ∀ c ∈ (HostService.ports s).ownChains, c ∉ managedChains)
    (blocked : Finset String) :
    Guarding config services f old blocked (g'.setEntries blockSet blocked) := by
  have hfar : ∀ c, ¬ isManagedName c ∨ c ∈ managedChains →
      ∀ s ∈ services.map HostService.ports, c ∉ s.ownChains := by
    intro c hc s hs hmem
    obtain ⟨config', hconfig, rfl⟩ := List.mem_map.mp hs
    rcases hc with hc | hc
    · exact hc (HostService.isManagedName_ownChains c hmem)
    · exact hfresh config' hconfig c hmem hc
  -- Of the chains of the policy, services change those for services only.
  have hkeep : ∀ c, ¬ isManagedName c ∨ c ∈ managedChains → c ∉ sharedChains →
      g'.chain? c = g.chain? c := by
    intro c hc hunshared
    rw [hserving.otherChains c (hfar c hc), HostService.headsOf_of_notMem hunshared]
    cases g.chain? c <;> rfl
  have hmanaged : ∀ c ∈ managedChains, c ∉ sharedChains →
      (g'.setEntries blockSet blocked).chain? c = some (managedRules config c) := by
    intro c hc hunshared
    rw [Firewall.chain?_setEntries, hkeep c (.inr hc) hunshared, hwired.managed c hc]
  have hset : ∀ s, (g'.setEntries blockSet blocked).set? s =
      if s = blockSet then some blocked else g.set? s := by
    intro s
    rw [Firewall.set?_setEntries, Function.update_apply, hserving.sets]
  constructor
  case input =>
    rw [Firewall.chain?_setEntries, hkeep _ (.inl (by decide)) (by decide), hwired.input, hinput,
      Option.map_some]
  case trusted => exact hmanaged (ingress ChainName.trusted) (by decide) (by decide)
  case vital => exact hmanaged vitalIn (by decide) (by decide)
  case block => exact hmanaged blockIn (by decide) (by decide)
  case links =>
    have hleave : managedRules config (ingress ChainName.services) = [Rule.leave.text] := rfl
    rw [Firewall.chain?_setEntries, hserving.otherChains _ (hfar _ (.inr (by decide))),
      hwired.managed _ (by decide), Option.map_some, HostService.headsOf_ingress, List.map_map,
      hleave]
    rfl
  case services =>
    intro s hs
    exact hserving.inChains _ (List.mem_map_of_mem hs)
  case trustedSet =>
    rw [hset, if_neg (by decide), hwired.trusted]
  case blockSet => rw [hset, if_pos rfl]
  case otherSets =>
    intro s hs
    have hblock : s ≠ blockSet := by
      rintro rfl
      exact hs (by decide)
    rw [hset, if_neg hblock, hwired.otherSets s hs]

/-- Services can be installed on a prepared host if their chains are new to it. -/
lemma Wired.awaiting (hwired : Wired config f g)
    (hdistinct : (services.map (·.chainName)).Nodup)
    (hfresh : ∀ s ∈ services, ∀ c ∈ (HostService.ports s).ownChains,
      c ∉ managedChains ∧ f.chain? c = none) :
    HostService.Awaiting (services.map .ports) g where
  needs := by
    intro s hs c hc
    obtain ⟨config', -, rfl⟩ := List.mem_map.mp hs
    have hmanaged : c ∈ managedChains := by
      rcases List.mem_pair.mp hc with rfl | rfl <;> decide
    rw [hwired.managed c hmanaged]
    rfl
  absent := by
    intro s hs c hc
    obtain ⟨config', hconfig, rfl⟩ := List.mem_map.mp hs
    obtain ⟨hnew, hnone⟩ := hfresh config' hconfig c hc
    have hmanaged := HostService.isManagedName_ownChains c hc
    rw [hwired.otherChains c hnew (ne_of_not_isManagedName hmanaged (by decide))
      (ne_of_not_isManagedName hmanaged (by decide)), hnone]
  distinct := by
    rw [List.map_map]
    exact hdistinct

/-- What is known of services that were read from documents. -/
lemma valid_of_forall₂_read {documents : List Value}
    (h : List.Forall₂ (fun document s => ServiceConfig.read document = .ok s) documents services) :
    ∀ s ∈ services, s.Valid := by
  induction h with
  | nil => simp
  | cons hread _ ih => exact List.forall_mem_cons.mpr ⟨ServiceConfig.read_valid hread, ih⟩

/-- Running transcripts in a row is running all their operations. -/
lemma run_transcripts {ops : List Operation} {added : List HostService}
    (hops : ∀ op ∈ ops, op.WellFormed) (hvalid : ∀ s ∈ added, s.Valid) :
    f.run isManagedName
        (ops.map Operation.command ++ (added.map fun s => s.transcript .install).flatten) =
      f.applyAll isManagedName (ops ++ added.flatMap (·.operations .install)) := by
  have hcommands : ops.map Operation.command ++ (added.map fun s => s.transcript .install).flatten =
      (ops ++ added.flatMap (·.operations .install)).map Operation.command := by
    rw [List.map_append, List.map_flatMap, List.flatMap_def]
    rfl
  rw [hcommands]
  refine Firewall.run_operations (List.forall_mem_append.mpr ⟨hops, fun op hop => ?_⟩)
  obtain ⟨s, hs, hop⟩ := List.mem_flatMap.mp hop
  exact HostService.wellFormed_operations (hvalid s hs) hop

end Transcripts

/-- Preparing a host and installing services on it fails nowhere, for all accepted configurations
that name their interfaces' actions, and all services of different new names.  Afterwards exactly
what the policy says becomes of every packet in `INPUT`, whatever networks are blocked then. -/
theorem run_installs_decides_iff {σ : Type} {source : BlacklistSync.Source σ} {raw : Value}
    {globals documents : List Value} {config : PrepareConfig} {services : List ServiceConfig}
    {f : Firewall} {old : List String} (hread : PrepareConfig.read raw globals = .ok config)
    (hactions : ∀ i ∈ config.interfaces, i.inputAction ∈ ["ACCEPT", "DROP", "REJECT"])
    (hstart : Unprepared f) (hinput : f.chain? "INPUT" = some old)
    (hold : ∀ rule ∈ old, ∃ v : Verdict, ruleTarget? rule = some v.target)
    (hservices : List.Forall₂ (fun document s => ServiceConfig.read document = .ok s) documents
      services)
    (hdistinct : (services.map (·.chainName)).Nodup)
    (hfresh : ∀ s ∈ services, ∀ c ∈ [ingress s.chainName, egress s.chainName],
      c ∉ managedChains ∧ f.chain? c = none) :
    ∃ prepare installs g,
      (∀ world, ((Directory.builtin source).compile "prepare-netfilter" (.text "install") raw
        globals world).1.result = .ok prepare) ∧
      List.Forall₂ (fun document install => ∀ world,
        ((Directory.builtin source).compile "engines/services/generic-service" (.text "install")
          document globals world).1.result = .ok install) documents installs ∧
      f.run isManagedName (prepare ++ installs.flatten) = some g ∧
      ∀ {P : Type} (t : Traffic P) (p : P) (blocked : Finset String) (o : Option Verdict),
        ((g.setEntries blockSet blocked).Decides t p vitalIn o ↔ o = vitalVerdict t p f config) ∧
        ((g.setEntries blockSet blocked).Decides t p "INPUT" o ↔
          o = inputVerdict t p config services f old blocked) := by
  have hwired : Wired config f (prepared config f) := wired_prepared hstart
  have hread' := valid_of_forall₂_read hservices
  have hvalid : ∀ s ∈ services.map HostService.ports, s.Valid := by
    intro s hs
    obtain ⟨config', hconfig, rfl⟩ := List.mem_map.mp hs
    exact hread' config' hconfig
  have hplain : ∀ s ∈ services.map HostService.ports, s.RedirectsPlainly := by
    intro s hs
    obtain ⟨config', -, rfl⟩ := List.mem_map.mp hs
    exact fun rule hrule => absurd hrule List.not_mem_nil
  have hguarded : ∀ i ∈ config.interfaces, isManagedName i.inputAction →
      i.inputAction ∈ managedChains := by
    have hwords : ∀ a ∈ ["ACCEPT", "DROP", "REJECT"], ¬ isManagedName a := by decide
    exact fun i hi hmanaged => absurd hmanaged (hwords _ (hactions i hi))
  have hunmatched : ∀ rule ∈ old, ∀ s ∈ matchedSet? rule, s ∉ managedSets := by
    intro rule hrule s hs hmanaged
    exact hstart.lacks.unmatched s hmanaged ⟨"INPUT", old, hinput, rule, hrule, hs⟩
  obtain ⟨g, hg, hserving⟩ :=
    HostService.applyAll_installs hvalid hplain (hwired.awaiting hdistinct hfresh)
  have hinstall := applyAll_install (fun _ h => h) hstart (PrepareConfig.read_valid hread) hguarded
  refine ⟨(operations config .install).map Operation.command,
    (services.map HostService.ports).map fun s => s.transcript .install, g, fun world => ?_, ?_, ?_,
    fun t p blocked o => ?_⟩
  · exact (Directory.compile_prepare_iff (by decide +kernel)).mpr ⟨config, hread, rfl⟩
  · rw [List.map_map, List.forall₂_map_right_iff]
    exact hservices.imp fun document s hs world =>
      HostService.compile_eq_transcript (s := .ports s) hs .install
  · rw [run_transcripts wellFormed_operations hvalid, Firewall.applyAll_append, hinstall,
      Option.bind_some, hg]
  · have hnew : ∀ s ∈ services, ∀ c ∈ (HostService.ports s).ownChains, c ∉ managedChains :=
      fun s hs c hc => (hfresh s hs c hc).1
    have hguarding := hwired.guarding hinput hserving hnew blocked
    refine ⟨Firewall.decides_iff hguarding.vital walk_vital,
      Firewall.decides_iff hguarding.input ?_⟩
    exact hguarding.walk_input hactions hold hunmatched fun s hs =>
      (hread' s hs).chainName.blank_notMem

/-! ## A host with two services -/

/-- A document that opens a port for everybody. -/
def portDocument (chain : String) (port : Int) : Value :=
  .map [(.text "chainName", .text chain), (.text "network", .map [(.text "items", .list
    [.map [(.text "portNumber", .int port), (.text "protocol", .text "tcp")]])])]

/-- What is read in it. -/
def portService (chain : String) (port : Nat) : ServiceConfig where
  chainName := chain
  items := [{ port, protocol := "tcp", sources := [], destination := none }]

/-- Packets from whole networks to a port. -/
def webTraffic : Traffic String where
  liesIn source network := source == network
  meets _ condition := condition == "-p tcp --sport 1024:65535 --dport 443"

/-- The host goes by the policy: a trusted network is let in, even if it is among the blocked
ones. -/
theorem gateway_accepts_trusted :
    ∃ prepare installs g,
      (∀ world, ((Directory.builtin (BlacklistSync.databaseSource Unit)).compile "prepare-netfilter"
        (.text "install") gatewayDocument gatewayTrusted world).1.result = .ok prepare) ∧
      List.Forall₂ (fun document install => ∀ world,
        ((Directory.builtin (BlacklistSync.databaseSource Unit)).compile
          "engines/services/generic-service" (.text "install") document gatewayTrusted
            world).1.result = .ok install)
        [portDocument "mail" 25, portDocument "web" 443] installs ∧
      gateway.run isManagedName (prepare ++ installs.flatten) = some g ∧
      ∀ blocked, (g.setEntries blockSet blocked).Decides webTraffic "192.168.0.0/16" "INPUT"
        (some .accept) := by
  have hread : PrepareConfig.read gatewayDocument gatewayTrusted = .ok gatewayConfig :=
    Except.eq_ok_of_toOption (by decide +kernel)
  have hlacks : gateway.Lacks managedChains managedSets :=
    ⟨by decide +kernel, by decide +kernel, by decide +kernel, by decide +kernel⟩
  have hservices : List.Forall₂ (fun document s => ServiceConfig.read document = .ok s)
      [portDocument "mail" 25, portDocument "web" 443]
      [portService "mail" 25, portService "web" 443] :=
    .cons (Except.eq_ok_of_toOption (by decide +kernel))
      (.cons (Except.eq_ok_of_toOption (by decide +kernel)) .nil)
  have hold : ∀ rule ∈ ["-p tcp --dport 22 -j ACCEPT"], ∃ v : Verdict,
      ruleTarget? rule = some v.target := by
    intro rule hrule
    rw [List.mem_singleton.mp hrule]
    exact ⟨.accept, by decide +kernel⟩
  obtain ⟨prepare, installs, g, hprepare, hinstalls, hg, hdecides⟩ := run_installs_decides_iff
    hread (by decide +kernel) ⟨by decide +kernel, by decide +kernel, hlacks⟩ (by decide +kernel)
    hold hservices (by decide +kernel) (by decide +kernel)
  have htrusted : trustedVerdict webTraffic "192.168.0.0/16" gatewayConfig = some .accept := by
    decide +kernel
  refine ⟨prepare, installs, g, hprepare, hinstalls, hg, fun blocked => ?_⟩
  refine (hdecides webTraffic "192.168.0.0/16" blocked _).2.mpr ?_
  rw [inputVerdict, htrusted]
  rfl

end FirewallPolicy
