import FirewallPolicy.Proofs.Address.Characters
import FirewallPolicy.Proofs.Jobs.Policies
import FirewallPolicy.Proofs.Shell.NameOperands

/-!
# The lengths of the names in transcripts

Names of chains and of links are limited where a configuration is read, and what stands in front of
them is put there where the commands are made.  Together they keep to what the kernel takes.

* `Prepare.fits_install`, `Prepare.fits_uninstall`, `Service.fits_install`,
  `DnsForwarding.fits_operations`, `BlacklistSync.fits_operations`: the operations of the built-in
  jobs join safe words for safe addresses and networks, and the kernel takes the names among them.
* `Policy.fits_operations`: so it is with an accepted policy, unless a text that is taken over has a
  percent sign.
* `names_fit_kernel`: so it is in everything that a built-in job compiles, and no name of a service
  is refused whose chains would be taken.
-/

namespace FirewallPolicy

open FirewallPolicy.ChainName
open FirewallPolicy.Address (isSafe_of_isSubject)
open FirewallPolicy.Text (trim)
open Operation (appendRule insertRule deleteRule teardown fits_newChain fits_teardown
  fits_appendRule fits_insertRule fits_deleteRule fits_createSet fits_destroySet fits_addToSet
  fits_flushSet)
open Shell (IsSafe isSafe_toString)

variable {actions : List String}

/-! ## Preparing a host -/

namespace Prepare

/-- A rule that accepts fits with its conditions. -/
lemma fits_append_accept {c : String} (hc : IsChainName c) {conditions : List Condition}
    (h : ∀ k ∈ conditions, k.Fits) : (appendRule c (accept conditions)).Fits actions :=
  fits_appendRule hc (Rule.fits h (by decide) (.inl (by decide)))

lemma fits_vitalTraffic {i : PrimaryInterface} (hname : IsLinkName i.name)
    (hnetworks : ∀ n ∈ i.networks, IsSafe n.value) : ∀ op ∈ vitalTraffic i, op.Fits actions := by
  have hin : IsChainName vitalIn := by decide
  have hout : IsChainName vitalOut := by decide
  have hlocal : ∀ op ∈ i.networks.flatMap fun n => localTraffic n.value, op.Fits actions := by
    intro op hop
    obtain ⟨n, hn, hop⟩ := List.mem_flatMap.mp hop
    have hsafe := hnetworks n hn
    simp only [localTraffic, List.mem_cons, List.not_mem_nil, or_false] at hop
    rcases hop with rfl | rfl | rfl | rfl <;>
      exact fits_append_accept (by assumption)
        (by simp +decide [Condition.Fits, Condition.values, hsafe])
  have hdns : ∀ protocol, IsSafe protocol → ∀ op ∈ dnsClient i.name protocol, op.Fits actions := by
    intro protocol hprotocol op hop
    simp only [dnsClient, List.mem_cons, List.not_mem_nil, or_false] at hop
    rcases hop with rfl | rfl <;>
      exact fits_append_accept (by assumption) (by
        simp +decide [Condition.Fits, Condition.values, hname, hprotocol, stateNew,
          stateEstablished])
  simp only [vitalTraffic, List.forall_mem_append, List.forall_mem_cons]
  refine ⟨⟨⟨⟨⟨?_, ?_, by simp⟩, hdns _ (by decide)⟩, hdns _ (by decide)⟩,
    ?_, ?_, ?_, ?_, ?_, ?_, ?_, ?_, by simp⟩, hlocal⟩ <;>
    exact fits_append_accept (by assumption)
      (by simp +decide [Condition.Fits, Condition.values, hname, stateNew, stateEstablished])

lemma fits_vitalEnd : ∀ op ∈ vitalEnd, op.Fits actions := by
  have hreject : Rule.Fits actions ⟨[.notInInterface "lo", .destination loopback], "REJECT"⟩ :=
    Rule.fits (by simp +decide [Condition.Fits, Condition.values]) (by decide) (.inl (by decide))
  simp only [vitalEnd, List.forall_mem_cons]
  exact ⟨fits_appendRule (by decide) hreject,
    fits_append_accept (by decide) (by simp +decide [Condition.Fits, Condition.values]),
    fits_appendRule (by decide) Rule.fits_leave, fits_appendRule (by decide) Rule.fits_leave,
    by simp⟩

lemma fits_jumps : ∀ r ∈ inputJumps ++ outputJumps, r.Fits actions := by
  intro r hr
  simp only [inputJumps, outputJumps, List.cons_append, List.nil_append, List.mem_cons,
    List.not_mem_nil, or_false] at hr
  have hblock : ∀ c ∈ [Condition.inSet blockSet "src"], c.Fits := by
    simp +decide [Condition.Fits]
  rcases hr with rfl | rfl | rfl | rfl | rfl | rfl | rfl
  · exact Rule.fits_jump (by decide)
  · exact Rule.fits_jump (by decide)
  · exact Rule.fits hblock (by decide) (.inl (by decide))
  all_goals exact Rule.fits_jump (by decide)

lemma fits_insertJumps {parent : String} {jumps : List Rule} (hparent : IsChainName parent)
    (h : ∀ r ∈ jumps, r.Fits actions) : ∀ op ∈ insertJumps parent jumps, op.Fits actions := by
  intro op hop
  obtain ⟨⟨r, p⟩, hr, rfl⟩ := List.mem_map.mp hop
  exact fits_insertRule hparent p (h r (List.fst_mem_of_mem_zipIdx hr))

/-- The actions of a host for packets that nothing else decided; any words are accepted for them. -/
def defaultActions (config : PrepareConfig) : List String := config.interfaces.map (·.inputAction)

section Host

variable {config : PrepareConfig}

lemma fits_defaultRule (h : config.Valid) (hnames : ∀ i ∈ config.interfaces, IsLinkName i.name) :
    ∀ i ∈ config.interfaces, (defaultRule i).Fits (defaultActions config) := fun i hi =>
  Rule.fits (by simp [Condition.Fits, hnames i hi]) (.of_isWord (h.interfaces i hi).inputAction)
    (.inr (List.mem_map_of_mem hi))

/-- Installing fits for short names of links and safe networks. -/
lemma fits_install (h : config.Valid) (hnames : ∀ i ∈ config.interfaces, IsLinkName i.name)
    (htrusted : ∀ n ∈ config.trustedNetworks, IsSafe n)
    (hnetworks : ∀ i ∈ config.interfaces, ∀ n ∈ i.networks, IsSafe n.value) :
    ∀ op ∈ operations config .install, op.Fits (defaultActions config) := by
  have hvital : ∀ op ∈ vitalInstall config, op.Fits (defaultActions config) := by
    simp only [vitalInstall, List.forall_mem_append, List.forall_mem_cons]
    refine ⟨⟨⟨fits_newChain (by decide), fits_newChain (by decide), by simp⟩, fun op hop => ?_⟩,
      fits_vitalEnd⟩
    obtain ⟨i, hi, hop⟩ := List.mem_flatMap.mp hop
    exact fits_vitalTraffic (hnames i hi) (hnetworks i hi) op hop
  have hblock : ∀ op ∈ blockInstall, op.Fits (defaultActions config) := by
    simp only [blockInstall, List.forall_mem_cons]
    exact ⟨fits_newChain (by decide), fits_createSet (by decide) (by decide) (by decide),
      fits_appendRule (by decide) (Rule.fits (by simp) (by decide) (.inl (by decide))), by simp⟩
  have hservices : ∀ op ∈ servicesInstall, op.Fits (defaultActions config) := by
    have hchains : ∀ c ∈ serviceChains, IsChainName c := by decide
    intro op hop
    obtain ⟨c, hc, hop⟩ := List.mem_flatMap.mp hop
    rcases List.mem_pair.mp hop with rfl | rfl
    · exact fits_newChain (hchains c hc)
    · exact fits_appendRule (hchains c hc) Rule.fits_leave
  have htrust : ∀ op ∈ trustedInstall config, op.Fits (defaultActions config) := by
    simp only [trustedInstall, trustedChains, List.flatMap_cons, List.flatMap_nil,
      List.forall_mem_append, List.forall_mem_cons, List.forall_mem_map]
    have haccept : ∀ side ∈ ["src", "dst"], ∀ c, IsChainName c →
        (appendRule c (accept [.inSet trustedSet side])).Fits (defaultActions config) := by
      intro side hside c hc
      refine fits_append_accept hc ?_
      rcases List.mem_pair.mp hside with rfl | rfl <;> simp +decide [Condition.Fits]
    exact ⟨⟨⟨fits_createSet (by decide) (by decide) (by decide), by simp⟩,
        fun n hn => fits_addToSet (by decide) (htrusted n hn) (by decide)⟩,
      ⟨fits_newChain (by decide), haccept "src" (by simp) _ (by decide),
        fits_appendRule (by decide) Rule.fits_leave, by simp⟩,
      ⟨fits_newChain (by decide), haccept "dst" (by simp) _ (by decide),
        fits_appendRule (by decide) Rule.fits_leave, by simp⟩, by simp⟩
  have hroot : ∀ op ∈ rootInstall config, op.Fits (defaultActions config) := by
    simp only [rootInstall, List.forall_mem_append, List.forall_mem_map]
    exact ⟨⟨fits_insertJumps (by decide) fun r hr => fits_jumps r (List.mem_append_left _ hr),
        fun i hi => fits_appendRule (by decide) (fits_defaultRule h hnames i hi)⟩,
      fits_insertJumps (by decide) fun r hr => fits_jumps r (List.mem_append_right _ hr)⟩
  simp only [operations, List.forall_mem_append]
  exact ⟨⟨⟨⟨hvital, hblock⟩, hservices⟩, htrust⟩, hroot⟩

/-- Uninstalling fits for short names of links. -/
lemma fits_uninstall (h : config.Valid) (hnames : ∀ i ∈ config.interfaces, IsLinkName i.name) :
    ∀ op ∈ operations config .uninstall, op.Fits (defaultActions config) := by
  have hroot : ∀ op ∈ rootUninstall config, op.Fits (defaultActions config) := by
    simp only [rootUninstall, List.mem_reverse, List.forall_mem_append, List.forall_mem_map]
    exact ⟨⟨fun r hr => fits_deleteRule (by decide) (fits_jumps r (List.mem_append_left _ hr)),
        fun i hi => fits_deleteRule (by decide) (fits_defaultRule h hnames i hi)⟩,
      fun r hr => fits_deleteRule (by decide) (fits_jumps r (List.mem_append_right _ hr))⟩
  have htrusted : ∀ op ∈ trustedUninstall, op.Fits (defaultActions config) := by
    simp only [trustedUninstall, trustedChains, List.flatMap_cons, List.flatMap_nil,
      List.forall_mem_append, List.forall_mem_singleton]
    exact ⟨⟨fits_teardown (by decide), fits_teardown (by decide), by simp⟩,
      fits_destroySet (by decide) (by decide)⟩
  have hservices : ∀ op ∈ servicesUninstall, op.Fits (defaultActions config) := by
    simp only [servicesUninstall, serviceChains, List.flatMap_cons, List.flatMap_nil,
      List.forall_mem_append]
    exact ⟨fits_teardown (by decide), fits_teardown (by decide), by simp⟩
  have hblock : ∀ op ∈ blockUninstall, op.Fits (defaultActions config) := by
    simp only [blockUninstall, List.forall_mem_append, List.forall_mem_singleton]
    exact ⟨fits_teardown (by decide), fits_destroySet (by decide) (by decide)⟩
  have hvital : ∀ op ∈ vitalUninstall, op.Fits (defaultActions config) := by
    simp only [vitalUninstall, List.forall_mem_append]
    exact ⟨fits_teardown (by decide), fits_teardown (by decide)⟩
  simp only [operations, List.forall_mem_append]
  exact ⟨⟨⟨⟨hroot, htrusted⟩, hservices⟩, hblock⟩, hvital⟩

end Host

end Prepare

/-! ## Services -/

/-- A service is unlinked, and its chains removed, by operations that fit with its chains. -/
lemma fits_unlink {c : String} (hchains : ∀ side ∈ sides c, IsChainName side) :
    ∀ op ∈ [deleteRule (ingress services) (.jump [] (ingress c)),
      deleteRule (egress services) (.jump [] (egress c))] ++ teardown (ingress c) ++
        teardown (egress c), op.Fits actions := by
  simp only [ChainName.sides, List.forall_mem_cons] at hchains
  obtain ⟨hin, hout, -⟩ := hchains
  simp only [List.forall_mem_append, List.forall_mem_cons]
  exact ⟨⟨⟨fits_deleteRule (by decide) (Rule.fits_jump hin),
    fits_deleteRule (by decide) (Rule.fits_jump hout), by simp⟩, fits_teardown hin⟩,
    fits_teardown hout⟩

namespace Service

/-- The rules of an item fit for safe networks. -/
lemma fits_itemRules {item : ServiceItem} (h : item.Valid)
    (hsafe : ∀ text ∈ item.sources ++ item.destination.toList, IsSafe text) :
    ∀ r ∈ itemRules item, r.Fits actions := by
  rw [List.forall_mem_append] at hsafe
  rintro ⟨conditions, action⟩ hr
  have hrule := isSafe_itemRules h hsafe.1 (fun d hd => hsafe.2 d (by simpa using hd)) _ hr
  obtain ⟨rfl, hconditions⟩ := conditions_of_mem_itemRules hr
  refine Rule.fits (fun c hc => ?_) (by decide) (.inl (by decide))
  have hvalues := hrule.1 c hc
  -- No condition is about a link.
  rcases hconditions c hc with ⟨s, -, rfl⟩ | ⟨d, -, rfl⟩ | rfl | rfl | rfl <;> exact hvalues

/-- Both directions fit for short names of chains and safe networks. -/
lemma fits_install {config : ServiceConfig} (h : config.Valid)
    (hchains : ∀ c ∈ sides config.chainName, IsChainName c)
    (hsafe : ∀ item ∈ config.items, ∀ text ∈ item.sources ++ item.destination.toList,
      IsSafe text) : ∀ op ∈ operations config .install, op.Fits actions := by
  simp only [ChainName.sides, List.forall_mem_cons] at hchains
  obtain ⟨hin, hout, -⟩ := hchains
  have hrules : ∀ r ∈ inRules config, r.Fits actions := by
    simp only [inRules, List.forall_mem_append, List.forall_mem_singleton]
    refine ⟨fun r hr => ?_, Rule.fits_leave⟩
    obtain ⟨item, hitem, hr⟩ := List.mem_flatMap.mp hr
    exact fits_itemRules (h.items item hitem) (hsafe item hitem) r hr
  simp only [operations, install, List.forall_mem_append, List.forall_mem_cons,
    List.forall_mem_map]
  exact ⟨⟨⟨fits_newChain hin, fits_newChain hout, by simp⟩,
      fun r hr => fits_appendRule hin (hrules r hr)⟩,
    fits_appendRule hout Rule.fits_leave,
    fits_insertRule (by decide) _ (Rule.fits_jump hin),
    fits_insertRule (by decide) _ (Rule.fits_jump hout), by simp⟩

end Service

namespace DnsForwarding

section Item

variable {item : DnsForward} {p : String}

lemma fits_redirectRule (hlink : IsLinkName item.interface) (hp : p ∈ protocols)
    (hsource : IsSafe item.sourceAddress) (hdestination : IsSafe item.destinationAddress) :
    (redirectRule item p).Fits actions := by
  have hport : IsSafe item.sourcePort.repr := isSafe_toString _
  refine Rule.fits_endpoint ?_ hdestination
  simp +decide [Condition.Fits, Condition.values, hlink, hport, hsource,
    isSafe_of_mem_protocols p hp]

/-- Queries are accepted by rules that fit for safe addresses. -/
lemma fits_acceptingRule {address : String} {port : Nat} (hp : p ∈ protocols)
    (haddress : IsSafe address) :
    (Rule.mk [.protocol p, .destination address, .destinationPort (toString port)]
      "ACCEPT").Fits actions := by
  have hport : IsSafe port.repr := isSafe_toString _
  refine Rule.fits ?_ (by decide) (.inl (by decide))
  simp [Condition.Fits, Condition.values, hport, haddress, isSafe_of_mem_protocols p hp]

end Item

/-- Both directions fit for short names and safe addresses. -/
lemma fits_operations {config : DnsConfig}
    (hchains : ∀ c ∈ sides (dnsMark ++ config.chainName), IsChainName c)
    (hlinks : ∀ item ∈ config.items, IsLinkName item.interface)
    (hsafe : ∀ item ∈ config.items, IsSafe item.sourceAddress ∧ IsSafe item.destinationAddress)
    (d : Direction) : ∀ op ∈ operations config d, op.Fits actions := by
  have hbase : IsChainName "PREROUTING" ∧ IsChainName "FORWARD" := by decide
  cases d with
  | install =>
    simp only [ChainName.sides, List.forall_mem_cons] at hchains
    obtain ⟨hin, hout, -⟩ := hchains
    simp only [operations, install, List.forall_mem_append, List.forall_mem_cons]
    refine ⟨⟨⟨fits_newChain hin, fits_newChain hout, by simp⟩, fun op hop => ?_⟩,
      fits_appendRule hin Rule.fits_leave, fits_appendRule hout Rule.fits_leave,
      fits_insertRule (by decide) _ (Rule.fits_jump hin),
      fits_insertRule (by decide) _ (Rule.fits_jump hout), by simp⟩
    obtain ⟨item, hitem, hop⟩ := List.mem_flatMap.mp hop
    obtain ⟨hsource, hdestination⟩ := hsafe item hitem
    simp only [itemInstall, List.mem_append, List.mem_map] at hop
    rcases hop with (⟨p, hp, rfl⟩ | ⟨p, hp, rfl⟩) | ⟨p, hp, rfl⟩
    · exact fits_insertRule hbase.1 _
        (fits_redirectRule (hlinks item hitem) hp hsource hdestination)
    · exact fits_insertRule hbase.2 _ (fits_acceptingRule hp hdestination)
    · exact fits_appendRule hin (fits_acceptingRule hp hsource)
  | uninstall =>
    simp only [operations, uninstall]
    rw [List.forall_mem_append]
    refine ⟨fits_unlink hchains, fun op hop => ?_⟩
    obtain ⟨item, hitem, hop⟩ := List.mem_flatMap.mp hop
    obtain ⟨hsource, hdestination⟩ := hsafe item hitem
    simp only [itemUninstall, List.mem_append, List.mem_map] at hop
    rcases hop with ⟨p, hp, rfl⟩ | ⟨p, hp, rfl⟩
    · exact fits_deleteRule hbase.1
        (fits_redirectRule (hlinks item hitem) hp hsource hdestination)
    · exact fits_deleteRule hbase.2 (fits_acceptingRule hp hdestination)

end DnsForwarding

/-! ## Blacklists -/

/-- Both directions fit for safe networks; they name no chains and no links. -/
lemma BlacklistSync.fits_operations {networks : List String} (h : ∀ n ∈ networks, IsSafe n)
    (d : Direction) : ∀ op ∈ operations networks d, op.Fits actions := by
  cases d with
  | install =>
    simp only [operations, install, List.forall_mem_map]
    exact fun n hn => fits_addToSet (by decide) (h n hn) (by decide)
  | uninstall =>
    simp only [operations, uninstall, List.forall_mem_singleton]
    exact fits_flushSet (by decide)

/-! ## Policies -/

namespace Policy

variable {policy : Policy} {job : String} {raw : Value} {globals : List Value} {d : Direction}

/-- The addresses of a name service are taken over in both directions. -/
lemma forall_mem_pasted_names {config : DnsConfig} {p : String → Prop} :
    (∀ text ∈ (service (.names config)).pasted d, p text) ↔
      ∀ item ∈ config.items, p item.sourceAddress ∧ p item.destinationAddress := by
  have hpasted : (service (.names config)).pasted d =
      config.items.flatMap fun item => [item.sourceAddress, item.destinationAddress] := by
    cases d <;> rfl
  simp only [hpasted, List.forall_mem_flatMap, List.forall_mem_cons, List.not_mem_nil,
    IsEmpty.forall_iff, implies_true, and_true]

/-- All texts that are taken over are addresses or networks. -/
lemma isSubject_of_mem_pasted (h : policy.ReadFrom job raw globals) :
    ∀ text ∈ policy.pasted d, IsSubject text := by
  -- What is taken over differs from job to job, and for most of them from direction to direction.
  cases policy with
  | host config =>
    have hvalid := PrepareConfig.read_valid h.2
    cases d with
    | install =>
      simp only [pasted, List.forall_mem_append, List.forall_mem_flatMap, List.forall_mem_map]
      exact ⟨fun n hn => .inr (hvalid.trusted n hn),
        fun i hi n hn => .inr ((hvalid.interfaces i hi).networks n hn)⟩
    | uninstall => exact List.forall_mem_nil _
  | service s =>
    cases s with
    | ports config =>
      have hvalid := ServiceConfig.read_valid h.2
      cases d with
      | install =>
        simp only [pasted, List.forall_mem_flatMap, List.forall_mem_append]
        exact fun item hitem => ⟨(hvalid.items item hitem).sources,
          fun t ht => (hvalid.items item hitem).destination t (by simpa using ht)⟩
      | uninstall => exact List.forall_mem_nil _
    | names config =>
      have hvalid := DnsConfig.read_valid h.2
      rw [forall_mem_pasted_names]
      exact fun item hitem => ⟨.inl (hvalid.items item hitem).sourceAddress,
        .inl (hvalid.items item hitem).destinationAddress⟩
  | blacklist networks => cases d <;> exact List.forall_mem_nil _

/-- They are safe unless they have a percent sign. -/
lemma isSafe_of_mem_pasted (h : policy.ReadFrom job raw globals)
    (hscope : ∀ text ∈ policy.pasted d, '%' ∉ text.toList) :
    ∀ text ∈ policy.pasted d, IsSafe text :=
  fun text htext => isSafe_of_isSubject (isSubject_of_mem_pasted h text htext) (hscope text htext)

/-- The actions that a policy takes over from the document as they are. -/
def defaultActions : Policy → List String
  | .host config => Prepare.defaultActions config
  | _ => []

/-- The kernel takes the names in all operations of a policy that was read, if no text that is taken
over has a percent sign. -/
theorem fits_operations (h : policy.ReadFrom job raw globals)
    (hscope : ∀ text ∈ policy.pasted d, '%' ∉ text.toList) :
    ∀ op ∈ policy.operations d, op.Fits policy.defaultActions := by
  have hsafe := isSafe_of_mem_pasted h hscope
  cases policy with
  | host config =>
    have hvalid := PrepareConfig.read_valid h.2
    have hnames := PrepareConfig.isLinkName_of_read h.2
    cases d with
    | install =>
      simp only [pasted, List.forall_mem_append, List.forall_mem_flatMap, List.forall_mem_map]
        at hsafe
      exact Prepare.fits_install hvalid hnames hsafe.1 hsafe.2
    | uninstall => exact Prepare.fits_uninstall hvalid hnames
  | service s =>
    have hchains := HostService.isChainName_of_mem_ownChains h.2
    cases s with
    | ports config =>
      cases d with
      | install =>
        simp only [pasted, List.forall_mem_flatMap] at hsafe
        exact Service.fits_install (ServiceConfig.read_valid h.2) hchains hsafe
      | uninstall => exact fits_unlink hchains
    | names config =>
      rw [forall_mem_pasted_names] at hsafe
      exact DnsForwarding.fits_operations hchains (DnsConfig.isLinkName_of_read h.2) hsafe d
  | blacklist networks =>
    refine BlacklistSync.fits_operations (fun n hn => ?_) d
    obtain ⟨network, -, rfl⟩ := List.mem_map.mp hn
    exact network.isSafe_text

end Policy

/-- In everything that a built-in job compiles, unless an address or a network that is taken over
has a percent sign, the kernel takes the chains that commands make, change or remove, the links that
they are about, and the chains that they jump to; only the default actions of the document are as
they are.  No limit is too strict: where the items of a service are read, every word is accepted for
its name whose chains have no more characters than the kernel takes. -/
theorem names_fit_kernel :
    (∀ {σ : Type} {source : BlacklistSync.Source σ} {job : String} {token raw : Value}
      {globals : List Value} {world : σ} {transcript : Transcript},
      ((Directory.builtin source).compile job token raw globals world).1.result =
        .ok transcript →
      ∃ (policy : Policy) (d : Direction), Direction.ofToken? token = some d ∧
        policy.ReadFrom job raw globals ∧
        transcript = (policy.operations d).map Operation.command ∧
        ((∀ text ∈ policy.pasted d, '%' ∉ text.toList) → ∀ command ∈ transcript,
          (∀ chain ∈ command.chainOperands, IsChainName chain) ∧
          (∀ link ∈ command.linkOperands, IsLinkName link) ∧
          ∀ target ∈ command.jumpTargets,
            IsChainName target ∨ target ∈ policy.defaultActions)) ∧
    ∀ (s : HostService) (data : Scalar.Mapping) (text : String), s.ItemsReadFrom data →
      Field.present? data "chainName" = some (.text text) → trim text = s.givenName →
        (s.ReadFrom (.map data) ↔
          IsWord s.givenName ∧ ∀ chain ∈ s.ownChains, chain.length ≤ ChainName.maxLength) := by
  refine ⟨fun h => ?_, fun s data text => HostService.readFrom_map_iff⟩
  obtain ⟨policy, d, htoken, hread, rfl⟩ := Directory.compile_ok h
  refine ⟨policy, d, htoken, hread, rfl, fun hscope => ?_⟩
  rw [List.forall_mem_map]
  exact fun op hop => (policy.fits_operations hread hscope op hop).operands

/-- A document that forwards the queries of a link, for a service that is given a name. -/
def forwardingEntries (text : String) : Scalar.Mapping :=
  [(.text "chainName", .text text), (.text "network", .map [(.text "items", .list [.map
    [(.text "sourceLinkName", .text "enp0s31f6.1234"), (.text "sourceIpAddress", .text "10.0.0.1"),
      (.text "destinationIpAddress", .text "172.17.0.2"),
      (.text "destinationPortNumber", .int 5353)]])])]

/-- The service in it. -/
def forwardingNamed (name : String) : HostService :=
  .names
    { chainName := name
      items := [{ interface := "enp0s31f6.1234", sourceAddress := "10.0.0.1",
                  destinationAddress := "172.17.0.2", destinationPort := 5353, sourcePort := 53 }] }

/-- The longest name that such a service may be given, and a name that is too long by one.  The
kernel takes the names in what is compiled for the first. -/
theorem longestName_fits_kernel :
    let entries := forwardingEntries " abcdefghijklmnopqrst\n"
    let s := forwardingNamed "abcdefghijklmnopqrst"
    let tooLong := "abcdefghijklmnopqrstu"
    s.ReadFrom (.map entries) ∧
    ¬ (forwardingNamed tooLong).ReadFrom (.map (forwardingEntries tooLong)) ∧
    ((Directory.builtin (BlacklistSync.databaseSource Unit)).compile s.jobName
      (.text Direction.install.name) (.map entries) [] ()).1.result = .ok (s.transcript .install) ∧
    ∀ command ∈ s.transcript .install,
      (∀ chain ∈ command.chainOperands, IsChainName chain) ∧
      (∀ link ∈ command.linkOperands, IsLinkName link) ∧
      ∀ target ∈ command.jumpTargets,
        IsChainName target ∨ target ∈ (Policy.service s).defaultActions := by
  intro entries s tooLong
  have hitems : s.ItemsReadFrom entries := Except.eq_ok_of_toOption (by decide +kernel)
  have hitems' : (forwardingNamed tooLong).ItemsReadFrom (forwardingEntries tooLong) :=
    Except.eq_ok_of_toOption (by decide +kernel)
  have hread : s.ReadFrom (.map entries) :=
    (names_fit_kernel.2 s entries " abcdefghijklmnopqrst\n" hitems rfl
      (by decide +kernel)).mpr ⟨by decide, by decide⟩
  have hlong : ¬ (forwardingNamed tooLong).ReadFrom (.map (forwardingEntries tooLong)) := by
    rw [names_fit_kernel.2 _ _ tooLong hitems' rfl (by decide +kernel)]
    exact fun h => absurd h.2 (by decide)
  have hcompile : ((Directory.builtin (BlacklistSync.databaseSource Unit)).compile s.jobName
      (.text Direction.install.name) (.map entries) [] ()).1.result =
        .ok (s.transcript .install) := HostService.compile_eq_transcript hread .install
  obtain ⟨policy, d, -, hpolicy, -, hfit⟩ :=
    @names_fit_kernel.1 _ _ _ _ _ ([] : List Value) _ _ hcompile
  obtain rfl : policy = .service s := hpolicy.unique ⟨rfl, hread⟩ (by decide)
  have hscope : ∀ text ∈ (Policy.service s).pasted d, '%' ∉ text.toList := by
    cases d <;> decide +kernel
  exact ⟨hread, hlong, hcompile, hfit hscope⟩

end FirewallPolicy
