import FirewallPolicy.Proofs.Jobs.Policies
import FirewallPolicy.Proofs.Shell.AddressOperands

/-!
# Which addresses the tools are given

The tools for rules and sets are those of IPv4, and so are the entries that are read of a blacklist.
The addresses and networks of a document may be of either family, and are taken over as they are.

* `Policy.standOrFall_operations`: the operands of a policy are of IPv4 exactly if these texts are.
* `operands_isIPv4_iff`: so it is with everything that a built-in job compiles.
* `trustingDocument_leaves_ipv4`: an accepted document that gives the tools an IPv6 network.
-/

namespace FirewallPolicy

open FirewallPolicy.Address
open FirewallPolicy.ChainName
open Operation (appendRule insertRule deleteRule teardown)
open Shell (IsSafe isSafe_toString)

/-! ## Preparing a host -/

namespace Prepare

lemma isIPv4_anywhere : IsIPv4 anywhere := isIPv4_iff.mpr rfl

lemma isIPv4_loopback : IsIPv4 loopback := isIPv4_iff.mpr rfl

/-- A rule that accepts under some conditions stands or falls with the addresses among these. -/
lemma standOrFall_accept {c : String} (hc : IsSafe c) {conditions : List Condition}
    (h : ∀ k ∈ conditions, k.IsClear) :
    StandOrFall [appendRule c (accept conditions)] (addressesAsked conditions) :=
  .appendRule hc (Rule.takes h (by decide))

/-- The traffic of a network that stays on the host stands or falls with the network. -/
lemma standOrFall_localTraffic {network : String} (h : isNetwork network) :
    StandOrFall (localTraffic network) [network] := by
  have hnetwork : IsSubject network := .inr h
  have hclear : ∀ k ∈ [.inInterface "lo", .outInterface "lo", .source network,
      .destination network, .destination loopback], Condition.IsClear k := by
    simp +decide [Condition.IsClear, Condition.values, hnetwork, isIPv4_loopback.isSubject]
  have haccept : ∀ {c conditions}, IsSafe c → conditions ⊆ [.inInterface "lo", .outInterface "lo",
      .source network, .destination network, .destination loopback] →
      StandOrFall [appendRule c (accept conditions)] (addressesAsked conditions) :=
    fun hc hsub => standOrFall_accept hc fun k hk => hclear k (hsub hk)
  refine StandOrFall.congr (.cons (haccept (by decide) (by simp)) <|
    .cons (haccept (by decide) (by simp)) <| .cons (haccept (by decide) (by simp)) <|
    haccept (by decide) (by simp)) ?_
  simp [isIPv4_loopback]

/-- The vital traffic of an interface stands or falls with its networks. -/
lemma standOrFall_vitalTraffic {i : PrimaryInterface} (h : i.Valid) :
    StandOrFall (vitalTraffic i) (i.networks.map (·.value)) := by
  have hname : IsSafe i.name := .of_isWord h.name
  have hin : IsSafe vitalIn := by decide
  have hout : IsSafe vitalOut := by decide
  have hfixed : ∀ {c conditions}, IsSafe c → (∀ k ∈ conditions, k.IsClear) →
      AllIPv4 (addressesAsked conditions) → StandOrFall [appendRule c (accept conditions)] [] :=
    fun hc hclear hasked => (standOrFall_accept hc hclear).congr (by simp [hasked])
  have hanywhere : IsSubject anywhere := isIPv4_anywhere.isSubject
  have hdns : ∀ protocol, IsSafe protocol → StandOrFall (dnsClient i.name protocol) [] := by
    intro protocol hprotocol
    refine StandOrFall.nil_cons (hfixed hout ?_ ?_) (hfixed hin ?_ ?_) <;>
      simp +decide [Condition.IsClear, Condition.values, hname, hprotocol, stateNew,
        stateEstablished]
  have hlocal : StandOrFall (i.networks.flatMap fun n => localTraffic n.value)
      (i.networks.map (·.value)) := by
    refine StandOrFall.congr (.flatMap fun n hn => standOrFall_localTraffic (h.networks n hn)) ?_
    simp
  have hall : ∀ {ops : List Operation}, (∀ op ∈ ops, ∃ c conditions,
      op = appendRule c (accept conditions) ∧ IsSafe c ∧ (∀ k ∈ conditions, k.IsClear) ∧
        AllIPv4 (addressesAsked conditions)) → StandOrFall ops [] := by
    intro ops hops
    refine .of_forall fun op hop => ?_
    obtain ⟨c, conditions, rfl, hc, hclear, hasked⟩ := hops op hop
    exact hfixed hc hclear hasked
  refine StandOrFall.nil_append (.nil_append (.nil_append (.nil_append
    (hall ?_) (hdns "udp" (by decide))) (hdns "tcp" (by decide))) (hall ?_)) hlocal
  · simp only [List.forall_mem_cons]
    refine ⟨⟨_, _, rfl, hin, ?_, ?_⟩, ⟨_, _, rfl, hout, ?_, ?_⟩, by simp⟩ <;>
      simp +decide [Condition.IsClear, Condition.values, hname]
  · simp only [List.forall_mem_cons]
    refine ⟨⟨_, _, rfl, hout, ?_, ?_⟩, ⟨_, _, rfl, hin, ?_, ?_⟩, ⟨_, _, rfl, hin, ?_, ?_⟩,
      ⟨_, _, rfl, hout, ?_, ?_⟩, ⟨_, _, rfl, hout, ?_, ?_⟩, ⟨_, _, rfl, hin, ?_, ?_⟩,
      ⟨_, _, rfl, hout, ?_, ?_⟩, ⟨_, _, rfl, hin, ?_, ?_⟩, by simp⟩ <;>
      simp +decide [Condition.IsClear, Condition.values, hname, hanywhere, stateNew,
        stateEstablished]

/-- Packets to the host's own addresses concern no network of a document. -/
lemma standOrFall_vitalEnd : StandOrFall vitalEnd [] := by
  have hloopback : IsSubject loopback := isIPv4_loopback.isSubject
  have hreject : (Rule.mk [.notInInterface "lo", .destination loopback] "REJECT").Takes
      [loopback] :=
    Rule.takes (by simp +decide [Condition.IsClear, Condition.values, hloopback]) (by decide)
  have haccept : StandOrFall [appendRule vitalOut (accept [.outInterface "lo",
      .destination loopback])] [loopback] :=
    standOrFall_accept (by decide)
      (by simp +decide [Condition.IsClear, Condition.values, hloopback])
  refine StandOrFall.congr (.cons (.appendRule (by decide) hreject) (.cons haccept (.nil_cons
    (.appendRule (by decide) Rule.takes_leave) (.appendRule (by decide) Rule.takes_leave)))) ?_
  simp [isIPv4_loopback]

lemma takes_jumps : ∀ r ∈ inputJumps ++ outputJumps, r.Takes [] := by
  intro r hr
  simp only [inputJumps, outputJumps, List.cons_append, List.nil_append, List.mem_cons,
    List.not_mem_nil, or_false] at hr
  have hblock : ∀ c ∈ [Condition.inSet blockSet "src"], c.IsClear := by
    simp +decide [Condition.IsClear]
  rcases hr with rfl | rfl | rfl | rfl | rfl | rfl | rfl
  · exact Rule.takes_jump (by decide)
  · exact Rule.takes_jump (by decide)
  · exact Rule.takes hblock (by decide)
  all_goals exact Rule.takes_jump (by decide)

lemma standOrFall_insertJumps {parent : String} {jumps : List Rule} (hparent : IsSafe parent)
    (h : ∀ r ∈ jumps, r.Takes []) : StandOrFall (insertJumps parent jumps) [] := by
  refine .of_forall fun op hop => ?_
  obtain ⟨⟨r, p⟩, hr, rfl⟩ := List.mem_map.mp hop
  exact .insertRule hparent p (h r (List.fst_mem_of_mem_zipIdx hr))

lemma takes_defaultRule {i : PrimaryInterface} (h : i.Valid) : (defaultRule i).Takes [] :=
  Rule.takes (by simp [Condition.IsClear, Condition.values, IsSafe.of_isWord h.name])
    (.of_isWord h.inputAction)

lemma isSafe_serviceChains : ∀ c ∈ serviceChains, IsSafe c := by decide

lemma trustedChains_spec : ∀ c ∈ trustedChains,
    IsSafe c.1 ∧ IsSafe c.2 ∧ c.2.toList.head? ≠ some '-' := by decide

/-- Installing stands or falls with the networks of the configuration. -/
lemma standOrFall_install {config : PrepareConfig} (h : config.Valid) :
    StandOrFall (operations config .install) (config.trustedNetworks ++
      config.interfaces.flatMap fun i => i.networks.map (·.value)) := by
  have hvital : StandOrFall (vitalInstall config)
      (config.interfaces.flatMap fun i => i.networks.map (·.value)) := by
    refine StandOrFall.congr (.append (.append (.nil_cons (.newChain (by decide))
      (.newChain (by decide))) (.flatMap fun i hi => standOrFall_vitalTraffic (h.interfaces i hi)))
      standOrFall_vitalEnd) ?_
    simp
  have hblock : StandOrFall blockInstall [] :=
    .nil_cons (.newChain (by decide)) (.nil_cons (.createSet (by decide) (by decide))
      (.appendRule (by decide) (Rule.takes (by simp) (by decide))))
  have hservices : StandOrFall servicesInstall [] := by
    refine StandOrFall.congr (.flatMap fun c hc => .nil_cons (.newChain (isSafe_serviceChains c hc))
      (.appendRule (isSafe_serviceChains c hc) Rule.takes_leave)) ?_
    simp
  have htrusted : StandOrFall (trustedInstall config) config.trustedNetworks := by
    have hchains : ∀ c ∈ trustedChains, StandOrFall [.newChain c.1,
        appendRule c.1 (accept [.inSet trustedSet c.2]), appendRule c.1 Rule.leave] [] := by
      intro c hc
      obtain ⟨hchain, hside, hdash⟩ := trustedChains_spec c hc
      have hclear : ∀ k ∈ [Condition.inSet trustedSet c.2], k.IsClear := by
        simp +decide [Condition.IsClear, hside, hdash]
      exact .nil_cons (.newChain hchain) (.nil_cons (standOrFall_accept hchain hclear)
        (.appendRule hchain Rule.takes_leave))
    refine StandOrFall.congr (.append (.append (.createSet (by decide) (by decide)) (.map
      fun n hn => .addToSet (by decide) (.inr (h.trusted n hn)))) (.flatMap hchains)) ?_
    simp
  have hroot : StandOrFall (rootInstall config) [] := by
    refine StandOrFall.congr (.append (.append (standOrFall_insertJumps (by decide) fun r hr =>
      takes_jumps r (List.mem_append_left _ hr)) (.map fun i hi => .appendRule (by decide)
      (takes_defaultRule (h.interfaces i hi)))) (standOrFall_insertJumps (by decide) fun r hr =>
      takes_jumps r (List.mem_append_right _ hr))) ?_
    simp
  refine StandOrFall.congr (.append (.append (.append (.append hvital hblock) hservices) htrusted)
    hroot) ?_
  simp [and_comm]

/-- Uninstalling gives the tools no addresses. -/
lemma standOrFall_uninstall {config : PrepareConfig} (h : config.Valid) :
    StandOrFall (operations config .uninstall) [] := by
  have hroot : StandOrFall (rootUninstall config) [] := by
    refine StandOrFall.congr (.reverse (.append (.append (.map fun r hr => .deleteRule (by decide)
      (takes_jumps r (List.mem_append_left _ hr))) (.map fun i hi => .deleteRule (by decide)
      (takes_defaultRule (h.interfaces i hi)))) (.map fun r hr => .deleteRule (by decide)
      (takes_jumps r (List.mem_append_right _ hr))))) ?_
    simp
  have htrusted : StandOrFall trustedUninstall [] := by
    refine StandOrFall.congr (.append (.flatMap fun c hc =>
      .teardown (trustedChains_spec c hc).1) (.destroySet (by decide))) ?_
    simp
  have hservices : StandOrFall servicesUninstall [] := by
    refine StandOrFall.congr (.flatMap fun c hc => .teardown (isSafe_serviceChains c hc)) ?_
    simp
  have hblock : StandOrFall blockUninstall [] :=
    .nil_append (.teardown (by decide)) (.destroySet (by decide))
  have hvital : StandOrFall vitalUninstall [] :=
    .nil_append (.teardown (by decide)) (.teardown (by decide))
  exact .nil_append (.nil_append (.nil_append (.nil_append hroot htrusted) hservices) hblock) hvital

end Prepare

/-! ## Services -/

/-- Taking out the links of a service and removing its chains gives no addresses. -/
lemma standOrFall_unlink {c : String} (h : IsSafe c) :
    StandOrFall ([deleteRule (ingress services) (.jump [] (ingress c)),
      deleteRule (egress services) (.jump [] (egress c))] ++ teardown (ingress c) ++
        teardown (egress c)) [] := by
  have hin := isSafe_ingress h
  have hout := isSafe_egress h
  exact .nil_append (.nil_append (.nil_cons
    (.deleteRule (by decide) (Rule.takes_jump hin))
    (.deleteRule (by decide) (Rule.takes_jump hout))) (.teardown hin)) (.teardown hout)

namespace Service

variable {item : ServiceItem} {config : ServiceConfig}

/-- The rules of an item take its networks. -/
lemma standOrFall_itemRules (h : item.Valid) {c : String} (hc : IsSafe c) :
    StandOrFall ((itemRules item).map (appendRule c))
      (item.sources ++ item.destination.toList) := by
  have hprotocol : IsSafe item.protocol := .of_isWord h.protocol
  have hport : IsSafe item.port.repr := isSafe_toString _
  let rest := item.destination.toList.map Condition.destination ++ [.protocol item.protocol,
    .sourcePort ephemeralPorts, .destinationPort (toString item.port)]
  have hclear : ∀ k ∈ rest, k.IsClear := by
    simp only [rest, List.forall_mem_append, List.forall_mem_map, List.forall_mem_cons]
    refine ⟨fun d hd => h.destination d (by simpa using hd), ?_⟩
    simp +decide [Condition.IsClear, Condition.values, hprotocol, hport]
  have hasked : addressesAsked rest = item.destination.toList := by
    cases hdestination : item.destination <;> simp [rest, hdestination]
  have haction : IsSafe "ACCEPT" := by decide
  simp only [itemRules]
  split
  · rename_i hsources
    have htakes := Rule.takes hclear haction
    rw [hasked] at htakes
    rw [List.isEmpty_iff.mp hsources, List.nil_append, List.map_singleton]
    exact .appendRule hc htakes
  · rename_i hsources
    have hrules : ∀ source ∈ item.sources,
        StandOrFall [appendRule c ⟨.source source :: rest, "ACCEPT"⟩]
          (source :: item.destination.toList) := by
      intro source hsource
      have hsubject : (Condition.source source).IsClear := h.sources source hsource
      have htakes := Rule.takes (List.forall_mem_cons.mpr ⟨hsubject, hclear⟩) haction
      rw [addressesAsked_cons, hasked] at htakes
      exact .appendRule hc htakes
    rw [List.map_map]
    refine StandOrFall.congr (.map hrules) ?_
    -- The destination is in all rules, and there is at least one.
    obtain ⟨source, hsource⟩ := List.exists_mem_of_ne_nil _ (mt List.isEmpty_iff.mpr hsources)
    rw [allIPv4_flatMap, allIPv4_append]
    simp only [allIPv4_cons]
    exact ⟨fun hall => ⟨fun s hs => (hall s hs).1, (hall source hsource).2⟩,
      fun hall s hs => ⟨hall.1 s hs, hall.2⟩⟩

/-- Installing stands or falls with the networks of the configuration. -/
lemma standOrFall_install (h : config.Valid) : StandOrFall (operations config .install)
    (config.items.flatMap fun item => item.sources ++ item.destination.toList) := by
  have hname : IsSafe config.chainName := .of_isWord h.chainName
  have hin := isSafe_ingress hname
  have hout := isSafe_egress hname
  have hrules : StandOrFall ((inRules config).map (appendRule (ingress config.chainName)))
      (config.items.flatMap fun item => item.sources ++ item.destination.toList) := by
    rw [inRules, List.map_append, List.map_flatMap]
    refine StandOrFall.congr (.append (.flatMap fun item hitem =>
      standOrFall_itemRules (h.items item hitem) hin) (.appendRule hin Rule.takes_leave)) ?_
    simp
  refine StandOrFall.congr (.append (.append (.cons (.newChain hin) (.newChain hout)) hrules)
    (.cons (.appendRule hout Rule.takes_leave) (.cons
      (.insertRule (by decide) 1 (Rule.takes_jump hin))
      (.insertRule (by decide) 1 (Rule.takes_jump hout))))) ?_
  simp

end Service

/-! ## Name services -/

namespace DnsForwarding

variable {item : DnsForward} {config : DnsConfig} {p : String}

lemma takes_redirectRule (h : item.Valid) (hp : p ∈ protocols) :
    (redirectRule item p).Takes [item.sourceAddress, item.destinationAddress] := by
  have hlink : IsSafe item.interface := .of_isWord h.interface
  have hport : IsSafe item.sourcePort.repr := isSafe_toString _
  have hsource : IsSubject item.sourceAddress := .inl h.sourceAddress
  refine Rule.takes_endpoint ?_ h.destinationAddress
  simp +decide [Condition.IsClear, Condition.values, hlink, hport, hsource,
    isSafe_of_mem_protocols p hp]

lemma takes_forwardRule (h : item.Valid) (hp : p ∈ protocols) :
    (forwardRule item p).Takes [item.destinationAddress] := by
  have hport : IsSafe item.destinationPort.repr := isSafe_toString _
  have hdestination : IsSubject item.destinationAddress := .inl h.destinationAddress
  refine Rule.takes ?_ (by decide)
  simp +decide [Condition.IsClear, Condition.values, hport, hdestination,
    isSafe_of_mem_protocols p hp]

lemma takes_acceptRule (h : item.Valid) (hp : p ∈ protocols) :
    (acceptRule item p).Takes [item.sourceAddress] := by
  have hport : IsSafe item.sourcePort.repr := isSafe_toString _
  have hsource : IsSubject item.sourceAddress := .inl h.sourceAddress
  refine Rule.takes ?_ (by decide)
  simp +decide [Condition.IsClear, Condition.values, hport, hsource,
    isSafe_of_mem_protocols p hp]

/-- Both directions stand or fall with the addresses of the configuration. -/
lemma standOrFall_operations (h : config.Valid) (d : Direction) :
    StandOrFall (operations config d)
      (config.items.flatMap fun item => [item.sourceAddress, item.destinationAddress]) := by
  have hname : IsSafe (dnsMark ++ config.chainName) :=
    Shell.IsSafe.append (by decide) (.of_isWord h.chainName)
  have hin : IsSafe (chainIn config) := isSafe_ingress hname
  have hout : IsSafe (chainOut config) := isSafe_egress hname
  cases d with
  | install =>
    have hitem : ∀ item ∈ config.items, StandOrFall (itemInstall (chainIn config) item)
        [item.sourceAddress, item.destinationAddress] := by
      intro item hitem
      have hvalid := h.items item hitem
      refine StandOrFall.congr (.append (.append
        (.map fun p hp => .insertRule (by decide) 1 (takes_redirectRule hvalid hp))
        (.map fun p hp => .insertRule (by decide) 1 (takes_forwardRule hvalid hp)))
        (.map fun p hp => .appendRule hin (takes_acceptRule hvalid hp))) ?_
      simp only [protocols, allIPv4_append, allIPv4_flatMap, allIPv4_cons, List.forall_mem_cons]
      tauto
    refine StandOrFall.congr (.append (.append (.cons (.newChain hin) (.newChain hout))
      (.flatMap hitem)) (.cons (.appendRule hin Rule.takes_leave) (.cons
      (.appendRule hout Rule.takes_leave) (.cons
      (.insertRule (by decide) 1 (Rule.takes_jump hin))
      (.insertRule (by decide) 1 (Rule.takes_jump hout)))))) ?_
    simp
  | uninstall =>
    have hitem : ∀ item ∈ config.items, StandOrFall (itemUninstall item)
        [item.sourceAddress, item.destinationAddress] := by
      intro item hitem
      have hvalid := h.items item hitem
      refine StandOrFall.congr (.append
        (.map fun p hp => .deleteRule (by decide) (takes_redirectRule hvalid hp))
        (.map fun p hp => .deleteRule (by decide) (takes_forwardRule hvalid hp))) ?_
      simp only [protocols, allIPv4_append, allIPv4_flatMap, allIPv4_cons, List.forall_mem_cons]
      tauto
    exact .nil_append (standOrFall_unlink hname) (.flatMap hitem)

end DnsForwarding

/-! ## Blacklists -/

/-- The entries of a blacklist are of IPv4 at any rate. -/
lemma BlacklistSync.standOrFall_operations (networks : List Network) (d : Direction) :
    StandOrFall (operations (networks.map Network.text) d) [] := by
  have hfamily : ∀ n : Network, IsIPv4 n.text := fun n => ⟨n, n.denotes_text⟩
  cases d with
  | install =>
    rw [operations, install, List.map_map]
    refine StandOrFall.congr (.map fun n _ => .addToSet (by decide) (hfamily n).isSubject) ?_
    simp [hfamily]
  | uninstall =>
    show StandOrFall [.flushSet blockSet] []
    exact .flushSet (by decide)

/-! ## Policies -/

/-- The operands of a policy that has been read are of IPv4 exactly if the texts are that it takes
over from the document. -/
theorem Policy.standOrFall_operations {policy : Policy} {job : String} {raw : Value}
    {globals : List Value} (h : policy.ReadFrom job raw globals) (d : Direction) :
    StandOrFall (policy.operations d) (policy.pasted d) := by
  cases policy with
  | host config =>
    have hvalid := PrepareConfig.read_valid h.2
    cases d with
    | install => exact Prepare.standOrFall_install hvalid
    | uninstall => exact Prepare.standOrFall_uninstall hvalid
  | service s =>
    cases s with
    | ports config =>
      have hvalid := ServiceConfig.read_valid h.2
      cases d with
      | install => exact Service.standOrFall_install hvalid
      | uninstall => exact standOrFall_unlink (.of_isWord hvalid.chainName)
    | names config =>
      have hstand := DnsForwarding.standOrFall_operations (DnsConfig.read_valid h.2) d
      cases d <;> exact hstand
  | blacklist networks =>
    have hstand := BlacklistSync.standOrFall_operations networks d
    cases d <;> exact hstand

/-- The addresses and networks that the tools for IPv4 are given by what a built-in job compiles are
of IPv4 exactly if all those are that are taken over from the document: the trusted networks and the
networks of interfaces where a host is prepared, the sources and destinations where a port is
opened, and in both directions the addresses where queries are forwarded. -/
theorem operands_isIPv4_iff {σ : Type} {source : BlacklistSync.Source σ} {job : String}
    {token raw : Value} {globals : List Value} {world : σ} {transcript : Transcript}
    (h : ((Directory.builtin source).compile job token raw globals world).1.result =
      .ok transcript) :
    ∃ (policy : Policy) (d : Direction), Direction.ofToken? token = some d ∧
      policy.ReadFrom job raw globals ∧
      transcript = (policy.operations d).map Operation.command ∧
      ((∀ command ∈ transcript, ∀ operand ∈ command.addressOperands, IsIPv4 operand) ↔
        ∀ text ∈ policy.pasted d, IsIPv4 text) := by
  obtain ⟨policy, d, htoken, hread, rfl⟩ := Directory.compile_ok h
  refine ⟨policy, d, htoken, hread, rfl, ?_⟩
  rw [List.forall_mem_map]
  exact policy.standOrFall_operations hread d

/-! ## Trusted networks of either family -/

/-- A document for a host that trusts a network. -/
def trustingDocument (network : String) : Value :=
  .map [(.text "network", .map [(.text "trustedItems", .list [.text network]),
    (.text "primaryInterfaces", .list [.map [(.text "name", .text "eth0"),
      (.text "networks", .list [.text "10.0.0.0/8"]),
      (.text "rules", .map [(.text "input", .map [(.text "defaultAction", .text "DROP")]),
        (.text "output", .map [(.text "defaultAction", .text "ACCEPT")])])]])])]

/-- The configuration in it. -/
def trustingConfig (network : String) : PrepareConfig where
  trusted := [⟨network, ""⟩]
  interfaces := [{ name := "eth0", networks := [⟨"10.0.0.0/8", ""⟩], inputAction := "DROP",
                   outputAction := "ACCEPT" }]
  globalTrusted := []

/-- The transcript for it. -/
def trustingTranscript (network : String) : Transcript :=
  (Prepare.operations (trustingConfig network) .install).map Operation.command

/-- If the network is of IPv4, nothing else gets to the tools. -/
theorem trustingDocument_keeps_ipv4 :
    ((Directory.builtin (BlacklistSync.databaseSource Unit)).compile "prepare-netfilter"
      (.text "install") (trustingDocument "192.168.0.0/16") [] ()).1.result =
        .ok (trustingTranscript "192.168.0.0/16") ∧
    ∀ command ∈ trustingTranscript "192.168.0.0/16", ∀ operand ∈ command.addressOperands,
      IsIPv4 operand := by
  have htoken : Direction.ofToken? (.text "install") = some .install := by decide +kernel
  have hread : PrepareConfig.read (trustingDocument "192.168.0.0/16") [] =
      .ok (trustingConfig "192.168.0.0/16") := Except.eq_ok_of_toOption (by decide +kernel)
  have hcompile : ((Directory.builtin (BlacklistSync.databaseSource Unit)).compile
      "prepare-netfilter" (.text "install") (trustingDocument "192.168.0.0/16") [] ()).1.result =
        .ok (trustingTranscript "192.168.0.0/16") :=
    (Directory.compile_prepare_iff htoken).mpr ⟨trustingConfig "192.168.0.0/16", hread, rfl⟩
  obtain ⟨policy, d, -, hpolicy, -, hiff⟩ :=
    @operands_isIPv4_iff _ _ _ _ _ ([] : List Value) _ _ hcompile
  obtain rfl : policy = .host (trustingConfig "192.168.0.0/16") :=
    hpolicy.unique ⟨rfl, hread⟩ (by decide)
  have hpasted : ∀ text ∈ (Policy.host (trustingConfig "192.168.0.0/16")).pasted d,
      IsIPv4 text := by
    simp only [isIPv4_iff]
    cases d <;> decide +kernel
  exact ⟨hcompile, hiff.mpr hpasted⟩

/-- If the network is of IPv6, the document is accepted too, and the network is put into a set of
IPv4.  On a blacklist the same network is refused. -/
theorem trustingDocument_leaves_ipv4 :
    ((Directory.builtin (BlacklistSync.databaseSource Unit)).compile "prepare-netfilter"
      (.text "install") (trustingDocument "2001:db8::/32") [] ()).1.result =
        .ok (trustingTranscript "2001:db8::/32") ∧
    (∃ command ∈ trustingTranscript "2001:db8::/32",
      command = ⟨.ipset, "-! add trusted_net 2001:db8::/32"⟩ ∧
        ∃ operand ∈ command.addressOperands, ¬ IsIPv4 operand) ∧
    (BlacklistSync.contribution [.text "2001:db8::/32"]).toOption.isNone := by
  have htoken : Direction.ofToken? (.text "install") = some .install := by decide +kernel
  refine ⟨(Directory.compile_prepare_iff htoken).mpr ⟨trustingConfig "2001:db8::/32",
    Except.eq_ok_of_toOption (by decide +kernel), rfl⟩, by decide +kernel, ?_⟩
  decide +kernel

end FirewallPolicy
