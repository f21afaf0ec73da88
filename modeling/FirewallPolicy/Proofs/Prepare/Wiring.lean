import FirewallPolicy.Proofs.Firewall.Commands
import FirewallPolicy.Proofs.Prepare.Links

/-!
# Preparing a host

What the whole job does to a host, and that its uninstallation gives the host back.

* `Wired`: how a prepared host looks, next to the state in which it was before.
* `applyAll_install`, `applyAll_uninstall`: all operations of the job.
* `prepare_install_uninstall`: its compiled transcripts, for every accepted configuration.
-/

namespace FirewallPolicy

open FirewallPolicy.ChainName
open Prepare

/-! ## A prepared host -/

/-- How a host looks that was in the state `f` when it was prepared. -/
structure Wired (config : PrepareConfig) (f g : Firewall) : Prop where
  input : g.chain? "INPUT" = (f.chain? "INPUT").map (inputLinks ++ · ++ defaults config)
  output : g.chain? "OUTPUT" = (f.chain? "OUTPUT").map (outputLinks ++ ·)
  managed : ∀ c ∈ managedChains, g.chain? c = some (managedRules config c)
  otherChains : ∀ c ∉ managedChains, c ≠ "INPUT" → c ≠ "OUTPUT" → g.chain? c = f.chain? c
  trusted : g.set? trustedSet = some config.trustedNetworks.toFinset
  blocked : g.set? blockSet = some ∅
  otherSets : ∀ s ∉ managedSets, g.set? s = f.set? s

/-- A host that can be prepared: the base chains are there, and no managed chain or set is there or
asked for. -/
structure Unprepared (f : Firewall) : Prop where
  input : (f.chain? "INPUT").isSome
  output : (f.chain? "OUTPUT").isSome
  lacks : f.Lacks managedChains managedSets

namespace Prepare

variable {guarded : String → Bool} {f g : Firewall} {config : PrepareConfig}

/-! ## The words of the operations -/

lemma wellFormed_appendRule {c : String} (hc : ' ' ∉ c.toList) (r : Rule) :
    (Operation.appendRule c r).WellFormed := ⟨hc, r.text_ne_empty⟩

lemma wellFormed_vitalInstall : ∀ op ∈ vitalInstall config, op.WellFormed := by
  rw [vitalInstall_eq, List.forall_mem_cons, List.forall_mem_cons]
  refine ⟨trivial, trivial, fun op hop => ?_⟩
  obtain ⟨c, hc, r, rfl, -, -⟩ := fillsVital_vitalFill op hop
  refine wellFormed_appendRule ?_ r
  rcases List.mem_pair.mp hc with rfl | rfl <;> decide

lemma wellFormed_blockInstall : ∀ op ∈ blockInstall, op.WellFormed := by
  have hset : (Operation.createSet blockSet Operation.networkSet).WellFormed :=
    (by decide : ' ' ∉ blockSet.toList)
  simp only [blockInstall, List.forall_mem_cons]
  exact ⟨trivial, hset, wellFormed_appendRule (by decide) _, by simp⟩

lemma wellFormed_servicesInstall : ∀ op ∈ servicesInstall, op.WellFormed := by
  simp only [servicesInstall, serviceChains, List.flatMap_cons, List.flatMap_nil,
    List.forall_mem_append, List.forall_mem_cons]
  exact ⟨⟨trivial, wellFormed_appendRule (by decide) _, by simp⟩,
    ⟨trivial, wellFormed_appendRule (by decide) _, by simp⟩, by simp⟩

lemma wellFormed_trustedInstall : ∀ op ∈ trustedInstall config, op.WellFormed := by
  have hset : ' ' ∉ trustedSet.toList := by decide
  have hadd : ∀ op ∈ config.trustedNetworks.map (Operation.addToSet trustedSet),
      op.WellFormed := by
    intro op hop
    obtain ⟨n, -, rfl⟩ := List.mem_map.mp hop
    exact hset
  simp only [trustedInstall, trustedChains, List.flatMap_cons, List.flatMap_nil,
    List.forall_mem_append, List.forall_mem_cons]
  exact ⟨⟨⟨hset, by simp⟩, hadd⟩,
    ⟨trivial, wellFormed_appendRule (by decide) _, wellFormed_appendRule (by decide) _, by simp⟩,
    ⟨trivial, wellFormed_appendRule (by decide) _, wellFormed_appendRule (by decide) _, by simp⟩,
    by simp⟩

lemma wellFormed_rootInstall : ∀ op ∈ rootInstall config, op.WellFormed := by
  intro op hop
  rcases mem_rootInstall hop with ⟨c, hc, r, -, p, rfl⟩ | ⟨i, -, rfl⟩
  · refine ⟨?_, Int.natCast_nonneg p, r.text_ne_empty⟩
    rcases List.mem_pair.mp hc with rfl | rfl <;> decide
  · exact wellFormed_appendRule (by decide) _

lemma wellFormed_rootUninstall : ∀ op ∈ rootUninstall config, op.WellFormed := by
  intro op hop
  simp only [rootUninstall, List.mem_reverse, List.mem_append, List.mem_map] at hop
  rcases hop with (⟨r, -, rfl⟩ | ⟨i, -, rfl⟩) | ⟨r, -, rfl⟩
  · exact ⟨by decide, r.text_ne_empty⟩
  · exact ⟨by decide, (defaultRule i).text_ne_empty⟩
  · exact ⟨by decide, r.text_ne_empty⟩

/-- Tearing down and destroying need no words but names. -/
lemma wellFormed_removals : ∀ op ∈ trustedUninstall ++ servicesUninstall ++ blockUninstall ++
    vitalUninstall, op.WellFormed := by
  simp [trustedUninstall, trustedChains, servicesUninstall, serviceChains, blockUninstall,
    vitalUninstall, Operation.teardown, Operation.WellFormed]

/-- The links go first, and then the pieces in the opposite order. -/
lemma operations_uninstall_eq : operations config .uninstall = rootUninstall config ++
    (trustedUninstall ++ servicesUninstall ++ blockUninstall ++ vitalUninstall) := by
  simp [operations]

/-- The words of all operations are in their places. -/
lemma wellFormed_operations {d : Direction} : ∀ op ∈ operations config d, op.WellFormed := by
  cases d with
  | install =>
    simp only [operations, List.forall_mem_append]
    exact ⟨⟨⟨⟨wellFormed_vitalInstall, wellFormed_blockInstall⟩, wellFormed_servicesInstall⟩,
      wellFormed_trustedInstall⟩, wellFormed_rootInstall⟩
  | uninstall =>
    rw [operations_uninstall_eq, List.forall_mem_append]
    exact ⟨wellFormed_rootUninstall, wellFormed_removals⟩

/-! ## All operations -/

/-- The state of a host that has been prepared. -/
def prepared (config : PrepareConfig) (f : Firewall) : Firewall :=
  withLinks config ((f.chain? "INPUT").getD []) ((f.chain? "OUTPUT").getD []) (withChains config f)

lemma wired_prepared (hstart : Unprepared f) : Wired config f (prepared config f) := by
  obtain ⟨input, hinput⟩ := Option.isSome_iff_exists.mp hstart.input
  obtain ⟨output, houtput⟩ := Option.isSome_iff_exists.mp hstart.output
  have hchain : ∀ c, (prepared config f).chain? c =
      if c = "OUTPUT" then some (outputLinks ++ output)
      else if c = "INPUT" then some (inputLinks ++ input ++ defaults config)
      else if c ∈ managedChains then some (managedRules config c) else f.chain? c := by
    intro c
    rw [prepared, hinput, houtput, withLinks, Firewall.chain?_setChain, Firewall.chain?_setChain,
      Function.update_apply, Function.update_apply, chain?_withChains]
    rfl
  have hset : ∀ s, (prepared config f).set? s = if s = trustedSet then
      some config.trustedNetworks.toFinset else if s = blockSet then some ∅ else f.set? s := by
    intro s
    rw [prepared, withLinks, Firewall.set?_setChain, Firewall.set?_setChain, set?_withChains]
  constructor
  case input => rw [hchain, if_neg (by decide), if_pos rfl, hinput, Option.map_some]
  case output => rw [hchain, if_pos rfl, houtput, Option.map_some]
  case managed =>
    intro c hc
    have hbase : ∀ d ∈ managedChains, d ≠ "INPUT" ∧ d ≠ "OUTPUT" := by decide
    rw [hchain, if_neg (hbase c hc).2, if_neg (hbase c hc).1, if_pos hc]
  case otherChains =>
    intro c hc hin hout
    rw [hchain, if_neg hout, if_neg hin, if_neg hc]
  case trusted => rw [hset, if_pos rfl]
  case blocked => rw [hset, if_neg (by decide), if_pos rfl]
  case otherSets =>
    intro s hs
    simp only [managedSets, List.mem_cons, List.not_mem_nil, or_false, not_or] at hs
    rw [hset, if_neg hs.2, if_neg hs.1]

section Operations

variable (hguard : ∀ c, guarded c → isManagedName c) (hstart : Unprepared f)

include hguard hstart

/-- Preparing a host fails nowhere. -/
theorem applyAll_install (hvalid : config.Valid)
    (hdefault : ∀ i ∈ config.interfaces, guarded i.inputAction → i.inputAction ∈ managedChains) :
    f.applyAll guarded (operations config .install) = some (prepared config f) := by
  obtain ⟨input, hinput⟩ := Option.isSome_iff_exists.mp hstart.input
  obtain ⟨output, houtput⟩ := Option.isSome_iff_exists.mp hstart.output
  -- The links need the chains and the set of blocked networks, which have all been made by now.
  have hroot : (withChains config f).applyAll guarded (rootInstall config) =
      some (withLinks config input output (withChains config f)) := by
    refine applyAll_rootInstall hvalid ?_ ?_ hdefault (fun c hc => ?_) ?_
    · rw [chain?_withChains, if_neg (by decide), hinput]
    · rw [chain?_withChains, if_neg (by decide), houtput]
    · rw [chain?_withChains, if_pos hc]
      rfl
    · rw [set?_withChains, if_neg (by decide), if_pos rfl]
      rfl
  rw [operations, Firewall.applyAll_append, (reversible_chains hguard hstart.lacks).there,
    Option.bind_some, hroot, prepared, hinput, houtput]
  rfl

/-- Undoing the preparation of a host fails nowhere, and changes nothing but perhaps the order of
the rules of `INPUT`. -/
theorem applyAll_uninstall_leftover {input : List String} (hinput : f.chain? "INPUT" = some input) :
    (prepared config f).applyAll guarded (operations config .uninstall) =
      some (f.setChain "INPUT" (leftover config input)) := by
  obtain ⟨output, houtput⟩ := Option.isSome_iff_exists.mp hstart.output
  have hout : (withChains config f).chain? "OUTPUT" = some output := by
    rw [chain?_withChains, if_neg (by decide), houtput]
  have hprepared : prepared config f = withLinks config input output (withChains config f) := by
    rw [prepared, hinput, houtput]
    rfl
  have hsame : (withChains config f).setChain "INPUT" (leftover config input) =
      withChains config (f.setChain "INPUT" (leftover config input)) := by
    have hbase : "INPUT" ∉ managedChains := by decide
    refine Firewall.ext_chain?_set? (funext fun c => ?_) (funext fun s => ?_)
    · simp only [Firewall.chain?_setChain, Function.update_apply, chain?_withChains]
      by_cases hc : c = "INPUT"
      · rw [if_pos hc, hc, if_neg hbase, if_pos rfl]
      · rw [if_neg hc, if_neg hc]
    · rw [Firewall.set?_setChain, set?_withChains, set?_withChains, Firewall.set?_setChain]
  -- The rules of `INPUT` are the old ones, so they do not ask for any of the pieces.
  have hlacks : (f.setChain "INPUT" (leftover config input)).Lacks managedChains managedSets := by
    refine hstart.lacks.setChain (by decide) fun rule hrule => ?_
    have hold : rule ∈ input := leftover_perm.mem_iff.mp hrule
    exact ⟨fun c hc hmem => hstart.lacks.unreferred c hmem ⟨_, input, hinput, rule, hold, hc⟩,
      fun s hs hmem => hstart.lacks.unmatched s hmem ⟨_, input, hinput, rule, hold, hs⟩⟩
  rw [operations_uninstall_eq, List.append_assoc, List.append_assoc, Firewall.applyAll_append,
    hprepared, applyAll_rootUninstall hout, Option.bind_some, hsame,
    (reversible_chains hguard hlacks).back]

/-- Undoing the preparation of a host gives the host back, if no rule of `INPUT` was equal to a
default action. -/
theorem applyAll_uninstall
    (hnew : ∀ rules, f.chain? "INPUT" = some rules → ∀ rule ∈ defaults config, rule ∉ rules) :
    (prepared config f).applyAll guarded (operations config .uninstall) = some f := by
  obtain ⟨input, hinput⟩ := Option.isSome_iff_exists.mp hstart.input
  have hsame : f.setChain "INPUT" (leftover config input) = f := by
    refine Firewall.ext_chain?_set? ?_ rfl
    rw [leftover_eq (hnew input hinput), Firewall.chain?_setChain, ← hinput,
      Function.update_eq_self]
  rw [applyAll_uninstall_leftover hguard hstart hinput, hsame]

end Operations

end Prepare

/-! ## The compiled transcripts -/

/-- The chains that a rule may only jump to once they are there: those of a prepared host. -/
def isPreparedChain (c : String) : Bool := c ∈ managedChains

/-- Every accepted configuration compiles in both directions.  Installing fails nowhere and wires
the host as it should be; uninstalling then fails nowhere and gives exactly the old state back. -/
theorem prepare_install_uninstall {σ : Type} {source : BlacklistSync.Source σ} {raw : Value}
    {globals : List Value} {world world' : σ} {config : PrepareConfig} {f : Firewall}
    (hread : PrepareConfig.read raw globals = .ok config) (hstart : Unprepared f)
    (hnew : ∀ rules, f.chain? "INPUT" = some rules →
      ∀ i ∈ config.interfaces, (defaultRule i).text ∉ rules) :
    ∃ install uninstall g,
      ((Directory.builtin source).compile "prepare-netfilter" (.text "install") raw globals
        world).1.result = .ok install ∧
      ((Directory.builtin source).compile "prepare-netfilter" (.text "uninstall") raw globals
        world').1.result = .ok uninstall ∧
      f.run isPreparedChain install = some g ∧ Wired config f g ∧
      g.run isPreparedChain uninstall = some f := by
  have hguard : ∀ c, isPreparedChain c → isManagedName c := fun c hc =>
    isManagedName_managedChains c (of_decide_eq_true hc)
  have hdefault : ∀ i ∈ config.interfaces, isPreparedChain i.inputAction →
      i.inputAction ∈ managedChains := fun i _ hc => of_decide_eq_true hc
  have hnew' : ∀ rules, f.chain? "INPUT" = some rules → ∀ rule ∈ defaults config, rule ∉ rules := by
    intro rules hrules rule hrule
    obtain ⟨i, hi, rfl⟩ := List.mem_map.mp hrule
    exact hnew rules hrules i hi
  refine ⟨(operations config .install).map Operation.command,
    (operations config .uninstall).map Operation.command, prepared config f, ?_, ?_, ?_,
    wired_prepared hstart, ?_⟩
  · exact (Directory.compile_prepare_iff (by decide +kernel)).mpr ⟨config, hread, rfl⟩
  · exact (Directory.compile_prepare_iff (by decide +kernel)).mpr ⟨config, hread, rfl⟩
  · rw [Firewall.run_operations wellFormed_operations]
    exact applyAll_install hguard hstart (PrepareConfig.read_valid hread) hdefault
  · rw [Firewall.run_operations wellFormed_operations]
    exact applyAll_uninstall hguard hstart hnew'

/-! ## A host with two names for one link -/

/-- A document that lists an interface twice. -/
def gatewayDocument : Value :=
  let rules := .map [(.text "input", .map [(.text "defaultAction", .text "DROP")]),
    (.text "output", .map [(.text "defaultAction", .text "ACCEPT")])]
  .map [(.text "network", .map
    [(.text "primaryInterfaces", .list
      [.map [(.text "name", .text "eth0"), (.text "networks", .list [.text "10.0.0.0/8"]),
          (.text "rules", rules)],
        .map [(.text "name", .text "eth0"), (.text "networks", .list []), (.text "rules", rules)]]),
      (.text "trustedItems", .list [.text "192.168.0.0/16", .text "10.1.0.0/16"])])]

/-- A trusted network that all hosts share, one of those in the document. -/
def gatewayTrusted : List Value := [.text "10.1.0.0/16"]

/-- What is read in the document, given that network. -/
def gatewayConfig : PrepareConfig where
  trusted := [⟨"192.168.0.0/16", ""⟩, ⟨"10.1.0.0/16", ""⟩]
  interfaces := [⟨"eth0", [⟨"10.0.0.0/8", ""⟩], "DROP", "ACCEPT"⟩, ⟨"eth0", [], "DROP", "ACCEPT"⟩]
  globalTrusted := [⟨"10.1.0.0/16", ""⟩]

/-- A host with a rule of its own. -/
def gateway : Firewall :=
  ((⟨∅, ∅⟩ : Firewall).setChain "INPUT" ["-p tcp --dport 22 -j ACCEPT"]).setChain "OUTPUT" []

/-- That host is prepared and given back. -/
theorem gateway_install_uninstall :
    ∃ install uninstall g,
      ((Directory.builtin (BlacklistSync.databaseSource Unit)).compile "prepare-netfilter"
        (.text "install") gatewayDocument gatewayTrusted ()).1.result = .ok install ∧
      ((Directory.builtin (BlacklistSync.databaseSource Unit)).compile "prepare-netfilter"
        (.text "uninstall") gatewayDocument gatewayTrusted ()).1.result = .ok uninstall ∧
      gateway.run isPreparedChain install = some g ∧ Wired gatewayConfig gateway g ∧
      g.run isPreparedChain uninstall = some gateway := by
  have hread : PrepareConfig.read gatewayDocument gatewayTrusted = .ok gatewayConfig :=
    Except.eq_ok_of_toOption (by decide +kernel)
  have hlacks : gateway.Lacks managedChains managedSets :=
    ⟨by decide +kernel, by decide +kernel, by decide +kernel, by decide +kernel⟩
  have hnew : ∀ i ∈ gatewayConfig.interfaces,
      (defaultRule i).text ∉ ["-p tcp --dport 22 -j ACCEPT"] := by decide +kernel
  have hinput : gateway.chain? "INPUT" = some ["-p tcp --dport 22 -j ACCEPT"] := by decide +kernel
  refine prepare_install_uninstall hread ⟨?_, by decide +kernel, hlacks⟩ fun rules hrules => ?_
  · rw [hinput]
    rfl
  · rw [hinput] at hrules
    cases hrules
    exact hnew

end FirewallPolicy
