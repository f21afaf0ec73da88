import FirewallPolicy.Proofs.Firewall.Reachability
import FirewallPolicy.Proofs.Prepare.Wiring

/-!
# Preparing a host is safe at every point

The pieces of a prepared host are complete before the base chains link to them, and the links are
taken out before the pieces are removed.

* `linkLast_install`, `matchLast_install`: every chain and every set is complete first.
* `flushToDelete_uninstall`: chains are emptied only to be removed.
* `runs_safely`: so both transcripts can stop anywhere.
-/

namespace FirewallPolicy.Prepare

open FirewallPolicy.ChainName
open Firewall (unguarded)
open Operation (LinkLast MatchLast FlushToDelete appendRule)

variable {f : Firewall} {config : PrepareConfig} {op : Operation} {c s rule : String}

/-! ## What the pieces add -/

/-- The operations for the pieces that look into no set. -/
def plainPieces (config : PrepareConfig) : List Operation :=
  vitalInstall config ++ blockInstall ++ servicesInstall

/-- The operations that make and fill the set of trusted networks. -/
def trustedFill (config : PrepareConfig) : List Operation :=
  .createSet trustedSet Operation.networkSet :: config.trustedNetworks.map (.addToSet trustedSet)

/-- The operations for the chains that look into that set. -/
def trustedLookups : List Operation :=
  trustedChains.flatMap fun (chain, side) =>
    [.newChain chain, appendRule chain (accept [.inSet trustedSet side]),
      appendRule chain Rule.leave]

lemma operations_install_eq : operations config .install =
    plainPieces config ++ trustedFill config ++ (trustedLookups ++ rootInstall config) := by
  simp [operations, plainPieces, trustedInstall, trustedFill, trustedLookups]

/-- The rules of the first pieces jump to no managed chain and look into no set. -/
lemma tidy_of_mem_plainPieces (hop : op ∈ plainPieces config) (hrule : rule ∈ op.addedRule?) :
    Tidy [] rule := by
  rcases List.mem_append.mp hop with hop | hop
  · rcases List.mem_append.mp hop with hop | hop
    · rw [vitalInstall_eq, List.mem_cons, List.mem_cons] at hop
      rcases hop with rfl | rfl | hop
      · cases hrule
      · cases hrule
      · obtain ⟨c, -, r, rfl, haction, hset⟩ := fillsVital_vitalFill op hop
        cases hrule
        exact tidy_of_fillsVital haction hset
    · simp only [blockInstall, List.mem_cons, List.not_mem_nil, or_false] at hop
      rcases hop with rfl | rfl | rfl
      · cases hrule
      · cases hrule
      · cases hrule
        exact tidy_blockRules _ (by simp [blockRules])
  · simp only [servicesInstall, serviceChains, List.flatMap_cons, List.flatMap_nil,
      List.append_nil, List.mem_append, List.mem_cons, List.not_mem_nil, or_false] at hop
    rcases hop with (rfl | rfl) | rfl | rfl
    · cases hrule
    · cases hrule
      exact tidy_leave
    · cases hrule
    · cases hrule
      exact tidy_leave

/-- The rules for trusted networks jump to no managed chain, and look into no set but theirs. -/
lemma trustedLookups_spec (hop : op ∈ trustedLookups) (hrule : rule ∈ op.addedRule?) :
    (∀ c ∈ ruleTarget? rule, ¬ isManagedName c) ∧ ∀ s ∈ matchedSet? rule, s = trustedSet := by
  have hmem : ∃ side, rule ∈ (trustedRules side).map Rule.text := by
    obtain ⟨⟨chain, side⟩, -, hop⟩ := List.mem_flatMap.mp hop
    simp only [List.mem_cons, List.not_mem_nil, or_false] at hop
    rcases hop with rfl | rfl | rfl
    · cases hrule
    · cases hrule
      exact ⟨side, by simp [trustedRules]⟩
    · cases hrule
      exact ⟨side, by simp [trustedRules]⟩
  obtain ⟨side, hmem⟩ := hmem
  exact trustedRules_spec hmem

lemma addedRule?_of_mem_trustedFill (hop : op ∈ trustedFill config) : op.addedRule? = none := by
  rcases List.mem_cons.mp hop with rfl | hop
  · rfl
  · obtain ⟨n, -, rfl⟩ := List.mem_map.mp hop
    rfl

/-- The links change base chains only. -/
lemma links_of_mem_rootInstall (hop : op ∈ rootInstall config) :
    (∃ c ∈ ["INPUT", "OUTPUT"], op.chain? = some c) ∧ op.set? = none := by
  rcases mem_rootInstall hop with ⟨c, hc, r, -, p, rfl⟩ | ⟨i, -, rfl⟩
  · exact ⟨⟨c, hc, rfl⟩, rfl⟩
  · exact ⟨⟨"INPUT", by simp, rfl⟩, rfl⟩

/-- An operation is about a managed chain or a managed set. -/
def IsAboutManaged (op : Operation) : Prop :=
  (∀ c ∈ op.chain?, c ∈ managedChains) ∧ ∀ s ∈ op.set?, s ∈ managedSets

lemma isAboutManaged_plainPieces : ∀ op ∈ plainPieces config, IsAboutManaged op := by
  have hvital : ∀ op ∈ vitalInstall config, IsAboutManaged op := by
    have hchains : ∀ c ∈ [vitalIn, vitalOut], c ∈ managedChains := by decide
    intro op hop
    rw [vitalInstall_eq, List.mem_cons, List.mem_cons] at hop
    rcases hop with rfl | rfl | hop
    · exact ⟨by rintro _ ⟨⟩; exact hchains _ (by simp), by rintro _ ⟨⟩⟩
    · exact ⟨by rintro _ ⟨⟩; exact hchains _ (by simp), by rintro _ ⟨⟩⟩
    · obtain ⟨c, hc, r, rfl, -, -⟩ := fillsVital_vitalFill op hop
      exact ⟨by rintro _ ⟨⟩; exact hchains c hc, by rintro _ ⟨⟩⟩
  have hrest : ∀ op ∈ blockInstall ++ servicesInstall, IsAboutManaged op := by
    unfold IsAboutManaged
    decide
  simp only [plainPieces, List.forall_mem_append] at hrest ⊢
  exact ⟨⟨hvital, hrest.1⟩, hrest.2⟩

lemma isAboutManaged_trustedFill : ∀ op ∈ trustedFill config, IsAboutManaged op := by
  have hset : trustedSet ∈ managedSets := by decide
  simp only [trustedFill, List.forall_mem_cons, List.forall_mem_map]
  exact ⟨⟨by rintro _ ⟨⟩, by rintro _ ⟨⟩; exact hset⟩,
    fun n _ => ⟨by rintro _ ⟨⟩, by rintro _ ⟨⟩; exact hset⟩⟩

lemma isAboutManaged_trustedLookups : ∀ op ∈ trustedLookups, IsAboutManaged op := by
  unfold IsAboutManaged
  decide

/-! ## Installing -/

/-- What is made is made in one of the pieces. -/
lemma isAboutManaged_of_mem_install (hop : op ∈ operations config .install) :
    IsAboutManaged op ∨ op ∈ rootInstall config := by
  rw [operations_install_eq] at hop
  rcases List.mem_append.mp hop with hop | hop
  · rcases List.mem_append.mp hop with hop | hop
    · exact .inl (isAboutManaged_plainPieces op hop)
    · exact .inl (isAboutManaged_trustedFill op hop)
  · rcases List.mem_append.mp hop with hop | hop
    · exact .inl (isAboutManaged_trustedLookups op hop)
    · exact .inr hop

/-- The chains that are made are the managed ones. -/
lemma mem_managedChains_of_newChain (h : .newChain c ∈ operations config .install) :
    c ∈ managedChains := by
  rcases isAboutManaged_of_mem_install h with habout | hroot
  · exact habout.1 c rfl
  · rcases mem_rootInstall hroot with ⟨d, -, r, -, p, h⟩ | ⟨i, -, h⟩ <;> cases h

/-- The sets that are made are the managed ones. -/
lemma mem_managedSets_of_createSet {type : String}
    (h : .createSet s type ∈ operations config .install) : s ∈ managedSets := by
  rcases isAboutManaged_of_mem_install h with habout | hroot
  · exact habout.2 s rfl
  · rcases mem_rootInstall hroot with ⟨d, -, r, -, p, h⟩ | ⟨i, -, h⟩ <;> cases h

/-- Every managed chain is made. -/
lemma newChain_mem_install (hc : c ∈ managedChains) :
    .newChain c ∈ operations config .install := by
  have hpieces : ∀ d ∈ managedChains, .newChain d ∈
      [.newChain vitalIn, .newChain vitalOut] ++ blockInstall ++ servicesInstall ++
        trustedLookups := by decide
  have hmem := hpieces c hc
  simp only [operations_install_eq, plainPieces, vitalInstall, List.mem_append] at hmem ⊢
  tauto

/-- Every managed set is made. -/
lemma createSet_mem_install (hs : s ∈ managedSets) :
    .createSet s Operation.networkSet ∈ operations config .install := by
  rcases List.mem_pair.mp hs with rfl | rfl
  · simp [operations, blockInstall]
  · simp [operations, trustedInstall]

/-- The managed chains are complete before anything links to them. -/
lemma linkLast_install (hc : c ∈ managedChains) : LinkLast (operations config .install) c := by
  have hmanaged : isManagedName c := isManagedName_managedChains c hc
  refine ⟨plainPieces config ++ trustedFill config ++ trustedLookups, rootInstall config, ?_,
    fun op hop rule hrule htarget => ?_, fun op hop hchain => ?_⟩
  · rw [operations_install_eq, List.append_assoc, List.append_assoc, List.append_assoc]
  · rcases List.mem_append.mp hop with hop | hop
    · rcases List.mem_append.mp hop with hop | hop
      · exact (tidy_of_mem_plainPieces hop hrule).ruleTarget?_ne hmanaged htarget
      · rw [addedRule?_of_mem_trustedFill hop] at hrule
        cases hrule
    · exact (trustedLookups_spec hop hrule).1 c htarget hmanaged
  · obtain ⟨⟨d, hd, hedited⟩, -⟩ := links_of_mem_rootInstall hop
    have hbase : ∀ d ∈ ["INPUT", "OUTPUT"], d ∉ managedChains := by decide
    rw [hedited, Option.some.injEq] at hchain
    exact hbase d hd (hchain ▸ hc)

/-- The managed sets are complete before anything looks into them. -/
lemma matchLast_install (hs : s ∈ managedSets) : MatchLast (operations config .install) s := by
  have hplain : ∀ op ∈ plainPieces config, ∀ rule ∈ op.addedRule?, matchedSet? rule ≠ some s := by
    intro op hop rule hrule
    rw [(tidy_of_mem_plainPieces hop hrule).2]
    exact (Option.some_ne_none s).symm
  have hfill : ∀ op ∈ trustedFill config, ∀ rule ∈ op.addedRule?, matchedSet? rule ≠ some s := by
    intro op hop rule hrule
    rw [addedRule?_of_mem_trustedFill hop] at hrule
    cases hrule
  have hroot : ∀ op ∈ rootInstall config, op.set? ≠ some s := by
    intro op hop
    rw [(links_of_mem_rootInstall hop).2]
    exact (Option.some_ne_none s).symm
  simp only [managedSets, List.mem_cons, List.not_mem_nil, or_false] at hs
  rcases hs with rfl | rfl
  -- Nothing but a link looks into the set of blocked networks.
  · refine ⟨plainPieces config ++ trustedFill config ++ trustedLookups, rootInstall config, ?_, ?_,
      hroot⟩
    · rw [operations_install_eq, List.append_assoc, List.append_assoc, List.append_assoc]
    · simp only [List.forall_mem_append]
      refine ⟨⟨hplain, hfill⟩, fun op hop rule hrule hset => ?_⟩
      have hne : blockSet ≠ trustedSet := by decide
      exact hne ((trustedLookups_spec hop hrule).2 _ hset)
  -- The chains that look into the set of trusted networks are made when it is full.
  · refine ⟨plainPieces config ++ trustedFill config, trustedLookups ++ rootInstall config,
      operations_install_eq, ?_, ?_⟩
    · simp only [List.forall_mem_append]
      exact ⟨hplain, hfill⟩
    · have hlookups : ∀ op ∈ trustedLookups, op.set? ≠ some trustedSet := by decide
      simp only [List.forall_mem_append]
      exact ⟨hlookups, hroot⟩

/-! ## Uninstalling -/

lemma flushToDelete_uninstall : FlushToDelete (operations config .uninstall) := by
  rw [operations_uninstall_eq]
  refine Operation.flushToDelete_append (fun op hop c => ?_) ?_
  · obtain ⟨d, rule, rfl⟩ := exists_delete_of_mem_rootUninstall op hop
    exact Operation.noConfusion
  · simp [trustedUninstall, trustedChains, servicesUninstall, serviceChains, blockUninstall,
      vitalUninstall, Operation.teardown, FlushToDelete]

/-- The chains that are removed are the managed ones. -/
lemma mem_managedChains_of_deleteChain (h : .deleteChain c ∈ operations config .uninstall) :
    c ∈ managedChains := by
  rw [operations_uninstall_eq] at h
  rcases List.mem_append.mp h with h | h
  · obtain ⟨d, rule, h⟩ := exists_delete_of_mem_rootUninstall _ h
    cases h
  · have hall : ∀ op ∈ trustedUninstall ++ servicesUninstall ++ blockUninstall ++ vitalUninstall,
        IsAboutManaged op := by
      unfold IsAboutManaged
      decide
    exact (hall _ h).1 c rfl

/-! ## Both -/

/-- The transcripts of the job that prepares a host. -/
def transcript (config : PrepareConfig) (d : Direction) : Transcript :=
  (operations config d).map Operation.command

/-- A configuration that is accepted is compiled to the transcripts that prepare a host. -/
lemma compile_eq_transcript {σ : Type} {source : BlacklistSync.Source σ} {raw : Value}
    {globals : List NetworkItem} {world : σ} (hread : PrepareConfig.read raw globals = .ok config)
    (d : Direction) :
    ((Directory.builtin source).compile "prepare-netfilter" (.text d.name) raw globals
      world).1.result = .ok (transcript config d) := by
  have htoken : Direction.ofToken? (.text d.name) = some d := by cases d <;> decide +kernel
  exact (Directory.compile_prepare_iff htoken).mpr ⟨config, hread, rfl⟩

/-- Preparing a host is safe at every point, and so is undoing it. -/
theorem runs_safely (hvalid : config.Valid) (hstart : Unprepared f) :
    ∃ g e, InstallsSafely f.entryChains (transcript config .install) f g ∧
      UninstallsSafely f.entryChains (transcript config .uninstall) g e := by
  have hguard : ∀ c, unguarded c → isManagedName c := fun c hc => by cases hc
  have hbase : ∀ c ∈ managedChains, c ≠ "INPUT" ∧ c ≠ "OUTPUT" := by decide
  have hentry : ∀ c ∈ managedChains, c ∉ f.entryChains := fun c hc =>
    Firewall.notMem_entryChains (hstart.lacks.chain c hc) (hbase c hc).1 (hbase c hc).2
  obtain ⟨input, hinput⟩ := Option.isSome_iff_exists.mp hstart.input
  have hinstall : f.applyAll unguarded (operations config .install) = some (prepared config f) :=
    applyAll_install hguard hstart hvalid fun i _ hi => by cases hi
  have huninstall : (prepared config f).applyAll unguarded (operations config .uninstall) =
      some (f.setChain "INPUT" (leftover config input)) :=
    applyAll_uninstall_leftover hguard hstart hinput
  refine ⟨_, _, installsSafely_of_applyAll wellFormed_operations hinstall (fun c hc => ?_)
    fun s type hs => ?_, uninstallsSafely_of_applyAll wellFormed_operations huninstall
    flushToDelete_uninstall fun c hc => ?_⟩
  · have hmem := mem_managedChains_of_newChain hc
    exact ⟨hentry c hmem, hstart.lacks.unreferred c hmem, linkLast_install hmem⟩
  · have hmem := mem_managedSets_of_createSet hs
    exact ⟨hstart.lacks.unmatched s hmem, matchLast_install hmem⟩
  · exact hentry c (mem_managedChains_of_deleteChain hc)

end FirewallPolicy.Prepare
