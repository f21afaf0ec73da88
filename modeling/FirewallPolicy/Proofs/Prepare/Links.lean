import FirewallPolicy.Proofs.Prepare.Phases

/-!
# The links of a prepared host

The base chains `INPUT` and `OUTPUT` jump to the managed chains from their first rules on, and
`INPUT` ends in the default actions of the interfaces.

* `withLinks`: the state with these rules.
* `applyAll_rootInstall`: linking adds them.
* `applyAll_rootUninstall`: unlinking takes them out again; `leftover_perm` and `leftover_eq` say
  what is left of `INPUT`.
-/

namespace FirewallPolicy.Prepare

open FirewallPolicy.ChainName
open Operation (appendRule insertRule deleteRule editAll takenFrom)

variable {guarded : String → Bool} {f : Firewall} {config : PrepareConfig}
  {input output : List String}

/-! ## The rules of the base chains -/

/-- The links at the head of `INPUT`. -/
def inputLinks : List String :=
  ["-j IN_trusted_access_0", "-j IN_vital_access_0",
    "-m set --match-set block_net src -j IN_block_access_0", "-j IN_services_access_0"]

/-- The links at the head of `OUTPUT`. -/
def outputLinks : List String :=
  ["-j OUT_trusted_access_0", "-j OUT_vital_access_0", "-j OUT_services_access_0"]

/-- The default actions of the interfaces, in their order. -/
def defaults (config : PrepareConfig) : List String :=
  config.interfaces.map fun i => (defaultRule i).text

lemma map_text_inputJumps : inputJumps.map Rule.text = inputLinks := by decide +kernel

lemma map_text_outputJumps : outputJumps.map Rule.text = outputLinks := by decide +kernel

/-- The state with the links in the base chains. -/
def withLinks (config : PrepareConfig) (input output : List String) (f : Firewall) : Firewall :=
  (f.setChain "INPUT" (inputLinks ++ input ++ defaults config)).setChain "OUTPUT"
    (outputLinks ++ output)

/-! ## Admission -/

/-- What the links jump to, and what they look into. -/
lemma jumps_spec : ∀ r ∈ inputJumps ++ outputJumps, ' ' ∉ r.action.toList ∧
    r.action ∈ managedChains ∧ (r.conditions = [] ∨ r.conditions = [.inSet blockSet "src"]) := by
  decide

/-- A link is admitted where the managed chains and the set of blocked networks are. -/
lemma admits_jump {r : Rule} (hr : r ∈ inputJumps ++ outputJumps)
    (hchains : ∀ c ∈ managedChains, (f.chain? c).isSome) (hset : (f.set? blockSet).isSome) :
    f.Admits guarded r.text := by
  obtain ⟨hblank, hmanaged, hconditions⟩ := jumps_spec r hr
  refine ⟨fun c hc _ => ?_, fun s hs => ?_⟩
  · rw [Rule.ruleTarget?_text hblank] at hc
    cases hc
    exact hchains _ hmanaged
  · rcases hconditions with hnil | hblock
    · rw [Rule.matchedSet?_text_eq_none (by simp [hnil])] at hs
      cases hs
    · rw [Rule.matchedSet?_text_inSet hblock (by decide)] at hs
      cases hs
      exact hset

/-- A default action is admitted if the action is a word, and where it is a guarded chain, one of
the managed ones. -/
lemma admits_default {i : PrimaryInterface} (hi : i.Valid)
    (hdefault : guarded i.inputAction → i.inputAction ∈ managedChains)
    (hchains : ∀ c ∈ managedChains, (f.chain? c).isSome) :
    f.Admits guarded (defaultRule i).text := by
  refine ⟨fun c hc hguarded => ?_, fun s hs => ?_⟩
  · rw [Rule.ruleTarget?_text hi.inputAction.blank_notMem] at hc
    cases hc
    exact hchains _ (hdefault hguarded)
  · rw [Rule.matchedSet?_text_eq_none (by simp [defaultRule])] at hs
    cases hs

/-- No default action is one of the links. -/
lemma notMem_inputLinks : ∀ rule ∈ defaults config, rule ∉ inputLinks := by
  intro rule hrule hmem
  obtain ⟨i, -, rfl⟩ := List.mem_map.mp hrule
  -- A default action begins with two dashes, a link with one.
  have hdash : (defaultRule i).text.toList[1]? = some '-' := by
    rw [Rule.text_of_ne_nil (by simp [defaultRule]), Rule.matchText, defaultRule, List.map_cons,
      List.map_nil, String.intercalate_singleton]
    show ("--in-interface " ++ i.name ++ " -j " ++ i.inputAction).toList[1]? = some '-'
    simp
  have hlinks : ∀ link ∈ inputLinks, link.toList[1]? ≠ some '-' := by decide
  exact hlinks _ hmem hdash

/-! ## Linking -/

/-- What the operations for the links change. -/
lemma mem_rootInstall {op : Operation} (h : op ∈ rootInstall config) :
    (∃ c ∈ ["INPUT", "OUTPUT"], ∃ r ∈ inputJumps ++ outputJumps, ∃ p : Nat,
      op = insertRule c p r) ∨
    ∃ i ∈ config.interfaces, op = appendRule "INPUT" (defaultRule i) := by
  have hinsert : ∀ parent jumps, op ∈ insertJumps parent jumps →
      ∃ r ∈ jumps, ∃ p, op = insertRule parent p r := by
    intro parent jumps hop
    obtain ⟨⟨r, p⟩, hr, rfl⟩ := List.mem_map.mp hop
    exact ⟨r, List.fst_mem_of_mem_zipIdx hr, p, rfl⟩
  rcases List.mem_append.mp h with h | h
  · rcases List.mem_append.mp h with h | h
    · obtain ⟨r, hr, p, rfl⟩ := hinsert _ _ h
      exact .inl ⟨_, by simp, r, List.mem_append_left _ hr, p, rfl⟩
    · obtain ⟨i, hi, rfl⟩ := List.mem_map.mp h
      exact .inr ⟨i, hi, rfl⟩
  · obtain ⟨r, hr, p, rfl⟩ := hinsert _ _ h
    exact .inl ⟨_, by simp, r, List.mem_append_right _ hr, p, rfl⟩

lemma insertJumps_eq (parent : String) (jumps : List Rule) :
    insertJumps parent jumps = ((jumps.map Rule.text).zipIdx 1).map
      fun rule => .insert parent rule.2 rule.1 := by
  simp [insertJumps, insertRule, List.zipIdx_map, Function.comp_def]

/-- Inserted jumps stand at the head of their chain. -/
lemma editAll_insertJumps (d parent : String) (jumps : List Rule) (rules : List String) :
    editAll d (insertJumps parent jumps) rules =
      some (if d = parent then jumps.map Rule.text ++ rules else rules) := by
  rw [insertJumps_eq]
  by_cases hd : d = parent
  · subst hd
    rw [if_pos rfl]
    simpa using Operation.editAll_insertFrom (d := d) (jumps.map Rule.text) [] rules
  · rw [if_neg hd]
    refine Operation.editAll_of_forall_ne fun op hop => ?_
    obtain ⟨rule, -, rfl⟩ := List.mem_map.mp hop
    simpa [Operation.editedChain?] using Ne.symm hd

/-- Default actions stand at the end of `INPUT`. -/
lemma editAll_defaults (d : String) (rules : List String) :
    editAll d (config.interfaces.map fun i => appendRule "INPUT" (defaultRule i)) rules =
      some (if d = "INPUT" then rules ++ defaults config else rules) := by
  have hadds : ∀ op ∈ config.interfaces.map fun i => appendRule "INPUT" (defaultRule i),
      op.AddsAtEnd := by
    intro op hop
    obtain ⟨i, -, rfl⟩ := List.mem_map.mp hop
    exact .inl ⟨_, _, rfl⟩
  rw [Operation.editAll_adds hadds]
  by_cases hd : d = "INPUT"
  · simp [hd, defaults, List.filterMap_map, Function.comp_def, Operation.headTo_appendRule,
      Operation.tailTo_appendRule]
  · simp [hd, Ne.symm hd, List.filterMap_map, Function.comp_def, Operation.headTo_appendRule,
      Operation.tailTo_appendRule]

/-- What linking makes of the rules of a chain. -/
lemma editAll_rootInstall (d : String) (rules : List String) :
    editAll d (rootInstall config) rules =
      some (if d = "INPUT" then inputLinks ++ rules ++ defaults config
        else if d = "OUTPUT" then outputLinks ++ rules else rules) := by
  rw [rootInstall, Operation.editAll_append, Operation.editAll_append, editAll_insertJumps,
    Option.bind_some, editAll_defaults, Option.bind_some, editAll_insertJumps,
    map_text_inputJumps, map_text_outputJumps]
  by_cases hin : d = "INPUT" <;> simp [hin]

/-- Linking puts the links at the head of the base chains and the default actions at the end. -/
theorem applyAll_rootInstall (hvalid : config.Valid) (hinput : f.chain? "INPUT" = some input)
    (houtput : f.chain? "OUTPUT" = some output)
    (hdefault : ∀ i ∈ config.interfaces, guarded i.inputAction → i.inputAction ∈ managedChains)
    (hchains : ∀ c ∈ managedChains, (f.chain? c).isSome) (hset : (f.set? blockSet).isSome) :
    f.applyAll guarded (rootInstall config) = some (withLinks config input output f) := by
  have hready : ∀ op ∈ rootInstall config, Operation.Ready guarded f op := by
    intro op hop
    rcases mem_rootInstall hop with ⟨c, hc, r, hr, p, rfl⟩ | ⟨i, hi, rfl⟩
    · refine ⟨⟨c, rfl, ?_⟩, ?_⟩
      · rcases List.mem_pair.mp hc with rfl | rfl
        · simp [hinput]
        · simp [houtput]
      · rintro _ ⟨⟩
        exact admits_jump hr hchains hset
    · refine ⟨⟨_, rfl, by simp [hinput]⟩, ?_⟩
      rintro _ ⟨⟩
      exact admits_default (hvalid.interfaces i hi) (hdefault i hi) hchains
  obtain ⟨g, hg, hgchains, hgsets⟩ :=
    Firewall.applyAll_edits hready fun d rules _ => ⟨_, editAll_rootInstall d rules⟩
  -- Chain by chain, with `OUTPUT` first because it was changed last.
  have hsame : g = withLinks config input output f := by
    refine Firewall.ext_chain?_set? (funext fun d => ?_) hgsets
    simp only [hgchains, editAll_rootInstall, withLinks, Firewall.chain?_setChain,
      Function.update_apply]
    by_cases hout : d = "OUTPUT"
    · simp [hout, houtput]
    by_cases hin : d = "INPUT"
    · simp [hin, hinput]
    · cases f.chain? d <;> simp [hin, hout]
  rw [hg, hsame]

/-! ## Unlinking -/

/-- Unlinking deletes rules of the base chains. -/
lemma mem_rootUninstall {op : Operation} (h : op ∈ rootUninstall config) :
    ∃ c ∈ ["INPUT", "OUTPUT"], ∃ rule, op = .delete c rule := by
  simp only [rootUninstall, List.mem_reverse, List.mem_append, List.mem_map] at h
  rcases h with (⟨r, -, rfl⟩ | ⟨i, -, rfl⟩) | ⟨r, -, rfl⟩
  · exact ⟨_, by simp, _, rfl⟩
  · exact ⟨_, by simp, _, rfl⟩
  · exact ⟨_, by simp, _, rfl⟩

lemma exists_delete_of_mem_rootUninstall :
    ∀ op ∈ rootUninstall config, ∃ c rule, op = .delete c rule := by
  intro op hop
  obtain ⟨c, -, rule, rfl⟩ := mem_rootUninstall hop
  exact ⟨c, rule, rfl⟩

/-- What unlinking deletes from a chain, in this order. -/
lemma filterMap_takenFrom_rootUninstall (d : String) :
    (rootUninstall config).filterMap (takenFrom d) =
      if d = "INPUT" then (defaults config).reverse ++ inputLinks.reverse
      else if d = "OUTPUT" then outputLinks.reverse else [] := by
  rw [rootUninstall, List.filterMap_reverse, ← map_text_inputJumps, ← map_text_outputJumps]
  by_cases hin : d = "INPUT"
  · simp [hin, deleteRule, takenFrom, defaults, List.filterMap_map, Function.comp_def]
  by_cases hout : d = "OUTPUT"
  · simp [hout, deleteRule, takenFrom, List.filterMap_map, Function.comp_def]
  · simp [hin, hout, Ne.symm hin, Ne.symm hout, deleteRule, takenFrom, List.filterMap_map,
      Function.comp_def]

/-- What unlinking leaves in `INPUT`: a deletion takes the first equal rule, which may be an old one
where a default action is equal to it. -/
def leftover (config : PrepareConfig) (input : List String) : List String :=
  (inputLinks ++ input ++ defaults config).diff ((defaults config).reverse ++ inputLinks.reverse)

/-- The links and the default actions, in the order in which they are deleted. -/
lemma perm_deleted :
    ((defaults config).reverse ++ inputLinks.reverse).Perm (inputLinks ++ defaults config) := by
  rw [← List.reverse_append]
  exact List.reverse_perm _

/-- The old rules are left, perhaps in another order. -/
lemma leftover_perm : (leftover config input).Perm input := by
  have hrules : (inputLinks ++ input ++ defaults config).Perm
      (inputLinks ++ defaults config ++ input) := by
    rw [List.append_assoc, List.append_assoc]
    exact List.perm_append_comm.append_left _
  refine (hrules.diff_right _).trans (List.Perm.of_eq ?_)
  exact Operation.diff_append_of_perm perm_deleted.symm input

/-- The old rules are left as they were where none of them is equal to a default action: these are
deleted first, from behind them, and then the links in front. -/
lemma leftover_eq (hnew : ∀ rule ∈ defaults config, rule ∉ input) :
    leftover config input = input := by
  -- A deletion takes the first equal rule, and the only ones equal are behind the old rules.
  have hnone : ∀ rule ∈ (defaults config).reverse, rule ∉ inputLinks ++ input := by
    intro rule hrule hmem
    have hrule' : rule ∈ defaults config := List.mem_reverse.mp hrule
    rcases List.mem_append.mp hmem with hmem | hmem
    · exact notMem_inputLinks rule hrule' hmem
    · exact hnew rule hrule' hmem
  -- The default actions are deleted in the opposite order, and none is left.
  have hrest : (defaults config).diff (defaults config).reverse = [] := by
    have hperm := Operation.diff_append_of_perm (List.reverse_perm (defaults config)).symm []
    rwa [List.append_nil] at hperm
  rw [leftover, List.diff_append, Operation.diff_append_of_forall_notMem hnone, hrest,
    List.append_nil, Operation.diff_append_of_perm (List.reverse_perm _).symm]

/-- Unlinking finds all links and default actions in `INPUT`. -/
lemma editAll_rootUninstall_input :
    editAll "INPUT" (rootUninstall config) (inputLinks ++ input ++ defaults config) =
      some (leftover config input) := by
  have htaken : (rootUninstall config).filterMap (takenFrom "INPUT") =
      (defaults config).reverse ++ inputLinks.reverse := by
    rw [filterMap_takenFrom_rootUninstall, if_pos rfl]
  have hsub : ((defaults config).reverse ++ inputLinks.reverse).Subperm
      (inputLinks ++ input ++ defaults config) := by
    refine perm_deleted.subperm.trans (List.Sublist.subperm ?_)
    exact (List.sublist_append_left _ _).append (List.Sublist.refl _)
  rw [Operation.editAll_deletes exists_delete_of_mem_rootUninstall (by rw [htaken]; exact hsub),
    htaken, leftover]

/-- Unlinking leaves the old rules of `OUTPUT`. -/
lemma editAll_rootUninstall_output :
    editAll "OUTPUT" (rootUninstall config) (outputLinks ++ output) = some output := by
  have htaken : (rootUninstall config).filterMap (takenFrom "OUTPUT") = outputLinks.reverse := by
    rw [filterMap_takenFrom_rootUninstall, if_neg (by decide), if_pos rfl]
  have hsub : outputLinks.reverse.Subperm (outputLinks ++ output) :=
    (List.reverse_perm _).subperm.trans (List.sublist_append_left _ _).subperm
  rw [Operation.editAll_deletes exists_delete_of_mem_rootUninstall (by rw [htaken]; exact hsub),
    htaken, Operation.diff_append_of_perm (List.reverse_perm _).symm]

/-- Unlinking leaves other chains alone. -/
lemma editAll_rootUninstall_other {d : String} (hin : d ≠ "INPUT") (hout : d ≠ "OUTPUT")
    (rules : List String) : editAll d (rootUninstall config) rules = some rules := by
  refine Operation.editAll_of_forall_ne fun op hop => ?_
  obtain ⟨c, hc, rule, rfl⟩ := mem_rootUninstall hop
  rcases List.mem_pair.mp hc with rfl | rfl
  · simpa [Operation.editedChain?] using Ne.symm hin
  · simpa [Operation.editedChain?] using Ne.symm hout

/-- Unlinking takes all links and default actions out again. -/
theorem applyAll_rootUninstall (houtput : f.chain? "OUTPUT" = some output) :
    (withLinks config input output f).applyAll guarded (rootUninstall config) =
      some (f.setChain "INPUT" (leftover config input)) := by
  have hready : ∀ op ∈ rootUninstall config,
      Operation.Ready guarded (withLinks config input output f) op := by
    intro op hop
    obtain ⟨c, hc, rule, rfl⟩ := mem_rootUninstall hop
    refine ⟨⟨c, rfl, ?_⟩, by rintro _ ⟨⟩⟩
    rcases List.mem_pair.mp hc with rfl | rfl <;> simp [withLinks]
  let after := f.setChain "INPUT" (leftover config input)
  have hafter : ∀ d rules, (withLinks config input output f).chain? d = some rules →
      ∃ old, editAll d (rootUninstall config) rules = some old ∧ after.chain? d = some old := by
    intro d rules hd
    simp only [withLinks, after, Firewall.chain?_setChain, Function.update_apply] at hd ⊢
    by_cases hout : d = "OUTPUT"
    · rw [if_pos hout] at hd
      cases hd
      exact ⟨output, by rw [hout, editAll_rootUninstall_output], by simp [hout, houtput]⟩
    rw [if_neg hout] at hd
    by_cases hin : d = "INPUT"
    · rw [if_pos hin] at hd
      cases hd
      exact ⟨leftover config input, by rw [hin, editAll_rootUninstall_input], by rw [if_pos hin]⟩
    · rw [if_neg hin] at hd ⊢
      exact ⟨rules, editAll_rootUninstall_other hin hout rules, hd⟩
  have hnone : ∀ d, (withLinks config input output f).chain? d = none → after.chain? d = none := by
    intro d hd
    simp only [withLinks, after, Firewall.chain?_setChain, Function.update_apply] at hd ⊢
    split at hd
    · cases hd
    · split at hd
      · cases hd
      · rename_i hin
        rw [if_neg hin, hd]
  obtain ⟨g, hg, hgchains, hgsets⟩ := Firewall.applyAll_edits hready (by
    intro d rules hd
    obtain ⟨old, hold, -⟩ := hafter d rules hd
    exact ⟨old, hold⟩)
  have hsame : g = after := by
    refine Firewall.ext_chain?_set? (funext fun d => ?_) hgsets
    rw [hgchains]
    cases hd : (withLinks config input output f).chain? d with
    | none => exact (hnone d hd).symm
    | some rules =>
      obtain ⟨old, hold, hlast⟩ := hafter d rules hd
      rw [Option.bind_some, hold, hlast]
  rw [hg, hsame]

end FirewallPolicy.Prepare
