import FirewallPolicy.Proofs.Firewall.State

/-!
# Operations that other operations undo

A job comes in pieces, and each piece has operations that take it back.

* `Firewall.Reversible`: some operations lead from one state to another, others lead back; pieces
  are put together by `Reversible.trans`.
* `Firewall.Lacks`: some chains and sets are not there and no rule asks for them, which is what a
  piece needs of the state that it starts from.
* `Firewall.applyAll_makeChain`, `Firewall.applyAll_teardown_pair`: how chains come and go.
-/

namespace FirewallPolicy.Firewall

open Operation (teardown)

variable {guarded : String → Bool} {f g h : Firewall}

/-- Some operations lead from one state to another, and others lead back. -/
structure Reversible (guarded : String → Bool) (f : Firewall) (install uninstall : List Operation)
    (g : Firewall) : Prop where
  there : f.applyAll guarded install = some g
  back : g.applyAll guarded uninstall = some f

/-- What is done last is undone first. -/
lemma Reversible.trans {install₁ install₂ uninstall₁ uninstall₂ : List Operation}
    (h₁ : Reversible guarded f install₁ uninstall₁ g)
    (h₂ : Reversible guarded g install₂ uninstall₂ h) :
    Reversible guarded f (install₁ ++ install₂) (uninstall₂ ++ uninstall₁) h where
  there := by rw [applyAll_append, h₁.there, Option.bind_some, h₂.there]
  back := by rw [applyAll_append, h₂.back, Option.bind_some, h₁.back]

/-! ## Names that no rule asks for -/

/-- A rule neither jumps to any of some chains nor looks into any of some sets. -/
def Spares (chains sets : List String) (rule : String) : Prop :=
  (∀ c ∈ ruleTarget? rule, c ∉ chains) ∧ ∀ s ∈ matchedSet? rule, s ∉ sets

/-- Some chains and sets are not there, and no rule asks for them. -/
structure Lacks (f : Firewall) (chains sets : List String) : Prop where
  chain : ∀ c ∈ chains, f.chain? c = none
  unreferred : ∀ c ∈ chains, ¬ f.Refers c
  set : ∀ s ∈ sets, f.set? s = none
  unmatched : ∀ s ∈ sets, ¬ f.Matches s

section Lacking

variable {c s : String} {chains sets chains' sets' rules : List String} {entries : Finset String}

lemma Lacks.mono (h : f.Lacks chains sets) (hc : chains' ⊆ chains) (hs : sets' ⊆ sets) :
    f.Lacks chains' sets' where
  chain d hd := h.chain d (hc hd)
  unreferred d hd := h.unreferred d (hc hd)
  set t ht := h.set t (hs ht)
  unmatched t ht := h.unmatched t (hs ht)

/-- Rules that do not jump to a chain leave it without a jump. -/
lemma not_refers_setChain {d : String} (h : ¬ f.Refers d)
    (hrules : ∀ rule ∈ rules, ruleTarget? rule ≠ some d) : ¬ (f.setChain c rules).Refers d := by
  intro hrefers
  rcases AnyRule.of_setChain hrefers with hold | ⟨rule, hrule, htarget⟩
  · exact h hold
  · exact hrules rule hrule htarget

/-- Rules that spare some names may go to another chain. -/
lemma Lacks.setChain (h : f.Lacks chains sets) (hc : c ∉ chains)
    (hrules : ∀ rule ∈ rules, Spares chains sets rule) :
    (f.setChain c rules).Lacks chains sets where
  chain d hd := by
    have hdc : d ≠ c := fun heq => hc (heq ▸ hd)
    rw [chain?_setChain_of_ne _ _ hdc]
    exact h.chain d hd
  unreferred d hd := not_refers_setChain (h.unreferred d hd) fun rule hrule htarget =>
    (hrules rule hrule).1 d htarget hd
  set := h.set
  unmatched t ht hmatches := by
    rcases AnyRule.of_setChain hmatches with hold | ⟨rule, hrule, hset⟩
    · exact h.unmatched t ht hold
    · exact (hrules rule hrule).2 t hset ht

/-- Another set may get entries. -/
lemma Lacks.setEntries (h : f.Lacks chains sets) (hs : s ∉ sets) :
    (f.setEntries s entries).Lacks chains sets where
  chain := h.chain
  unreferred := h.unreferred
  set t ht := by
    have hts : t ≠ s := fun heq => hs (heq ▸ ht)
    rw [set?_setEntries, Function.update_of_ne hts]
    exact h.set t ht
  unmatched := h.unmatched

end Lacking

/-! ## Chains that come and go -/

section Chains

variable {a b c : String} {rules added A B : List String}

/-- A rule that is admitted stays so when a chain gets other rules. -/
lemma Admits.setChain {rule : String} (hadm : f.Admits guarded rule) :
    (f.setChain c rules).Admits guarded rule := by
  refine ⟨fun d hd hguarded => ?_, hadm.2⟩
  rw [chain?_setChain]
  by_cases hdc : d = c
  · rw [hdc, Function.update_self]
    rfl
  · rw [Function.update_of_ne hdc]
    exact hadm.1 d hd hguarded

/-- Rules that are appended one by one stand at the end of their chain. -/
lemma applyAll_appends (hc : f.chain? c = some rules)
    (hadm : ∀ rule ∈ added, f.Admits guarded rule) :
    f.applyAll guarded (added.map (Operation.append c)) = some (f.setChain c (rules ++ added)) := by
  induction added generalizing f rules with
  | nil =>
    have hsame : f.setChain c (rules ++ []) = f := by
      refine ext_chain?_set? ?_ rfl
      rw [chain?_setChain, List.append_nil, ← hc, Function.update_eq_self]
    rw [hsame]
    rfl
  | cons rule added ih =>
    -- The next rule goes to the end of the chain, and `ih` is about the longer chain.
    have hstep : f.apply guarded (.append c rule) = some (f.setChain c (rules ++ [rule])) :=
      apply_append_iff.mpr ⟨hadm rule List.mem_cons_self, rules, hc, rfl⟩
    have hsame : (f.setChain c (rules ++ [rule])).setChain c (rules ++ [rule] ++ added) =
        f.setChain c (rules ++ rule :: added) :=
      ext_chain?_set? (by simp) rfl
    rw [List.map_cons, applyAll_cons, hstep, Option.bind_some, ih (chain?_setChain_self ..), hsame]
    exact fun rule' hrule' => (hadm rule' (List.mem_cons_of_mem _ hrule')).setChain

/-- A chain is made and filled with rules that are admitted. -/
lemma applyAll_makeChain (hc : f.chain? c = none) (hadm : ∀ rule ∈ added, f.Admits guarded rule) :
    f.applyAll guarded (.newChain c :: added.map (Operation.append c)) =
      some (f.setChain c added) := by
  have hsame : (f.setChain c []).setChain c ([] ++ added) = f.setChain c added :=
    ext_chain?_set? (by simp) rfl
  rw [applyAll_cons, apply_newChain_iff.mpr ⟨hc, rfl⟩, Option.bind_some,
    applyAll_appends (chain?_setChain_self ..), hsame]
  exact fun rule hrule => (hadm rule hrule).setChain

/-- A chain that was made is torn down, and nothing is left of it. -/
lemma applyAll_teardown_setChain (hc : f.chain? c = none) (hrefers : ¬ f.Refers c)
    (hrules : ∀ rule ∈ rules, ruleTarget? rule ≠ some c) :
    (f.setChain c rules).applyAll guarded (teardown c) = some f := by
  have hsame : (f.setChain c rules).dropChain c = f := by
    refine ext_chain?_set? ?_ rfl
    rw [chain?_dropChain, chain?_setChain, Function.update_idem, ← hc, Function.update_eq_self]
  rw [applyAll_teardown (by simp) (not_refers_setChain hrefers hrules), hsame]

/-- Two chains that were made are torn down in the order in which they were made. -/
lemma applyAll_teardown_pair (hab : a ≠ b) (h : f.Lacks [a, b] [])
    (hA : ∀ rule ∈ A, Spares [a, b] [] rule) (hB : ∀ rule ∈ B, Spares [a, b] [] rule) :
    ((f.setChain a A).setChain b B).applyAll guarded (teardown a ++ teardown b) = some f := by
  -- The chain that was made first is torn down first, so it has to be seen as made last.
  have hcomm : (f.setChain a A).setChain b B = (f.setChain b B).setChain a A :=
    ext_chain?_set? (by simp [Function.update_comm hab]) rfl
  have ha : (f.setChain b B).chain? a = none := by
    rw [chain?_setChain_of_ne _ _ hab]
    exact h.chain a (by simp)
  have hrefers : ¬ (f.setChain b B).Refers a := by
    refine not_refers_setChain (h.unreferred a (by simp)) fun rule hrule htarget => ?_
    exact (hB rule hrule).1 a htarget (by simp)
  rw [hcomm, applyAll_append, applyAll_teardown_setChain ha hrefers, Option.bind_some,
    applyAll_teardown_setChain (h.chain b (by simp)) (h.unreferred b (by simp))]
  · exact fun rule hrule htarget => (hB rule hrule).1 b htarget (by simp)
  · exact fun rule hrule htarget => (hA rule hrule).1 a htarget (by simp)

end Chains

/-! ## Sets that come and go -/

section Sets

variable {s type : String} {entries : Finset String}

/-- Entries that are added one by one are in their set. -/
lemma applyAll_addsToSet {added : List String} (hs : f.set? s = some entries) :
    f.applyAll guarded (added.map (Operation.addToSet s)) =
      some (f.setEntries s (entries ∪ added.toFinset)) := by
  induction added generalizing f entries with
  | nil =>
    have hsame : f.setEntries s (entries ∪ [].toFinset) = f := by
      refine ext_chain?_set? rfl ?_
      rw [set?_setEntries, List.toFinset_nil, Finset.union_empty, ← hs, Function.update_eq_self]
    rw [hsame]
    rfl
  | cons entry added ih =>
    have hstep : f.apply guarded (.addToSet s entry) =
        some (f.setEntries s (insert entry entries)) :=
      apply_addToSet_iff.mpr ⟨entries, hs, rfl⟩
    have hsame : (f.setEntries s (insert entry entries)).setEntries s
        (insert entry entries ∪ added.toFinset) =
        f.setEntries s (entries ∪ (entry :: added).toFinset) :=
      ext_chain?_set? rfl (by simp [Finset.insert_union, Finset.union_insert])
    rw [List.map_cons, applyAll_cons, hstep, Option.bind_some,
      ih (set?_setEntries_self ..), hsame]

/-- A set is made and filled. -/
lemma applyAll_makeSet {added : List String} (hs : f.set? s = none) :
    f.applyAll guarded (.createSet s type :: added.map (Operation.addToSet s)) =
      some (f.setEntries s added.toFinset) := by
  have hsame : (f.setEntries s ∅).setEntries s (∅ ∪ added.toFinset) =
      f.setEntries s added.toFinset :=
    ext_chain?_set? rfl (by simp)
  rw [applyAll_cons, apply_createSet hs, Option.bind_some,
    applyAll_addsToSet (set?_setEntries_self ..), hsame]

/-- A set that was made is destroyed, and nothing is left of it. -/
lemma apply_destroySet_setEntries (hs : f.set? s = none) (hmatches : ¬ f.Matches s) :
    (f.setEntries s entries).apply guarded (.destroySet s) = some f := by
  have hsame : (f.setEntries s entries).dropSet s = f := by
    refine ext_chain?_set? rfl ?_
    rw [set?_dropSet, set?_setEntries, Function.update_idem, ← hs, Function.update_eq_self]
  -- Filling a set adds no rule that looks into it.
  have hmatches' : ¬ (f.setEntries s entries).Matches s := hmatches
  rw [apply_destroySet_iff.mpr ⟨by simp, hmatches', rfl⟩, hsame]

end Sets

end FirewallPolicy.Firewall
