import FirewallPolicy.Proofs.Firewall.State
import FirewallPolicy.Proofs.Policy.ChainNames
import Mathlib.Algebra.BigOperators.Group.Finset.Basic
import Mathlib.Data.Multiset.AddSub

/-!
# Sharing a host

Several parties change one firewall in turn.  Each has chains of its own; some chains are shared,
and there a party only inserts at the head and deletes.

`Shared` relates the state of the host to what each party would have made of an empty host alone: a
shared chain holds the rules of all parties in front of what stood there before, counted with
multiplicity, because a deletion takes the first equal rule whoever put it there.

* `Shared.change_own`, `Shared.change_shared`: the relation is kept where a party changes a chain.
* `Shared.apply`: one operation of one party keeps the relation, and does not fail on the host if it
  does not fail alone.
* `Shared.applyAll`: so do the operations of all parties in any order.
-/

namespace FirewallPolicy

open FirewallPolicy.ChainName

/-! ## The chains of a host -/

/-- The chains that services share. -/
def sharedChains : List String := [ingress services, egress services, "FORWARD", "PREROUTING"]

/-- A host on which the shared chains are empty, and which has nothing else. -/
def bareHost : Firewall :=
  sharedChains.foldr (fun c f => f.setChain c []) ⟨∅, ∅⟩

lemma bareHost_chain? (c : String) :
    bareHost.chain? c = if c ∈ sharedChains then some [] else none := by
  by_cases h₁ : c = ingress services
  · simp [bareHost, sharedChains, h₁]
  by_cases h₂ : c = egress services
  · simp [bareHost, sharedChains, h₂]
  by_cases h₃ : c = "FORWARD"
  · simp [bareHost, sharedChains, h₃, Function.update_apply]
  by_cases h₄ : c = "PREROUTING"
  · simp [bareHost, sharedChains, h₄, Function.update_apply]
  · have hempty : (⟨∅, ∅⟩ : Firewall).chain? c = none := Finmap.lookup_empty c
    simp [bareHost, sharedChains, h₁, h₂, h₃, h₄, hempty]

/-! ## What a party does -/

/-- A party makes, fills and removes its own chains only; in a shared chain it inserts at the head
and deletes. -/
def Confined (own : List String) : Operation → Prop
  | .newChain c => c ∈ own
  | .flushChain c => c ∈ own
  | .deleteChain c => c ∈ own
  | .append c rule => c ∈ own ∧ Tidy own rule
  | .insert c position rule => c ∈ sharedChains ∧ position = 1 ∧ Tidy own rule
  | .delete c _ => c ∈ sharedChains
  | _ => False

/-- What an operation makes of the rules that the parties have put at the head of a chain. -/
def Operation.onHead (d : String) (op : Operation) (heads : List String) : List String :=
  match op with
  | .insert c _ rule => if c = d then rule :: heads else heads
  | .delete c rule => if c = d then heads.erase rule else heads
  | _ => heads

/-! ## The relation -/

section Relation

variable {ι : Type}

/-- The rules that a party alone has in a chain. -/
def part (solo : ι → Firewall) (c : String) (i : ι) : Multiset String :=
  (((solo i).chain? c).getD [] : List String)

/-- The state `f` of a host that was in the state `base`, on which each party has made what it makes
of an empty host in `solo`. -/
structure Shared [Fintype ι] (own : ι → List String) (base : Firewall) (solo : ι → Firewall)
    (heads : String → List String) (f : Firewall) : Prop where
  shared : ∀ c ∈ sharedChains, f.chain? c = (base.chain? c).map (heads c ++ ·)
  counted : ∀ c ∈ sharedChains, (heads c : Multiset String) = ∑ i, part solo c i
  owned : ∀ i, ∀ c ∈ own i, f.chain? c = (solo i).chain? c
  others : ∀ c ∉ sharedChains, (∀ i, c ∉ own i) → f.chain? c = base.chain? c
  sets : f.set? = base.set?
  tidy : ∀ i c rules, (solo i).chain? c = some rules → ∀ rule ∈ rules, Tidy (own i) rule

/-- What is asked of the state of a host, and of the names of the parties' chains. -/
structure Suitable (own : ι → List String) (base : Firewall) : Prop where
  present : ∀ c ∈ sharedChains, (base.chain? c).isSome
  absent : ∀ i, ∀ c ∈ own i, base.chain? c = none
  unreferred : ∀ i, ∀ c ∈ own i, ¬ base.Refers c
  managed : ∀ i, ∀ c ∈ own i, isManagedName c
  disjoint : ∀ i j, ∀ c ∈ own i, c ∈ own j → i = j

variable {own : ι → List String} {base f : Firewall} {solo : ι → Firewall}
  {heads : String → List String}

/-- No chain of a party is a shared one. -/
lemma Suitable.not_shared (hs : Suitable own base) {i : ι} {c : String} (hc : c ∈ own i) :
    c ∉ sharedChains := fun hmem =>
  Firewall.ne_of_chain?_eq_none (hs.absent i c hc) (hs.present c hmem) rfl

variable [Fintype ι]

/-- At the beginning nobody has made anything. -/
lemma Shared.start (hs : Suitable own base) :
    Shared own base (fun _ => bareHost) (fun _ => []) base where
  shared c _ := by cases base.chain? c <;> rfl
  counted c hc := by simp [part, bareHost_chain?, hc]
  owned i c hc := by
    rw [hs.absent i c hc, bareHost_chain?, if_neg (hs.not_shared hc)]
  others _ _ _ := rfl
  sets := rfl
  tidy i c rules h rule hrule := by
    rw [bareHost_chain?] at h
    split at h
    · cases h
      simp at hrule
    · cases h

/-- A shared chain holds the rules of the parties in front of those that the host had there. -/
lemma Shared.exists_rules (h : Shared own base solo heads f) (hs : Suitable own base) {c : String}
    (hc : c ∈ sharedChains) :
    ∃ rules, base.chain? c = some rules ∧ f.chain? c = some (heads c ++ rules) := by
  obtain ⟨rules, hbase⟩ := Option.isSome_iff_exists.mp (hs.present c hc)
  exact ⟨rules, hbase, by rw [h.shared c hc, hbase, Option.map_some]⟩

/-- A rule of the host was there before, or is a rule of a party. -/
lemma Shared.mem_rules (h : Shared own base solo heads f) {c : String} {rules : List String}
    (hc : f.chain? c = some rules) {rule : String} (hrule : rule ∈ rules) :
    (∃ rules', base.chain? c = some rules' ∧ rule ∈ rules') ∨
      ∃ i rules', (solo i).chain? c = some rules' ∧ rule ∈ rules' := by
  by_cases hshared : c ∈ sharedChains
  · rw [h.shared c hshared, Option.map_eq_some_iff] at hc
    obtain ⟨rules', hbase, rfl⟩ := hc
    rcases List.mem_append.mp hrule with hhead | htail
    · have hsum : rule ∈ ∑ i, part solo c i := by
        rw [← h.counted c hshared]
        exact hhead
      obtain ⟨i, -, hi⟩ := Multiset.mem_sum.mp hsum
      cases hsolo : (solo i).chain? c with
      | none => simp [part, hsolo] at hi
      | some rules'' => exact .inr ⟨i, rules'', hsolo, by simpa [part, hsolo] using hi⟩
    · exact .inl ⟨rules', hbase, htail⟩
  · by_cases hown : ∃ i, c ∈ own i
    · obtain ⟨i, hi⟩ := hown
      rw [h.owned i c hi] at hc
      exact .inr ⟨i, rules, hc, hrule⟩
    · rw [h.others c hshared fun i hi => hown ⟨i, hi⟩] at hc
      exact .inl ⟨rules, hc, hrule⟩

/-- A chain of a party that the party alone does not refer to is not referred to on the host. -/
lemma Shared.not_refers (h : Shared own base solo heads f) (hs : Suitable own base) {i : ι}
    {c : String} (hc : c ∈ own i) (hsolo : ¬ (solo i).Refers c) : ¬ f.Refers c := by
  rintro ⟨d, rules, hd, rule, hrule, htarget⟩
  rcases h.mem_rules hd hrule with ⟨rules', hbase, hmem⟩ | ⟨j, rules', hj, hmem⟩
  · exact hs.unreferred i c hc ⟨d, rules', hbase, rule, hmem, htarget⟩
  · have hown : c ∈ own j := (h.tidy j d rules' hj rule hmem).1 c htarget (hs.managed i c hc)
    obtain rfl : i = j := hs.disjoint i j c hc hown
    exact hsolo ⟨d, rules', hj, rule, hmem, htarget⟩

/-- A tidy rule that the party alone may add may be added on the host. -/
lemma Shared.admits (h : Shared own base solo heads f) {i : ι} {rule : String}
    (htidy : Tidy (own i) rule) (hsolo : (solo i).Admits isManagedName rule) :
    f.Admits isManagedName rule := by
  refine ⟨fun c hc hmanaged => ?_, fun s hs => ?_⟩
  · rw [h.owned i c (htidy.1 c hc hmanaged)]
    exact hsolo.1 c hc hmanaged
  · rw [htidy.2] at hs
    cases hs

/-! ## One operation -/

variable [DecidableEq ι]

/-- The rules of all parties are those of one and those of the others. -/
lemma sum_part_update (solo : ι → Firewall) (i : ι) (g : Firewall) (c : String) :
    ∑ j, part (Function.update solo i g) c j =
      ((g.chain? c).getD [] : List String) + ∑ j ∈ Finset.univ.erase i, part solo c j := by
  rw [← Finset.add_sum_erase Finset.univ _ (Finset.mem_univ i), part, Function.update_self]
  congr 1
  refine Finset.sum_congr rfl fun j hj => ?_
  rw [part, part, Function.update_of_ne (Finset.ne_of_mem_erase hj)]

/-- The rules of the parties stay tidy when one of them gets tidy rules in a chain. -/
lemma Shared.tidy_update (h : Shared own base solo heads f) {i : ι} {c : String}
    {rules : Option (List String)} {g : Firewall}
    (hg : g.chain? = Function.update (solo i).chain? c rules)
    (htidy : ∀ rs, rules = some rs → ∀ rule ∈ rs, Tidy (own i) rule) (j : ι) (d : String)
    (rs : List String) (hd : (Function.update solo i g j).chain? d = some rs) :
    ∀ rule ∈ rs, Tidy (own j) rule := by
  by_cases hj : j = i
  · subst hj
    rw [Function.update_self, hg] at hd
    by_cases hdc : d = c
    · subst hdc
      rw [Function.update_self] at hd
      exact htidy rs hd
    · rw [Function.update_of_ne hdc] at hd
      exact h.tidy j d rs hd
  · rw [Function.update_of_ne hj] at hd
    exact h.tidy j d rs hd

/-- A party changes a chain of its own. -/
lemma Shared.change_own (h : Shared own base solo heads f) (hs : Suitable own base) {i : ι}
    {c : String} (hc : c ∈ own i) {rules : Option (List String)} {f' g : Firewall}
    (hf : f'.chain? = Function.update f.chain? c rules) (hfset : f'.set? = f.set?)
    (hg : g.chain? = Function.update (solo i).chain? c rules)
    (htidy : ∀ rs, rules = some rs → ∀ rule ∈ rs, Tidy (own i) rule) :
    Shared own base (Function.update solo i g) heads f' := by
  have hne : ∀ d ∈ sharedChains, d ≠ c := by
    rintro d hd rfl
    exact hs.not_shared hc hd
  constructor
  case shared =>
    intro d hd
    rw [hf, Function.update_of_ne (hne d hd)]
    exact h.shared d hd
  case counted =>
    intro d hd
    have hself : Function.update solo i (solo i) = solo := Function.update_eq_self i solo
    have hsame := sum_part_update solo i (solo i) d
    rw [hself] at hsame
    rw [sum_part_update, hg, Function.update_of_ne (hne d hd), ← hsame]
    exact h.counted d hd
  case owned =>
    intro j d hd
    by_cases hdc : d = c
    · subst hdc
      obtain rfl : i = j := hs.disjoint i j d hc hd
      rw [hf, Function.update_self, Function.update_self, hg, Function.update_self]
    · rw [hf, Function.update_of_ne hdc, h.owned j d hd]
      by_cases hj : j = i
      · subst hj
        rw [Function.update_self, hg, Function.update_of_ne hdc]
      · rw [Function.update_of_ne hj]
  case others =>
    intro d hd hown
    have hdc : d ≠ c := by
      rintro rfl
      exact hown i hc
    rw [hf, Function.update_of_ne hdc]
    exact h.others d hd hown
  case sets => rw [hfset, h.sets]
  case tidy => exact h.tidy_update hg htidy

/-- A party changes its part of a shared chain. -/
lemma Shared.change_shared (h : Shared own base solo heads f) (hs : Suitable own base) {i : ι}
    {c : String} (hc : c ∈ sharedChains) {before after head : List String} {f' g : Firewall}
    (hbefore : (solo i).chain? c = some before)
    (hf : f'.chain? = Function.update f.chain? c ((base.chain? c).map (head ++ ·)))
    (hfset : f'.set? = f.set?) (hg : g.chain? = Function.update (solo i).chain? c (some after))
    (hcount : ∀ rest : Multiset String, (heads c : Multiset String) = before + rest →
      (head : Multiset String) = after + rest)
    (htidy : ∀ rule ∈ after, Tidy (own i) rule) :
    Shared own base (Function.update solo i g) (Function.update heads c head) f' := by
  have hne : ∀ j, ∀ d ∈ own j, d ≠ c := by
    rintro j d hd rfl
    exact hs.not_shared hd hc
  have hself : Function.update solo i (solo i) = solo := Function.update_eq_self i solo
  constructor
  case shared =>
    intro d hd
    by_cases hdc : d = c
    · subst hdc
      rw [hf, Function.update_self, Function.update_self]
    · rw [hf, Function.update_of_ne hdc, Function.update_of_ne hdc]
      exact h.shared d hd
  case counted =>
    intro d hd
    have hsame := sum_part_update solo i (solo i) d
    rw [hself] at hsame
    rw [sum_part_update, hg]
    by_cases hdc : d = c
    · subst hdc
      rw [Function.update_self, Function.update_self, Option.getD_some]
      apply hcount
      rw [h.counted d hd, hsame, hbefore, Option.getD_some]
    · rw [Function.update_of_ne hdc, Function.update_of_ne hdc, ← hsame]
      exact h.counted d hd
  case owned =>
    intro j d hd
    rw [hf, Function.update_of_ne (hne j d hd), h.owned j d hd]
    by_cases hj : j = i
    · subst hj
      rw [Function.update_self, hg, Function.update_of_ne (hne j d hd)]
    · rw [Function.update_of_ne hj]
  case others =>
    intro d hd hown
    have hdc : d ≠ c := by
      rintro rfl
      exact hd hc
    rw [hf, Function.update_of_ne hdc]
    exact h.others d hd hown
  case sets => rw [hfset, h.sets]
  case tidy =>
    refine h.tidy_update hg ?_
    rintro rs ⟨⟩
    exact htidy

/-- What an operation makes of the rules at the head of its own chain; all others stay. -/
lemma onHead_eq_update {op : Operation} (c : String) (head : List String)
    (hself : op.onHead c (heads c) = head) (hother : ∀ d ≠ c, op.onHead d (heads d) = heads d) :
    (fun d => op.onHead d (heads d)) = Function.update heads c head := by
  funext d
  by_cases hd : d = c
  · subst hd
    rw [Function.update_self, hself]
  · rw [Function.update_of_ne hd, hother d hd]

/-- A party inserts a rule at the head of a shared chain. -/
lemma Shared.apply_insert (h : Shared own base solo heads f) (hs : Suitable own base) {i : ι}
    {c rule : String} {g : Firewall} (hc : c ∈ sharedChains) (htidy : Tidy (own i) rule)
    (hsolo : (solo i).apply isManagedName (.insert c 1 rule) = some g) :
    ∃ f', f.apply isManagedName (.insert c 1 rule) = some f' ∧
      Shared own base (Function.update solo i g) (Function.update heads c (rule :: heads c)) f' := by
  obtain ⟨hadm, before, after, hbefore, hinsert, rfl⟩ := Firewall.apply_insert_iff.mp hsolo
  obtain ⟨rules, hbase, hf⟩ := h.exists_rules hs hc
  rw [Firewall.insertAt?_one] at hinsert
  cases hinsert
  refine ⟨f.setChain c (rule :: (heads c ++ rules)), ?_, ?_⟩
  · exact Firewall.apply_insert_iff.mpr
      ⟨h.admits htidy hadm, _, _, hf, Firewall.insertAt?_one _ _, rfl⟩
  · refine h.change_shared hs hc hbefore ?_ rfl (Firewall.chain?_setChain (solo i) c _) ?_ ?_
    · rw [Firewall.chain?_setChain, hbase]
      rfl
    · intro rest hrest
      rw [← Multiset.cons_coe, ← Multiset.cons_coe, hrest, Multiset.cons_add]
    · rw [List.forall_mem_cons]
      exact ⟨htidy, h.tidy i c before hbefore⟩

/-- A party deletes a rule from a shared chain. -/
lemma Shared.apply_delete (h : Shared own base solo heads f) (hs : Suitable own base) {i : ι}
    {c rule : String} {g : Firewall} (hc : c ∈ sharedChains)
    (hsolo : (solo i).apply isManagedName (.delete c rule) = some g) :
    ∃ f', f.apply isManagedName (.delete c rule) = some f' ∧
      Shared own base (Function.update solo i g)
        (Function.update heads c ((heads c).erase rule)) f' := by
  obtain ⟨before, hbefore, hmem, rfl⟩ := Firewall.apply_delete_iff.mp hsolo
  obtain ⟨rules, hbase, hf⟩ := h.exists_rules hs hc
  -- The party has put the rule there, so it stands in front of the rules of the host.
  have hhead : rule ∈ heads c := by
    have hpart : rule ∈ ∑ j, part solo c j :=
      Multiset.mem_sum.mpr ⟨i, Finset.mem_univ i, by simpa [part, hbefore] using hmem⟩
    rw [← h.counted c hc] at hpart
    exact hpart
  refine ⟨f.setChain c ((heads c).erase rule ++ rules), ?_, ?_⟩
  · refine Firewall.apply_delete_iff.mpr ⟨_, hf, List.mem_append_left _ hhead, ?_⟩
    rw [List.erase_append_left _ hhead]
  · refine h.change_shared hs hc hbefore ?_ rfl (Firewall.chain?_setChain (solo i) c _) ?_ ?_
    · rw [Firewall.chain?_setChain, hbase]
      rfl
    · intro rest hrest
      rw [← Multiset.coe_erase, hrest, Multiset.erase_add_left_pos _ hmem, Multiset.coe_erase]
    · intro r hr
      exact h.tidy i c before hbefore r (List.mem_of_mem_erase hr)

/-- What a party can do alone it can do on the host, and the relation is kept. -/
theorem Shared.apply (h : Shared own base solo heads f) (hs : Suitable own base) {i : ι}
    {op : Operation} {g : Firewall} (hconf : Confined (own i) op)
    (hsolo : (solo i).apply isManagedName op = some g) :
    ∃ f', f.apply isManagedName op = some f' ∧
      Shared own base (Function.update solo i g) (fun c => op.onHead c (heads c)) f' := by
  cases op with
  | newChain c =>
    obtain ⟨hnone, rfl⟩ := Firewall.apply_newChain_iff.mp hsolo
    refine ⟨f.setChain c [], ?_, ?_⟩
    · exact Firewall.apply_newChain_iff.mpr ⟨(h.owned i c hconf).trans hnone, rfl⟩
    · exact h.change_own hs hconf (f.chain?_setChain c []) rfl
        (Firewall.chain?_setChain (solo i) c []) (by simp)
  | flushChain c =>
    obtain ⟨hsome, rfl⟩ := Firewall.apply_flushChain_iff.mp hsolo
    refine ⟨f.setChain c [], ?_, ?_⟩
    · exact Firewall.apply_flushChain_iff.mpr ⟨by rwa [h.owned i c hconf], rfl⟩
    · exact h.change_own hs hconf (f.chain?_setChain c []) rfl
        (Firewall.chain?_setChain (solo i) c []) (by simp)
  | deleteChain c =>
    obtain ⟨hempty, hrefers, rfl⟩ := Firewall.apply_deleteChain_iff.mp hsolo
    refine ⟨f.dropChain c, ?_, ?_⟩
    · exact Firewall.apply_deleteChain_iff.mpr
        ⟨(h.owned i c hconf).trans hempty, h.not_refers hs hconf hrefers, rfl⟩
    · exact h.change_own hs hconf (f.chain?_dropChain c) rfl
        (Firewall.chain?_dropChain (solo i) c) (by simp)
  | append c rule =>
    obtain ⟨hc, htidy⟩ := hconf
    obtain ⟨hadm, rules, hrules, rfl⟩ := Firewall.apply_append_iff.mp hsolo
    refine ⟨f.setChain c (rules ++ [rule]), ?_, ?_⟩
    · exact Firewall.apply_append_iff.mpr
        ⟨h.admits htidy hadm, rules, (h.owned i c hc).trans hrules, rfl⟩
    · refine h.change_own hs hc (f.chain?_setChain c _) rfl
        (Firewall.chain?_setChain (solo i) c _) ?_
      rintro rs ⟨⟩ r hr
      rcases List.mem_append.mp hr with hr | hr
      · exact h.tidy i c rules hrules r hr
      · rwa [List.mem_singleton.mp hr]
  | insert c position rule =>
    obtain ⟨hc, rfl, htidy⟩ := hconf
    rw [onHead_eq_update c (rule :: heads c) (by simp [Operation.onHead])
      (fun d hd => by simp [Operation.onHead, Ne.symm hd])]
    exact h.apply_insert hs hc htidy hsolo
  | delete c rule =>
    rw [onHead_eq_update c ((heads c).erase rule) (by simp [Operation.onHead])
      (fun d hd => by simp [Operation.onHead, Ne.symm hd])]
    exact h.apply_delete hs hconf hsolo
  -- A party leaves sets alone.
  | createSet s type => exact absurd hconf id
  | destroySet s => exact absurd hconf id
  | addToSet s entry => exact absurd hconf id
  | flushSet s => exact absurd hconf id

/-! ## Operations of all parties -/

/-- The operations of one party among those of all. -/
def operationsOf (i : ι) (trace : List (ι × Operation)) : List Operation :=
  (trace.filter fun e => e.1 = i).map (·.2)

/-- What is at the head of a chain after the operations of all parties. -/
def headsAfter (c : String) (trace : List (ι × Operation)) (heads : List String) : List String :=
  trace.foldl (fun heads e => e.2.onHead c heads) heads

/-- What every party can do alone all of them can do on the host, in whatever order their operations
come, and the relation is kept. -/
theorem Shared.applyAll (hs : Suitable own base) {trace : List (ι × Operation)}
    (hconf : ∀ e ∈ trace, Confined (own e.1) e.2) (h : Shared own base solo heads f)
    {solo' : ι → Firewall}
    (hsolo : ∀ i, (solo i).applyAll isManagedName (operationsOf i trace) = some (solo' i)) :
    ∃ f', f.applyAll isManagedName (trace.map (·.2)) = some f' ∧
      Shared own base solo' (fun c => headsAfter c trace (heads c)) f' := by
  induction trace generalizing solo heads f with
  | nil =>
    have hsame : solo = solo' := funext fun i => Option.some.inj (hsolo i)
    exact ⟨f, rfl, hsame ▸ h⟩
  | cons e trace ih =>
    obtain ⟨i, op⟩ := e
    have hi := hsolo i
    rw [operationsOf, List.filter_cons_of_pos (by simp), List.map_cons] at hi
    obtain ⟨g, hg, hrest⟩ := Firewall.applyAll_cons_eq_some_iff.mp hi
    obtain ⟨f₁, hf₁, hshared⟩ := h.apply hs (hconf _ List.mem_cons_self) hg
    have hsolo₁ : ∀ j, (Function.update solo i g j).applyAll isManagedName
        (operationsOf j trace) = some (solo' j) := by
      intro j
      by_cases hj : j = i
      · subst hj
        rw [Function.update_self]
        exact hrest
      · have hother := hsolo j
        rw [operationsOf, List.filter_cons_of_neg (by simpa using Ne.symm hj)] at hother
        rw [Function.update_of_ne hj]
        exact hother
    obtain ⟨f', hf', hshared'⟩ :=
      ih (fun e he => hconf e (List.mem_cons_of_mem _ he)) hshared hsolo₁
    exact ⟨f', Firewall.applyAll_cons_eq_some_iff.mpr ⟨f₁, hf₁, hf'⟩, hshared'⟩

end Relation

end FirewallPolicy
