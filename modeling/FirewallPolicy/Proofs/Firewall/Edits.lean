import FirewallPolicy.Proofs.Firewall.State

/-!
# Operations that change rules only

Appending, inserting, deleting and emptying change the rules of one chain and leave all names in
place.  A list of such operations can therefore be followed chain by chain:

* `Operation.editRules` is what one operation makes of the rules of one chain, `editAll` what a list
  of them does;
* `Firewall.applyAll_edits` puts the chains together again;
* the `editAll_…` lemmas compute `editAll` for the lists that transcripts are made of.
-/

namespace FirewallPolicy

namespace Operation

/-- The chain whose rules an operation changes, if that is all that it does. -/
def editedChain? : Operation → Option String
  | .append c _ => some c
  | .insert c _ _ => some c
  | .delete c _ => some c
  | .flushChain c => some c
  | _ => none

/-- The rule that an operation adds. -/
def addedRule? : Operation → Option String
  | .append _ rule => some rule
  | .insert _ _ rule => some rule
  | _ => none

/-- What an operation makes of the rules of its own chain. -/
def change : Operation → List String → Option (List String)
  | .append _ rule, rules => some (rules ++ [rule])
  | .insert _ position rule, rules => Firewall.insertAt? position rule rules
  | .delete _ rule, rules => Firewall.deleteFirst? rule rules
  | .flushChain _, _ => some []
  | _, rules => some rules

/-- What an operation makes of the rules of a chain. -/
def editRules (d : String) (op : Operation) (rules : List String) : Option (List String) :=
  if op.editedChain? = some d then op.change rules else some rules

/-- What operations make of the rules of a chain, one after the other. -/
def editAll (d : String) (ops : List Operation) (rules : List String) : Option (List String) :=
  ops.foldlM (fun rules op => op.editRules d rules) rules

/-- An operation changes the rules of a chain that is there, and adds none that is not admitted. -/
def Ready (guarded : String → Bool) (f : Firewall) (op : Operation) : Prop :=
  (∃ c, op.editedChain? = some c ∧ (f.chain? c).isSome) ∧
    ∀ rule ∈ op.addedRule?, f.Admits guarded rule

end Operation

namespace Firewall

open Operation (editedChain? addedRule? change editRules editAll Ready)

variable {guarded : String → Bool} {f g : Firewall}

/-! ## Following the chains one by one -/

/-- A rule stays admitted where no chain and no set is lost. -/
lemma Admits.mono {rule : String} (h : f.Admits guarded rule)
    (hc : ∀ c, (f.chain? c).isSome → (g.chain? c).isSome)
    (hs : ∀ s, (f.set? s).isSome → (g.set? s).isSome) : g.Admits guarded rule :=
  ⟨fun c hmem hg => hc c (h.1 c hmem hg), fun s hmem => hs s (h.2 s hmem)⟩

/-- An operation that is ready does to its chain what it does to the rules of the chain. -/
lemma apply_of_ready {op : Operation} {c : String} {rules rules' : List String}
    (hready : Ready guarded f op) (hop : op.editedChain? = some c)
    (hc : f.chain? c = some rules) (hchange : op.change rules = some rules') :
    f.apply guarded op = some (f.setChain c rules') := by
  have hadm := hready.2
  cases op with
  | append d rule =>
    cases hop
    cases hchange
    exact apply_append_iff.mpr ⟨hadm rule rfl, rules, hc, rfl⟩
  | insert d position rule =>
    cases hop
    exact apply_insert_iff.mpr ⟨hadm rule rfl, rules, rules', hc, hchange, rfl⟩
  | delete d rule =>
    cases hop
    exact edit_eq_some_iff.mpr ⟨rules, rules', hc, hchange, rfl⟩
  | flushChain d =>
    cases hop
    cases hchange
    exact apply_flushChain_iff.mpr ⟨by simp [hc], rfl⟩
  | _ => cases hop

/-- An operation that is ready stays so when the rules of a chain change. -/
lemma Ready.setChain {op : Operation} {c : String} {rules rules' : List String}
    (hready : Ready guarded f op) (hc : f.chain? c = some rules) :
    Ready guarded (f.setChain c rules') op := by
  -- The chain stays under its name, whatever rules it gets.
  have hkeep : ∀ d, (f.chain? d).isSome → ((f.setChain c rules').chain? d).isSome := by
    intro d hd
    by_cases h : d = c
    · subst h
      simp
    · simpa [Function.update_of_ne h] using hd
  obtain ⟨⟨d, hd, hsome⟩, hadm⟩ := hready
  exact ⟨⟨d, hd, hkeep d hsome⟩, fun rule hrule => (hadm rule hrule).mono hkeep fun _ hs => hs⟩

/-- Where the first operation has changed its chain, the others still have to be followed on every
chain. -/
lemma bind_editAll_cons {op : Operation} {c : String} {rules rules' : List String}
    (hedited : op.editedChain? = some c) (hc : f.chain? c = some rules)
    (hchange : op.change rules = some rules') (ops : List Operation) (d : String) :
    (f.chain? d).bind (editAll d (op :: ops)) =
      ((f.setChain c rules').chain? d).bind (editAll d ops) := by
  by_cases h : d = c
  · subst h
    simp [hc, editAll, List.foldlM_cons, editRules, hedited, hchange]
  · have hne : op.editedChain? ≠ some d := by
      rw [hedited]
      simpa using Ne.symm h
    cases hd : f.chain? d <;>
      simp [hd, h, editAll, List.foldlM_cons, editRules, hne]

/-- Operations that change rules only succeed if they do on every chain, and then every chain has
the rules that it gets by itself. -/
theorem applyAll_edits {ops : List Operation} (hready : ∀ op ∈ ops, Ready guarded f op)
    (hrules : ∀ d rules, f.chain? d = some rules → ∃ rules', editAll d ops rules = some rules') :
    ∃ g, f.applyAll guarded ops = some g ∧
      (∀ d, g.chain? d = (f.chain? d).bind (editAll d ops)) ∧ g.set? = f.set? := by
  induction ops generalizing f with
  | nil =>
    refine ⟨f, rfl, fun d => ?_, rfl⟩
    cases f.chain? d <;> rfl
  | cons op ops ih =>
    have hop := hready op List.mem_cons_self
    obtain ⟨c, hedited, hsome⟩ := hop.1
    obtain ⟨rules, hc⟩ := Option.isSome_iff_exists.mp hsome
    -- The operation succeeds on its chain, since what comes after it does.
    have hstep : ∃ rules', op.change rules = some rules' := by
      obtain ⟨last, hlast⟩ := hrules c rules hc
      rw [editAll, List.foldlM_cons, editRules, if_pos hedited] at hlast
      obtain ⟨rules', hrules', -⟩ := Option.bind_eq_some_iff.mp hlast
      exact ⟨rules', hrules'⟩
    obtain ⟨rules', hchange⟩ := hstep
    have hfollow := bind_editAll_cons hedited hc hchange ops
    have hready' : ∀ op' ∈ ops, Ready guarded (f.setChain c rules') op' := fun op' hmem =>
      Ready.setChain (hready op' (List.mem_cons_of_mem _ hmem)) hc
    -- So the rest of the operations succeeds on every chain of the new state.
    have hrules' : ∀ d start, (f.setChain c rules').chain? d = some start →
        ∃ last, editAll d ops start = some last := by
      intro d start hd
      have hbind := hfollow d
      rw [hd, Option.bind_some] at hbind
      rw [← hbind]
      cases hfd : f.chain? d with
      | none =>
        by_cases h : d = c
        · rw [h, hc] at hfd
          cases hfd
        · simp [h, hfd] at hd
      | some begin =>
        obtain ⟨last, hlast⟩ := hrules d begin hfd
        exact ⟨last, hlast⟩
    obtain ⟨g, hg, hchains, hsets⟩ := ih hready' hrules'
    refine ⟨g, applyAll_cons_eq_some_iff.mpr ⟨_, apply_of_ready hop hedited hc hchange, hg⟩,
      fun d => ?_, hsets⟩
    rw [hchains d, hfollow d]

end Firewall

/-! ## Computing the rules of a chain -/

namespace Operation

variable {d : String} {rules : List String}

lemma editAll_append (first second : List Operation) :
    editAll d (first ++ second) rules = (editAll d first rules).bind (editAll d second) := by
  rw [editAll, List.foldlM_append]
  rfl

/-- Operations on other chains change nothing. -/
lemma editAll_of_forall_ne {ops : List Operation} (h : ∀ op ∈ ops, op.editedChain? ≠ some d) :
    editAll d ops rules = some rules := by
  induction ops with
  | nil => rfl
  | cons op ops ih =>
    rw [editAll, List.foldlM_cons, editRules, if_neg (h op List.mem_cons_self)]
    exact ih fun op' hmem => h op' (List.mem_cons_of_mem _ hmem)

/-- The rule that an operation puts at the head of a chain. -/
def headTo (d : String) : Operation → Option String
  | .insert c position rule => if c = d ∧ position = 1 then some rule else none
  | _ => none

/-- The rule that an operation puts at the end of a chain. -/
def tailTo (d : String) : Operation → Option String
  | .append c rule => if c = d then some rule else none
  | _ => none

/-- The rule that an operation takes out of a chain. -/
def takenFrom (d : String) : Operation → Option String
  | .delete c rule => if c = d then some rule else none
  | _ => none

lemma headTo_appendRule (d c : String) (r : Rule) :
    headTo d (appendRule c r) = none := rfl

lemma headTo_insertRule (d c : String) (r : Rule) :
    headTo d (insertRule c 1 r) = if c = d then some r.text else none := by
  simp [insertRule, headTo]

lemma tailTo_appendRule (d c : String) (r : Rule) :
    tailTo d (appendRule c r) = if c = d then some r.text else none := rfl

lemma tailTo_insertRule (d c : String) (n : Nat) (r : Rule) :
    tailTo d (insertRule c n r) = none := rfl

/-- An operation adds a rule at one of the two ends of a chain. -/
def AddsAtEnd (op : Operation) : Prop :=
  (∃ c rule, op = .append c rule) ∨ ∃ c rule, op = .insert c 1 rule

/-- Rules that are added at the ends of a chain stand there: those at the head in the opposite
order, those at the end in the order in which they were added. -/
lemma editAll_adds {ops : List Operation} (h : ∀ op ∈ ops, op.AddsAtEnd) :
    editAll d ops rules =
      some ((ops.filterMap (headTo d)).reverse ++ rules ++ ops.filterMap (tailTo d)) := by
  induction ops generalizing rules with
  | nil => simp [editAll]
  | cons op ops ih =>
    have hrest := fun rules' => @ih rules' fun op' hmem => h op' (List.mem_cons_of_mem _ hmem)
    rw [editAll, List.foldlM_cons]
    -- At the end or at the head, and of this chain or of another.
    rcases h op List.mem_cons_self with ⟨c, rule, rfl⟩ | ⟨c, rule, rfl⟩
    · by_cases hc : c = d
      · rw [editRules, if_pos (by rw [editedChain?, hc]), change]
        show editAll d ops (rules ++ [rule]) = _
        rw [hrest]
        simp [List.filterMap_cons, headTo, tailTo, hc]
      · rw [editRules, if_neg (by simpa [editedChain?] using hc)]
        show editAll d ops rules = _
        rw [hrest]
        simp [List.filterMap_cons, headTo, tailTo, hc]
    · by_cases hc : c = d
      · rw [editRules, if_pos (by rw [editedChain?, hc]), change, Firewall.insertAt?_one]
        show editAll d ops (rule :: rules) = _
        rw [hrest]
        simp [List.filterMap_cons, headTo, tailTo, hc]
      · rw [editRules, if_neg (by simpa [editedChain?] using hc)]
        show editAll d ops rules = _
        rw [hrest]
        simp [List.filterMap_cons, headTo, tailTo, hc]

/-- Rules that stand in a chain, as often as they are deleted, can be deleted from it. -/
lemma editAll_deletes {ops : List Operation} (h : ∀ op ∈ ops, ∃ c rule, op = .delete c rule)
    (hmem : (ops.filterMap (takenFrom d)).Subperm rules) :
    editAll d ops rules = some (rules.diff (ops.filterMap (takenFrom d))) := by
  induction ops generalizing rules with
  | nil => simp [editAll]
  | cons op ops ih =>
    have hrest := fun rules' => @ih rules' fun op' hmem => h op' (List.mem_cons_of_mem _ hmem)
    obtain ⟨c, rule, rfl⟩ := h op List.mem_cons_self
    rw [editAll, List.foldlM_cons]
    by_cases hc : c = d
    · have htaken : takenFrom d (.delete c rule) = some rule := by simp [takenFrom, hc]
      rw [List.filterMap_cons_some htaken] at hmem ⊢
      -- The rule is there, and the others are there as often as before without it.
      have hrule : rule ∈ rules := hmem.subset List.mem_cons_self
      have herase := hmem.erase rule
      rw [List.erase_cons_head] at herase
      rw [editRules, if_pos (by rw [editedChain?, hc]), change, Firewall.deleteFirst?,
        if_pos hrule]
      show editAll d ops (rules.erase rule) = _
      rw [hrest _ herase, List.diff_cons]
    · have htaken : takenFrom d (.delete c rule) = none := by simp [takenFrom, hc]
      rw [List.filterMap_cons_none htaken] at hmem ⊢
      rw [editRules, if_neg (by simpa [editedChain?] using hc)]
      exact hrest _ hmem

/-- Rules that stand at the head of a chain can be deleted in any order, and then the rest is
left. -/
lemma diff_append_of_perm {first deleted : List String} (h : first.Perm deleted)
    (last : List String) : (first ++ last).diff deleted = last := by
  -- The order of the deletions does not matter, so it may be that of the rules.
  rw [← h.diff_left]
  induction first generalizing deleted with
  | nil => rw [List.nil_append, List.diff_nil]
  | cons rule first ih => rw [List.cons_append, List.diff_cons, List.erase_cons_head, ih (.refl _)]

/-- Rules that do not stand in the first part of a list are deleted from the rest of it. -/
lemma diff_append_of_forall_notMem {first deleted : List String}
    (h : ∀ rule ∈ deleted, rule ∉ first) (last : List String) :
    (first ++ last).diff deleted = first ++ last.diff deleted := by
  induction deleted generalizing last with
  | nil => rw [List.diff_nil, List.diff_nil]
  | cons rule deleted ih =>
    rw [List.diff_cons, List.diff_cons, List.erase_append_right _ (h rule List.mem_cons_self)]
    exact ih (fun rule' hrule' => h rule' (List.mem_cons_of_mem _ hrule')) _

/-- Inserting behind a first part of a list. -/
lemma insertIdx_length_append (first last : List String) (rule : String) :
    (first ++ last).insertIdx first.length rule = first ++ rule :: last := by
  induction first with
  | nil => rfl
  | cons r first ih => simp [List.insertIdx_succ_cons, ih]

/-- Rules that are inserted at a position and the ones behind it stand there in their order. -/
lemma editAll_insertFrom (added first last : List String) :
    editAll d ((added.zipIdx (first.length + 1)).map fun rule => .insert d rule.2 rule.1)
      (first ++ last) = some (first ++ added ++ last) := by
  -- By induction on the rules to come; those already inserted join the ones in front.
  induction added generalizing first with
  | nil => simp [editAll]
  | cons rule added ih =>
    have hinsert : Firewall.insertAt? ((first.length + 1 : Nat) : Int) rule (first ++ last) =
        some (first ++ [rule] ++ last) := by
      have hbounds : 1 ≤ ((first.length + 1 : Nat) : Int) ∧
          ((first.length + 1 : Nat) : Int) ≤ (first ++ last).length + 1 := by
        rw [List.length_append]
        omega
      -- Positions are counted from one, indices from zero.
      have hindex : ((first.length + 1 : Nat) : Int).toNat - 1 = first.length := by omega
      rw [Firewall.insertAt?, if_pos hbounds, hindex, insertIdx_length_append]
      simp
    have hnext := ih (first ++ [rule])
    rw [List.length_append, List.length_singleton] at hnext
    rw [List.zipIdx_cons, List.map_cons, editAll, List.foldlM_cons, editRules,
      if_pos (by rfl), change, hinsert]
    show editAll d _ (first ++ [rule] ++ last) = _
    rw [hnext]
    simp

end Operation

end FirewallPolicy
