import FirewallPolicy.Firewall.Operation
import FirewallPolicy.Proofs.Firewall.RuleText
import Mathlib.Data.Finmap
import Mathlib.Logic.Function.Basic

/-!
# The state of a firewall

What the commands of a transcript work on, and what each operation makes of it.

* `Firewall`: chains of rule texts and sets of networks, both under their names.
* `Firewall.apply`: one operation, which fails exactly where the tools refuse it.  Which chains have
  to be there before a rule may jump to them is a parameter, `guarded`.
* `Firewall.applyAll`: a list of operations, up to the first that fails.

Every operation has one lemma that says when it succeeds and what the state is then.  What all of
them have in common is in `Firewall.apply_cases`, and what each of a list of operations keeps the
whole list keeps, by `Firewall.applyAll_keeps`.
-/

namespace FirewallPolicy

/-- Chains of rule texts and sets of entries, each under its name. -/
structure Firewall where
  chains : Finmap fun _ : String => List String
  sets : Finmap fun _ : String => Finset String

/-- The chain that an operation is about, if it is about one. -/
def Operation.chain? : Operation → Option String
  | .newChain c => some c
  | .flushChain c => some c
  | .deleteChain c => some c
  | .append c _ => some c
  | .insert c _ _ => some c
  | .delete c _ => some c
  | _ => none

/-- The set that an operation is about, if it is about one. -/
def Operation.set? : Operation → Option String
  | .createSet s _ => some s
  | .destroySet s => some s
  | .addToSet s _ => some s
  | .flushSet s => some s
  | _ => none

namespace Firewall

/-! ## Reading a state -/

/-- The rules of a chain, if the chain is there. -/
def chain? (f : Firewall) (c : String) : Option (List String) := f.chains.lookup c

/-- The entries of a set, if the set is there. -/
def set? (f : Firewall) (s : String) : Option (Finset String) := f.sets.lookup s

/-- Two states are equal if all their chains and sets are. -/
theorem ext_chain?_set? {f g : Firewall} (hc : f.chain? = g.chain?) (hs : f.set? = g.set?) :
    f = g := by
  have hchains : f.chains = g.chains := Finmap.ext_lookup fun c => congrFun hc c
  have hsets : f.sets = g.sets := Finmap.ext_lookup fun s => congrFun hs s
  cases f
  cases g
  simp_all

/-- Some rule of some chain has a property. -/
def AnyRule (f : Firewall) (p : String → Prop) : Prop :=
  ∃ c rules, f.chain? c = some rules ∧ ∃ rule ∈ rules, p rule

instance (f : Firewall) (p : String → Prop) [DecidablePred p] : Decidable (f.AnyRule p) :=
  decidable_of_iff (∃ c ∈ f.chains.keys, ∃ rule ∈ (f.chain? c).getD [], p rule) <| by
    constructor
    · rintro ⟨c, -, rule, hrule, hp⟩
      cases hc : f.chain? c with
      | none => simp [hc] at hrule
      | some rules => exact ⟨c, rules, hc, rule, by simpa [hc] using hrule, hp⟩
    · rintro ⟨c, rules, hc, rule, hrule, hp⟩
      have hmem : c ∈ f.chains.keys := by
        rw [Finmap.mem_keys, Finmap.mem_iff]
        exact ⟨rules, hc⟩
      exact ⟨c, hmem, rule, by simpa [hc] using hrule, hp⟩

/-- Some rule jumps to a chain. -/
def Refers (f : Firewall) (c : String) : Prop := f.AnyRule fun rule => ruleTarget? rule = some c

/-- Some rule looks into a set. -/
def Matches (f : Firewall) (s : String) : Prop := f.AnyRule fun rule => matchedSet? rule = some s

instance (f : Firewall) (c : String) : Decidable (f.Refers c) :=
  inferInstanceAs (Decidable (f.AnyRule _))

instance (f : Firewall) (s : String) : Decidable (f.Matches s) :=
  inferInstanceAs (Decidable (f.AnyRule _))

/-- A rule may be added: the chain that it jumps to is there, if it is a guarded one, and so is the
set that it looks into. -/
def Admits (guarded : String → Bool) (f : Firewall) (rule : String) : Prop :=
  (∀ c ∈ ruleTarget? rule, guarded c → (f.chain? c).isSome) ∧
    ∀ s ∈ matchedSet? rule, (f.set? s).isSome

instance (guarded : String → Bool) (f : Firewall) (rule : String) :
    Decidable (f.Admits guarded rule) :=
  inferInstanceAs (Decidable (_ ∧ _))

/-! ## Changing a state -/

/-- The state with other rules in a chain. -/
def setChain (f : Firewall) (c : String) (rules : List String) : Firewall :=
  { f with chains := f.chains.insert c rules }

/-- The state without a chain. -/
def dropChain (f : Firewall) (c : String) : Firewall := { f with chains := f.chains.erase c }

/-- The state with other entries in a set. -/
def setEntries (f : Firewall) (s : String) (entries : Finset String) : Firewall :=
  { f with sets := f.sets.insert s entries }

/-- The state without a set. -/
def dropSet (f : Firewall) (s : String) : Firewall := { f with sets := f.sets.erase s }

/-- A chain that is there is not one that is not. -/
lemma ne_of_chain?_eq_none {f : Firewall} {c d : String} (hc : f.chain? c = none)
    (hd : (f.chain? d).isSome) : d ≠ c := by
  rintro rfl
  rw [hc] at hd
  cases hd

section Readings

variable (f : Firewall) (c s : String) (rules : List String) (entries : Finset String)

@[simp] lemma chain?_setChain :
    (f.setChain c rules).chain? = Function.update f.chain? c (some rules) := by
  funext d
  by_cases h : d = c
  · subst h
    simp [setChain, chain?]
  · simp [setChain, chain?, Function.update_of_ne h, Finmap.lookup_insert_of_ne _ h]

/-- The other chains stay as they are. -/
lemma chain?_setChain_of_ne {c d : String} (h : d ≠ c) :
    (f.setChain c rules).chain? d = f.chain? d := by
  rw [chain?_setChain, Function.update_of_ne h]

lemma chain?_setChain_self : (f.setChain c rules).chain? c = some rules := by simp

@[simp] lemma chain?_dropChain : (f.dropChain c).chain? = Function.update f.chain? c none := by
  funext d
  by_cases h : d = c
  · subst h
    simp [dropChain, chain?]
  · simp [dropChain, chain?, Function.update_of_ne h, Finmap.lookup_erase_ne h]

@[simp] lemma chain?_setEntries : (f.setEntries s entries).chain? = f.chain? := rfl

@[simp] lemma set?_setChain : (f.setChain c rules).set? = f.set? := rfl

@[simp] lemma set?_setEntries :
    (f.setEntries s entries).set? = Function.update f.set? s (some entries) := by
  funext t
  by_cases h : t = s
  · subst h
    simp [setEntries, set?]
  · simp [setEntries, set?, Function.update_of_ne h, Finmap.lookup_insert_of_ne _ h]

lemma set?_setEntries_self : (f.setEntries s entries).set? s = some entries := by simp

@[simp] lemma set?_dropSet : (f.dropSet s).set? = Function.update f.set? s none := by
  funext t
  by_cases h : t = s
  · subst h
    simp [dropSet, set?]
  · simp [dropSet, set?, Function.update_of_ne h, Finmap.lookup_erase_ne h]

end Readings

/-! ## Operations -/

/-- The rules with one more at a position, counted from one, which is at most the next free one. -/
def insertAt? (position : Int) (rule : String) (rules : List String) : Option (List String) :=
  if 1 ≤ position ∧ position ≤ rules.length + 1 then
    some (rules.insertIdx (position.toNat - 1) rule)
  else none

/-- There is always room for a rule at the head. -/
lemma insertAt?_one (rule : String) (rules : List String) :
    insertAt? 1 rule rules = some (rule :: rules) := by
  have hroom : (1 : Int) ≤ rules.length + 1 := by omega
  rw [insertAt?, if_pos ⟨le_rfl, hroom⟩]
  rfl

/-- Wherever a rule is inserted, the rules are that one and those there were. -/
lemma mem_insertAt?_iff {position : Int} {rule r : String} {rules rules' : List String}
    (h : insertAt? position rule rules = some rules') : r ∈ rules' ↔ r = rule ∨ r ∈ rules := by
  simp only [insertAt?, Option.ite_none_right_eq_some, Option.some.injEq] at h
  obtain ⟨hbounds, rfl⟩ := h
  exact List.mem_insertIdx (by omega)

/-- The rules without the first that is equal to a rule, if there is one. -/
def deleteFirst? (rule : String) (rules : List String) : Option (List String) :=
  if rule ∈ rules then some (rules.erase rule) else none

/-- The state with the rules of a chain changed, if the chain is there and the change is
possible. -/
def edit (f : Firewall) (c : String) (change : List String → Option (List String)) :
    Option Firewall :=
  ((f.chain? c).bind change).map (f.setChain c)

/-- The state with the entries of a set changed, if the set is there. -/
def editSet (f : Firewall) (s : String) (change : Finset String → Finset String) :
    Option Firewall :=
  (f.set? s).map fun entries => f.setEntries s (change entries)

/-- What an operation makes of a state, if the tools do not refuse it. -/
def apply (guarded : String → Bool) (f : Firewall) : Operation → Option Firewall
  | .newChain c => if f.chain? c = none then some (f.setChain c []) else none
  | .flushChain c => f.edit c fun _ => some []
  | .deleteChain c => if f.chain? c = some [] ∧ ¬ f.Refers c then some (f.dropChain c) else none
  | .append c rule =>
    if f.Admits guarded rule then f.edit c fun rules => some (rules ++ [rule]) else none
  | .insert c position rule =>
    if f.Admits guarded rule then f.edit c (insertAt? position rule) else none
  | .delete c rule => f.edit c (deleteFirst? rule)
  | .createSet s _ => some (if (f.set? s).isSome then f else f.setEntries s ∅)
  | .destroySet s => if (f.set? s).isSome ∧ ¬ f.Matches s then some (f.dropSet s) else none
  | .addToSet s entry => f.editSet s (insert entry)
  | .flushSet s => f.editSet s fun _ => ∅

/-- What operations make of a state, one after the other. -/
def applyAll (guarded : String → Bool) (f : Firewall) (ops : List Operation) : Option Firewall :=
  ops.foldlM (apply guarded) f

section Operations

variable {guarded : String → Bool} {f g : Firewall} {c s rule : String}

lemma edit_eq_some_iff {change : List String → Option (List String)} :
    f.edit c change = some g ↔
      ∃ rules rules', f.chain? c = some rules ∧ change rules = some rules' ∧
        g = f.setChain c rules' := by
  simp only [edit, Option.map_eq_some_iff, Option.bind_eq_some_iff]
  constructor
  · rintro ⟨rules', ⟨rules, hc, hchange⟩, rfl⟩
    exact ⟨rules, rules', hc, hchange, rfl⟩
  · rintro ⟨rules, rules', hc, hchange, rfl⟩
    exact ⟨rules', ⟨rules, hc, hchange⟩, rfl⟩

/-- A chain is made exactly if there is none of that name. -/
lemma apply_newChain_iff :
    f.apply guarded (.newChain c) = some g ↔ f.chain? c = none ∧ g = f.setChain c [] := by
  simp only [apply, Option.ite_none_right_eq_some, Option.some.injEq, eq_comm (a := g)]

/-- A chain is emptied exactly if it is there. -/
lemma apply_flushChain_iff :
    f.apply guarded (.flushChain c) = some g ↔ f.chain? c ≠ none ∧ g = f.setChain c [] := by
  simp only [apply, edit_eq_some_iff, Option.ne_none_iff_exists']
  constructor
  · rintro ⟨rules, rules', hc, h, rfl⟩
    cases h
    exact ⟨⟨rules, hc⟩, rfl⟩
  · rintro ⟨⟨rules, hc⟩, rfl⟩
    exact ⟨rules, [], hc, rfl, rfl⟩

/-- A chain is removed exactly if it is there, empty, and no rule jumps to it. -/
lemma apply_deleteChain_iff :
    f.apply guarded (.deleteChain c) = some g ↔
      f.chain? c = some [] ∧ ¬ f.Refers c ∧ g = f.dropChain c := by
  simp only [apply, Option.ite_none_right_eq_some, Option.some.injEq, eq_comm (a := g), and_assoc]

/-- A rule is appended exactly if it is admitted and the chain is there. -/
lemma apply_append_iff :
    f.apply guarded (.append c rule) = some g ↔
      f.Admits guarded rule ∧
        ∃ rules, f.chain? c = some rules ∧ g = f.setChain c (rules ++ [rule]) := by
  simp only [apply, Option.ite_none_right_eq_some, edit_eq_some_iff]
  constructor
  · rintro ⟨hadm, rules, rules', hc, h, rfl⟩
    cases h
    exact ⟨hadm, rules, hc, rfl⟩
  · rintro ⟨hadm, rules, hc, rfl⟩
    exact ⟨hadm, rules, _, hc, rfl, rfl⟩

/-- A rule is inserted exactly if it is admitted, the chain is there and long enough. -/
lemma apply_insert_iff {position : Int} :
    f.apply guarded (.insert c position rule) = some g ↔
      f.Admits guarded rule ∧
        ∃ rules rules', f.chain? c = some rules ∧ insertAt? position rule rules = some rules' ∧
          g = f.setChain c rules' := by
  simp only [apply, Option.ite_none_right_eq_some, edit_eq_some_iff]

/-- A rule is deleted exactly if it stands in the chain. -/
lemma apply_delete_iff :
    f.apply guarded (.delete c rule) = some g ↔
      ∃ rules, f.chain? c = some rules ∧ rule ∈ rules ∧ g = f.setChain c (rules.erase rule) := by
  simp only [apply, edit_eq_some_iff, deleteFirst?, Option.ite_none_right_eq_some]
  constructor
  · rintro ⟨rules, rules', hc, ⟨hmem, h⟩, rfl⟩
    cases h
    exact ⟨rules, hc, hmem, rfl⟩
  · rintro ⟨rules, hc, hmem, rfl⟩
    exact ⟨rules, _, hc, ⟨hmem, rfl⟩, rfl⟩

/-- A set that is not there is made empty. -/
lemma apply_createSet {type : String} (h : f.set? s = none) :
    f.apply guarded (.createSet s type) = some (f.setEntries s ∅) := by
  simp [apply, h]

/-- A set is removed exactly if it is there and no rule looks into it. -/
lemma apply_destroySet_iff :
    f.apply guarded (.destroySet s) = some g ↔
      f.set? s ≠ none ∧ ¬ f.Matches s ∧ g = f.dropSet s := by
  simp only [apply, Option.ite_none_right_eq_some, Option.some.injEq, eq_comm (a := g), and_assoc,
    Option.isSome_iff_ne_none]

/-- An entry is added exactly if the set is there. -/
lemma apply_addToSet_iff {entry : String} :
    f.apply guarded (.addToSet s entry) = some g ↔
      ∃ entries, f.set? s = some entries ∧ g = f.setEntries s (insert entry entries) := by
  simp only [apply, editSet, Option.map_eq_some_iff, eq_comm (a := g)]

end Operations

/-! ## Fewer rules -/

section FewerRules

variable {f g : Firewall} {c : String} {p : String → Prop}

/-- A rule of a state with fewer rules is a rule of the first one as well. -/
lemma AnyRule.mono (hsub : ∀ d rules', g.chain? d = some rules' →
    ∃ rules, f.chain? d = some rules ∧ rules' ⊆ rules) (h : g.AnyRule p) : f.AnyRule p := by
  obtain ⟨d, rules', hd, rule, hrule, hp⟩ := h
  obtain ⟨rules, hf, hrules⟩ := hsub d rules' hd
  exact ⟨d, rules, hf, rule, hrules hrule, hp⟩

/-- A rule of a state with other rules in a chain is one of these or was there before. -/
lemma AnyRule.of_setChain {rules : List String} (h : (f.setChain c rules).AnyRule p) :
    f.AnyRule p ∨ ∃ rule ∈ rules, p rule := by
  obtain ⟨d, rules', hd, rule, hrule, hp⟩ := h
  rw [chain?_setChain] at hd
  by_cases hdc : d = c
  · subst hdc
    rw [Function.update_self] at hd
    cases hd
    exact .inr ⟨rule, hrule, hp⟩
  · rw [Function.update_of_ne hdc] at hd
    exact .inl ⟨d, rules', hd, rule, hrule, hp⟩

/-- Emptying a chain adds no rule. -/
lemma AnyRule.of_setChain_nil (h : (f.setChain c []).AnyRule p) : f.AnyRule p := by
  rcases h.of_setChain with h | ⟨rule, hrule, -⟩
  · exact h
  · cases hrule

/-- Removing a chain adds no rule. -/
lemma AnyRule.of_dropChain (h : (f.dropChain c).AnyRule p) : f.AnyRule p := by
  refine h.mono fun d rules hd => ?_
  rw [chain?_dropChain] at hd
  by_cases hdc : d = c
  · subst hdc
    rw [Function.update_self] at hd
    cases hd
  · rw [Function.update_of_ne hdc] at hd
    exact ⟨rules, hd, List.Subset.refl rules⟩

end FewerRules

/-! ## Lists of operations -/

section Lists

variable {guarded : String → Bool} {f g : Firewall}

@[simp] lemma applyAll_nil : f.applyAll guarded [] = some f := rfl

lemma applyAll_cons (op : Operation) (ops : List Operation) :
    f.applyAll guarded (op :: ops) =
      (f.apply guarded op).bind fun g => g.applyAll guarded ops := by
  rw [applyAll, List.foldlM_cons]
  rfl

lemma applyAll_append (first second : List Operation) :
    f.applyAll guarded (first ++ second) =
      (f.applyAll guarded first).bind fun g => g.applyAll guarded second := by
  rw [applyAll, List.foldlM_append]
  rfl

/-- A list of operations succeeds exactly if the first one does, and the others do behind it. -/
lemma applyAll_cons_eq_some_iff {op : Operation} {ops : List Operation} {h : Firewall} :
    f.applyAll guarded (op :: ops) = some h ↔
      ∃ g, f.apply guarded op = some g ∧ g.applyAll guarded ops = some h := by
  rw [applyAll_cons, Option.bind_eq_some_iff]

/-- A list of operations succeeds exactly if its parts do, one behind the other. -/
lemma applyAll_append_eq_some_iff {first second : List Operation} {h : Firewall} :
    f.applyAll guarded (first ++ second) = some h ↔
      ∃ g, f.applyAll guarded first = some g ∧ g.applyAll guarded second = some h := by
  rw [applyAll_append, Option.bind_eq_some_iff]

/-- What begins a list of operations that succeeds does so as well. -/
lemma applyAll_prefix {first ops : List Operation} (hpre : first <+: ops)
    (h : f.applyAll guarded ops = some g) : ∃ g', f.applyAll guarded first = some g' := by
  obtain ⟨rest, rfl⟩ := hpre
  obtain ⟨g', hg', -⟩ := applyAll_append_eq_some_iff.mp h
  exact ⟨g', hg'⟩

/-- What each of some operations keeps all of them keep together. -/
theorem applyAll_keeps {motive : Firewall → Prop} {ops : List Operation}
    (h : f.applyAll guarded ops = some g) (hf : motive f)
    (hstep : ∀ op ∈ ops, ∀ f' g', f'.apply guarded op = some g' → motive f' → motive g') :
    motive g := by
  induction ops generalizing f with
  | nil =>
    cases h
    exact hf
  | cons op ops ih =>
    obtain ⟨f', hf', hrest⟩ := applyAll_cons_eq_some_iff.mp h
    rw [List.forall_mem_cons] at hstep
    exact ih hrest (hstep.1 f f' hf' hf) hstep.2

/-! ### What a run leaves alone -/

/-- An operation puts something in the place of the chain or of the set that it is about, and leaves
all else alone. -/
theorem apply_cases {op : Operation} (h : f.apply guarded op = some g) :
    (∃ c rules, op.chain? = some c ∧ g.chain? = Function.update f.chain? c rules ∧
      g.set? = f.set?) ∨
    ∃ s entries, op.set? = some s ∧ g.set? = Function.update f.set? s entries ∧
      g.chain? = f.chain? := by
  cases op with
  | newChain c =>
    obtain ⟨-, rfl⟩ := apply_newChain_iff.mp h
    exact .inl ⟨c, _, rfl, chain?_setChain .., rfl⟩
  | flushChain c =>
    obtain ⟨-, rfl⟩ := apply_flushChain_iff.mp h
    exact .inl ⟨c, _, rfl, chain?_setChain .., rfl⟩
  | deleteChain c =>
    obtain ⟨-, -, rfl⟩ := apply_deleteChain_iff.mp h
    exact .inl ⟨c, _, rfl, chain?_dropChain .., rfl⟩
  | append c rule =>
    obtain ⟨-, rules, -, rfl⟩ := apply_append_iff.mp h
    exact .inl ⟨c, _, rfl, chain?_setChain .., rfl⟩
  | insert c position rule =>
    obtain ⟨-, rules, rules', -, -, rfl⟩ := apply_insert_iff.mp h
    exact .inl ⟨c, _, rfl, chain?_setChain .., rfl⟩
  | delete c rule =>
    obtain ⟨rules, -, -, rfl⟩ := apply_delete_iff.mp h
    exact .inl ⟨c, _, rfl, chain?_setChain .., rfl⟩
  | createSet s type =>
    simp only [apply, Option.some.injEq] at h
    subst h
    split
    -- A set that is there is put in its own place.
    · exact .inr ⟨s, f.set? s, rfl, (Function.update_eq_self s f.set?).symm, rfl⟩
    · exact .inr ⟨s, _, rfl, set?_setEntries .., rfl⟩
  | destroySet s =>
    obtain ⟨-, -, rfl⟩ := apply_destroySet_iff.mp h
    exact .inr ⟨s, _, rfl, set?_dropSet .., rfl⟩
  | addToSet s entry =>
    obtain ⟨entries, -, rfl⟩ := apply_addToSet_iff.mp h
    exact .inr ⟨s, _, rfl, set?_setEntries .., rfl⟩
  | flushSet s =>
    simp only [apply, editSet, Option.map_eq_some_iff] at h
    obtain ⟨entries, -, rfl⟩ := h
    exact .inr ⟨s, _, rfl, set?_setEntries .., rfl⟩

/-- An operation changes no chain but its own. -/
lemma apply_chain?_of_ne {op : Operation} {d : String} (h : f.apply guarded op = some g)
    (hd : op.chain? ≠ some d) : g.chain? d = f.chain? d := by
  rcases apply_cases h with ⟨c, rules, hc, hchain, -⟩ | ⟨s, entries, -, -, hchain⟩
  · have hne : d ≠ c := by
      rintro rfl
      exact hd hc
    rw [hchain, Function.update_of_ne hne]
  · rw [hchain]

/-- An operation changes no set but its own. -/
lemma apply_set?_of_ne {op : Operation} {s : String} (h : f.apply guarded op = some g)
    (hs : op.set? ≠ some s) : g.set? s = f.set? s := by
  rcases apply_cases h with ⟨c, rules, -, -, hset⟩ | ⟨t, entries, ht, hset, -⟩
  · rw [hset]
  · have hne : s ≠ t := by
      rintro rfl
      exact hs ht
    rw [hset, Function.update_of_ne hne]

/-- Operations on other chains leave a chain as it is. -/
lemma applyAll_chain?_of_forall_ne {ops : List Operation} {c : String}
    (h : f.applyAll guarded ops = some g) (hops : ∀ op ∈ ops, op.chain? ≠ some c) :
    g.chain? c = f.chain? c :=
  applyAll_keeps (motive := fun g' => g'.chain? c = f.chain? c) h rfl fun op hop _ _ hg' hsame =>
    (apply_chain?_of_ne hg' (hops op hop)).trans hsame

/-- Operations on other sets leave a set as it is. -/
lemma applyAll_set?_of_forall_ne {ops : List Operation} {s : String}
    (h : f.applyAll guarded ops = some g) (hops : ∀ op ∈ ops, op.set? ≠ some s) :
    g.set? s = f.set? s :=
  applyAll_keeps (motive := fun g' => g'.set? s = f.set? s) h rfl fun op hop _ _ hg' hsame =>
    (apply_set?_of_ne hg' (hops op hop)).trans hsame

/-- A chain that is there after an operation was there before, or the operation has made it. -/
lemma isSome_chain?_of_apply {op : Operation} {d : String} (h : f.apply guarded op = some g)
    (hd : (g.chain? d).isSome) : (f.chain? d).isSome ∨ op = .newChain d := by
  by_cases hop : op.chain? = some d
  -- All operations on a chain but the one that makes it need the chain.
  · cases op with
    | newChain c =>
      cases hop
      exact .inr rfl
    | flushChain c =>
      cases hop
      exact .inl (Option.isSome_iff_ne_none.mpr (apply_flushChain_iff.mp h).1)
    | deleteChain c =>
      cases hop
      obtain ⟨hc, -⟩ := apply_deleteChain_iff.mp h
      exact .inl (by rw [hc]; rfl)
    | append c rule =>
      cases hop
      obtain ⟨-, rules, hc, -⟩ := apply_append_iff.mp h
      exact .inl (by rw [hc]; rfl)
    | insert c position rule =>
      cases hop
      obtain ⟨-, rules, rules', hc, -, -⟩ := apply_insert_iff.mp h
      exact .inl (by rw [hc]; rfl)
    | delete c rule =>
      cases hop
      obtain ⟨rules, hc, -⟩ := apply_delete_iff.mp h
      exact .inl (by rw [hc]; rfl)
    | _ => cases hop
  · rw [apply_chain?_of_ne h hop] at hd
    exact .inl hd

/-- A chain has a rule. -/
def Has (f : Firewall) (c rule : String) : Prop := ∃ rules, f.chain? c = some rules ∧ rule ∈ rules

/-- A rule that is inserted stands in its chain. -/
lemma has_of_apply_insert {c rule : String} {position : Int}
    (h : f.apply guarded (.insert c position rule) = some g) : g.Has c rule := by
  obtain ⟨-, rules, rules', -, hinsert, rfl⟩ := apply_insert_iff.mp h
  exact ⟨rules', chain?_setChain_self .., (mem_insertAt?_iff hinsert).mpr (.inl rfl)⟩

/-- A rule stays in its chain, unless it is deleted or its chain is emptied or removed. -/
lemma Has.apply {op : Operation} {c rule : String} (hhas : f.Has c rule)
    (h : f.apply guarded op = some g) (hdelete : op ≠ .delete c rule)
    (hflush : op ≠ .flushChain c) (hdrop : op ≠ .deleteChain c) : g.Has c rule := by
  obtain ⟨rules, hrules, hmem⟩ := hhas
  by_cases hop : op.chain? = some c
  -- Of the operations on the chain, only the two that add a rule and the deletion of another one
  -- remain.
  · cases op with
    | newChain d =>
      cases hop
      obtain ⟨hnone, -⟩ := apply_newChain_iff.mp h
      rw [hrules] at hnone
      cases hnone
    | flushChain d =>
      cases hop
      exact absurd rfl hflush
    | deleteChain d =>
      cases hop
      exact absurd rfl hdrop
    | append d rule' =>
      cases hop
      obtain ⟨-, rules', hc, rfl⟩ := apply_append_iff.mp h
      obtain rfl : rules = rules' := Option.some.inj (hrules.symm.trans hc)
      exact ⟨rules ++ [rule'], by simp, List.mem_append_left _ hmem⟩
    | insert d position rule' =>
      cases hop
      obtain ⟨-, rules', rules'', hc, hinsert, rfl⟩ := apply_insert_iff.mp h
      obtain rfl : rules = rules' := Option.some.inj (hrules.symm.trans hc)
      exact ⟨rules'', by simp, (mem_insertAt?_iff hinsert).mpr (.inr hmem)⟩
    | delete d rule' =>
      cases hop
      obtain ⟨rules', hc, -, rfl⟩ := apply_delete_iff.mp h
      obtain rfl : rules = rules' := Option.some.inj (hrules.symm.trans hc)
      have hne : rule ≠ rule' := by
        rintro rfl
        exact hdelete rfl
      exact ⟨rules.erase rule', by simp, (List.mem_erase_of_ne hne).mpr hmem⟩
    | _ => cases hop
  · exact ⟨rules, (apply_chain?_of_ne h hop).trans hrules, hmem⟩

/-- A rule stays in its chain throughout operations that neither delete it nor empty or remove its
chain. -/
lemma Has.applyAll {ops : List Operation} {c rule : String} (hhas : f.Has c rule)
    (h : f.applyAll guarded ops = some g)
    (hkeep : ∀ op ∈ ops, op ≠ .delete c rule ∧ op ≠ .flushChain c ∧ op ≠ .deleteChain c) :
    g.Has c rule := by
  refine applyAll_keeps (motive := fun g' => g'.Has c rule) h hhas fun op hop f' g' hg' hhas' => ?_
  obtain ⟨hdelete, hflush, hdrop⟩ := hkeep op hop
  exact hhas'.apply hg' hdelete hflush hdrop

/-- A chain that is there after operations was there before, or one of them has made it. -/
lemma isSome_chain?_of_applyAll {ops : List Operation} {d : String}
    (h : f.applyAll guarded ops = some g) (hd : (g.chain? d).isSome) :
    (f.chain? d).isSome ∨ .newChain d ∈ ops := by
  refine applyAll_keeps (motive := fun g' => (g'.chain? d).isSome →
    (f.chain? d).isSome ∨ .newChain d ∈ ops) h .inl (fun op hop f' g' hg' hbefore hsome => ?_) hd
  rcases isSome_chain?_of_apply hg' hsome with hsome' | rfl
  · exact hbefore hsome'
  · exact .inr hop

/-- A chain that no rule jumps to is torn down whatever it holds. -/
lemma applyAll_teardown {c : String} (hc : f.chain? c ≠ none) (hrefers : ¬ f.Refers c) :
    f.applyAll guarded (Operation.teardown c) = some (f.dropChain c) := by
  have hempty : (f.setChain c []).chain? c = some [] := by simp
  -- The chain is emptied before it is removed, so its own rules need not be looked at.
  have hrefers' : ¬ (f.setChain c []).Refers c := fun h => hrefers h.of_setChain_nil
  have hsame : (f.setChain c []).dropChain c = f.dropChain c :=
    ext_chain?_set? (by simp) rfl
  rw [Operation.teardown, applyAll_cons, apply_flushChain_iff.mpr ⟨hc, rfl⟩, Option.bind_some,
    applyAll_cons, apply_deleteChain_iff.mpr ⟨hempty, hrefers', rfl⟩, hsame]
  rfl

end Lists

end Firewall

end FirewallPolicy
