import FirewallPolicy.Proofs.Firewall.State
import FirewallPolicy.Proofs.Policy.ChainNames

/-!
# What becomes of a packet

A packet goes through the rules of a chain until one of them decides on it.

* `Traffic`: packets, in which networks their sources lie, and which conditions they meet.
* `Walk`: the way of a packet through rules.  `Walk.of_skip` and its likes say how it goes on at a
  rule, and with them `Walk.unique` that there is one way only; `Firewall.Decides` is the way
  through a chain of a state.
* `Walk.jump`: the way through a rule that jumps to a chain.
* `firstVerdict`: the way through rules that jump nowhere, with `walk_firstVerdict`.
-/

namespace FirewallPolicy

/-! ## Verdicts -/

/-- What may become of a packet. -/
inductive Verdict where
  | accept
  | drop
  | reject
  deriving DecidableEq, Repr

/-- The target of the rules that decide so. -/
def Verdict.target : Verdict → String
  | .accept => "ACCEPT"
  | .drop => "DROP"
  | .reject => "REJECT"

/-- What a target decides, if it decides. -/
def Verdict.ofTarget? (target : String) : Option Verdict :=
  if target = "ACCEPT" then some .accept
  else if target = "DROP" then some .drop
  else if target = "REJECT" then some .reject
  else none

/-- The targets that are no chains. -/
def builtinTargets : List String := ["ACCEPT", "DROP", "REJECT", "RETURN"]

/-- No managed chain has such a name. -/
lemma notMem_builtinTargets {c : String} (h : isManagedName c) : c ∉ builtinTargets := by
  have hbuiltin : ∀ target ∈ builtinTargets, ¬ isManagedName target := by decide
  exact fun hc => hbuiltin c hc h

@[simp] lemma Verdict.ofTarget?_target (v : Verdict) : ofTarget? v.target = some v := by
  cases v <;> decide

lemma Verdict.target_injective : Function.Injective Verdict.target := by
  intro v w h
  have hsame := congrArg ofTarget? h
  rw [ofTarget?_target, ofTarget?_target] at hsame
  exact Option.some.inj hsame

lemma Verdict.target_mem (v : Verdict) : v.target ∈ builtinTargets := by cases v <;> decide

lemma Verdict.target_ne_return (v : Verdict) : v.target ≠ "RETURN" := by cases v <;> decide

/-! ## Packets and rules -/

/-- Packets, of which it is known in which networks their sources lie, and which other conditions
they meet. -/
structure Traffic (P : Type) where
  liesIn : P → String → Bool
  meets : P → String → Bool

/-- A packet meets the conditions of a rule.  Of the sets, those that are asked for the source are
looked into. -/
def Traffic.meetsRule {P : Type} (t : Traffic P) (f : Firewall) (p : P) (rule : String) : Bool :=
  let condition := ruleMatch rule
  if condition = "" then true
  else match matchedSet? rule with
    | none => t.meets p condition
    | some s =>
      if condition = "-m set --match-set " ++ s ++ " src" then
        decide (∃ n ∈ (f.set? s).getD ∅, t.liesIn p n)
      else t.meets p condition

/-- The way of a packet through rules, of which it is known whether it meets them, and through the
chains that they jump to.  Nothing is decided where the way ends or goes back. -/
inductive Walk (meets : String → Bool) (chains : String → Option (List String)) :
    List String → Option Verdict → Prop
  | done : Walk meets chains [] none
  | skip {rule : String} {rest : List String} {o : Option Verdict} (hmeets : ¬ meets rule)
    (hrest : Walk meets chains rest o) : Walk meets chains (rule :: rest) o
  | count {rule : String} {rest : List String} {o : Option Verdict} (hmeets : meets rule)
    (htarget : ruleTarget? rule = none) (hrest : Walk meets chains rest o) :
    Walk meets chains (rule :: rest) o
  | stop {rule : String} {rest : List String} {v : Verdict} (hmeets : meets rule)
    (htarget : ruleTarget? rule = some v.target) : Walk meets chains (rule :: rest) (some v)
  | leave {rule : String} {rest : List String} (hmeets : meets rule)
    (htarget : ruleTarget? rule = some "RETURN") : Walk meets chains (rule :: rest) none
  | inside {rule c : String} {rest rules : List String} {v : Verdict} (hmeets : meets rule)
    (htarget : ruleTarget? rule = some c) (hjump : c ∉ builtinTargets)
    (hchain : chains c = some rules) (hrules : Walk meets chains rules (some v)) :
    Walk meets chains (rule :: rest) (some v)
  | comeBack {rule c : String} {rest rules : List String} {o : Option Verdict} (hmeets : meets rule)
    (htarget : ruleTarget? rule = some c) (hjump : c ∉ builtinTargets)
    (hchain : chains c = some rules) (hrules : Walk meets chains rules none)
    (hrest : Walk meets chains rest o) : Walk meets chains (rule :: rest) o

/-- What becomes of a packet in a chain of a state. -/
def Firewall.Decides {P : Type} (f : Firewall) (t : Traffic P) (p : P) (c : String)
    (o : Option Verdict) : Prop :=
  ∃ rules, f.chain? c = some rules ∧ Walk (t.meetsRule f p) f.chain? rules o

section Walking

variable {meets : String → Bool} {chains : String → Option (List String)}
  {rules rest : List String} {rule c : String} {o o' : Option Verdict}

/-- No target decides or leaves and is a chain, too. -/
lemma Verdict.target_ne_of_jump (hjump : c ∉ builtinTargets) (v : Verdict) : v.target ≠ c := by
  rintro rfl
  exact hjump v.target_mem

lemma return_ne_of_jump (hjump : c ∉ builtinTargets) : "RETURN" ≠ c := by
  rintro rfl
  exact hjump (by decide)

/-- A packet that does not meet a rule goes on behind it. -/
lemma Walk.of_skip (hmeets : ¬ meets rule) (h : Walk meets chains (rule :: rest) o) :
    Walk meets chains rest o := by
  cases h with
  | skip _ hrest => exact hrest
  | _ => contradiction

/-- So does one that meets a rule without a target. -/
lemma Walk.of_count (hmeets : meets rule) (htarget : ruleTarget? rule = none)
    (h : Walk meets chains (rule :: rest) o) : Walk meets chains rest o := by
  cases h with
  | count _ _ hrest => exact hrest
  | skip => contradiction
  | _ => simp_all only [reduceCtorEq]

/-- A rule that decides decides on a packet that meets it. -/
lemma Walk.of_stop {v : Verdict} (hmeets : meets rule) (htarget : ruleTarget? rule = some v.target)
    (h : Walk meets chains (rule :: rest) o) : o = some v := by
  cases h with
  | stop _ htarget' =>
    have hsame := Option.some.inj (htarget'.symm.trans htarget)
    rw [Verdict.target_injective hsame]
  | skip => contradiction
  | count _ htarget' => cases htarget.symm.trans htarget'
  | leave _ htarget' =>
    exact absurd (Option.some.inj (htarget.symm.trans htarget')) v.target_ne_return
  | inside _ htarget' hjump =>
    exact absurd (Option.some.inj (htarget.symm.trans htarget')) (v.target_ne_of_jump hjump)
  | comeBack _ htarget' hjump =>
    exact absurd (Option.some.inj (htarget.symm.trans htarget')) (v.target_ne_of_jump hjump)

/-- Nothing is decided on a packet that leaves. -/
lemma Walk.of_leave (hmeets : meets rule) (htarget : ruleTarget? rule = some "RETURN")
    (h : Walk meets chains (rule :: rest) o) : o = none := by
  cases h with
  | leave => rfl
  | skip => contradiction
  | count _ htarget' => cases htarget.symm.trans htarget'
  | stop _ htarget' =>
    exact absurd (Option.some.inj (htarget'.symm.trans htarget)) (Verdict.target_ne_return _)
  | inside _ htarget' hjump =>
    exact absurd (Option.some.inj (htarget.symm.trans htarget')) (return_ne_of_jump hjump)
  | comeBack _ htarget' hjump =>
    exact absurd (Option.some.inj (htarget.symm.trans htarget')) (return_ne_of_jump hjump)

/-- A packet that meets a jump is decided on in the chain, or comes back from it and goes on. -/
lemma Walk.of_jump (hmeets : meets rule) (htarget : ruleTarget? rule = some c)
    (hjump : c ∉ builtinTargets) (hchain : chains c = some rules)
    (h : Walk meets chains (rule :: rest) o) :
    (∃ v, o = some v ∧ Walk meets chains rules (some v)) ∨
      (Walk meets chains rules none ∧ Walk meets chains rest o) := by
  cases h with
  | inside _ htarget' _ hchain' hrules =>
    obtain rfl := Option.some.inj (htarget.symm.trans htarget')
    obtain rfl := Option.some.inj (hchain.symm.trans hchain')
    exact .inl ⟨_, rfl, hrules⟩
  | comeBack _ htarget' _ hchain' hrules hrest =>
    obtain rfl := Option.some.inj (htarget.symm.trans htarget')
    obtain rfl := Option.some.inj (hchain.symm.trans hchain')
    exact .inr ⟨hrules, hrest⟩
  | skip => contradiction
  | count _ htarget' => cases htarget.symm.trans htarget'
  | stop _ htarget' =>
    exact absurd (Option.some.inj (htarget'.symm.trans htarget)) (Verdict.target_ne_of_jump hjump _)
  | leave _ htarget' =>
    exact absurd (Option.some.inj (htarget'.symm.trans htarget)) (return_ne_of_jump hjump)

/-- A packet has one way only. -/
theorem Walk.unique (h : Walk meets chains rules o) (h' : Walk meets chains rules o') : o = o' := by
  -- By induction on the first way; the second one has to begin with the same step.
  induction h generalizing o' with
  | done =>
    cases h'
    rfl
  | skip hmeets _ ih => exact ih (h'.of_skip hmeets)
  | count hmeets htarget _ ih => exact ih (h'.of_count hmeets htarget)
  | stop hmeets htarget => exact (h'.of_stop hmeets htarget).symm
  | leave hmeets htarget => exact (h'.of_leave hmeets htarget).symm
  | inside hmeets htarget hjump hchain _ ih =>
    rcases h'.of_jump hmeets htarget hjump hchain with ⟨v, rfl, hinside⟩ | ⟨hback, -⟩
    · exact ih hinside
    · cases ih hback
  | comeBack hmeets htarget hjump hchain _ _ ihrules ihrest =>
    rcases h'.of_jump hmeets htarget hjump hchain with ⟨v, -, hinside⟩ | ⟨-, hrest⟩
    · cases ihrules hinside
    · exact ihrest hrest

/-- A packet that meets a jump goes through the chain, and on behind the jump if it comes back. -/
theorem Walk.jump (htarget : ruleTarget? rule = some c) (hjump : c ∉ builtinTargets)
    (hchain : chains c = some rules) (hrules : Walk meets chains rules o)
    (hrest : Walk meets chains rest o') :
    Walk meets chains (rule :: rest) ((if meets rule then o else none) <|> o') := by
  by_cases hmeets : meets rule
  · rw [if_pos hmeets]
    -- The chain decides, or the packet comes back from it.
    cases o with
    | none => exact .comeBack hmeets htarget hjump hchain hrules hrest
    | some v => exact .inside hmeets htarget hjump hchain hrules
  · rw [if_neg hmeets]
    exact .skip hmeets hrest

/-- A chain decides what the way of a packet through it comes to, and nothing else. -/
lemma Firewall.decides_iff {P : Type} {f : Firewall} {t : Traffic P} {p : P}
    (hchain : f.chain? c = some rules) (hwalk : Walk (t.meetsRule f p) f.chain? rules o) :
    f.Decides t p c o' ↔ o' = o := by
  constructor
  · rintro ⟨rules', hchain', hwalk'⟩
    obtain rfl := Option.some.inj (hchain.symm.trans hchain')
    exact hwalk'.unique hwalk
  · rintro rfl
    exact ⟨rules, hchain, hwalk⟩

/-! ## Rules that jump nowhere -/

/-- What the first rule that a packet meets decides. -/
def firstVerdict (meets : String → Bool) : List String → Option Verdict
  | [] => none
  | rule :: rest =>
    if meets rule then (ruleTarget? rule).bind Verdict.ofTarget? else firstVerdict meets rest

lemma firstVerdict_congr {meets' : String → Bool} (h : ∀ rule ∈ rules, meets rule = meets' rule) :
    firstVerdict meets rules = firstVerdict meets' rules := by
  induction rules with
  | nil => rfl
  | cons rule rest ih =>
    rw [List.forall_mem_cons] at h
    rw [firstVerdict, firstVerdict, h.1, ih h.2]

/-- A packet goes through rules that jump nowhere to the first that it meets. -/
theorem walk_firstVerdict (h : ∀ rule ∈ rules, ∃ target ∈ builtinTargets,
    ruleTarget? rule = some target) : Walk meets chains rules (firstVerdict meets rules) := by
  induction rules with
  | nil => exact .done
  | cons rule rest ih =>
    rw [List.forall_mem_cons] at h
    obtain ⟨⟨target, hbuiltin, htarget⟩, hrest⟩ := h
    by_cases hmeets : meets rule
    · rw [firstVerdict, if_pos hmeets, htarget, Option.bind_some]
      -- No target is a chain, so the rule decides or the packet leaves.
      simp only [builtinTargets, List.mem_cons, List.not_mem_nil, or_false] at hbuiltin
      rcases hbuiltin with rfl | rfl | rfl | rfl
      · exact .stop (v := .accept) hmeets htarget
      · exact .stop (v := .drop) hmeets htarget
      · exact .stop (v := .reject) hmeets htarget
      · exact .leave hmeets htarget
    · rw [firstVerdict, if_neg hmeets]
      exact .skip hmeets (ih hrest)

/-- Behind rules that all decide, others come into play where none of them is met. -/
lemma firstVerdict_append (h : ∀ rule ∈ rules, ∃ v : Verdict, ruleTarget? rule = some v.target)
    (rest : List String) :
    firstVerdict meets (rules ++ rest) =
      (firstVerdict meets rules <|> firstVerdict meets rest) := by
  induction rules with
  | nil => rfl
  | cons rule rules ih =>
    rw [List.forall_mem_cons] at h
    obtain ⟨⟨v, htarget⟩, hrules⟩ := h
    rw [List.cons_append, firstVerdict, firstVerdict, ih hrules, htarget, Option.bind_some,
      Verdict.ofTarget?_target]
    split <;> rfl

/-- Rules that all decide alike decide so where any of them is met. -/
lemma firstVerdict_of_forall {v : Verdict} (h : ∀ rule ∈ rules, ruleTarget? rule = some v.target) :
    firstVerdict meets rules = if rules.any meets then some v else none := by
  induction rules with
  | nil => rfl
  | cons rule rest ih =>
    rw [List.forall_mem_cons] at h
    rw [firstVerdict, h.1, Option.bind_some, Verdict.ofTarget?_target, ih h.2, List.any_cons]
    by_cases hmeets : meets rule <;> simp [hmeets]

/-- The rule at the end of a chain decides nothing. -/
lemma firstVerdict_leave : firstVerdict meets [Rule.leave.text] = none := by
  have htarget : ruleTarget? Rule.leave.text = some "RETURN" := Rule.ruleTarget?_text (by decide)
  rw [firstVerdict, htarget, Option.bind_some]
  split <;> rfl

end Walking

/-! ## The conditions of structured rules -/

section Conditions

variable {P : Type} {t : Traffic P} {f g : Firewall} {p : P} {r : Rule}

/-- Of a state, only the set that a rule looks into tells whether a packet meets the rule. -/
lemma Traffic.meetsRule_congr {rule : String} (h : ∀ s ∈ matchedSet? rule, f.set? s = g.set? s) :
    t.meetsRule f p rule = t.meetsRule g p rule := by
  cases hs : matchedSet? rule with
  | none => simp [Traffic.meetsRule, hs]
  | some s => simp [Traffic.meetsRule, hs, h s hs]

/-- Every packet meets a rule without conditions. -/
lemma Traffic.meetsRule_text_of_nil (hblank : ' ' ∉ r.action.toList) (hnil : r.conditions = []) :
    t.meetsRule f p r.text := by
  have hmatch : ruleMatch r.text = "" := by
    rw [Rule.ruleMatch_text hblank, Rule.matchText, hnil]
    rfl
  simp [Traffic.meetsRule, hmatch]

/-- Whether a packet meets a rule that looks into no set is told by the conditions of the rule. -/
lemma Traffic.meetsRule_text (hblank : ' ' ∉ r.action.toList) (hne : r.conditions ≠ [])
    (hset : ∀ set side, r.conditions.head? ≠ some (.inSet set side)) :
    t.meetsRule f p r.text = t.meets p r.matchText := by
  have hmatch : ruleMatch r.text = r.matchText := Rule.ruleMatch_text hblank
  have hnone : matchedSet? r.text = none := Rule.matchedSet?_text_eq_none hset
  simp [Traffic.meetsRule, hmatch, hnone, Rule.matchText_ne_empty hne]

/-- A packet meets a rule that looks for its source in a set if the source lies in a network
there. -/
lemma Traffic.meetsRule_text_inSet {s : String} (hblank : ' ' ∉ r.action.toList)
    (hs : ' ' ∉ s.toList) (hr : r.conditions = [.inSet s "src"]) :
    t.meetsRule f p r.text = decide (∃ n ∈ (f.set? s).getD ∅, t.liesIn p n) := by
  -- The condition stands in the rule as `meetsRule` looks for it.
  have htext : r.matchText = "-m set --match-set " ++ s ++ " src" := by
    rw [Rule.matchText, hr, List.map_cons, List.map_nil, String.intercalate_singleton]
    apply String.toList_injective
    unfold Condition.text
    simp
  have hmatch : ruleMatch r.text = "-m set --match-set " ++ s ++ " src" := by
    rw [Rule.ruleMatch_text hblank, htext]
  have hset : matchedSet? r.text = some s := Rule.matchedSet?_text_inSet hr hs
  have hne : "-m set --match-set " ++ s ++ " src" ≠ "" := by
    intro h
    have hlist : ("-m set --match-set " ++ s ++ " src").toList = [] := by rw [h]; rfl
    simp at hlist
  simp [Traffic.meetsRule, hmatch, hset, hne]

end Conditions

end FirewallPolicy
