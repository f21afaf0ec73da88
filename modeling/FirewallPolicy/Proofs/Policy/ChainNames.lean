import FirewallPolicy.Policy.ChainName
import FirewallPolicy.Proofs.Firewall.RuleText
import FirewallPolicy.Proofs.Policy.Accepted

/-!
# The names of managed chains

The names of the two sides of a chain are told apart from each other and from the names of all other
chains by how they begin.

A rule is `Tidy` if it jumps to no managed chain but to some given ones, and looks into no set.
-/

namespace FirewallPolicy

open FirewallPolicy.ChainName

/-- A name of the form that managed chains have.  A jump to such a chain needs the chain. -/
def isManagedName (c : String) : Bool :=
  "IN_".toList.isPrefixOf c.toList || "OUT_".toList.isPrefixOf c.toList

variable {c d : String}

lemma toList_ingress (c : String) : (ingress c).toList = 'I' :: 'N' :: '_' :: c.toList := by
  simp [ingress]

lemma toList_egress (c : String) : (egress c).toList = 'O' :: 'U' :: 'T' :: '_' :: c.toList := by
  simp [egress]

@[simp] lemma isManagedName_ingress (c : String) : isManagedName (ingress c) := by
  simp [isManagedName, toList_ingress]

@[simp] lemma isManagedName_egress (c : String) : isManagedName (egress c) := by
  simp [isManagedName, toList_egress]

@[simp] lemma ingress_inj : ingress c = ingress d ↔ c = d := by
  simp [← String.toList_inj, toList_ingress]

@[simp] lemma egress_inj : egress c = egress d ↔ c = d := by
  simp [← String.toList_inj, toList_egress]

@[simp] lemma ingress_ne_egress (c d : String) : ingress c ≠ egress d := by
  simp [← String.toList_inj, toList_ingress, toList_egress, Ne]

@[simp] lemma egress_ne_ingress (c d : String) : egress c ≠ ingress d :=
  (ingress_ne_egress d c).symm

/-- A chain whose name has another form is no side of a managed chain. -/
lemma ne_of_not_isManagedName (hc : isManagedName c) (hd : ¬ isManagedName d) : c ≠ d := by
  rintro rfl
  exact hd hc

/-- No blank stands in a word. -/
lemma IsWord.blank_notMem (h : IsWord c) : ' ' ∉ c.toList := by
  intro hmem
  have hblank : Scalar.isTokenChar ' ' := h.2 ' ' hmem
  exact absurd hblank (by decide)

lemma blank_notMem_ingress (h : ' ' ∉ c.toList) : ' ' ∉ (ingress c).toList := by
  simpa [toList_ingress] using h

lemma blank_notMem_egress (h : ' ' ∉ c.toList) : ' ' ∉ (egress c).toList := by
  simpa [toList_egress] using h

/-! ## Rules that keep to some chains -/

/-- A rule of a party jumps to no managed chain but to its own, and looks into no set. -/
def Tidy (own : List String) (rule : String) : Prop :=
  (∀ c ∈ ruleTarget? rule, isManagedName c → c ∈ own) ∧ matchedSet? rule = none

/-- Who has no chains jumps to no managed chain. -/
lemma Tidy.ruleTarget?_ne {rule c : String} (h : Tidy [] rule) (hc : isManagedName c) :
    ruleTarget? rule ≠ some c := fun htarget => List.not_mem_nil (h.1 c htarget hc)

/-- A rule with a plain action is tidy. -/
lemma tidy_of_action {own : List String} {r : Rule} (hblank : ' ' ∉ r.action.toList)
    (haction : ¬ isManagedName r.action)
    (hset : ∀ set side, r.conditions.head? ≠ some (.inSet set side)) : Tidy own r.text := by
  refine ⟨fun c hc hmanaged => ?_, Rule.matchedSet?_text_eq_none hset⟩
  rw [Rule.ruleTarget?_text hblank] at hc
  cases hc
  exact absurd hmanaged haction

/-- A jump to one's own chain is tidy. -/
lemma tidy_jump {own : List String} {c : String} (hblank : ' ' ∉ c.toList) (hc : c ∈ own) :
    Tidy own (Rule.jump [] c).text := by
  refine ⟨fun d hd _ => ?_, Rule.matchedSet?_text_eq_none (by simp [Rule.jump])⟩
  rw [Rule.ruleTarget?_text hblank] at hd
  cases hd
  exact hc

lemma tidy_leave {own : List String} : Tidy own Rule.leave.text :=
  tidy_of_action (by decide) (by decide) (by simp [Rule.leave])

end FirewallPolicy
