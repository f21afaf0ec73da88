import FirewallPolicy.Proofs.Jobs.Compiled
import FirewallPolicy.Proofs.Shell.Joined

/-!
# Rules and operations of safe words

An operation is safe for a shell if all words that it joins are.

* `Rule.IsSafe`, `Operation.IsSafe`: all words of a rule, and all that an operation joins, are safe.
* `Rule.isSafe`, `Rule.isSafe_endpoint`: rules with the two kinds of actions.
* `Service.isSafe_itemRules`, `DnsForwarding.isSafe_redirectRule`,
  `DnsForwarding.isSafe_acceptingRule`: the rules of services are safe if the addresses and networks
  of the configuration are; its other words always are.
-/

namespace FirewallPolicy

open FirewallPolicy.ChainName
open Shell (IsSafe isSafe_toString)

/-! ## Safe rules and operations -/

/-- All that a rule is about is safe, and so is its action. -/
def Rule.IsSafe (r : Rule) : Prop :=
  (∀ c ∈ r.conditions, ∀ v ∈ c.values, Shell.IsSafe v) ∧ ∀ w ∈ actionWords r.action, Shell.IsSafe w

/-- An operation joins safe words only. -/
def Operation.IsSafe (op : Operation) : Prop :=
  ∃ words, op.Joins words ∧ ∀ w ∈ words, Shell.IsSafe w

/-- The words that announce conditions are safe. -/
lemma Condition.isSafe_keywords (c : Condition) : ∀ w ∈ c.keywords, Shell.IsSafe w := by
  cases c <;> simp only [keywords, List.forall_mem_cons] <;> decide

/-- Safe words that are joined to an action are the words of the action. -/
lemma actionWords_intercalate {words : List String} (hne : words ≠ [])
    (h : ∀ w ∈ words, Shell.IsSafe w) : actionWords (" ".intercalate words) = words := by
  rw [actionWords, Shell.fieldsOf_intercalate hne fun w hw => (h w hw).blank_notMem, List.map_map]
  have hid : String.ofList ∘ String.toList = id := funext fun w => String.ofList_toList
  rw [hid, List.map_id]

lemma actionWords_of_isSafe {action : String} (h : Shell.IsSafe action) :
    actionWords action = [action] := by
  have hwords : actionWords (" ".intercalate [action]) = [action] :=
    actionWords_intercalate (by simp) (by simpa using h)
  rwa [String.intercalate_singleton] at hwords

/-- The words of the action that sends packets to a port of an address. -/
lemma endpointAction_eq (address : String) (port : Nat) :
    "DNAT --to " ++ address ++ ":" ++ toString port =
      " ".intercalate ["DNAT", "--to", address ++ ":" ++ toString port] := by
  apply String.toList_injective
  simp

/-- The address and the port behind it are one word. -/
lemma isSafe_endpointWords {address : String} (h : Shell.IsSafe address) (port : Nat) :
    ∀ w ∈ ["DNAT", "--to", address ++ ":" ++ toString port], Shell.IsSafe w := by
  have hendpoint : Shell.IsSafe (address ++ ":" ++ toString port) :=
    (h.append (by decide)).append (isSafe_toString port)
  simp only [List.forall_mem_cons]
  exact ⟨by decide, by decide, hendpoint, by simp⟩

lemma actionWords_endpoint {address : String} (h : Shell.IsSafe address) (port : Nat) :
    actionWords ("DNAT --to " ++ address ++ ":" ++ toString port) =
      ["DNAT", "--to", address ++ ":" ++ toString port] := by
  rw [endpointAction_eq, actionWords_intercalate (by simp) (isSafe_endpointWords h port)]

section Rules

variable {conditions : List Condition}

/-- A rule whose action is a single word is safe with its conditions. -/
lemma Rule.isSafe {action : String} (h : ∀ c ∈ conditions, ∀ v ∈ c.values, Shell.IsSafe v)
    (haction : Shell.IsSafe action) : (Rule.mk conditions action).IsSafe := by
  refine ⟨h, ?_⟩
  rw [actionWords_of_isSafe haction, List.forall_mem_singleton]
  exact haction

/-- So is a rule that sends packets elsewhere. -/
lemma Rule.isSafe_endpoint {address : String} {port : Nat}
    (h : ∀ c ∈ conditions, ∀ v ∈ c.values, Shell.IsSafe v) (haddress : Shell.IsSafe address) :
    (Rule.mk conditions ("DNAT --to " ++ address ++ ":" ++ toString port)).IsSafe := by
  refine ⟨h, ?_⟩
  rw [actionWords_endpoint haddress]
  exact isSafe_endpointWords haddress port

end Rules

lemma Rule.IsSafe.words {r : Rule} (h : r.IsSafe) : ∀ w ∈ r.words, Shell.IsSafe w := by
  simp only [Rule.words, List.forall_mem_append, List.forall_mem_cons]
  refine ⟨fun w hw => ?_, by decide, h.2⟩
  obtain ⟨c, hc, hw⟩ := List.mem_flatMap.mp hw
  rcases List.mem_append.mp hw with hw | hw
  · exact c.isSafe_keywords w hw
  · exact h.1 c hc w hw

/-! ## Names of chains -/

lemma isSafe_ingress {c : String} (h : IsSafe c) : IsSafe (ingress c) :=
  Shell.IsSafe.append (by decide) h

lemma isSafe_egress {c : String} (h : IsSafe c) : IsSafe (egress c) :=
  Shell.IsSafe.append (by decide) h

/-! ## Services -/

namespace Service

/-- What the rules of an item ask for. -/
lemma conditions_of_mem_itemRules {item : ServiceItem} {r : Rule} (h : r ∈ itemRules item) :
    r.action = "ACCEPT" ∧ ∀ c ∈ r.conditions,
      (∃ s ∈ item.sources, c = .source s) ∨ (∃ d ∈ item.destination, c = .destination d) ∨
        c = .protocol item.protocol ∨ c = .sourcePort ephemeralPorts ∨
        c = .destinationPort (toString item.port) := by
  have hrest : ∀ c ∈ item.destination.toList.map Condition.destination ++ [.protocol item.protocol,
      .sourcePort ephemeralPorts, .destinationPort (toString item.port)],
      (∃ d ∈ item.destination, c = .destination d) ∨ c = .protocol item.protocol ∨
        c = .sourcePort ephemeralPorts ∨ c = .destinationPort (toString item.port) := by
    simp only [List.forall_mem_append, List.forall_mem_map, List.forall_mem_cons]
    exact ⟨fun d hd => .inl ⟨d, by simpa using hd, rfl⟩, by simp⟩
  simp only [itemRules] at h
  split at h
  · rw [List.mem_singleton.mp h]
    exact ⟨rfl, fun c hc => .inr (hrest c hc)⟩
  · obtain ⟨source, hsource, rfl⟩ := List.mem_map.mp h
    exact ⟨rfl, List.forall_mem_cons.mpr
      ⟨.inl ⟨source, hsource, rfl⟩, fun c hc => .inr (hrest c hc)⟩⟩

lemma isSafe_itemRules {item : ServiceItem} (h : item.Valid)
    (hsources : ∀ s ∈ item.sources, IsSafe s) (hdestination : ∀ d ∈ item.destination, IsSafe d) :
    ∀ r ∈ itemRules item, r.IsSafe := by
  rintro ⟨conditions, action⟩ hr
  obtain ⟨rfl, hconditions⟩ := conditions_of_mem_itemRules hr
  refine Rule.isSafe (fun c hc => ?_) (by decide)
  have hport : IsSafe item.port.repr := isSafe_toString _
  have hephemeral : IsSafe ephemeralPorts := by decide
  rcases hconditions c hc with ⟨s, hs, rfl⟩ | ⟨d, hd, rfl⟩ | rfl | rfl | rfl
  · simp [Condition.values, hsources s hs]
  · simp [Condition.values, hdestination d hd]
  · simp [Condition.values, IsSafe.of_isWord h.protocol]
  · simp [Condition.values, hephemeral]
  · simp [Condition.values, hport]

end Service

/-! ## Name services -/

namespace DnsForwarding

variable {item : DnsForward} {p : String}

lemma isSafe_of_mem_protocols : ∀ p ∈ protocols, IsSafe p := by decide

lemma isSafe_redirectRule (h : item.Valid) (hp : p ∈ protocols)
    (hsource : IsSafe item.sourceAddress)
    (hdestination : IsSafe item.destinationAddress) : (redirectRule item p).IsSafe := by
  have hlink : IsSafe item.interface := .of_isWord h.interface
  have hprotocol := isSafe_of_mem_protocols p hp
  have hport : IsSafe item.sourcePort.repr := isSafe_toString _
  refine Rule.isSafe_endpoint ?_ hdestination
  simp +decide [Condition.values, hlink, hprotocol, hsource, hport]

/-- Queries are accepted by rules that are safe for safe addresses. -/
lemma isSafe_acceptingRule {address : String} {port : Nat} (hp : p ∈ protocols)
    (haddress : IsSafe address) :
    (Rule.mk [.protocol p, .destination address, .destinationPort (toString port)]
      "ACCEPT").IsSafe := by
  have hprotocol := isSafe_of_mem_protocols p hp
  have hport : IsSafe port.repr := isSafe_toString _
  exact Rule.isSafe (by simp [Condition.values, hprotocol, haddress, hport]) (by decide)

end DnsForwarding

end FirewallPolicy
