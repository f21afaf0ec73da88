import FirewallPolicy.Proofs.Address.Notation
import FirewallPolicy.Proofs.Firewall.Commands
import FirewallPolicy.Proofs.Shell.SafeOperations

/-!
# Packets and the rules that they meet

What a rule asks of a packet is read off the text of the rule, word by word: options with a value
each, and the action behind `-j`.

* `Packet`, `Packet.meetsRule`: IPv4 packets, and whether a packet meets a rule.
* `Packet.action?`: what the first rule that a packet meets does with it.
* `Rule.ofText?_text`: the rules of a policy are read as they are written.
* `Packet.accepts_iff`: rules that all accept, with the way back behind them.
-/

namespace FirewallPolicy

open FirewallPolicy.Address

/-! ## Addresses and ports -/

namespace Address

/-- An address lies in what a text denotes, which is a network or a single address. -/
def IPv4.LiesIn (a : IPv4) (text : String) : Prop := ∃ n, Denotes text.toList n ∧ n.contains a

variable {a b : IPv4} {text : String}

lemma IPv4.liesIn_iff_any :
    a.LiesIn text ↔ (Network.ofChars? text.toList).any (·.contains a) = true := by
  rw [Option.any_eq_true]
  exact exists_congr fun n => and_congr_left fun _ => Network.ofChars?_eq_some_iff.symm

instance (a : IPv4) (text : String) : Decidable (a.LiesIn text) :=
  decidable_of_iff _ IPv4.liesIn_iff_any.symm

/-- What lies in a single address is the address itself. -/
lemma IPv4.liesIn_text_iff : a.LiesIn b.text ↔ a = b := by
  have hread : Network.ofChars? b.text.toList = some (Network.holding b 32 (Nat.le_refl _)) := by
    have hb : IPv4.ofChars? b.text.toList = some b := IPv4.ofChars?_eq_some_iff.mpr rfl
    simp only [Network.ofChars?, Text.fieldsOf_of_notMem (slash_notMem_text b), hb,
      Option.map_some]
  rw [IPv4.liesIn_iff_any, hread, Option.any_some]
  obtain ⟨m, hm⟩ := a
  obtain ⟨n, hn⟩ := b
  simp [Network.contains, Network.holding]

end Address

/-- A port, which is written in decimal. -/
def port? (cs : List Char) : Option ℕ := (position? cs).map Int.toNat

/-- The first and the last of some ports, with a colon between them, or a single port. -/
def portRange? (text : String) : Option (ℕ × ℕ) :=
  match (Text.fieldsOf ':' text.toList).mapM port? with
  | some [n] => some (n, n)
  | some [first, last] => some (first, last)
  | _ => none

/-- A port is among those that a text names. -/
def isAmong (port : ℕ) (ports : String) : Bool :=
  (portRange? ports).any fun r => decide (r.1 ≤ port ∧ port ≤ r.2)

lemma isAmong_toString (port n : ℕ) : isAmong port (toString n) = decide (port = n) := by
  have hfields : Text.fieldsOf ':' (Nat.toDigits 10 n) = [Nat.toDigits 10 n] :=
    Text.fieldsOf_of_notMem (notMem_toDigits rfl n)
  have hrange : portRange? (toString n) = some (n, n) := by
    simp [portRange?, hfields, port?, position?_toDigits]
  rw [isAmong, hrange, Option.any_some, decide_eq_decide]
  omega

/-- A port that may be missing is a certain one. -/
lemma any_isAmong_toString {port : Option ℕ} {n : ℕ} :
    port.any (isAmong · (toString n)) ↔ port = some n := by
  simp only [isAmong_toString]
  cases port <;> simp

lemma isAmong_ephemeralPorts (port : ℕ) :
    isAmong port ephemeralPorts = decide (1024 ≤ port ∧ port ≤ 65535) := by
  have hrange : portRange? ephemeralPorts = some (1024, 65535) := by decide +kernel
  rw [isAmong, hrange, Option.any_some]

/-! ## Packets -/

/-- An IPv4 packet, as far as rules look at it.  Not every packet has ports.  What the words for
protocols and links mean is left open, and so is what other rules ask. -/
structure Packet where
  source : IPv4
  destination : IPv4
  sourcePort : Option ℕ
  destinationPort : Option ℕ
  isOf : String → Bool
  cameBy : String → Bool
  meetsOther : String → Bool

/-- A packet meets a condition.  In which table a rule stands is not asked of packets. -/
def Packet.meets (p : Packet) : Condition → Bool
  | .table _ => true
  | .link name => p.cameBy name
  | .protocol name => p.isOf name
  | .source network => decide (p.source.LiesIn network)
  | .destination network => decide (p.destination.LiesIn network)
  | .sourcePort ports => p.sourcePort.any (isAmong · ports)
  | .destinationPort ports => p.destinationPort.any (isAmong · ports)
  | other => p.meetsOther other.text

/-! ## Reading rules -/

/-- The condition that an option makes of its value. -/
def optionCondition? (option value : String) : Option Condition :=
  if option = "-t" then some (.table value)
  else if option = "-i" then some (.link value)
  else if option = "-p" then some (.protocol value)
  else if option = "-s" then some (.source value)
  else if option = "-d" then some (.destination value)
  else if option = "--sport" then some (.sourcePort value)
  else if option = "--dport" then some (.destinationPort value)
  else none

/-- Reads the words of a rule. -/
def Rule.ofWords? : List String → Option Rule
  | [] => none
  | [_] => none
  | first :: second :: rest =>
    if first = "-j" then some ⟨[], " ".intercalate (second :: rest)⟩
    else do
      let condition ← optionCondition? first second
      let rule ← ofWords? rest
      return ⟨condition :: rule.conditions, rule.action⟩

/-- Reads the text of a rule. -/
def Rule.ofText? (text : String) : Option Rule :=
  ofWords? ((Text.fieldsOf ' ' text.toList).map String.ofList)

/-- A condition that a single option asks for. -/
def Condition.isOption : Condition → Bool
  | .table _ | .link _ | .protocol _ | .source _ | .destination _ => true
  | .sourcePort _ | .destinationPort _ => true
  | _ => false

/-- A rule of options, with values that are single words. -/
def Rule.Readable (r : Rule) : Prop :=
  ∀ c ∈ r.conditions, c.isOption ∧ ∀ value ∈ c.values, ' ' ∉ value.toList

section Reading

variable {c : Condition} {r : Rule}

/-- Rules of options are readable if they are made of safe words. -/
lemma Rule.IsSafe.readable (h : r.IsSafe) (hoption : ∀ c ∈ r.conditions, c.isOption) :
    r.Readable :=
  fun c hc => ⟨hoption c hc, fun value hvalue => (h.1 c hc value hvalue).blank_notMem⟩

lemma Condition.exists_option (h : c.isOption) :
    ∃ option value, c.keywords = [option] ∧ c.values = [value] ∧ option ≠ "-j" ∧
      ' ' ∉ option.toList ∧ optionCondition? option value = some c := by
  cases c with
  | table name => exact ⟨"-t", name, rfl, rfl, by decide, by decide, rfl⟩
  | link name => exact ⟨"-i", name, rfl, rfl, by decide, by decide, rfl⟩
  | protocol name => exact ⟨"-p", name, rfl, rfl, by decide, by decide, rfl⟩
  | source network => exact ⟨"-s", network, rfl, rfl, by decide, by decide, rfl⟩
  | destination network => exact ⟨"-d", network, rfl, rfl, by decide, by decide, rfl⟩
  | sourcePort ports => exact ⟨"--sport", ports, rfl, rfl, by decide, by decide, rfl⟩
  | destinationPort ports => exact ⟨"--dport", ports, rfl, rfl, by decide, by decide, rfl⟩
  | _ => cases h

/-- The words of a rule of options are read to that rule. -/
lemma Rule.ofWords?_words (h : ∀ c ∈ r.conditions, c.isOption) : ofWords? r.words = some r := by
  obtain ⟨conditions, action⟩ := r
  induction conditions with
  | nil =>
    obtain ⟨word, words, hwords⟩ : ∃ word words, actionWords action = word :: words :=
      List.exists_cons_of_ne_nil (by simp [actionWords, Text.fieldsOf_ne_nil])
    have haction := intercalate_actionWords action
    rw [hwords] at haction
    simp [Rule.words, hwords, ofWords?, haction]
  | cons c conditions ih =>
    rw [List.forall_mem_cons] at h
    obtain ⟨option, value, hkey, hvalue, hne, -, hread⟩ := c.exists_option h.1
    have hwords : Rule.words ⟨c :: conditions, action⟩ =
        option :: value :: Rule.words ⟨conditions, action⟩ := by
      simp [Rule.words, Condition.words, hkey, hvalue]
    rw [hwords, ofWords?, if_neg hne, hread, ih h.2]
    rfl

/-- A rule of options is read as it is written. -/
theorem Rule.ofText?_text (h : r.Readable) : ofText? r.text = some r := by
  have hwords : ∀ w ∈ r.words, ' ' ∉ w.toList := by
    intro w hw
    rcases List.mem_append.mp hw with hw | hw
    · obtain ⟨c, hc, hw⟩ := List.mem_flatMap.mp hw
      obtain ⟨option, value, hkey, hvalue, -, hblank, -⟩ := c.exists_option (h c hc).1
      rw [Condition.words, hkey, hvalue] at hw
      rcases List.mem_pair.mp hw with rfl | rfl
      · exact hblank
      · exact (h c hc).2 w (by rw [hvalue]; exact List.mem_singleton_self w)
    · rcases List.mem_cons.mp hw with rfl | hw
      · decide
      · obtain ⟨piece, hpiece, rfl⟩ := List.mem_map.mp hw
        rw [String.toList_ofList]
        exact Text.notMem_of_mem_fieldsOf hpiece
  have hpieces : (Text.fieldsOf ' ' r.text.toList).map String.ofList = r.words := by
    rw [Rule.text_eq_intercalate, Shell.fieldsOf_intercalate (by simp [Rule.words]) hwords,
      List.map_map]
    simp [Function.comp_def]
  rw [ofText?, hpieces]
  exact ofWords?_words fun c hc => (h c hc).1

end Reading

/-! ## What becomes of a packet -/

/-- A packet meets a rule: all its conditions, where they can be read. -/
def Packet.meetsRule (p : Packet) (rule : String) : Bool :=
  match Rule.ofText? rule with
  | some r => r.conditions.all p.meets
  | none => p.meetsOther rule

/-- What the first rule does that a packet meets. -/
def Packet.action? (p : Packet) (rules : List String) : Option String :=
  (rules.find? p.meetsRule).bind fun rule => (Rule.ofText? rule).map (·.action)

/-- What becomes of a packet in a chain of a state. -/
def Firewall.action? (f : Firewall) (c : String) (p : Packet) : Option String :=
  (f.chain? c).bind p.action?

section Actions

variable {p : Packet} {r : Rule} {rules : List Rule} {action : String}

lemma Packet.meetsRule_text (h : r.Readable) : p.meetsRule r.text = r.conditions.all p.meets := by
  rw [meetsRule, Rule.ofText?_text h]

lemma Rule.readable_leave : Rule.leave.Readable := by
  intro c hc
  cases hc

/-- Rules that a packet does not meet do nothing with it. -/
lemma Packet.action?_append_of_not_meets {first rest : List String}
    (h : ∀ rule ∈ first, ¬ p.meetsRule rule) : p.action? (first ++ rest) = p.action? rest := by
  have hnone : first.find? p.meetsRule = none := List.find?_eq_none.mpr h
  rw [action?, List.find?_append, hnone, Option.none_or, action?]

/-- Where rules all do the same, that is done with a packet that meets any of them. -/
lemma Packet.action?_append_of_meets {rest : List String} (hread : ∀ r ∈ rules, r.Readable)
    (haction : ∀ r ∈ rules, r.action = action) (h : ∃ r ∈ rules, r.conditions.all p.meets) :
    p.action? (rules.map Rule.text ++ rest) = some action := by
  induction rules with
  | nil => simp at h
  | cons r rules ih =>
    rw [List.forall_mem_cons] at hread haction
    have hmeets : p.meetsRule r.text = r.conditions.all p.meets := meetsRule_text hread.1
    by_cases hr : r.conditions.all p.meets
    · simp [action?, hmeets, hr, Rule.ofText?_text hread.1, haction.1]
    · have hrest : ∃ r ∈ rules, r.conditions.all p.meets := by
        obtain ⟨r', hr', hall⟩ := h
        rcases List.mem_cons.mp hr' with rfl | hr'
        · exact absurd hall hr
        · exact ⟨r', hr', hall⟩
      have hnot : ∀ rule ∈ [r.text], ¬ p.meetsRule rule := by
        rw [List.forall_mem_singleton, hmeets]
        exact hr
      have hskip : p.action? ([r.text] ++ (rules.map Rule.text ++ rest)) =
          p.action? (rules.map Rule.text ++ rest) := action?_append_of_not_meets hnot
      exact hskip.trans (ih hread.2 haction.2 hrest)

/-- Where no rule before the last one is met, the packet goes back. -/
lemma Packet.action?_leave (hread : ∀ r ∈ rules, r.Readable)
    (h : ¬ ∃ r ∈ rules, r.conditions.all p.meets) :
    p.action? (rules.map Rule.text ++ [Rule.leave.text]) = some "RETURN" := by
  have hnot : ∀ rule ∈ rules.map Rule.text, ¬ p.meetsRule rule := by
    rw [List.forall_mem_map]
    intro r hr
    rw [meetsRule_text (hread r hr)]
    exact fun hall => h ⟨r, hr, hall⟩
  have hleave : p.meetsRule Rule.leave.text := meetsRule_text Rule.readable_leave
  rw [action?_append_of_not_meets hnot, action?, List.find?_cons_of_pos hleave, Option.bind_some,
    Rule.ofText?_text Rule.readable_leave]
  rfl

/-- Where all rules accept, the packets that meet any of them are accepted; behind the rules the
others go back. -/
theorem Packet.accepts_iff {admitted : Prop} (hread : ∀ r ∈ rules, r.Readable)
    (haction : ∀ r ∈ rules, r.action = "ACCEPT")
    (h : (∃ r ∈ rules, r.conditions.all p.meets) ↔ admitted) :
    (p.action? (rules.map Rule.text ++ [Rule.leave.text]) = some "ACCEPT" ↔ admitted) ∧
      (¬ admitted → p.action? (rules.map Rule.text ++ [Rule.leave.text]) = some "RETURN") := by
  have hreturn : ¬ admitted →
      p.action? (rules.map Rule.text ++ [Rule.leave.text]) = some "RETURN" :=
    fun hnot => action?_leave hread (h.not.mpr hnot)
  refine ⟨⟨fun haccept => ?_, fun hadmitted => ?_⟩, hreturn⟩
  · by_contra hnot
    rw [hreturn hnot] at haccept
    exact absurd haccept (by decide)
  · exact action?_append_of_meets hread haction (h.mpr hadmitted)

end Actions

end FirewallPolicy
