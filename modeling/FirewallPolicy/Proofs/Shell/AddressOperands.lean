import FirewallPolicy.Proofs.Address.Families
import FirewallPolicy.Proofs.Shell.SafeOperations

/-!
# The addresses among the arguments

The tools for rules and sets are those of IPv4.  The operands they take for addresses are the values
of some options, and the entries that are put into sets; which ones, is read off the commands as
they are called.

* `Command.addressOperands`: the operands of a command that are taken for addresses or networks.
* `Rule.Takes`: the operands of a rule are of IPv4 exactly if some texts are.
* `StandOrFall`: so it is with some operations.
-/

namespace FirewallPolicy

open FirewallPolicy.Address
open FirewallPolicy.ChainName
open Operation (appendRule insertRule deleteRule teardown)
open Shell (IsSafe isSafe_toString)

/-! ## Operands -/

/-- The words of the arguments of a command, as far as blanks set them apart. -/
def Command.words (c : Command) : List String :=
  (Text.fieldsOf ' ' c.arguments.toList).map String.ofList

/-- The options among some words with their values.  What begins with a dash is an option, and the
word behind it is its value, whatever it begins with. -/
def optionsOf : List String → List (String × String)
  | option :: value :: rest =>
    if option.toList.head? = some '-' then (option, value) :: optionsOf rest
    else optionsOf (value :: rest)
  | _ => []

/-- A written number is no option. -/
lemma toString_head?_ne (n : Nat) : (toString n).toList.head? ≠ some '-' := fun hdash =>
  notMem_toDigits (c := '-') rfl n (List.mem_of_head? (by simpa using hdash))

/-- What stands before the last colon, or the whole text where there is none. -/
def beforePort (cs : List Char) : List Char :=
  match Text.cutAt? ':' cs.reverse with
  | some (_, before) => before.reverse
  | none => cs

/-- The address or network that is the value of an option: the source or the destination of a
packet, or where it is sent, without the port. -/
def addressOf? (option value : String) : Option String :=
  if option = "-s" ∨ option = "-d" then some value
  else if option = "--to" then some (String.ofList (beforePort value.toList))
  else none

/-- The addresses and networks among the words of a rule. -/
def addressesOf (words : List String) : List String :=
  (optionsOf words).filterMap fun (option, value) => addressOf? option value

/-- The operands of a command that its tool takes for addresses or networks. -/
def Command.addressOperands (c : Command) : List String :=
  match c.kind, c.words with
  | .iptables4, words => addressesOf words
  | .ipset, "-!" :: "add" :: _ :: entry :: _ => [entry]
  | .ipset, _ => []

example : (Command.mk .iptables4 "-I c 1 -i -s -d 10.0.0.1 -j DNAT --to 10.0.0.2:53"
    ).addressOperands = ["10.0.0.1", "10.0.0.2"] := by
  cbv

section

variable {option value : String} {rest : List String}

lemma addressesOf_option (hdash : option.toList.head? = some '-') :
    addressesOf (option :: value :: rest) =
      (addressOf? option value).toList ++ addressesOf rest := by
  rw [addressesOf, optionsOf, if_pos hdash, List.filterMap_cons]
  cases haddress : addressOf? option value <;> simp [addressesOf, haddress]

/-- Options of other kinds are passed over with their values. -/
lemma addressesOf_other (hdash : option.toList.head? = some '-')
    (hother : addressOf? option value = none) :
    addressesOf (option :: value :: rest) = addressesOf rest := by
  rw [addressesOf_option hdash, hother, Option.toList_none, List.nil_append]

/-- So are words that are no options. -/
lemma addressesOf_word (hdash : option.toList.head? ≠ some '-') :
    addressesOf (option :: rest) = addressesOf rest := by
  cases rest with
  | nil => rfl
  | cons value rest => rw [addressesOf, optionsOf, if_neg hdash, addressesOf]

end

/-! ## Words of joined words -/

/-- Joined words fall into the words that each of them falls into. -/
lemma actionWords_intercalate_eq_flatMap {words : List String} (hne : words ≠ []) :
    actionWords (" ".intercalate words) = words.flatMap actionWords := by
  induction words with
  | nil => exact absurd rfl hne
  | cons word words ih =>
    cases words with
    | nil => simp
    | cons word' words =>
      have htext : (" ".intercalate (word :: word' :: words)).toList =
          word.toList ++ ' ' :: (" ".intercalate (word' :: words)).toList := by
        simp
      rw [actionWords, htext, Text.fieldsOf_append_sep, List.map_append, List.flatMap_cons,
        ← ih (by simp)]
      rfl

/-- The words of a command are those of the words that it joins. -/
lemma Operation.Joins.words_eq {op : Operation} {words : List String} (h : op.Joins words) :
    op.command.words = words.flatMap actionWords := by
  have hne : words ≠ [] := by
    rintro rfl
    cases h
  rw [← actionWords_intercalate_eq_flatMap hne, ← h.arguments_eq]
  rfl

/-! ## Texts as the values of options -/

/-- All of some texts are of IPv4. -/
def AllIPv4 (texts : List String) : Prop := ∀ text ∈ texts, IsIPv4 text

instance (texts : List String) : Decidable (AllIPv4 texts) :=
  inferInstanceAs (Decidable (∀ text ∈ texts, IsIPv4 text))

@[simp] lemma allIPv4_nil : AllIPv4 [] := List.forall_mem_nil _

@[simp] lemma allIPv4_cons {text : String} {texts : List String} :
    AllIPv4 (text :: texts) ↔ IsIPv4 text ∧ AllIPv4 texts := List.forall_mem_cons

@[simp] lemma allIPv4_append {texts texts' : List String} :
    AllIPv4 (texts ++ texts') ↔ AllIPv4 texts ∧ AllIPv4 texts' := List.forall_mem_append

@[simp] lemma allIPv4_flatMap {α : Type} {xs : List α} {f : α → List String} :
    AllIPv4 (xs.flatMap f) ↔ ∀ x ∈ xs, AllIPv4 (f x) := List.forall_mem_flatMap

@[simp] lemma allIPv4_map {α : Type} {xs : List α} {f : α → String} :
    AllIPv4 (xs.map f) ↔ ∀ x ∈ xs, IsIPv4 (f x) := List.forall_mem_map

/-- Of the words that a value falls into the first tells whether something holds: it is seen to be
of IPv4 exactly if it does, and then it is the only one. -/
def FirstTells (words : List String) (see : String → String) (p : Prop) : Prop :=
  ∃ first rest, words = first :: rest ∧ (IsIPv4 (see first) ↔ p) ∧ (p → rest = [])

/-- The value of an option is an operand, and what else is asked for is so behind it. -/
lemma FirstTells.allIPv4_iff {words : List String} {see : String → String} {p : Prop}
    (h : FirstTells words see p) {option : String} (hdash : option.toList.head? = some '-')
    (hsee : ∀ value, addressOf? option value = some (see value)) (tail : List String) :
    AllIPv4 (addressesOf (option :: (words ++ tail))) ↔ p ∧ AllIPv4 (addressesOf tail) := by
  obtain ⟨first, rest, rfl, hfirst, hrest⟩ := h
  rw [List.cons_append, addressesOf_option hdash, hsee, Option.toList_some, List.singleton_append,
    allIPv4_cons, hfirst]
  refine and_congr_right fun hp => ?_
  rw [hrest hp, List.nil_append]

/-- Whether an accepted text is of IPv4 is told by its first word. -/
lemma firstTells_subject {text : String} (h : IsSubject text) :
    FirstTells (actionWords text) id (IsIPv4 text) := by
  by_cases hfamily : IsIPv4 text
  · refine ⟨text, [], ?_, Iff.rfl, fun _ => rfl⟩
    rw [actionWords, Text.fieldsOf_of_notMem hfamily.blank_notMem, List.map_singleton,
      String.ofList_toList]
  · obtain ⟨first, rest, hfields, hcount⟩ := (hasColons_of_isSubject h hfamily).exists_fieldsOf
    refine ⟨String.ofList first, rest.map String.ofList, by rw [actionWords, hfields]; rfl,
      iff_of_false (fun hfirst => hfirst.colon_notMem ?_) hfamily, fun hp => absurd hp hfamily⟩
    rw [id, String.toList_ofList]
    exact List.count_pos_iff.mp (by omega)

lemma beforePort_append {port : List Char} (hport : ':' ∉ port) (address : List Char) :
    beforePort (address ++ ':' :: port) = address := by
  have hreverse : (address ++ ':' :: port).reverse = port.reverse ++ ':' :: address.reverse := by
    simp
  rw [beforePort, hreverse, Text.cutAt?_append (by simpa using hport)]
  exact List.reverse_reverse address

/-- One colon is cut off. -/
lemma count_le_count_beforePort (cs : List Char) :
    cs.count ':' ≤ (beforePort cs).count ':' + 1 := by
  by_cases hcolon : ':' ∈ cs
  · obtain ⟨port, before, hreverse, hport⟩ :=
      List.eq_append_cons_of_mem (List.mem_reverse.mpr hcolon)
    have hcs : cs = before.reverse ++ ':' :: port.reverse := by
      rw [← List.reverse_reverse cs, hreverse]
      simp
    have hport' : ':' ∉ port.reverse := by rwa [List.mem_reverse]
    rw [hcs, beforePort_append hport', List.count_append, List.count_cons_self,
      List.count_eq_zero_of_not_mem hport']
  · rw [List.count_eq_zero_of_not_mem hcolon]
    exact Nat.zero_le _

/-- Whether an accepted address with a port behind it is of IPv4 is told by the first word. -/
lemma firstTells_endpoint {address : String} (h : isAddress address) (port : Nat) :
    FirstTells (actionWords (address ++ ":" ++ toString port))
      (fun word => String.ofList (beforePort word.toList)) (IsIPv4 address) := by
  have htext : (address ++ ":" ++ toString port).toList =
      address.toList ++ ':' :: Nat.toDigits 10 port := by
    simp
  by_cases hfamily : IsIPv4 address
  · have hblank : ' ' ∉ (address ++ ":" ++ toString port).toList := by
      rw [htext, List.mem_append, List.mem_cons, not_or, not_or]
      exact ⟨hfamily.blank_notMem, by decide, notMem_toDigits rfl port⟩
    refine ⟨address ++ ":" ++ toString port, [], ?_, ?_, fun _ => rfl⟩
    · rw [actionWords, Text.fieldsOf_of_notMem hblank, List.map_singleton, String.ofList_toList]
    · dsimp only
      rw [htext, beforePort_append (notMem_toDigits rfl port), String.ofList_toList]
  · have hcolons := (hasColons_of_isSubject (.inl h) hfamily).append (':' :: Nat.toDigits 10 port)
    rw [← htext] at hcolons
    obtain ⟨first, rest, hfields, hcount⟩ := hcolons.exists_fieldsOf
    refine ⟨String.ofList first, rest.map String.ofList, by rw [actionWords, hfields]; rfl,
      iff_of_false (fun hfirst => hfirst.colon_notMem ?_) hfamily, fun hp => absurd hp hfamily⟩
    have hleft := count_le_count_beforePort first
    rw [String.toList_ofList, String.toList_ofList]
    exact List.count_pos_iff.mp (by omega)

/-! ## Rules -/

/-- The address or network that a condition is about. -/
@[simp] def Condition.address? : Condition → Option String
  | .source network => some network
  | .destination network => some network
  | _ => none

/-- What a condition is about is an address or a network where it has to be, and otherwise words
that a shell leaves alone. -/
def Condition.IsClear : Condition → Prop
  | .source network => IsSubject network
  | .destination network => IsSubject network
  | .inSet set side => IsSafe set ∧ IsSafe side ∧ side.toList.head? ≠ some '-'
  | c => ∀ v ∈ c.values, IsSafe v

/-- Safe words fall into no further words. -/
lemma flatMap_actionWords {words : List String} (h : ∀ w ∈ words, IsSafe w) :
    words.flatMap actionWords = words := by
  rw [List.flatMap_congr fun w hw => actionWords_of_isSafe (h w hw)]
  simp

/-- The operands of a condition are of IPv4 exactly if what it is about is. -/
lemma Condition.IsClear.allIPv4_iff {c : Condition} (h : c.IsClear) (tail : List String) :
    AllIPv4 (addressesOf (c.words.flatMap actionWords ++ tail)) ↔
      AllIPv4 c.address?.toList ∧ AllIPv4 (addressesOf tail) := by
  have hpasses : addressesOf (c.keywords ++ c.values ++ tail) = addressesOf tail →
      (∀ v ∈ c.values, IsSafe v) → c.address? = none →
      (AllIPv4 (addressesOf (c.words.flatMap actionWords ++ tail)) ↔
        AllIPv4 c.address?.toList ∧ AllIPv4 (addressesOf tail)) := by
    intro hsame hvalues hnone
    rw [Condition.words, List.flatMap_append, flatMap_actionWords c.isSafe_keywords,
      flatMap_actionWords hvalues, hsame, hnone]
    simp
  cases c with
  | source network =>
    have hwords : (source network).words.flatMap actionWords = "-s" :: actionWords network := by
      simp [words, keywords, values, actionWords_of_isSafe (show IsSafe "-s" by decide)]
    rw [hwords, List.cons_append, (firstTells_subject h).allIPv4_iff (by decide) fun _ => rfl]
    simp
  | destination network =>
    have hwords : (destination network).words.flatMap actionWords =
        "-d" :: actionWords network := by
      simp [words, keywords, values, actionWords_of_isSafe (show IsSafe "-d" by decide)]
    rw [hwords, List.cons_append, (firstTells_subject h).allIPv4_iff (by decide) fun _ => rfl]
    simp
  | inSet set side =>
    refine hpasses ?_ (by simp [values, h.1, h.2.1]) rfl
    exact (addressesOf_other (by decide) rfl).trans <|
      (addressesOf_other (by decide) rfl).trans (addressesOf_word h.2.2)
  | notInInterface name =>
    exact hpasses ((addressesOf_word (by decide)).trans (addressesOf_other (by decide) rfl)) h rfl
  | state states =>
    exact hpasses ((addressesOf_other (by decide) rfl).trans
      (addressesOf_other (by decide) rfl)) h rfl
  | owner user =>
    exact hpasses ((addressesOf_other (by decide) rfl).trans
      (addressesOf_other (by decide) rfl)) h rfl
  | _ => exact hpasses (addressesOf_other (by decide) rfl) h rfl

/-- The addresses and networks that conditions are about. -/
def addressesAsked (conditions : List Condition) : List String :=
  conditions.flatMap fun c => c.address?.toList

@[simp] lemma addressesAsked_nil : addressesAsked [] = [] := rfl

@[simp] lemma addressesAsked_cons (c : Condition) (conditions : List Condition) :
    addressesAsked (c :: conditions) = c.address?.toList ++ addressesAsked conditions :=
  List.flatMap_cons

@[simp] lemma addressesAsked_append (conditions conditions' : List Condition) :
    addressesAsked (conditions ++ conditions') =
      addressesAsked conditions ++ addressesAsked conditions' := List.flatMap_append

/-- So it is with all conditions of a rule. -/
lemma allIPv4_conditions_iff {conditions : List Condition} (h : ∀ c ∈ conditions, c.IsClear)
    (tail : List String) :
    AllIPv4 (addressesOf ((conditions.flatMap Condition.words).flatMap actionWords ++ tail)) ↔
      AllIPv4 (addressesAsked conditions) ∧ AllIPv4 (addressesOf tail) := by
  induction conditions with
  | nil => simp
  | cons c conditions ih =>
    rw [List.forall_mem_cons] at h
    rw [List.flatMap_cons, List.flatMap_append, List.append_assoc, h.1.allIPv4_iff, ih h.2,
      addressesAsked_cons, allIPv4_append, and_assoc]

/-- The operands of a rule are of IPv4 exactly if some texts are. -/
def Rule.Takes (r : Rule) (texts : List String) : Prop :=
  AllIPv4 (addressesOf (r.words.flatMap actionWords)) ↔ AllIPv4 texts

lemma Rule.words_flatMap (conditions : List Condition) (action : String) :
    (Rule.mk conditions action).words.flatMap actionWords =
      (conditions.flatMap Condition.words).flatMap actionWords ++
        "-j" :: (actionWords action).flatMap actionWords := by
  have hdash : actionWords "-j" = ["-j"] := by decide
  rw [Rule.words, List.flatMap_append, List.flatMap_cons, hdash, List.singleton_append]

/-- A rule whose action is a single word takes what its conditions are about. -/
lemma Rule.takes {conditions : List Condition} {action : String} (h : ∀ c ∈ conditions, c.IsClear)
    (haction : Shell.IsSafe action) :
    (Rule.mk conditions action).Takes (addressesAsked conditions) := by
  rw [Rule.Takes, Rule.words_flatMap, allIPv4_conditions_iff h, actionWords_of_isSafe haction,
    List.flatMap_singleton, actionWords_of_isSafe haction, addressesOf_other (by decide) rfl]
  simp [addressesOf, optionsOf]

/-- A rule that jumps takes nothing. -/
lemma Rule.takes_jump {c : String} (hc : Shell.IsSafe c) : (Rule.jump [] c).Takes [] :=
  Rule.takes (by simp) hc

lemma Rule.takes_leave : Rule.leave.Takes [] := Rule.takes (by simp) (by decide)

/-- A rule that sends packets elsewhere takes the address there too. -/
lemma Rule.takes_endpoint {conditions : List Condition} {address : String} {port : Nat}
    (h : ∀ c ∈ conditions, c.IsClear) (haddress : isAddress address) :
    (Rule.mk conditions ("DNAT --to " ++ address ++ ":" ++ toString port)).Takes
      (addressesAsked conditions ++ [address]) := by
  have hfront : actionWords "DNAT" = ["DNAT"] ∧ actionWords "--to" = ["--to"] := by decide
  -- The words of the action fall into no further words.
  have hwords : (actionWords ("DNAT --to " ++ address ++ ":" ++ toString port)).flatMap
      actionWords = "DNAT" :: "--to" :: actionWords (address ++ ":" ++ toString port) := by
    have honce : ∀ action, (actionWords action).flatMap actionWords = actionWords action := by
      intro action
      rw [← actionWords_intercalate_eq_flatMap (by simp [actionWords, Text.fieldsOf_ne_nil]),
        intercalate_actionWords]
    rw [honce, endpointAction_eq, actionWords_intercalate_eq_flatMap (by simp)]
    simp [hfront]
  have hto : AllIPv4 (addressesOf ("--to" :: (actionWords (address ++ ":" ++ toString port) ++ [])))
      ↔ IsIPv4 address ∧ AllIPv4 (addressesOf []) :=
    (firstTells_endpoint haddress port).allIPv4_iff (by decide) (fun _ => rfl) []
  rw [List.append_nil] at hto
  rw [Rule.Takes, Rule.words_flatMap, allIPv4_conditions_iff h, hwords,
    addressesOf_other (by decide) rfl, hto, allIPv4_append]
  simp [addressesOf, optionsOf]

/-! ## Operations -/

/-- The operands of some operations are of IPv4 exactly if some texts are. -/
def StandOrFall (ops : List Operation) (texts : List String) : Prop :=
  (∀ op ∈ ops, AllIPv4 op.command.addressOperands) ↔ AllIPv4 texts

namespace StandOrFall

variable {ops ops' : List Operation} {texts texts' : List String} {c s : String} {r : Rule}

protected lemma nil : StandOrFall [] [] := by simp [StandOrFall]

protected lemma append (h : StandOrFall ops texts) (h' : StandOrFall ops' texts') :
    StandOrFall (ops ++ ops') (texts ++ texts') := by
  rw [StandOrFall, List.forall_mem_append, allIPv4_append]
  exact and_congr h h'

protected lemma cons {op : Operation} (h : StandOrFall [op] texts) (h' : StandOrFall ops texts') :
    StandOrFall (op :: ops) (texts ++ texts') := h.append h'

/-- Operations that stand or fall with nothing may stand in front. -/
lemma nil_append (h : StandOrFall ops []) (h' : StandOrFall ops' texts) :
    StandOrFall (ops ++ ops') texts := h.append h'

lemma nil_cons {op : Operation} (h : StandOrFall [op] []) (h' : StandOrFall ops texts) :
    StandOrFall (op :: ops) texts := h.append h'

protected lemma reverse (h : StandOrFall ops texts) : StandOrFall ops.reverse texts := by
  simpa only [StandOrFall, List.mem_reverse] using h

protected lemma flatMap {α : Type} {xs : List α} {f : α → List Operation} {g : α → List String}
    (h : ∀ x ∈ xs, StandOrFall (f x) (g x)) : StandOrFall (xs.flatMap f) (xs.flatMap g) := by
  rw [StandOrFall, List.forall_mem_flatMap, allIPv4_flatMap]
  exact forall₂_congr h

/-- Texts that are of IPv4 just the same may stand in the place of others. -/
lemma congr (h : StandOrFall ops texts) (hsame : AllIPv4 texts ↔ AllIPv4 texts') :
    StandOrFall ops texts' := Iff.trans h hsame

/-- Operations of which each stands or falls with nothing stand or fall with nothing. -/
lemma of_forall (h : ∀ op ∈ ops, StandOrFall [op] []) : StandOrFall ops [] := by
  refine iff_of_true (fun op hop => ?_) allIPv4_nil
  exact (h op hop).mpr allIPv4_nil op List.mem_cons_self

/-- So do operations whose operands are of IPv4 at any rate. -/
lemma of_allIPv4 (h : ∀ op ∈ ops, AllIPv4 op.command.addressOperands) : StandOrFall ops [] :=
  iff_of_true h allIPv4_nil

protected lemma map {α : Type} {xs : List α} {f : α → Operation} {g : α → List String}
    (h : ∀ x ∈ xs, StandOrFall [f x] (g x)) : StandOrFall (xs.map f) (xs.flatMap g) := by
  rw [← List.flatMap_singleton' (xs.map f), List.flatMap_map]
  exact .flatMap h

/-- What a command of the tool for rules stands or falls with is told by its words. -/
lemma of_words {op : Operation} (hkind : op.kind = .iptables4)
    (h : AllIPv4 (addressesOf op.command.words) ↔ AllIPv4 texts) : StandOrFall [op] texts := by
  have hoperands : op.command.addressOperands = addressesOf op.command.words := by
    have hcommand : op.command.kind = .iptables4 := hkind
    simp only [Command.addressOperands, hcommand]
  rw [StandOrFall, List.forall_mem_singleton, hoperands, h]

/-- An option and a chain are no operands. -/
lemma of_option {op : Operation} {option : String} (hkind : op.kind = .iptables4)
    (hjoins : op.Joins [option, c]) (hc : IsSafe c) (hoption : IsSafe option)
    (hdash : option.toList.head? = some '-') (hother : addressOf? option c = none) :
    StandOrFall [op] [] := by
  refine of_words hkind ?_
  have hsafe : ∀ w ∈ [option, c], IsSafe w := by simp [hoption, hc]
  rw [hjoins.words_eq, flatMap_actionWords hsafe, addressesOf_other hdash hother]
  simp [addressesOf, optionsOf]

/-- Words in front of a rule add no operands. -/
lemma of_rule {op : Operation} (front : List String) (hkind : op.kind = .iptables4)
    (hjoins : op.Joins (front ++ r.words)) (hfront : ∀ w ∈ front, IsSafe w)
    (hpassed : ∀ tail, addressesOf (front ++ tail) = addressesOf tail) (hr : r.Takes texts) :
    StandOrFall [op] texts := by
  refine of_words hkind ?_
  rw [hjoins.words_eq, List.flatMap_append, flatMap_actionWords hfront, hpassed]
  exact hr

section

variable (hc : IsSafe c)

include hc

lemma newChain : StandOrFall [.newChain c] [] :=
  of_option rfl (.newChain c) hc (by decide) (by decide) rfl

lemma teardown : StandOrFall (Operation.teardown c) [] :=
  .append (of_option rfl (.flushChain c) hc (by decide) (by decide) rfl)
    (of_option rfl (.deleteChain c) hc (by decide) (by decide) rfl)

lemma appendRule (hr : r.Takes texts) : StandOrFall [Operation.appendRule c r] texts :=
  of_rule ["-A", c] rfl (.append c r) (by simp +decide [hc])
    (fun _ => addressesOf_other (by decide) rfl) hr

lemma insertRule (position : Nat) (hr : r.Takes texts) :
    StandOrFall [Operation.insertRule c position r] texts := by
  have hsafe : IsSafe position.repr := isSafe_toString position
  exact of_rule ["-I", c, toString position] rfl (.insert c position r)
    (by simp +decide [hc, hsafe])
    (fun _ => (addressesOf_other (by decide) rfl).trans (addressesOf_word (toString_head?_ne position))) hr

lemma deleteRule (hr : r.Takes texts) : StandOrFall [Operation.deleteRule c r] texts :=
  of_rule ["-D", c] rfl (.delete c r) (by simp +decide [hc])
    (fun _ => addressesOf_other (by decide) rfl) hr

end

/-- Making and emptying sets takes no operands. -/
lemma createSet {type : String} (hs : IsSafe s) (htype : IsSafe type) :
    StandOrFall [.createSet s type] [] := by
  have hsafe : ∀ w ∈ ["-!", "create", s, type], IsSafe w := by simp +decide [hs, htype]
  refine of_allIPv4 ?_
  rw [List.forall_mem_singleton, Command.addressOperands,
    (Operation.Joins.createSet s type).words_eq, flatMap_actionWords hsafe]
  exact allIPv4_nil

lemma destroySet (hs : IsSafe s) : StandOrFall [.destroySet s] [] := by
  have hsafe : ∀ w ∈ ["-!", "destroy", s], IsSafe w := by simp +decide [hs]
  refine of_allIPv4 ?_
  rw [List.forall_mem_singleton, Command.addressOperands,
    (Operation.Joins.destroySet s).words_eq, flatMap_actionWords hsafe]
  exact allIPv4_nil

lemma flushSet (hs : IsSafe s) : StandOrFall [.flushSet s] [] := by
  have hsafe : ∀ w ∈ ["flush", s], IsSafe w := by simp +decide [hs]
  refine of_allIPv4 ?_
  rw [List.forall_mem_singleton, Command.addressOperands,
    (Operation.Joins.flushSet s).words_eq, flatMap_actionWords hsafe]
  exact allIPv4_nil

/-- An entry that is put into a set is an operand. -/
lemma addToSet (hs : IsSafe s) {entry : String} (h : IsSubject entry) :
    StandOrFall [.addToSet s entry] [entry] := by
  obtain ⟨first, rest, hwords, hfirst, -⟩ := firstTells_subject h
  have hfront : ∀ w ∈ ["-!", "add", s], IsSafe w := by simp +decide [hs]
  have hcommand : (Operation.addToSet s entry).command.words =
      "-!" :: "add" :: s :: first :: rest := by
    rw [(Operation.Joins.addToSet s entry).words_eq, ← hwords]
    show (["-!", "add", s] ++ [entry]).flatMap actionWords = _
    rw [List.flatMap_append, flatMap_actionWords hfront, List.flatMap_singleton]
    rfl
  have hoperands : (Operation.addToSet s entry).command.addressOperands = [first] := by
    rw [Command.addressOperands, hcommand]
    rfl
  rw [StandOrFall, List.forall_mem_singleton, hoperands]
  simpa using hfirst

end StandOrFall

end FirewallPolicy
