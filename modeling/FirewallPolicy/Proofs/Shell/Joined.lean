import FirewallPolicy.Firewall.Operation
import FirewallPolicy.Proofs.Policy.ChainNames
import FirewallPolicy.Proofs.Shell.Words

/-!
# The words that a command joins

The arguments of a command are words with blanks between them: those of the conditions of a rule,
its action, and what the operation puts in front.

* `Condition.words`, `Rule.words`: the words of a rule, with `Rule.text_eq_intercalate`.
* `Operation.Joins`: the words of an operation, with `Operation.Joins.arguments_eq`.
-/

namespace FirewallPolicy

open Operation (appendRule insertRule deleteRule)

/-! ## Joining -/

/-- Texts that are joined from words, and then joined themselves, are joined from all the words. -/
lemma intercalate_map_intercalate {parts : List (List String)} (h : ∀ part ∈ parts, part ≠ []) :
    " ".intercalate (parts.map (" ".intercalate ·)) = " ".intercalate parts.flatten := by
  induction parts with
  | nil => rfl
  | cons part parts ih =>
    rw [List.forall_mem_cons] at h
    cases parts with
    | nil => simp
    | cons part' parts =>
      have hrest : (part' :: parts).flatten ≠ [] := by
        rw [List.flatten_cons]
        exact List.append_ne_nil_of_left_ne_nil (h.2 part' List.mem_cons_self) _
      rw [List.map_cons, String.intercalate_cons_of_ne_nil (by simp), ih h.2,
        List.flatten_cons (L := part' :: parts), String.intercalate_append_of_ne_nil h.1 hrest]

/-! ## Rules -/

/-- The words that announce what a condition is about. -/
def Condition.keywords : Condition → List String
  | .table _ => ["-t"]
  | .link _ => ["-i"]
  | .inInterface _ => ["--in-interface"]
  | .notInInterface _ => ["!", "--in-interface"]
  | .outInterface _ => ["--out-interface"]
  | .protocol _ => ["-p"]
  | .icmpType _ => ["--icmp-type"]
  | .source _ => ["-s"]
  | .destination _ => ["-d"]
  | .sourcePort _ => ["--sport"]
  | .destinationPort _ => ["--dport"]
  | .state _ => ["-m", "state", "--state"]
  | .owner _ => ["-m", "owner", "--uid-owner"]
  | .inSet _ _ => ["-m", "set", "--match-set"]

/-- The words that a condition is about. -/
def Condition.values : Condition → List String
  | .table name => [name]
  | .link name => [name]
  | .inInterface name => [name]
  | .notInInterface name => [name]
  | .outInterface name => [name]
  | .protocol name => [name]
  | .icmpType n => [toString n]
  | .source network => [network]
  | .destination network => [network]
  | .sourcePort ports => [ports]
  | .destinationPort ports => [ports]
  | .state states => [states]
  | .owner user => [toString user]
  | .inSet set side => [set, side]

/-- The words of a condition. -/
def Condition.words (c : Condition) : List String := c.keywords ++ c.values

/-- The words of an action: a target, and what it needs to know. -/
def actionWords (action : String) : List String :=
  (Text.fieldsOf ' ' action.toList).map String.ofList

/-- The words of a rule. -/
def Rule.words (r : Rule) : List String :=
  r.conditions.flatMap Condition.words ++ "-j" :: actionWords r.action

lemma Condition.text_eq_intercalate (c : Condition) : c.text = " ".intercalate c.words := by
  apply String.toList_injective
  cases c <;> unfold Condition.text <;> simp [Condition.words, Condition.keywords, Condition.values]

lemma intercalate_actionWords (action : String) :
    " ".intercalate (actionWords action) = action := by
  have hjoin : ∀ pieces : List (List Char),
      (" ".intercalate (pieces.map String.ofList)).toList = Text.joinWith ' ' pieces := by
    intro pieces
    induction pieces with
    | nil => rfl
    | cons piece pieces ih =>
      cases pieces with
      | nil => simp [Text.joinWith]
      | cons piece' pieces =>
        rw [List.map_cons, List.map_cons, String.intercalate_cons_cons, Text.joinWith]
        · rw [List.map_cons] at ih
          simp [ih]
        · simp
  apply String.toList_injective
  rw [actionWords, hjoin, Text.joinWith_fieldsOf]

/-- A rule joins its words. -/
theorem Rule.text_eq_intercalate (r : Rule) : r.text = " ".intercalate r.words := by
  let parts := r.conditions.map Condition.words ++ ["-j" :: actionWords r.action]
  -- Every condition and the action have words, so no blank stands beside an empty part.
  have hne : ∀ part ∈ parts, part ≠ [] := by
    simp only [parts, List.forall_mem_append, List.forall_mem_map, List.forall_mem_singleton]
    refine ⟨fun c _ => ?_, by simp⟩
    cases c <;> simp [Condition.words, Condition.keywords]
  have hlast : "-j " ++ r.action = " ".intercalate ("-j" :: actionWords r.action) := by
    have hwords : actionWords r.action ≠ [] := by simp [actionWords, Text.fieldsOf_ne_nil]
    rw [String.intercalate_cons_of_ne_nil hwords, intercalate_actionWords]
    apply String.toList_injective
    simp
  have hparts : parts.map (" ".intercalate ·) =
      r.conditions.map Condition.text ++ ["-j " ++ r.action] := by
    simp [parts, hlast, Condition.text_eq_intercalate, Function.comp_def]
  have hwords : parts.flatten = r.words := by simp [parts, Rule.words, List.flatMap]
  rw [Rule.text, ← hparts, intercalate_map_intercalate hne, hwords]

/-! ## Operations -/

namespace Operation

/-- The words that an operation joins to the arguments of its command. -/
inductive Joins : Operation → List String → Prop
  | newChain (c : String) : Joins (.newChain c) ["-N", c]
  | flushChain (c : String) : Joins (.flushChain c) ["-F", c]
  | deleteChain (c : String) : Joins (.deleteChain c) ["-X", c]
  | append (c : String) (r : Rule) : Joins (appendRule c r) ("-A" :: c :: r.words)
  | insert (c : String) (position : Nat) (r : Rule) :
    Joins (insertRule c position r) ("-I" :: c :: toString position :: r.words)
  | delete (c : String) (r : Rule) : Joins (deleteRule c r) ("-D" :: c :: r.words)
  | createSet (s type : String) : Joins (.createSet s type) ["-!", "create", s, type]
  | destroySet (s : String) : Joins (.destroySet s) ["-!", "destroy", s]
  | addToSet (s entry : String) : Joins (.addToSet s entry) ["-!", "add", s, entry]
  | flushSet (s : String) : Joins (.flushSet s) ["flush", s]

variable {op : Operation} {words : List String}

/-- Words in front of a rule are joined to it. -/
lemma joinParts_text {front : List String} (r : Rule) (hne : " ".intercalate front ≠ "") :
    joinParts [" ".intercalate front, r.text] = " ".intercalate (front ++ r.words) := by
  have hfront : front ≠ [] := by
    rintro rfl
    exact hne rfl
  have hwords : r.words ≠ [] := by simp [Rule.words]
  -- Empty parts would be left out, and neither of these is.
  have hparts : [" ".intercalate front, r.text].filter (!·.isEmpty) =
      [front, r.words].map (" ".intercalate ·) := by
    have hrule : r.text ≠ "" := r.text_ne_empty
    rw [Rule.text_eq_intercalate] at hrule ⊢
    simp [hne, hrule]
  have hall : ∀ part ∈ [front, r.words], part ≠ [] := by
    simp only [List.forall_mem_cons]
    exact ⟨hfront, hwords, by simp⟩
  rw [joinParts, hparts, intercalate_map_intercalate hall]
  simp

/-- An operation joins its words to the arguments of its command. -/
theorem Joins.arguments_eq (h : op.Joins words) : op.arguments = " ".intercalate words := by
  -- The arguments in front of a rule are not empty, since their first word is not.
  have hnonempty : ∀ w front, w ≠ "" → " ".intercalate (w :: front) ≠ "" := by
    intro w front hw hempty
    have hlist : (" ".intercalate (w :: front)).toList = [] := by rw [hempty]; rfl
    cases front with
    | nil =>
      rw [String.intercalate_singleton] at hempty
      exact hw hempty
    | cons w' front =>
      rw [String.intercalate_cons_cons] at hlist
      simp at hlist
  cases h with
  | append c r =>
    have hfront : "-A " ++ c = " ".intercalate ["-A", c] := by
      apply String.toList_injective
      simp
    rw [appendRule, arguments, hfront, joinParts_text r (hnonempty _ _ (by simp))]
    rfl
  | insert c position r =>
    have hfront : "-I " ++ c ++ " " ++ toString (position : Int) =
        " ".intercalate ["-I", c, toString position] := by
      apply String.toList_injective
      have hposition : toString (position : Int) = toString position := rfl
      simp [hposition]
    rw [insertRule, arguments, hfront, joinParts_text r (hnonempty _ _ (by simp))]
    rfl
  | delete c r =>
    have hfront : "-D " ++ c = " ".intercalate ["-D", c] := by
      apply String.toList_injective
      simp
    rw [deleteRule, arguments, hfront, joinParts_text r (hnonempty _ _ (by simp))]
    rfl
  | _ =>
    apply String.toList_injective
    simp [arguments]

end Operation

end FirewallPolicy
