import FirewallPolicy.Firewall.Rule
import FirewallPolicy.Proofs.Text.Cuts
import Mathlib.Data.List.Basic
import Mathlib.Tactic.Common

/-!
# Rules as texts

A chain holds its rules as texts.  What a tool has to know about such a text is read off it here:

* `ruleTarget?`, the word behind a final `-j`, which is where a rule sends its packets, with
  `ruleTarget?_eq_some_iff` saying it in terms of the end of the text;
* `ruleMatch`, what stands before that `-j`;
* `matchedSet?`, the set that a text which begins with a set match looks into.

The `Rule.…_text` lemmas say what these readers find in the text of a structured rule.
-/

namespace FirewallPolicy

/-! ## Last words -/

/-- A text without its last word, the blank before that word included, and the last word. -/
def splitLastWord : List Char → List Char × List Char
  | [] => ([], [])
  | c :: cs =>
    let (before, word) := splitLastWord cs
    if before.isEmpty ∧ c ≠ ' ' then ([], c :: word) else (c :: before, word)

/-- Nothing is lost when the last word is split off. -/
lemma splitLastWord_append (cs : List Char) :
    (splitLastWord cs).1 ++ (splitLastWord cs).2 = cs := by
  induction cs with
  | nil => rfl
  | cons c cs ih =>
    simp only [splitLastWord]
    split
    · rename_i h
      have hnil : (splitLastWord cs).1 = [] := List.isEmpty_iff.mp h.1
      rw [hnil, List.nil_append] at ih
      simp [ih]
    · simp [ih]

/-- The last word has no blank. -/
lemma blank_notMem_splitLastWord (cs : List Char) : ' ' ∉ (splitLastWord cs).2 := by
  induction cs with
  | nil => simp [splitLastWord]
  | cons c cs ih =>
    simp only [splitLastWord]
    split
    · rename_i h
      simp only [List.mem_cons, not_or]
      exact ⟨fun hc => h.2 hc.symm, ih⟩
    · exact ih

/-- A text without blanks is a single word. -/
lemma splitLastWord_word {w : List Char} (hw : ' ' ∉ w) : splitLastWord w = ([], w) := by
  induction w with
  | nil => rfl
  | cons c w ih =>
    rw [List.mem_cons, not_or] at hw
    have hc : c ≠ ' ' := fun h => hw.1 h.symm
    simp [splitLastWord, ih hw.2, hc]

/-- The word behind the last blank is the last one. -/
lemma splitLastWord_blank (xs : List Char) {w : List Char} (hw : ' ' ∉ w) :
    splitLastWord (xs ++ ' ' :: w) = (xs ++ [' '], w) := by
  induction xs with
  | nil => simp [splitLastWord, splitLastWord_word hw]
  | cons c xs ih =>
    rw [List.cons_append, splitLastWord, ih]
    simp

/-! ## Reading a rule -/

/-- Where a rule sends its packets: the last word, if a `-j` stands before it. -/
def ruleTarget? (rule : String) : Option String :=
  let (before, word) := splitLastWord rule.toList
  if "-j ".toList <:+ before then some (String.ofList word) else none

/-- What a rule asks of a packet: all that stands before the blank and the final `-j`. -/
def ruleMatch (rule : String) : String :=
  let before := (splitLastWord rule.toList).1
  String.ofList (before.take (before.length - 4))

/-- How a rule begins that looks into a set. -/
def setMatchStart : List Char := "-m set --match-set ".toList

/-- The set that a rule looks into, which it does at its beginning. -/
def matchedSet? (rule : String) : Option String :=
  if setMatchStart <+: rule.toList then
    (Text.cutAt? ' ' (rule.toList.drop setMatchStart.length)).map fun cut => String.ofList cut.1
  else none

/-- The characters of `setMatchStart`. -/
lemma setMatchStart_eq : setMatchStart = ['-', 'm', ' ', 's', 'e', 't', ' ', '-', '-', 'm', 'a',
    't', 'c', 'h', '-', 's', 'e', 't', ' '] := rfl

/-- A rule sends its packets to a word exactly if it ends in `-j` and that word. -/
lemma ruleTarget?_eq_some_iff (rule target : String) :
    ruleTarget? rule = some target ↔
      ' ' ∉ target.toList ∧ ("-j " ++ target).toList <:+ rule.toList := by
  have hsplit := splitLastWord_append rule.toList
  simp only [ruleTarget?]
  constructor
  · intro h
    split at h
    · rename_i hj
      simp only [Option.some.injEq] at h
      subst h
      rw [String.toList_append, String.toList_ofList]
      refine ⟨blank_notMem_splitLastWord _, ?_⟩
      obtain ⟨front, hfront⟩ := hj
      refine ⟨front, ?_⟩
      rw [← List.append_assoc, hfront, hsplit]
    · cases h
  · rintro ⟨hblank, front, hfront⟩
    rw [String.toList_append, ← List.append_assoc] at hfront
    -- The target has no blank, so the blank behind `-j` is the last one of the text.
    have hcut : splitLastWord rule.toList = (front ++ "-j ".toList, target.toList) := by
      have hlast : front ++ "-j ".toList = (front ++ ['-', 'j']) ++ [' '] := by simp
      rw [← hfront, hlast, List.append_assoc, List.singleton_append,
        splitLastWord_blank _ hblank]
    rw [hcut]
    simp

/-! ## The text of a structured rule -/

/-- The conditions of a rule as they stand in its text. -/
def Rule.matchText (r : Rule) : String := " ".intercalate (r.conditions.map Condition.text)

/-- A rule without conditions is its action alone. -/
lemma Rule.text_of_nil {r : Rule} (h : r.conditions = []) : r.text = "-j " ++ r.action := by
  rw [Rule.text, h]
  simp

/-- Every condition has words. -/
lemma Condition.text_ne_empty (c : Condition) : c.text ≠ "" := by
  intro h
  have hlist : c.text.toList = [] := by
    rw [h]
    rfl
  cases c <;>
    · unfold Condition.text at hlist
      simp at hlist

/-- A rule with conditions asks for something. -/
lemma Rule.matchText_ne_empty {r : Rule} (h : r.conditions ≠ []) : r.matchText ≠ "" := by
  obtain ⟨c, cs, hc⟩ := List.exists_cons_of_ne_nil h
  -- The text of the first condition begins it.
  have hstart : c.text.toList <+: r.matchText.toList := by
    rw [Rule.matchText, hc, List.map_cons]
    by_cases hcs : cs = []
    · exact ⟨[], by rw [hcs, List.map_nil, String.intercalate_singleton, List.append_nil]⟩
    · rw [String.intercalate_cons_of_ne_nil (by simpa using hcs), String.append_assoc,
        String.toList_append]
      exact List.prefix_append _ _
  intro hempty
  rw [hempty] at hstart
  have hnil : c.text.toList = [] := List.prefix_nil.mp hstart
  exact c.text_ne_empty (String.toList_injective hnil)

/-- The jumps to two chains are the same rule only if the chains are the same. -/
lemma Rule.jump_text_inj {c d : String} :
    (Rule.jump [] c).text = (Rule.jump [] d).text ↔ c = d := by
  have htext : ∀ e, (Rule.jump [] e).text = "-j " ++ e := fun e => Rule.text_of_nil rfl
  rw [htext, htext, ← String.toList_inj, String.toList_append, String.toList_append,
    List.append_right_inj, String.toList_inj]

/-- A rule with conditions has its action behind them. -/
lemma Rule.text_of_ne_nil {r : Rule} (h : r.conditions ≠ []) :
    r.text = r.matchText ++ " -j " ++ r.action := by
  have hne : r.conditions.map Condition.text ≠ [] := by simpa using h
  have hglue : " " ++ ("-j " ++ r.action) = " -j " ++ r.action := by
    apply String.toList_injective
    simp
  rw [Rule.text, String.intercalate_append_of_ne_nil hne (by simp), String.intercalate_singleton,
    String.append_assoc, hglue, ← String.append_assoc]
  rfl

/-- The text of a rule ends in `-j` and its action. -/
lemma Rule.suffix_text (r : Rule) : ("-j " ++ r.action).toList <:+ r.text.toList := by
  by_cases h : r.conditions = []
  · exact ⟨[], by rw [Rule.text_of_nil h, List.nil_append]⟩
  · rw [Rule.text_of_ne_nil h]
    exact ⟨r.matchText.toList ++ [' '], by simp⟩

/-- The text of a rule is not empty. -/
lemma Rule.text_ne_empty (r : Rule) : r.text ≠ "" := by
  intro h
  have hsuffix := r.suffix_text
  rw [h] at hsuffix
  simp at hsuffix

/-- A rule sends its packets to its action, where that is a single word. -/
lemma Rule.ruleTarget?_text {r : Rule} (h : ' ' ∉ r.action.toList) :
    ruleTarget? r.text = some r.action :=
  (ruleTarget?_eq_some_iff _ _).mpr ⟨h, r.suffix_text⟩

/-- What a rule asks of a packet is its conditions. -/
lemma Rule.ruleMatch_text {r : Rule} (h : ' ' ∉ r.action.toList) :
    ruleMatch r.text = r.matchText := by
  -- Without conditions no blank stands before `-j`, and the three characters are all left out.
  by_cases hc : r.conditions = []
  · have hcut : splitLastWord r.text.toList = (['-', 'j', ' '], r.action.toList) := by
      rw [Rule.text_of_nil hc]
      simpa using splitLastWord_blank ['-', 'j'] h
    simp [ruleMatch, hcut, Rule.matchText, hc]
  · have hcut : splitLastWord r.text.toList =
        (r.matchText.toList ++ [' ', '-', 'j', ' '], r.action.toList) := by
      rw [Rule.text_of_ne_nil hc]
      simpa using splitLastWord_blank (r.matchText.toList ++ [' ', '-', 'j']) h
    simp [ruleMatch, hcut]

/-! ## Rules that look into a set -/

/-- A rule that looks into a set first names that set. -/
lemma Rule.matchedSet?_text_inSet {r : Rule} {set side : String} {rest : List Condition}
    (hr : r.conditions = .inSet set side :: rest) (hset : ' ' ∉ set.toList) :
    matchedSet? r.text = some set := by
  have hcond : (Condition.inSet set side).text =
      "-m set --match-set " ++ (set ++ (" " ++ side)) := by
    show "-m set --match-set " ++ set ++ " " ++ side = _
    rw [String.append_assoc, String.append_assoc]
  -- A blank stands behind the set, whether the action comes next or another condition.
  have htext : ∃ more, r.text = "-m set --match-set " ++ (set ++ (" " ++ more)) := by
    rw [Rule.text_of_ne_nil (by simp [hr]), Rule.matchText, hr]
    cases rest with
    | nil =>
      refine ⟨side ++ " -j " ++ r.action, ?_⟩
      rw [List.map_cons, List.map_nil, String.intercalate_singleton, hcond]
      simp only [String.append_assoc]
    | cons c cs =>
      refine ⟨side ++ " " ++ " ".intercalate (c.text :: cs.map Condition.text) ++ " -j " ++
        r.action, ?_⟩
      rw [List.map_cons, List.map_cons, String.intercalate_cons_cons, hcond]
      simp only [String.append_assoc]
  obtain ⟨more, hmore⟩ := htext
  have hlist : r.text.toList = setMatchStart ++ (set.toList ++ ' ' :: more.toList) := by
    rw [hmore, String.toList_append, String.toList_append, String.toList_append]
    rfl
  simp [matchedSet?, hlist, Text.cutAt?_append hset]

/-- No other condition begins like a set match. -/
lemma Condition.not_setMatchStart_prefix {c : Condition} (hc : ∀ set side, c ≠ .inSet set side)
    (rest : List Char) : ¬ setMatchStart <+: c.text.toList ++ rest := by
  rw [setMatchStart_eq]
  cases c with
  | inSet set side => exact absurd rfl (hc set side)
  | _ =>
    unfold Condition.text
    simp [List.cons_prefix_cons]

/-- A rule that begins with another condition, or has none, looks into no set. -/
lemma Rule.matchedSet?_text_eq_none {r : Rule}
    (hr : ∀ set side, r.conditions.head? ≠ some (.inSet set side)) :
    matchedSet? r.text = none := by
  have hstart : ¬ setMatchStart <+: r.text.toList := by
    cases hc : r.conditions with
    | nil =>
      rw [Rule.text_of_nil hc, setMatchStart_eq]
      simp [List.cons_prefix_cons]
    | cons c cs =>
      have hne : ∀ set side, c ≠ .inSet set side := by
        intro set side h
        exact hr set side (by rw [hc, h]; rfl)
      have hrest : ∃ rest, r.text.toList = c.text.toList ++ rest := by
        rw [Rule.text, hc, List.map_cons, List.cons_append,
          String.intercalate_cons_of_ne_nil (by simp)]
        exact ⟨_, by rw [String.toList_append, String.toList_append, List.append_assoc]⟩
      obtain ⟨rest, hrest⟩ := hrest
      rw [hrest]
      exact Condition.not_setMatchStart_prefix hne rest
  rw [matchedSet?, if_neg hstart]

end FirewallPolicy
