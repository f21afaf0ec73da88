import FirewallPolicy.Text.Blank
import Mathlib.Data.List.TakeWhile

/-!
# Trimmed texts

A text that was trimmed begins and ends with characters that are not blank, and trimming leaves such
a text as it is.  `Strips` tells what trimming leaves by what stands around it.
-/

namespace FirewallPolicy.Text

variable {cs : List Char}

/-- Neither end of a text is blank. -/
structure IsTrimmed (cs : List Char) : Prop where
  head : ∀ c ∈ cs.head?, isBlank c = false
  last : ∀ c ∈ cs.getLast?, isBlank c = false

lemma dropBlanks_eq_self (h : ∀ c ∈ cs.head?, isBlank c = false) : dropBlanks cs = cs := by
  cases cs with
  | nil => rfl
  | cons c cs => exact List.dropWhile_cons_of_neg (by simp [h c rfl])

lemma isBlank_head?_dropBlanks (cs : List Char) :
    ∀ c ∈ (dropBlanks cs).head?, isBlank c = false := by
  intro c hc
  have hnot := List.head?_dropWhile_not isBlank cs
  rw [← dropBlanks, Option.mem_def.mp hc] at hnot
  exact hnot

/-- Trimming leaves a text alone if neither end is blank. -/
lemma trimChars_eq_self (h : IsTrimmed cs) : trimChars cs = cs := by
  have hlast : ∀ c ∈ cs.reverse.head?, isBlank c = false := by
    rw [List.head?_reverse]
    exact h.last
  rw [trimChars, dropBlanks_eq_self h.head, dropBlanks_eq_self hlast, List.reverse_reverse]

lemma trim_eq_self {s : String} (h : IsTrimmed s.toList) : trim s = s := by
  rw [trim, trimChars_eq_self h, String.ofList_toList]

/-- Trimming leaves no blank at either end. -/
lemma isTrimmed_trimChars (cs : List Char) : IsTrimmed (trimChars cs) := by
  constructor
  · -- What is left begins as the text did without the blanks in front.
    intro c hc
    have hsuffix : dropBlanks (dropBlanks cs).reverse <:+ (dropBlanks cs).reverse :=
      List.dropWhile_suffix _
    have hprefix : trimChars cs <+: dropBlanks cs := by
      rw [← List.reverse_reverse (dropBlanks cs)]
      exact List.reverse_prefix.mpr hsuffix
    obtain ⟨rest, hrest⟩ := hprefix
    refine isBlank_head?_dropBlanks cs c ?_
    rw [← hrest, List.head?_append, Option.mem_def.mp hc]
    rfl
  · intro c hc
    rw [trimChars, List.getLast?_reverse] at hc
    exact isBlank_head?_dropBlanks _ c hc

/-- A text is trimmed exactly if trimming leaves it alone. -/
lemma trimChars_eq_self_iff : trimChars cs = cs ↔ IsTrimmed cs :=
  ⟨fun h => h ▸ isTrimmed_trimChars cs, trimChars_eq_self⟩

instance (cs : List Char) : Decidable (IsTrimmed cs) := decidable_of_iff _ trimChars_eq_self_iff

/-- Trimming twice is trimming once. -/
theorem trim_trim (s : String) : trim (trim s) = trim s := by
  refine trim_eq_self ?_
  rw [trim, String.toList_ofList]
  exact isTrimmed_trimChars _

/-- A text without blanks is trimmed. -/
lemma isTrimmed_of_forall (h : ∀ c ∈ cs, isBlank c = false) : IsTrimmed cs :=
  ⟨fun c hc => h c (List.mem_of_head? hc), fun c hc => h c (List.mem_of_getLast? hc)⟩

/-! ## What trimming leaves -/

/-- Some characters are what is left of a text without the blanks at its ends: nothing but blanks
stands around them, and neither end of theirs is blank. -/
def Strips (cs core : List Char) : Prop :=
  IsTrimmed core ∧
    ∃ before after, cs = before ++ core ++ after ∧ ∀ c ∈ before ++ after, isBlank c

lemma dropBlanks_append {before : List Char} (h : ∀ c ∈ before, isBlank c) (cs : List Char) :
    dropBlanks (before ++ cs) = dropBlanks cs :=
  List.dropWhile_append_of_pos h

lemma dropBlanks_eq_nil (h : ∀ c ∈ cs, isBlank c) : dropBlanks cs = [] :=
  List.dropWhile_eq_nil_iff.mpr h

/-- Around what trimming leaves there were blanks only. -/
lemma strips_trimChars (cs : List Char) : Strips cs (trimChars cs) := by
  let before := cs.takeWhile isBlank
  let after := ((dropBlanks cs).reverse.takeWhile isBlank).reverse
  have hfront : before ++ dropBlanks cs = cs := List.takeWhile_append_dropWhile
  have hback : trimChars cs ++ after = dropBlanks cs := by
    have hrest : (dropBlanks cs).reverse.takeWhile isBlank ++ dropBlanks (dropBlanks cs).reverse =
        (dropBlanks cs).reverse := List.takeWhile_append_dropWhile
    rw [trimChars, ← List.reverse_append, hrest, List.reverse_reverse]
  refine ⟨isTrimmed_trimChars cs, before, after, by rw [List.append_assoc, hback, hfront], ?_⟩
  intro c hc
  rcases List.mem_append.mp hc with hc | hc
  · exact List.mem_takeWhile_imp hc
  · exact List.mem_takeWhile_imp (List.mem_reverse.mp hc)

/-- Trimming leaves just what stands between the blanks at the two ends. -/
lemma strips_iff {core : List Char} : Strips cs core ↔ trimChars cs = core := by
  constructor
  · rintro ⟨hcore, before, after, rfl, hblank⟩
    rw [List.forall_mem_append] at hblank
    have hafter : ∀ c ∈ after.reverse, isBlank c := fun c hc => hblank.2 c (List.mem_reverse.mp hc)
    rw [trimChars, List.append_assoc, dropBlanks_append hblank.1]
    cases core with
    | nil => rw [List.nil_append, dropBlanks_eq_nil hblank.2]; rfl
    | cons first rest =>
      have hhead : dropBlanks (first :: rest ++ after) = first :: rest ++ after :=
        dropBlanks_eq_self hcore.head
      have hlast : dropBlanks (first :: rest).reverse = (first :: rest).reverse := by
        refine dropBlanks_eq_self ?_
        rw [List.head?_reverse]
        exact hcore.last
      rw [hhead, List.reverse_append, dropBlanks_append hafter, hlast, List.reverse_reverse]
  · rintro rfl
    exact strips_trimChars cs

end FirewallPolicy.Text
