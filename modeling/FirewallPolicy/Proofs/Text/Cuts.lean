import FirewallPolicy.Text.Split
import Mathlib.Data.List.Basic
import Mathlib.Tactic.Common

/-!
# Cutting and joining

* `cutAt?_append`, `cutAt?_eq_some_iff`: a text is cut where its first separator stands.
* `fieldsOf_joinWith`: pieces without separators are what the text that they are joined to is cut
  into.
* `subset_of_mem_fieldsOf`, `notMem_of_mem_fieldsOf`, `forall_mem_of_fieldsOf`: the characters of
  the pieces.
-/

namespace FirewallPolicy.Text

/-! ## At the first separator -/

/-- A text is cut where its first separator stands. -/
lemma cutAt?_append {sep : Char} {before : List Char} (h : sep ∉ before) (after : List Char) :
    cutAt? sep (before ++ sep :: after) = some (before, after) := by
  induction before with
  | nil => simp [cutAt?]
  | cons c cs ih =>
    rw [List.mem_cons, not_or] at h
    have hc : c ≠ sep := fun heq => h.1 heq.symm
    simp [cutAt?, hc, ih h.2]

/-- A text without separators is not cut. -/
lemma cutAt?_of_notMem {sep : Char} {cs : List Char} (h : sep ∉ cs) :
    cutAt? sep cs = none := by
  induction cs with
  | nil => rfl
  | cons c cs ih =>
    rw [List.mem_cons, not_or] at h
    rw [cutAt?, if_neg (Ne.symm h.1), ih h.2, Option.map_none]

lemma cutAt?_eq_none_iff {sep : Char} {cs : List Char} : cutAt? sep cs = none ↔ sep ∉ cs := by
  refine ⟨fun h hmem => ?_, cutAt?_of_notMem⟩
  obtain ⟨before, after, rfl, hbefore⟩ := List.eq_append_cons_of_mem hmem
  rw [cutAt?_append hbefore] at h
  cases h

/-- What is in front of a separator is the longest beginning of the text without one. -/
lemma cutAt?_eq_some_iff {sep : Char} {cs before after : List Char} :
    cutAt? sep cs = some (before, after) ↔ cs = before ++ sep :: after ∧ sep ∉ before := by
  refine ⟨fun h => ?_, fun ⟨hcs, hbefore⟩ => hcs ▸ cutAt?_append hbefore after⟩
  have hmem : sep ∈ cs := by
    by_contra hnot
    rw [cutAt?_of_notMem hnot] at h
    cases h
  obtain ⟨before', after', rfl, hbefore⟩ := List.eq_append_cons_of_mem hmem
  rw [cutAt?_append hbefore] at h
  cases h
  exact ⟨rfl, hbefore⟩

/-! ## At every separator -/

/-- There is one more piece than there are separators. -/
lemma length_fieldsOf (sep : Char) (cs : List Char) :
    (fieldsOf sep cs).length = cs.count sep + 1 := by
  induction cs with
  | nil => rfl
  | cons c cs ih =>
    rw [fieldsOf]
    split_ifs with hc
    · rw [List.length_cons, ih, hc, List.count_cons_self]
    · rw [List.count_cons_of_ne hc, ← ih]
      split
      · rename_i hnil
        exact absurd hnil (fieldsOf_ne_nil sep cs)
      · rename_i first rest hfields
        rw [hfields, List.length_cons, List.length_cons]

/-- What holds of the separator and of all characters of the pieces holds of all characters that
they are joined to. -/
lemma forall_mem_joinWith {sep : Char} {pieces : List (List Char)} {p : Char → Prop} (hsep : p sep)
    (h : ∀ piece ∈ pieces, ∀ c ∈ piece, p c) : ∀ c ∈ joinWith sep pieces, p c := by
  induction pieces with
  | nil => simp [joinWith]
  | cons piece pieces ih =>
    rw [List.forall_mem_cons] at h
    cases pieces with
    | nil => exact h.1
    | cons piece' pieces =>
      rw [joinWith]
      · simp only [List.forall_mem_append, List.forall_mem_cons]
        exact ⟨h.1, hsep, ih h.2⟩
      · simp

/-- What holds of the separator and of all characters of the pieces holds of all characters. -/
lemma forall_mem_of_fieldsOf (sep : Char) {cs : List Char} {p : Char → Prop} (hsep : p sep)
    (h : ∀ piece ∈ fieldsOf sep cs, ∀ c ∈ piece, p c) : ∀ c ∈ cs, p c := by
  rw [← joinWith_fieldsOf sep cs]
  exact forall_mem_joinWith hsep h

/-- The characters of a piece are characters of the text. -/
lemma subset_of_mem_fieldsOf {sep : Char} {cs piece : List Char}
    (h : piece ∈ fieldsOf sep cs) : piece ⊆ cs := by
  induction cs generalizing piece with
  | nil =>
    rw [List.mem_singleton.mp h]
    exact List.nil_subset _
  | cons c cs ih =>
    rw [fieldsOf] at h
    split at h
    · rcases List.mem_cons.mp h with rfl | h
      · exact List.nil_subset _
      · exact List.subset_cons_of_subset _ (ih h)
    · split at h
      · rename_i hnil
        exact absurd hnil (fieldsOf_ne_nil sep cs)
      · rename_i first rest hfields
        rcases List.mem_cons.mp h with rfl | h
        · exact List.cons_subset_cons c (ih (by rw [hfields]; exact List.mem_cons_self))
        · exact List.subset_cons_of_subset _ (ih (by rw [hfields]; exact List.mem_cons_of_mem _ h))

/-- No separator stands in a piece. -/
lemma notMem_of_mem_fieldsOf {sep : Char} {cs piece : List Char}
    (h : piece ∈ fieldsOf sep cs) : sep ∉ piece := by
  induction cs generalizing piece with
  | nil =>
    rw [List.mem_singleton.mp h]
    exact List.not_mem_nil
  | cons c cs ih =>
    rw [fieldsOf] at h
    split at h
    · rcases List.mem_cons.mp h with rfl | h
      · exact List.not_mem_nil
      · exact ih h
    · rename_i hc
      split at h
      · rename_i hnil
        exact absurd hnil (fieldsOf_ne_nil sep cs)
      · rename_i first rest hfields
        rcases List.mem_cons.mp h with rfl | h
        · rw [List.mem_cons, not_or]
          exact ⟨Ne.symm hc, ih (by rw [hfields]; exact List.mem_cons_self)⟩
        · exact ih (by rw [hfields]; exact List.mem_cons_of_mem _ h)

/-- A text without separators is a single piece. -/
lemma fieldsOf_of_notMem {sep : Char} {piece : List Char} (h : sep ∉ piece) :
    fieldsOf sep piece = [piece] := by
  induction piece with
  | nil => rfl
  | cons c cs ih =>
    rw [List.mem_cons, not_or] at h
    rw [fieldsOf, if_neg (Ne.symm h.1), ih h.2]

/-- Two texts with a separator between them are cut one after the other. -/
lemma fieldsOf_append_sep (sep : Char) (before after : List Char) :
    fieldsOf sep (before ++ sep :: after) =
      fieldsOf sep before ++ fieldsOf sep after := by
  induction before with
  | nil => simp [fieldsOf]
  | cons c before ih =>
    obtain ⟨first, pieces, hpieces⟩ := List.exists_cons_of_ne_nil (fieldsOf_ne_nil sep before)
    rw [hpieces] at ih
    by_cases hc : c = sep
    · rw [List.cons_append, fieldsOf, if_pos hc, ih, fieldsOf, if_pos hc, hpieces]
      rfl
    · rw [List.cons_append, fieldsOf, if_neg hc, ih, fieldsOf, if_neg hc, hpieces]
      rfl

/-- A text is cut at its first separator. -/
lemma fieldsOf_append {sep : Char} {piece : List Char} (h : sep ∉ piece) (rest : List Char) :
    fieldsOf sep (piece ++ sep :: rest) = piece :: fieldsOf sep rest := by
  rw [fieldsOf_append_sep, fieldsOf_of_notMem h, List.singleton_append]

/-- Pieces without separators are what the text that they are joined to is cut into. -/
lemma fieldsOf_joinWith {sep : Char} {pieces : List (List Char)} (hne : pieces ≠ [])
    (h : ∀ piece ∈ pieces, sep ∉ piece) :
    fieldsOf sep (joinWith sep pieces) = pieces := by
  induction pieces with
  | nil => exact absurd rfl hne
  | cons piece pieces ih =>
    rw [List.forall_mem_cons] at h
    cases pieces with
    | nil => exact fieldsOf_of_notMem h.1
    | cons piece' pieces =>
      rw [joinWith]
      · rw [fieldsOf_append h.1, ih (by simp) h.2]
      · simp

end FirewallPolicy.Text
