import FirewallPolicy.Proofs.Shell.Words
import Mathlib.Tactic.Common

/-!
# Texts made of lines

A text of lines has a line feed behind each of them, and nothing else between them.

* `joinLines_eq_intercalate`: it does not matter whether the line feeds are put behind the lines or
  between them and at the end.
* `fieldsOf_joinLines`: such a text is cut at its line feeds into its lines, and an empty piece
  behind the last of them tells that it ends with a line.
-/

namespace FirewallPolicy.Text

/-- Lines one after the other, each with its end. -/
def joinLines (lines : List String) : String := String.join (lines.map (· ++ "\n"))

lemma joinLines_nil : joinLines [] = "" := String.join_nil

lemma joinLines_cons (line : String) (lines : List String) :
    joinLines (line :: lines) = line ++ "\n" ++ joinLines lines := by
  unfold joinLines
  rw [List.map_cons, String.join_cons]

/-- The characters of the lines, with a line feed behind each line. -/
lemma toList_joinLines (lines : List String) :
    (joinLines lines).toList = lines.flatMap fun line => line.toList ++ ['\n'] := by
  induction lines with
  | nil => rfl
  | cons line lines ih =>
    rw [joinLines_cons, String.toList_append, String.toList_append, ih]
    rfl

/-- The ends of lines stand between them and behind the last. -/
lemma joinLines_eq_intercalate {lines : List String} (h : lines ≠ []) :
    joinLines lines = "\n".intercalate lines ++ "\n" := by
  induction lines with
  | nil => exact absurd rfl h
  | cons line lines ih =>
    rw [joinLines_cons]
    cases lines with
    | nil => rw [joinLines_nil, String.intercalate_singleton, String.append_empty]
    | cons line' lines =>
      rw [ih (List.cons_ne_nil _ _), String.intercalate_cons_cons]
      simp only [String.append_assoc]

/-- A text of lines is cut into them; nothing stands behind its last line feed. -/
lemma fieldsOf_joinLines {lines : List String} (h : ∀ line ∈ lines, '\n' ∉ line.toList) :
    fieldsOf '\n' (joinLines lines).toList = lines.map String.toList ++ [[]] := by
  induction lines with
  | nil =>
    rw [joinLines_nil]
    rfl
  | cons line lines ih =>
    rw [List.forall_mem_cons] at h
    have htext : (joinLines (line :: lines)).toList =
        line.toList ++ '\n' :: (joinLines lines).toList := by
      rw [joinLines_cons, String.toList_append, String.toList_append, List.append_assoc]
      rfl
    rw [htext, Text.fieldsOf_append h.1, ih h.2, List.map_cons, List.cons_append]

end FirewallPolicy.Text
