/-!
# Cutting text at separators

`fieldsOf sep cs` cuts at every separator and keeps the empty pieces, so joining the pieces with the
separator gives the text back.
-/

namespace FirewallPolicy.Text

/-- The pieces of a list between the separators; one more than there are separators. -/
def fieldsOf (sep : Char) : List Char → List (List Char)
  | [] => [[]]
  | c :: cs =>
    if c = sep then [] :: fieldsOf sep cs
    else match fieldsOf sep cs with
      | [] => [[c]]
      | piece :: pieces => (c :: piece) :: pieces

/-- The pieces joined with a separator. -/
def joinWith (sep : Char) : List (List Char) → List Char
  | [] => []
  | [piece] => piece
  | piece :: pieces => piece ++ sep :: joinWith sep pieces

/-- What stands before the first separator and what stands after it, if there is one. -/
def cutAt? (sep : Char) : List Char → Option (List Char × List Char)
  | [] => none
  | c :: cs =>
    if c = sep then some ([], cs)
    else (cutAt? sep cs).map fun (before, after) => (c :: before, after)

/-- There is always a piece. -/
theorem fieldsOf_ne_nil (sep : Char) (cs : List Char) : fieldsOf sep cs ≠ [] := by
  cases cs with
  | nil => simp [fieldsOf]
  | cons c cs =>
    simp only [fieldsOf]
    split
    · simp
    · split <;> simp

/-- Joining the pieces of a text gives the text back. -/
theorem joinWith_fieldsOf (sep : Char) (cs : List Char) : joinWith sep (fieldsOf sep cs) = cs := by
  induction cs with
  | nil => rfl
  | cons c cs ih =>
    obtain ⟨p, ps, hf⟩ := List.exists_cons_of_ne_nil (fieldsOf_ne_nil sep cs)
    rw [hf] at ih
    by_cases h : c = sep
    · simp [fieldsOf, h, hf, joinWith, ih]
    · cases ps <;> simpa [fieldsOf, h, hf, joinWith] using ih

end FirewallPolicy.Text
