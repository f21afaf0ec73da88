import FirewallPolicy.Proofs.Country.DumpRows
import Mathlib.Tactic.Common

/-!
# Dumps are read back

A database reads the rows of a dump line by line up to the line that ends them, cuts each line at
its tabs, and takes three escapes in a column for the character that they stand for.

* `unescape?`, `readRow`, `readRows`: that reading.  It refuses whatever is no text of a column: any
  other escape, and with it the mark of a column that is absent.
* `escape_eq_replacements`: a column is written by three replacements one after the other.
* `unescape?_eq_some_iff`, `readRow_eq_some_iff`, `readRows_eq_some_iff`: reading accepts exactly
  what is written, so each list of rows has one written form.
* `readRows_dump`: behind its statements every dump reads as its rows, whatever their texts are, and
  ends with the line that ends them.
-/

namespace FirewallPolicy.Country

open FirewallPolicy.Calendar (DateTime)
open FirewallPolicy.Text (fieldsOf joinWith)

/-! ## Columns -/

/-- The text of a column: of the characters behind a backslash, another backslash is itself, a `t`
is a tab and an `n` is a line feed. -/
def unescape? : List Char → Option (List Char)
  | [] => some []
  | '\\' :: '\\' :: cs => (unescape? cs).map ('\\' :: ·)
  | '\\' :: 't' :: cs => (unescape? cs).map ('\t' :: ·)
  | '\\' :: 'n' :: cs => (unescape? cs).map ('\n' :: ·)
  | c :: cs => if c = '\\' then none else (unescape? cs).map (c :: ·)

/-- The text with another text in place of every occurrence of a character. -/
def replaceChar (old : Char) (new cs : List Char) : List Char :=
  cs.flatMap fun c => if c = old then new else [c]

/-- The first character is replaced or kept, then the others. -/
lemma replaceChar_cons (old : Char) (new : List Char) (c : Char) (cs : List Char) :
    replaceChar old new (c :: cs) = (if c = old then new else [c]) ++ replaceChar old new cs :=
  List.flatMap_cons

/-- A column is written by replacing the backslashes first, then the tabs, then the line feeds. -/
theorem escape_eq_replacements (s : String) :
    (escape s).toList = replaceChar '\n' ['\\', 'n'] (replaceChar '\t' ['\\', 't']
      (replaceChar '\\' ['\\', '\\'] s.toList)) := by
  unfold escape
  rw [String.toList_ofList]
  induction s.toList with
  | nil => rfl
  | cons c cs ih =>
    rw [List.flatMap_cons, ih, replaceChar_cons]
    unfold escapeChar
    -- What the first replacement puts in holds neither a tab nor a line feed, and so on.
    split_ifs with hbackslash htab hline
    · rfl
    · subst htab
      rfl
    · subst hline
      rfl
    · simp [replaceChar_cons, htab, hline]

/-- A character is read back from its column. -/
lemma unescape?_escapeChar (c : Char) (cs : List Char) :
    unescape? (escapeChar c ++ cs) = (unescape? cs).map (c :: ·) := by
  unfold escapeChar
  split_ifs with hbackslash htab hline
  · subst hbackslash
    rfl
  · subst htab
    rfl
  · subst hline
    rfl
  · rw [List.singleton_append, unescape?, if_neg hbackslash]
    all_goals
      intro _ h
      exact absurd h hbackslash

/-- A column is read back as the text that was written into it. -/
lemma unescape?_escape (s : List Char) : unescape? (s.flatMap escapeChar) = some s := by
  induction s with
  | nil => rfl
  | cons c cs ih => rw [List.flatMap_cons, unescape?_escapeChar, ih, Option.map_some]

/-- What is read is the written form of its text, if it holds neither a tab nor a line feed. -/
lemma eq_escape_of_unescape? {cs s : List Char} (htab : '\t' ∉ cs) (hline : '\n' ∉ cs)
    (h : unescape? cs = some s) : cs = s.flatMap escapeChar := by
  fun_induction unescape? cs generalizing s with
  | case1 =>
    cases h
    rfl
  | case2 cs ih | case3 cs ih | case4 cs ih =>
    obtain ⟨t, ht, rfl⟩ := Option.map_eq_some_iff.mp h
    simp only [List.mem_cons, not_or] at htab hline
    rw [List.flatMap_cons, ← ih htab.2.2 hline.2.2 ht]
    rfl
  | case5 => cases h
  | case6 c cs _ _ _ hbackslash ih =>
    obtain ⟨t, ht, rfl⟩ := Option.map_eq_some_iff.mp h
    simp only [List.mem_cons, not_or] at htab hline
    rw [List.flatMap_cons, ← ih htab.2 hline.2 ht, escapeChar, if_neg hbackslash,
      if_neg (Ne.symm htab.1), if_neg (Ne.symm hline.1), List.singleton_append]

/-- A text without tabs and line feeds is a column exactly if it is the written form of what it is
read as. -/
theorem unescape?_eq_some_iff {cs s : List Char} (htab : '\t' ∉ cs) (hline : '\n' ∉ cs) :
    unescape? cs = some s ↔ cs = s.flatMap escapeChar := by
  constructor
  · exact eq_escape_of_unescape? htab hline
  · intro h
    rw [h, unescape?_escape]

/-! ## Rows -/

/-- The columns of a line. -/
def readRow (line : List Char) : Option (List String) :=
  (fieldsOf '\t' line).mapM fun column => (unescape? column).map String.ofList

/-- The rows of the lines before the first one that ends them, and the lines behind that one. -/
def readRows : List (List Char) → Option (List (List String) × List (List Char))
  | [] => none
  | line :: lines =>
    if line = dumpEnd.toList then some ([], lines)
    else (readRow line).bind fun columns =>
      (readRows lines).map fun (rows, rest) => (columns :: rows, rest)

/-- Texts are read from pieces exactly if each piece is the written form of its text. -/
lemma mapM_unescape?_eq_some_iff {pieces : List (List Char)} {columns : List String}
    (h : ∀ piece ∈ pieces, '\t' ∉ piece ∧ '\n' ∉ piece) :
    pieces.mapM (fun column => (unescape? column).map String.ofList) = some columns ↔
      pieces = columns.map fun column => (escape column).toList := by
  induction pieces generalizing columns with
  | nil => cases columns <;> simp
  | cons piece pieces ih =>
    rw [List.forall_mem_cons] at h
    have hpiece : ∀ column : String, (unescape? piece).map String.ofList = some column ↔
        piece = (escape column).toList := by
      intro column
      unfold escape
      rw [String.toList_ofList, ← unescape?_eq_some_iff h.1.1 h.1.2, Option.map_eq_some_iff]
      constructor
      · intro hread
        obtain ⟨s, hs, rfl⟩ := hread
        rwa [String.toList_ofList]
      · intro hread
        exact ⟨column.toList, hread, String.ofList_toList⟩
    cases columns with
    | nil => simp [List.mapM_cons, Option.bind_eq_some_iff]
    | cons column columns =>
      rw [List.mapM_cons, List.map_cons, List.cons.injEq, ← hpiece, ← ih h.2]
      simp [Option.bind_eq_some_iff]

/-- A line without line feeds is the line of some columns exactly if it is read as these columns. -/
theorem readRow_eq_some_iff {line : List Char} {columns : List String} (hline : '\n' ∉ line) :
    readRow line = some columns ↔ columns ≠ [] ∧ line = (rowText columns).toList := by
  have hpieces : ∀ piece ∈ fieldsOf '\t' line, '\t' ∉ piece ∧ '\n' ∉ piece := by
    intro piece hpiece
    refine ⟨Text.notMem_of_mem_fieldsOf hpiece, fun hmem => hline ?_⟩
    exact Text.subset_of_mem_fieldsOf hpiece hmem
  have hne : fieldsOf '\t' line ≠ [] := Text.fieldsOf_ne_nil '\t' line
  unfold readRow
  rw [mapM_unescape?_eq_some_iff hpieces]
  constructor
  · intro hcolumns
    have hnil : columns ≠ [] := by
      intro hempty
      rw [hempty] at hcolumns
      exact hne hcolumns
    refine ⟨hnil, ?_⟩
    rw [toList_rowText, ← hcolumns, Text.joinWith_fieldsOf]
  · intro hcolumns
    rw [hcolumns.2, fieldsOf_rowText hcolumns.1]

/-- The line that ends the rows is no line of columns. -/
lemma rowText_ne_dumpEnd {columns : List String} (h : columns ≠ []) :
    (rowText columns).toList ≠ dumpEnd.toList := by
  intro heq
  have hread : readRow (rowText columns).toList = some columns :=
    (readRow_eq_some_iff (notMem_rowText columns)).mpr ⟨h, rfl⟩
  have hend : readRow dumpEnd.toList = none := by decide +kernel
  rw [heq, hend] at hread
  cases hread

/-- Rows are read from lines without line feeds exactly if each row has a column and the lines are
those of the rows, the line that ends them, and the rest. -/
theorem readRows_eq_some_iff {lines rest : List (List Char)} {rows : List (List String)}
    (h : ∀ line ∈ lines, '\n' ∉ line) :
    readRows lines = some (rows, rest) ↔ (∀ columns ∈ rows, columns ≠ []) ∧
      lines = rows.map (fun columns => (rowText columns).toList) ++ dumpEnd.toList :: rest := by
  induction lines generalizing rows with
  | nil => simp [readRows]
  | cons line lines ih =>
    rw [List.forall_mem_cons] at h
    unfold readRows
    by_cases hend : line = dumpEnd.toList
    · rw [if_pos hend, Option.some.injEq, Prod.mk.injEq]
      cases rows with
      | nil => simp [hend]
      | cons columns rows =>
        -- A row in front of the end would be the end itself.
        constructor
        · intro hrows
          cases hrows.1
        · intro hrows
          have hcolumns : columns ≠ [] := hrows.1 columns List.mem_cons_self
          rw [List.map_cons, List.cons_append, List.cons.injEq, hend] at hrows
          exact absurd hrows.2.1.symm (rowText_ne_dumpEnd hcolumns)
    · rw [if_neg hend]
      cases rows with
      | nil => simp [Option.bind_eq_some_iff, hend]
      | cons columns rows =>
        rw [List.forall_mem_cons, List.map_cons, List.cons_append, List.cons.injEq,
          and_and_and_comm, ← readRow_eq_some_iff h.1, ← ih h.2]
        simp [Option.bind_eq_some_iff]

/-! ## Dumps -/

/-- Every dump is read back as its rows: behind the statements come lines of eight columns with the
texts of the ranges as they are, and behind the first line that ends the rows comes nothing. -/
theorem readRows_dump (uuid : Nat → String) (inserted : DateTime) (ranges : List Range) :
    ∃ lines : List (List Char),
      fieldsOf '\n' (dump uuid inserted ranges).toList = dumpHeader.map String.toList ++ lines ∧
      readRows lines = some (rows uuid inserted ranges, [[]]) ∧
      (∀ columns ∈ rows uuid inserted ranges, columns.length = 8) ∧
      rows uuid inserted ranges =
        ((ranges.flatMap fun range => range.networks.map fun network => (range, network)).zipIdx
          1).map fun ((range, network), n) =>
            [uuid n, network.text, range.registry, range.shortCode, range.longCode, range.country,
              range.assigned.text, inserted.text] := by
  have hlines := fieldsOf_dump uuid inserted ranges
  rw [List.append_assoc, List.map_append, List.append_assoc] at hlines
  refine ⟨_, hlines, ?_, ?_, rfl⟩
  · rw [readRows_eq_some_iff]
    · refine ⟨fun columns h => ne_nil_of_mem_rows h, ?_⟩
      simp [Function.comp_def]
    · intro line hline
      have hpiece : line ∈ Text.fieldsOf '\n' (dump uuid inserted ranges).toList := by
        rw [hlines]
        exact List.mem_append_right _ hline
      exact Text.notMem_of_mem_fieldsOf hpiece
  · intro columns h
    obtain ⟨block, -, rfl⟩ := List.mem_map.mp h
    rfl

end FirewallPolicy.Country
