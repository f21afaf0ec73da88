import FirewallPolicy.Proofs.Address.Characters
import FirewallPolicy.Proofs.Country.DumpRows
import FirewallPolicy.Proofs.Country.MalformedRecords
import FirewallPolicy.Proofs.Country.WrittenRanges
import Mathlib.Algebra.BigOperators.Group.List.Basic

/-!
# Ends of rows

A database ends a row at a line feed, at a carriage return, or at both together, unless a backslash
stands before them.  In a dump line feeds are escaped and carriage returns are not, so a row keeps
together exactly if no text of its range holds a carriage return.

* `copyLines`, `rowsSeen`, `hasBareLineEnd`: what such a database makes of a text.
* `IsRowText`: texts that are escaped, but for carriage returns.
* `rowsSeen_dump`: the rows that are seen are those of the dump, cut at their carriage returns.
* `length_rowsSeen`: how many they are.
* `rows_keep_together_iff`: which ranges that were read from a text have whole rows.
-/

namespace FirewallPolicy.Country

open FirewallPolicy.Calendar (DateTime offsetText)
open FirewallPolicy.Shell (IsSafe isSafeChar)
open FirewallPolicy.Text (hexDigit hexDigits joinWith linesOf paddedNat)

/-! ## What a database sees -/

/-- Lines with some characters put before the first. -/
def extendFirst (front : List Char) : List (List Char) → List (List Char)
  | [] => [front]
  | line :: lines => (front ++ line) :: lines

/-- The lines of a text, and what stands behind the last of them.  A line ends at a line feed, a
carriage return or both, but a backslash takes the next character with it. -/
def copyLines : List Char → List (List Char)
  | [] => [[]]
  | '\\' :: c :: cs => extendFirst ['\\', c] (copyLines cs)
  | '\r' :: '\n' :: cs => [] :: copyLines cs
  | c :: cs => if c = '\n' ∨ c = '\r' then [] :: copyLines cs else extendFirst [c] (copyLines cs)

/-- The rows that are seen in a dump: the lines behind its statements, up to the line that ends
them. -/
def rowsSeen (text : List Char) : List (List Char) :=
  ((copyLines text).drop dumpHeader.length).takeWhile (· ≠ dumpEnd.toList)

/-- Whether a line feed or a carriage return stands in a text without a backslash before it. -/
def hasBareLineEnd : List Char → Bool
  | [] => false
  | '\\' :: _ :: cs => hasBareLineEnd cs
  | c :: cs => c == '\n' || c == '\r' || hasBareLineEnd cs

/-! ## Texts of rows -/

/-- A text with its backslashes, tabs and line feeds escaped.  It may hold carriage returns, but
does not end with one. -/
inductive IsRowText : List Char → Prop
  | nil : IsRowText []
  | plain {c : Char} {cs : List Char} (hc : c ≠ '\\' ∧ c ≠ '\n' ∧ c ≠ '\r') (h : IsRowText cs) :
    IsRowText (c :: cs)
  | escaped {c : Char} {cs : List Char} (hc : c ∈ ['\\', 't', 'n']) (h : IsRowText cs) :
    IsRowText ('\\' :: c :: cs)
  | carriageReturn {cs : List Char} (hne : cs ≠ []) (h : IsRowText cs) : IsRowText ('\r' :: cs)

variable {c : Char} {cs rest : List Char} {lines : List (List Char)}

lemma extendFirst_ne_nil (front : List Char) (lines : List (List Char)) :
    extendFirst front lines ≠ [] := by
  cases lines <;> exact List.cons_ne_nil _ _

lemma copyLines_ne_nil (cs : List Char) : copyLines cs ≠ [] := by
  fun_cases copyLines cs
  · exact List.cons_ne_nil _ _
  · exact extendFirst_ne_nil _ _
  · exact List.cons_ne_nil _ _
  · exact List.cons_ne_nil _ _
  · exact extendFirst_ne_nil _ _

lemma extendFirst_append (front : List Char) (h : lines ≠ []) (others : List (List Char)) :
    extendFirst front (lines ++ others) = extendFirst front lines ++ others := by
  obtain ⟨line, lines, rfl⟩ := List.exists_cons_of_ne_nil h
  rfl

lemma length_extendFirst (front : List Char) (h : lines ≠ []) :
    (extendFirst front lines).length = lines.length := by
  obtain ⟨line, lines, rfl⟩ := List.exists_cons_of_ne_nil h
  rfl

lemma copyLines_plain (hc : c ≠ '\\' ∧ c ≠ '\n' ∧ c ≠ '\r') (cs : List Char) :
    copyLines (c :: cs) = extendFirst [c] (copyLines cs) := by
  rw [copyLines, if_neg (by simp [hc])]
  · intro c' cs' h
    exact absurd h hc.1
  · intro cs' h
    exact absurd h hc.2.2

lemma copyLines_carriageReturn (h : cs.head? ≠ some '\n') :
    copyLines ('\r' :: cs) = [] :: copyLines cs := by
  rw [copyLines, if_pos (.inr rfl)]
  · intro c' cs' hbackslash
    exact absurd hbackslash (by decide)
  · intro cs' _ hcs
    rw [hcs] at h
    exact absurd rfl h

/-- What an escape stands for is neither the end of the rows nor a carriage return. -/
lemma ne_of_mem_escapes (hc : c ∈ ['\\', 't', 'n']) : c ≠ '.' ∧ c ≠ '\r' := by
  simp only [List.mem_cons, List.not_mem_nil, or_false] at hc
  rcases hc with rfl | rfl | rfl <;> decide

/-- No text of a row begins with a line feed. -/
lemma IsRowText.head?_ne (h : IsRowText cs) : cs.head? ≠ some '\n' := by
  cases h with
  | nil => exact nofun
  | plain hc h => simp [hc.2.1]
  | escaped hc h => simp
  | carriageReturn hne h => simp

/-- The text of a row is cut on its own where a line feed stands behind it. -/
lemma IsRowText.copyLines_append (h : IsRowText cs) (rest : List Char) :
    copyLines (cs ++ '\n' :: rest) = copyLines cs ++ copyLines rest := by
  induction h with
  | nil => rfl
  | @plain c cs hc h ih =>
    rw [List.cons_append, copyLines_plain hc, copyLines_plain hc, ih,
      extendFirst_append _ (copyLines_ne_nil cs)]
  | @escaped c cs hc h ih =>
    show extendFirst ['\\', c] (copyLines (cs ++ '\n' :: rest)) =
      extendFirst ['\\', c] (copyLines cs) ++ copyLines rest
    rw [ih, extendFirst_append _ (copyLines_ne_nil cs)]
  | @carriageReturn cs hne h ih =>
    have hhead : (cs ++ '\n' :: rest).head? ≠ some '\n' := by
      rw [List.head?_append_of_ne_nil _ hne]
      exact h.head?_ne
    rw [List.cons_append, copyLines_carriageReturn hhead, copyLines_carriageReturn h.head?_ne, ih,
      List.cons_append]

/-- Behind every carriage return in the text of a row another line is seen. -/
lemma IsRowText.length_copyLines (h : IsRowText cs) :
    (copyLines cs).length = cs.count '\r' + 1 := by
  induction h with
  | nil => rfl
  | @plain c cs hc h ih =>
    rw [copyLines_plain hc, length_extendFirst _ (copyLines_ne_nil cs), ih,
      List.count_cons_of_ne hc.2.2]
  | @escaped c cs hc h ih =>
    show (extendFirst ['\\', c] (copyLines cs)).length = _
    rw [length_extendFirst _ (copyLines_ne_nil cs), ih, List.count_cons_of_ne (by decide),
      List.count_cons_of_ne (ne_of_mem_escapes hc).2]
  | @carriageReturn cs hne h ih =>
    rw [copyLines_carriageReturn h.head?_ne, List.length_cons, ih, List.count_cons_self]

/-- A text of a row without carriage returns is seen as it is. -/
lemma IsRowText.copyLines_eq (h : IsRowText cs) (hreturn : '\r' ∉ cs) : copyLines cs = [cs] := by
  induction h with
  | nil => rfl
  | @plain c cs hc h ih =>
    rw [List.mem_cons, not_or] at hreturn
    rw [copyLines_plain hc, ih hreturn.2]
    rfl
  | @escaped c cs hc h ih =>
    rw [List.mem_cons, List.mem_cons, not_or, not_or] at hreturn
    show extendFirst ['\\', c] (copyLines cs) = _
    rw [ih hreturn.2.2]
    rfl
  | carriageReturn hne h ih => exact absurd List.mem_cons_self hreturn

/-- No line in the text of a row is the one that ends the rows. -/
lemma IsRowText.dumpEnd_notMem (h : IsRowText cs) : dumpEnd.toList ∉ copyLines cs := by
  have hend : dumpEnd.toList = ['\\', '.'] := rfl
  have hextend : ∀ {front : List Char} {lines : List (List Char)},
      (∀ line, front ++ line ≠ ['\\', '.']) → ['\\', '.'] ∉ lines →
      ['\\', '.'] ∉ extendFirst front lines := by
    intro front lines hfront hlines
    cases lines with
    | nil =>
      have hne := hfront []
      rw [List.append_nil] at hne
      rw [extendFirst, List.mem_singleton]
      exact Ne.symm hne
    | cons line lines =>
      rw [List.mem_cons, not_or] at hlines
      rw [extendFirst, List.mem_cons, not_or]
      exact ⟨Ne.symm (hfront line), hlines.2⟩
  rw [hend]
  induction h with
  | nil => decide
  | @plain c cs hc h ih =>
    rw [copyLines_plain hc]
    refine hextend (fun line heq => hc.1 ?_) ih
    rw [List.singleton_append, List.cons.injEq] at heq
    exact heq.1
  | @escaped c cs hc h ih =>
    refine hextend (fun line heq => (ne_of_mem_escapes hc).1 ?_) ih
    rw [List.cons_append, List.cons_append, List.cons.injEq, List.cons.injEq] at heq
    exact heq.2.1
  | @carriageReturn cs hne h ih =>
    rw [copyLines_carriageReturn h.head?_ne, List.mem_cons, not_or]
    exact ⟨by decide, ih⟩

/-- Only carriage returns are left bare in the text of a row. -/
lemma IsRowText.hasBareLineEnd_iff (h : IsRowText cs) : hasBareLineEnd cs ↔ '\r' ∈ cs := by
  induction h with
  | nil => simp [hasBareLineEnd]
  | @plain c cs hc h ih =>
    rw [hasBareLineEnd, List.mem_cons, ← ih]
    · simp [hc, Ne.symm hc.2.2]
    · exact fun _ _ heq => absurd heq hc.1
  | @escaped c cs hc h ih =>
    show hasBareLineEnd cs = true ↔ _
    simp [ih, Ne.symm (ne_of_mem_escapes hc).2]
  | carriageReturn hne h ih => simp [hasBareLineEnd]

/-! ## Rows of columns -/

/-- An escaped character may stand in front of the text of a row. -/
lemma IsRowText.escapeChar_append (h : IsRowText cs) (hne : cs ≠ []) (c : Char) :
    IsRowText (escapeChar c ++ cs) := by
  unfold escapeChar
  split_ifs with hbackslash htab hline
  · exact .escaped (by decide) h
  · exact .escaped (by decide) h
  · exact .escaped (by decide) h
  · by_cases hreturn : c = '\r'
    · rw [hreturn]
      exact .carriageReturn hne h
    · exact .plain ⟨hbackslash, hline, hreturn⟩ h

/-- And so may a column. -/
lemma IsRowText.escape_append (h : IsRowText cs) (hne : cs ≠ []) (s : String) :
    IsRowText ((escape s).toList ++ cs) := by
  unfold escape
  rw [String.toList_ofList]
  induction s.toList with
  | nil => exact h
  | cons c s ih =>
    rw [List.flatMap_cons, List.append_assoc]
    exact ih.escapeChar_append (by simp [hne]) c

/-- Characters that mean nothing to the database may stand in the text of a row. -/
lemma isRowText_of_forall (h : ∀ c ∈ cs, c ≠ '\\' ∧ c ≠ '\n' ∧ c ≠ '\r') : IsRowText cs := by
  induction cs with
  | nil => exact .nil
  | cons c cs ih =>
    rw [List.forall_mem_cons] at h
    exact .plain h.1 (ih h.2)

lemma ne_of_isSafeChar (h : isSafeChar c) : c ≠ '\\' ∧ c ≠ '\n' ∧ c ≠ '\r' := by
  refine ⟨?_, ?_, ?_⟩ <;>
  · intro heq
    rw [heq] at h
    exact absurd h (by decide)

lemma escape_of_isSafe {s : String} (h : IsSafe s) : escape s = s := by
  have hsame : ∀ c ∈ s.toList, escapeChar c = [c] := by
    intro c hc
    have hsafe := h.2 c hc
    unfold escapeChar
    split_ifs with hbackslash htab hline
    · exact absurd hsafe (by rw [hbackslash]; decide)
    · exact absurd hsafe (by rw [htab]; decide)
    · exact absurd hsafe (by rw [hline]; decide)
    · rfl
  unfold escape
  rw [List.flatMap_congr hsame, List.flatMap_singleton', String.ofList_toList]

/-- The text of a row of which the last column is a word. -/
lemma isRowText_rowText (columns : List String) {last : String} (hlast : IsSafe last) :
    IsRowText (rowText (columns ++ [last])).toList := by
  rw [toList_rowText]
  induction columns with
  | nil =>
    rw [List.nil_append, List.map_singleton, joinWith, escape_of_isSafe hlast]
    exact isRowText_of_forall fun c hc => ne_of_isSafeChar (hlast.2 c hc)
  | cons column columns ih =>
    rw [List.cons_append, List.map_cons, joinWith.eq_3 _ _ _ (by simp)]
    exact (ih.plain (by decide)).escape_append (List.cons_ne_nil _ _) column

/-- Carriage returns are written as they are. -/
lemma count_escape (s : String) : (escape s).toList.count '\r' = s.toList.count '\r' := by
  have hchar : ∀ c, (escapeChar c).count '\r' = [c].count '\r' := by
    intro c
    unfold escapeChar
    split_ifs with hbackslash htab hline
    · rw [hbackslash]
      decide
    · rw [htab]
      decide
    · rw [hline]
      decide
    · rfl
  unfold escape
  rw [String.toList_ofList]
  induction s.toList with
  | nil => rfl
  | cons c s ih =>
    rw [List.flatMap_cons, List.count_append, hchar, ih, ← List.count_append, List.singleton_append]

/-- Pieces are joined without a carriage return. -/
lemma count_joinWith (pieces : List (List Char)) :
    (joinWith '\t' pieces).count '\r' = (pieces.map (List.count '\r')).sum := by
  induction pieces with
  | nil => rfl
  | cons piece pieces ih =>
    cases pieces with
    | nil => rw [joinWith, List.map_singleton, List.sum_singleton]
    | cons second pieces =>
      rw [joinWith.eq_3 _ _ _ (List.cons_ne_nil _ _), List.count_append,
        List.count_cons_of_ne (by decide), ih, ← List.sum_cons, ← List.map_cons]

/-- The carriage returns in the text of a row are those in its columns. -/
lemma count_rowText (columns : List String) : (rowText columns).toList.count '\r' =
    (columns.map fun column => column.toList.count '\r').sum := by
  rw [toList_rowText, count_joinWith, List.map_map]
  simp only [Function.comp_def, count_escape]

/-! ## Words in rows -/

/-- A word stays one with such characters in front of it or behind it. -/
lemma isSafe_append {first second : String} (hword : IsSafe first ∨ IsSafe second)
    (hfirst : ∀ c ∈ first.toList, isSafeChar c) (hsecond : ∀ c ∈ second.toList, isSafeChar c) :
    IsSafe (first ++ second) := by
  refine ⟨fun hempty => ?_, ?_⟩
  · rw [String.append_eq_empty_iff] at hempty
    exact hword.elim (fun h => h.1 hempty.1) (fun h => h.1 hempty.2)
  · rw [String.toList_append, List.forall_mem_append]
    exact ⟨hfirst, hsecond⟩

lemma isSafe_paddedNat (width n : ℕ) : IsSafe (paddedNat width n) := by
  have hnumber := Shell.isSafe_toString n
  unfold paddedNat
  refine isSafe_append (.inr hnumber) ?_ hnumber.2
  rw [String.toList_ofList]
  intro c hc
  rw [List.eq_of_mem_replicate hc]
  decide

/-- An offset is written as a word. -/
lemma isSafe_offsetText (offset : Int) : IsSafe (offsetText offset) := by
  have hsign : IsSafe (if offset < 0 then "-" else "+") := by
    split_ifs <;> decide
  exact ((hsign.append (isSafe_paddedNat _ _)).append (by decide)).append (isSafe_paddedNat _ _)

/-- A date is written as a word. -/
lemma isSafe_dateText (d : Calendar.Date) : IsSafe d.text := by
  have hdash : IsSafe "-" := by decide
  exact ((((isSafe_paddedNat 4 d.year).append hdash).append (isSafe_paddedNat 2 d.month)).append
    hdash).append (isSafe_paddedNat 2 d.day)

/-- A time is written as a word. -/
lemma isSafe_text (t : DateTime) : IsSafe t.text := by
  have hcolon : IsSafe ":" := by decide
  have hmark : IsSafe "T" := by decide
  have htime : IsSafe (t.date.text ++ "T" ++ paddedNat 2 t.hour ++ ":" ++ paddedNat 2 t.minute ++
      ":" ++ paddedNat 2 t.second) :=
    ((((((isSafe_dateText t.date).append hmark).append (isSafe_paddedNat 2 t.hour)).append
      hcolon).append (isSafe_paddedNat 2 t.minute)).append hcolon).append
      (isSafe_paddedNat 2 t.second)
  -- The fraction of the second and the offset may both be missing.
  have hmicrosecond : ∀ c ∈ (if t.microsecond = 0 then "" else
      "." ++ paddedNat 6 t.microsecond).toList, isSafeChar c := by
    split_ifs
    · exact nofun
    · exact (IsSafe.append (by decide) (isSafe_paddedNat 6 t.microsecond)).2
  have hoffset : ∀ c ∈ ((t.offset.map offsetText).getD "").toList, isSafeChar c := by
    cases t.offset with
    | none => exact nofun
    | some offset => exact (isSafe_offsetText offset).2
  have hfraction := isSafe_append (.inl htime) htime.2 hmicrosecond
  exact isSafe_append (.inl hfraction) hfraction.2 hoffset

lemma isSafeChar_of_mem_hexDigits {width n : ℕ} (h : c ∈ hexDigits width n) : isSafeChar c := by
  have hdigit : ∀ d < 16, isSafeChar (hexDigit d) := by decide
  induction width generalizing n with
  | zero => cases h
  | succ width ih =>
    rw [hexDigits, List.mem_append, List.mem_singleton] at h
    rcases h with h | rfl
    · exact ih h
    · exact hdigit _ (Nat.mod_lt _ (by decide))

/-- An identifier is written as a word. -/
lemma isSafe_uuidText (n : ℕ) : IsSafe (uuidText n) := by
  obtain ⟨ds, hds⟩ : ∃ ds, ds = hexDigits 32 n := ⟨_, rfl⟩
  have hdigits : ∀ c ∈ ds, isSafeChar c := by
    rw [hds]
    exact fun c hc => isSafeChar_of_mem_hexDigits hc
  have hpart : ∀ k m, ∀ c ∈ (ds.drop k).take m, isSafeChar c := fun k m c hc =>
    hdigits c (List.mem_of_mem_drop (List.mem_of_mem_take hc))
  unfold uuidText
  simp only [← hds]
  constructor
  · intro hempty
    have hlist := congrArg String.toList hempty
    simp at hlist
  · rw [String.toList_ofList]
    simp only [List.forall_mem_append, List.forall_mem_cons]
    exact ⟨⟨⟨⟨hpart 0 8, by decide, hpart 8 4⟩, by decide, hpart 12 4⟩, by decide, hpart 16 4⟩,
      by decide, fun c hc => hdigits c (List.mem_of_mem_drop hc)⟩

/-! ## Dumps -/

variable {uuid : ℕ → String} {inserted : DateTime} {ranges : List Range} {columns : List String}

/-- Rows one after the other are seen one after the other. -/
lemma copyLines_flatMap {texts : List String} (h : ∀ text ∈ texts, IsRowText text.toList)
    (rest : List Char) : copyLines (texts.flatMap (fun text => text.toList ++ ['\n']) ++ rest) =
      texts.flatMap (fun text => copyLines text.toList) ++ copyLines rest := by
  induction texts with
  | nil => rfl
  | cons text texts ih =>
    rw [List.forall_mem_cons] at h
    rw [List.flatMap_cons, List.flatMap_cons, List.append_assoc, List.append_assoc,
      List.singleton_append, h.1.copyLines_append, ih h.2, List.append_assoc]

/-- A row ends with a time. -/
lemma isRowText_of_mem_rows (h : columns ∈ rows uuid inserted ranges) :
    IsRowText (rowText columns).toList := by
  obtain ⟨⟨⟨range, network⟩, n⟩, -, rfl⟩ := List.mem_map.mp h
  exact isRowText_rowText [uuid n, network.text, range.registry, range.shortCode, range.longCode,
    range.country, range.assigned.text] (isSafe_text inserted)

/-- The lines that are seen in a dump: the statements, the rows cut at their carriage returns, and
the line behind them. -/
lemma copyLines_dump (uuid : ℕ → String) (inserted : DateTime) (ranges : List Range) :
    copyLines (dump uuid inserted ranges).toList = dumpHeader.map String.toList ++
      ((rows uuid inserted ranges).flatMap (fun columns => copyLines (rowText columns).toList) ++
        [dumpEnd.toList, []]) := by
  have hheader : ∀ line ∈ dumpHeader, IsRowText line.toList := fun line hline =>
    isRowText_of_forall (plain_of_mem_dumpHeader line hline)
  have hrows : ∀ text ∈ (rows uuid inserted ranges).map rowText, IsRowText text.toList := by
    intro text htext
    obtain ⟨columns, hcolumns, rfl⟩ := List.mem_map.mp htext
    exact isRowText_of_mem_rows hcolumns
  have hseen : dumpHeader.flatMap (fun line => copyLines line.toList) =
      dumpHeader.map String.toList := by
    rw [← List.flatMap_singleton' (dumpHeader.map String.toList), List.flatMap_map]
    exact List.flatMap_congr fun line hline =>
      (hheader line hline).copyLines_eq fun hreturn =>
        (plain_of_mem_dumpHeader line hline _ hreturn).2.2 rfl
  have hend : copyLines (dumpEnd.toList ++ ['\n']) = [dumpEnd.toList, []] := by decide
  unfold dump
  rw [← Text.joinLines_eq_intercalate (by simp), Text.toList_joinLines, List.flatMap_append,
    List.flatMap_append, List.flatMap_singleton, List.append_assoc, copyLines_flatMap hheader,
    copyLines_flatMap hrows, hseen, hend, List.flatMap_map]

/-- The rows that are seen in a dump are its rows, cut at their carriage returns. -/
theorem rowsSeen_dump (uuid : ℕ → String) (inserted : DateTime) (ranges : List Range) :
    rowsSeen (dump uuid inserted ranges).toList =
      (rows uuid inserted ranges).flatMap fun columns => copyLines (rowText columns).toList := by
  have hrows : ∀ line ∈ (rows uuid inserted ranges).flatMap fun columns =>
      copyLines (rowText columns).toList, decide (line ≠ dumpEnd.toList) = true := by
    intro line hline
    obtain ⟨columns, hcolumns, hline⟩ := List.mem_flatMap.mp hline
    rw [decide_eq_true_eq]
    intro hend
    rw [hend] at hline
    exact (isRowText_of_mem_rows hcolumns).dumpEnd_notMem hline
  unfold rowsSeen
  rw [copyLines_dump, List.drop_left' (by rw [List.length_map]), List.takeWhile_append_of_pos hrows,
    List.takeWhile_cons_of_neg (by simp), List.append_nil]

/-! ## Carriage returns of ranges -/

/-- The number of carriage returns in the texts of a range. -/
def Range.carriageReturns (range : Range) : ℕ :=
  (range.texts.map fun text => text.toList.count '\r').sum

lemma Range.carriageReturns_eq_zero_iff (range : Range) :
    range.carriageReturns = 0 ↔ ∀ text ∈ range.texts, '\r' ∉ text.toList := by
  unfold Range.carriageReturns
  rw [List.sum_eq_zero_iff_forall_eq_nat, List.forall_mem_map]
  simp only [List.count_eq_zero]

/-- A range that does not end before it starts has a network. -/
lemma networks_ne_nil {range : Range} (h : range.first.value ≤ range.last.value) :
    range.networks ≠ [] := by
  intro hnil
  have hstarts := (isExactCover_networks range h).starts
  rw [hnil] at hstarts
  cases hstarts

/-- A row has the carriage returns of its range, if its identifier is a word. -/
lemma count_row {id : String} (hid : IsSafe id) (inserted : DateTime) (range : Range)
    (network : Address.Network) :
    (rowText (row id inserted range network)).toList.count '\r' = range.carriageReturns := by
  have hword : ∀ {s : String}, IsSafe s → s.toList.count '\r' = 0 := fun h =>
    List.count_eq_zero.mpr fun hreturn => (ne_of_isSafeChar (h.2 _ hreturn)).2.2 rfl
  rw [count_rowText]
  unfold row Range.carriageReturns Range.texts
  simp only [List.map_cons, List.map_nil, List.sum_cons, List.sum_nil, hword hid,
    hword network.isSafe_text, hword (isSafe_text _), zero_add]

/-- Row by row, the carriage returns of a dump are those of its ranges. -/
lemma map_count_rows (huuid : ∀ n, IsSafe (uuid n)) (inserted : DateTime) (ranges : List Range) :
    (rows uuid inserted ranges).map (fun columns => (rowText columns).toList.count '\r') =
      ranges.flatMap fun range => range.networks.map fun _ => range.carriageReturns :=
  map_rows uuid inserted ranges fun n range network => count_row (huuid n) inserted range network

/-- For every row one more is seen than it has carriage returns. -/
lemma length_rowsSeen (huuid : ∀ n, IsSafe (uuid n)) (inserted : DateTime) (ranges : List Range) :
    (rowsSeen (dump uuid inserted ranges).toList).length =
      (ranges.map fun range => range.networks.length * (range.carriageReturns + 1)).sum := by
  have hseen : (rows uuid inserted ranges).map (fun columns =>
      (copyLines (rowText columns).toList).length) = ((rows uuid inserted ranges).map
      fun columns => (rowText columns).toList.count '\r').map (· + 1) := by
    rw [List.map_map]
    exact List.map_congr_left fun columns hcolumns =>
      (isRowText_of_mem_rows hcolumns).length_copyLines
  rw [rowsSeen_dump, List.length_flatMap, hseen, map_count_rows huuid, List.map_flatMap]
  unfold List.flatMap
  rw [List.sum_flatten, List.map_map]
  refine congrArg List.sum (List.map_congr_left fun range _ => ?_)
  rw [Function.comp_apply, List.map_map]
  exact (congrArg List.sum List.map_const').trans List.sum_replicate_nat

/-! ## Ranges that were read -/

/-- No row of a dump of ranges that were read holds a line feed.  All rows keep together, and one
row is seen for each network, exactly if no text of a range holds a carriage return. -/
theorem rows_keep_together_iff (ids : ℕ → ℕ) (inserted : DateTime) {text : List Char}
    {ranges : List Range} (h : readRanges (linesOf text) = (ranges, none)) :
    (∀ columns ∈ rows (fun n => uuidText (ids n)) inserted ranges,
      '\n' ∉ (rowText columns).toList) ∧
    ((∀ columns ∈ rows (fun n => uuidText (ids n)) inserted ranges,
        hasBareLineEnd (rowText columns).toList = false) ↔
      ∀ range ∈ ranges, ∀ text ∈ range.texts, '\r' ∉ text.toList) ∧
    ((rowsSeen (dump (fun n => uuidText (ids n)) inserted ranges).toList).length =
        (ranges.flatMap Range.networks).length ↔
      ∀ range ∈ ranges, ∀ text ∈ range.texts, '\r' ∉ text.toList) ∧
    ((∀ range ∈ ranges, ∀ text ∈ range.texts, '\r' ∉ text.toList) →
      rowsSeen (dump (fun n => uuidText (ids n)) inserted ranges).toList =
        (rows (fun n => uuidText (ids n)) inserted ranges).map
          fun columns => (rowText columns).toList) := by
  have huuid : ∀ n, IsSafe (uuidText (ids n)) := fun n => isSafe_uuidText (ids n)
  have hnetworks : ∀ range ∈ ranges, range.networks ≠ [] := by
    intro range hrange
    have hread : (rangesFrom 1 (Csv.records (linesOf text)).1).1 = ranges := by
      rw [← fst_readRanges, h]
    rw [← hread] at hrange
    exact networks_ne_nil (ordered_of_mem_rangesFrom hrange)
  simp only [← Range.carriageReturns_eq_zero_iff]
  -- Every range has a row, which has the carriage returns of the range.
  have hcounts : (∀ columns ∈ rows (fun n => uuidText (ids n)) inserted ranges,
      (rowText columns).toList.count '\r' = 0) ↔ ∀ range ∈ ranges, range.carriageReturns = 0 := by
    rw [← List.forall_mem_map (P := (· = 0)), map_count_rows huuid, List.forall_mem_flatMap]
    refine forall₂_congr fun range hrange => ?_
    rw [List.forall_mem_map]
    exact ⟨fun hall => hall _ (List.head_mem (hnetworks range hrange)), fun hzero _ _ => hzero⟩
  have hbare : ∀ columns ∈ rows (fun n => uuidText (ids n)) inserted ranges,
      hasBareLineEnd (rowText columns).toList = false ↔
        (rowText columns).toList.count '\r' = 0 := by
    intro columns hcolumns
    rw [← Bool.not_eq_true, (isRowText_of_mem_rows hcolumns).hasBareLineEnd_iff,
      List.count_eq_zero]
  refine ⟨fun columns _ => notMem_rowText columns, ?_, ?_, fun hnone => ?_⟩
  · rw [← hcounts]
    exact forall₂_congr hbare
  · have hadd : (rowsSeen (dump (fun n => uuidText (ids n)) inserted ranges).toList).length =
        (ranges.map fun range => range.networks.length * range.carriageReturns).sum +
          (ranges.flatMap Range.networks).length := by
      rw [length_rowsSeen huuid, List.length_flatMap, ← List.sum_map_add]
      rfl
    rw [hadd, Nat.add_eq_right, List.sum_eq_zero_iff_forall_eq_nat, List.forall_mem_map]
    refine forall₂_congr fun range hrange => ?_
    rw [Nat.mul_eq_zero, List.length_eq_zero_iff]
    exact or_iff_right (hnetworks range hrange)
  · rw [← hcounts] at hnone
    rw [rowsSeen_dump, ← List.flatMap_singleton' (List.map _ _), List.flatMap_map]
    exact List.flatMap_congr fun columns hcolumns =>
      (isRowText_of_mem_rows hcolumns).copyLines_eq (List.count_eq_zero.mp (hnone columns hcolumns))

/-- A range of two networks with a line feed in the name of the country. -/
def foldedRange : Range where
  first := ⟨1, by decide⟩
  last := ⟨2, by decide⟩
  registry := "iana"
  assigned := ⟨⟨1970, 1, 1⟩, 0, 0, 0, 0, some 0⟩
  shortCode := "ZZ"
  longCode := "ZZZ"
  country := "Re\nserved"

/-- A line of it. -/
def foldedLine : List Char :=
  "\"1\",\"2\",\"iana\",\"0\",\"ZZ\",\"ZZZ\",\"Re\nserved\"\n".toList

/-- Its rows keep together. -/
theorem foldedRange_keeps_together :
    readRanges (linesOf foldedLine) = ([foldedRange], none) ∧
    (∀ columns ∈ rows uuidText foldedRange.assigned [foldedRange],
      hasBareLineEnd (rowText columns).toList = false) ∧
    (rowsSeen (dump uuidText foldedRange.assigned [foldedRange]).toList).length =
      foldedRange.networks.length := by
  have hread : readRanges (linesOf foldedLine) = ([foldedRange], none) := by decide +kernel
  have hnone : ∀ range ∈ [foldedRange], ∀ text ∈ range.texts, '\r' ∉ text.toList := by
    decide +kernel
  obtain ⟨-, hkept, hseen, -⟩ := rows_keep_together_iff (fun n => n) foldedRange.assigned hread
  rw [List.flatMap_singleton] at hseen
  exact ⟨hread, hkept.mpr hnone, hseen.mpr hnone⟩

/-- A range of one address with a carriage return in the name of the country. -/
def brokenRange : Range :=
  { foldedRange with last := foldedRange.first, country := "Re\rserved" }

/-- A line of it. -/
def brokenLine : List Char :=
  "\"1\",\"1\",\"iana\",\"0\",\"ZZ\",\"ZZZ\",\"Re\rserved\"\n".toList

/-- Its row does not keep together: two rows are seen for its one network. -/
theorem brokenRange_falls_apart :
    readRanges (linesOf brokenLine) = ([brokenRange], none) ∧
    brokenRange.networks.map Address.Network.text = ["0.0.0.1/32"] ∧
    (rowsSeen (dump uuidText brokenRange.assigned [brokenRange]).toList).length = 2 ∧
    ¬ ∀ text ranges, readRanges (linesOf text) = (ranges, none) →
      ∀ columns ∈ rows uuidText brokenRange.assigned ranges,
        hasBareLineEnd (rowText columns).toList = false := by
  have hread : readRanges (linesOf brokenLine) = ([brokenRange], none) := by decide +kernel
  have hseen : (rowsSeen (dump uuidText brokenRange.assigned [brokenRange]).toList).length = 2 := by
    rw [length_rowsSeen isSafe_uuidText]
    decide +kernel
  refine ⟨hread, by decide +kernel, hseen, fun hall => ?_⟩
  have hkept := hall brokenLine [brokenRange] hread
  revert hkept
  decide +kernel

end FirewallPolicy.Country
