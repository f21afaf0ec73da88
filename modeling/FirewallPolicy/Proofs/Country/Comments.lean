import FirewallPolicy.Proofs.Country.Records
import Mathlib.Data.List.TakeWhile

/-!
# Comments between ranges

Comments are told from ranges only when their lines have been cut into fields.  So a quote behind a
comma in a comment opens a field, and when nothing closes it, the lines that follow belong to the
comment.  A line of blanks is a record of one field, and no comment.

* `IsCommentLine`, `IsBlankLine`, `Inserted`: lines that mean nothing, and putting them between
  others.
* `Csv.Reader.Commented`: what is read of a comment begins with a number sign, and still does where
  the comment goes on.
* `comments_hide_nothing_iff`: which such lines leave the ranges of all files alone.
-/

namespace FirewallPolicy

namespace Country

open FirewallPolicy.Csv (IsCompleteLine Reader)
open FirewallPolicy.Text (dropBlanks isBlank)

/-! ## Lines that mean nothing -/

/-- A text without a line break. -/
def IsSingle (text : List Char) : Prop := ∀ c ∈ text, Reader.isLineEnd c = false

instance (text : List Char) : Decidable (IsSingle text) :=
  decidable_of_iff (text.all (!Reader.isLineEnd ·)) (by simp [IsSingle])

/-- A line of which the first character that is not blank is a number sign. -/
def IsCommentLine (l : List Char) : Prop :=
  ∃ text, ∃ e ∈ Reader.lineEnds, l = text ++ e ∧ IsSingle text ∧ (dropBlanks text).head? = some '#'

/-- A line of blanks, or of nothing. -/
def IsBlankLine (l : List Char) : Prop :=
  ∃ text, ∃ e ∈ Reader.lineEnds, l = text ++ e ∧ IsSingle text ∧ ∀ c ∈ text, isBlank c

/-- Lines of a kind are put between lines, in front of them and behind them. -/
inductive Inserted (kind : List Char → Prop) : List (List Char) → List (List Char) → Prop
  | nil : Inserted kind [] []
  | keep (l : List Char) {lines lines' : List (List Char)} (h : Inserted kind lines lines') :
    Inserted kind (l :: lines) (l :: lines')
  | insert {l : List Char} {lines lines' : List (List Char)} (hl : kind l)
    (h : Inserted kind lines lines') : Inserted kind lines (l :: lines')

lemma Inserted.refl (kind : List Char → Prop) (lines : List (List Char)) :
    Inserted kind lines lines := by
  induction lines with
  | nil => exact .nil
  | cons l lines ih => exact .keep l ih

/-! ## Reading comments -/

lemma head?_dropBlanks_append {cs : List Char} {c : Char} (h : (dropBlanks cs).head? = some c)
    (rest : List Char) : (dropBlanks (cs ++ rest)).head? = some c := by
  have hne : (cs.dropWhile isBlank).isEmpty = false := by
    cases hcs : cs.dropWhile isBlank with
    | nil =>
      rw [dropBlanks, hcs] at h
      cases h
    | cons d ds => rfl
  rw [dropBlanks] at h ⊢
  rw [List.dropWhile_append, hne, if_neg Bool.false_ne_true, List.head?_append, h, Option.some_or]

end Country

namespace Csv.Reader

open FirewallPolicy.Country (isComment)
open FirewallPolicy.Text (dropBlanks isBlank)

/-- What has been read of the first field of a record. -/
def firstField (r : Reader) : List Char :=
  match r.fields.getLast? with
  | some first => first.toList
  | none => r.field.reverse

/-- The reader is in a record that begins like a comment. -/
structure Commented (r : Reader) : Prop where
  starts : (dropBlanks r.firstField).head? = some '#'
  emptied : r.place = .lineEnd → r.field = []
  started : r.place ≠ .recordStart

variable {r r' : Reader} {c : Char} {cs : List Char} {place : Place}

lemma firstField_saveField : (r.saveField place).firstField = r.firstField := by
  obtain ⟨p, field, size, fields⟩ := r
  cases fields with
  | nil => simp [firstField, saveField]
  | cons f fields => rfl

lemma Commented.saveField (h : r.Commented) (hplace : place ≠ .recordStart) :
    (r.saveField place).Commented where
  starts := by rw [firstField_saveField, h.starts]
  emptied _ := rfl
  started := hplace

lemma Commented.addChar (h : r.Commented) (hread : r.addChar c place = .ok r')
    (hplace : place ≠ .lineEnd ∧ place ≠ .recordStart) : r'.Commented := by
  obtain ⟨p, field, size, fields⟩ := r
  unfold Reader.addChar at hread
  split_ifs at hread
  cases hread
  refine ⟨?_, fun hend => absurd hend hplace.1, hplace.2⟩
  cases fields with
  | nil =>
    have hfield : firstField ⟨place, c :: field, size + 1, []⟩ = field.reverse ++ [c] := by
      simp [firstField]
    show (dropBlanks (firstField ⟨place, c :: field, size + 1, []⟩)).head? = some '#'
    rw [hfield]
    exact Country.head?_dropBlanks_append h.starts [c]
  | cons f fields => exact h.starts

/-- A comment stays one with every character that is read. -/
lemma Commented.step (h : r.Commented) (hread : r.step c = .ok r') : r'.Commented := by
  have hstart : ∀ {r'}, r.stepFieldStart c = .ok r' → r'.Commented := by
    intro r' hread
    unfold stepFieldStart at hread
    split_ifs at hread
    · cases hread
      exact h.saveField (by decide)
    · cases hread
      exact ⟨h.starts, nofun, nofun⟩
    · cases hread
      exact h.saveField (by decide)
    · exact h.addChar hread (by decide)
  unfold Reader.step at hread
  cases hplace : r.place <;> simp only [hplace] at hread
  case recordStart => exact absurd hplace h.started
  case fieldStart => exact hstart hread
  case inField =>
    split_ifs at hread
    · cases hread
      exact h.saveField (by decide)
    · cases hread
      exact h.saveField (by decide)
    · exact h.addChar hread (by decide)
  case inQuotes =>
    split_ifs at hread
    · cases hread
      exact ⟨h.starts, nofun, nofun⟩
    · exact h.addChar hread (by decide)
  case afterQuote =>
    split_ifs at hread
    · exact h.addChar hread (by decide)
    · cases hread
      exact h.saveField (by decide)
    · cases hread
      exact h.saveField (by decide)
    · exact h.addChar hread (by decide)
  case lineEnd =>
    split_ifs at hread
    cases hread
    exact h

lemma Commented.steps (h : r.Commented) (hread : r.steps cs = .ok r') : r'.Commented := by
  induction cs generalizing r with
  | nil =>
    cases hread
    exact h
  | cons c cs ih =>
    obtain ⟨r₁, hstep, hrest⟩ := exists_of_bind_eq_ok hread
    exact ih (h.step hstep) hrest

lemma isComment_reverse_fields (hne : r.fields ≠ [])
    (h : (dropBlanks r.firstField).head? = some '#') : isComment r.fields.reverse := by
  obtain ⟨first, rest, hrev⟩ := List.exists_cons_of_ne_nil (List.reverse_ne_nil_iff.mpr hne)
  have hlast : r.fields.getLast? = some first := by
    rw [← List.head?_reverse, hrev]
    rfl
  simp only [firstField, hlast] at h
  simp [hrev, isComment, h]

/-- The record that such a reader saves is a comment. -/
lemma Commented.isComment_saveField (h : r.Commented) :
    isComment (r.saveField place).fields.reverse :=
  isComment_reverse_fields (List.cons_ne_nil _ _) (by rw [firstField_saveField, h.starts])

/-- A comment ends with its line, or a quoted field of it is left open. -/
lemma Commented.endLine (h : r.Commented) :
    r.endLine.place = .recordStart ∧ isComment r.endLine.fields.reverse ∨
      r.endLine = r ∧ r.place = .inQuotes := by
  unfold Reader.endLine
  cases hplace : r.place
  case recordStart => exact absurd hplace h.started
  case inQuotes => exact .inr ⟨rfl, rfl⟩
  case lineEnd =>
    have hne : r.fields ≠ [] := by
      intro hnil
      have hstarts := h.starts
      rw [firstField, hnil, h.emptied hplace] at hstarts
      cases hstarts
    exact .inl ⟨rfl, isComment_reverse_fields hne h.starts⟩
  all_goals exact .inl ⟨rfl, h.isComment_saveField⟩

/-- What can be read of blanks at the start of a record is put into its first field. -/
lemma steps_blanks (hcs : ∀ c ∈ cs, isBlank c ∧ isLineEnd c = false)
    (hread : ({} : Reader).steps cs = .ok r) :
    cs = [] ∧ r = {} ∨ cs ≠ [] ∧ r = ({} : Reader).extend cs .inField := by
  have hplain : ∀ c ∈ cs, c ≠ '"' ∧ c ≠ ',' := by
    intro c hc
    constructor <;>
    · rintro rfl
      exact absurd (hcs _ hc).1 (by decide)
  cases cs with
  | nil =>
    cases hread
    exact .inl ⟨rfl, rfl⟩
  | cons c cs =>
    refine .inr ⟨List.cons_ne_nil _ _, ?_⟩
    rw [List.forall_mem_cons] at hcs hplain
    obtain ⟨r₁, hstep, hrest⟩ := exists_of_bind_eq_ok hread
    rw [step_start (.inl rfl) ⟨hcs.1.2, hplain.1.2⟩ hplain.1.1] at hstep
    obtain ⟨-, rfl⟩ := addChar_eq_ok_iff.mp hstep
    rw [steps_inField rfl (fun d hd => ⟨(hcs.2 d hd).2, (hplain.2 d hd).2⟩) hrest, extend_extend]

/-- What can be read of a comment begins like one. -/
lemma commented_of_steps (hsingle : Country.IsSingle cs)
    (hstart : (dropBlanks cs).head? = some '#') (hread : ({} : Reader).steps cs = .ok r) :
    r.Commented := by
  have hcs : cs.takeWhile isBlank ++ dropBlanks cs = cs := List.takeWhile_append_dropWhile
  obtain ⟨rest, hrest⟩ : ∃ rest, dropBlanks cs = '#' :: rest := List.head?_eq_some_iff.mp hstart
  rw [← hcs, hrest, steps_append] at hread
  obtain ⟨r₁, hblanks, hread⟩ := exists_of_bind_eq_ok hread
  obtain ⟨r₂, hstep, hread⟩ := exists_of_bind_eq_ok hread
  have hall : ∀ c ∈ cs.takeWhile isBlank, isBlank c ∧ isLineEnd c = false := fun c hc =>
    ⟨List.all_eq_true.mp List.all_takeWhile c hc, hsingle c ((List.takeWhile_sublist _).subset hc)⟩
  refine Commented.steps ?_ hread
  -- Blanks and the number sign are in the first field.
  have hfirst : r₂ = ({} : Reader).extend (cs.takeWhile isBlank ++ ['#']) .inField := by
    obtain ⟨hnil, rfl⟩ | ⟨-, rfl⟩ := steps_blanks hall hblanks
    · rw [step_start (.inl rfl) (by decide) (by decide)] at hstep
      rw [hnil]
      exact (addChar_eq_ok_iff.mp hstep).2
    · rw [step_inField rfl (by decide)] at hstep
      rw [(addChar_eq_ok_iff.mp hstep).2]
      simp [extend]
  rw [hfirst]
  refine ⟨?_, by simp [extend], by simp [extend]⟩
  have hfield : (({} : Reader).extend (cs.takeWhile isBlank ++ ['#']) .inField).firstField =
      cs.takeWhile isBlank ++ ['#'] := by simp [firstField, extend]
  rw [hfield, dropBlanks, List.dropWhile_append_of_pos fun c hc => (hall c hc).1]
  rfl

end Csv.Reader

namespace Country

open FirewallPolicy.Csv (IsCompleteLine Reader records recordsFrom record?)
open FirewallPolicy.Text (dropBlanks isBlank)

variable {l text e : List Char} {fields : List String} {lines lines' : List (List Char)}
  {ranges : List Range}

/-- What can be read of the line of a comment is a comment, or a quoted field of it is left open. -/
lemma line_of_commentLine {r : Reader} (h : IsCommentLine l)
    (hl : ({} : Reader).line l = .ok r) :
    r.place = .recordStart ∧ isComment r.fields.reverse ∨ r.Commented ∧ r.place = .inQuotes := by
  obtain ⟨text, e, -, rfl, hsingle, hstart⟩ := h
  rw [Reader.line_append] at hl
  obtain ⟨r₁, htext, hend⟩ := exists_of_bind_eq_ok hl
  obtain ⟨r₂, hsteps, rfl⟩ := Reader.line_eq_ok_iff.mp hend
  have hcommented := (Reader.commented_of_steps hsingle hstart htext).steps hsteps
  rcases hcommented.endLine with hwhole | ⟨hsame, hquotes⟩
  · exact .inl hwhole
  · exact .inr (by rw [hsame]; exact ⟨hcommented, hquotes⟩)

/-- A line of blanks holds a whole record or one that is too long, and is a comment only if it is
empty. -/
lemma line_of_blankLine {r : Reader} (h : IsBlankLine l) (hl : ({} : Reader).line l = .ok r) :
    r.place = .recordStart ∧ (isComment r.fields.reverse → l ∈ Reader.lineEnds) := by
  obtain ⟨text, e, he, rfl, hsingle, hblank⟩ := h
  rw [Reader.line_append] at hl
  obtain ⟨r₁, htext, hend⟩ := exists_of_bind_eq_ok hl
  obtain ⟨rfl, rfl⟩ | ⟨hne, rfl⟩ :=
    Reader.steps_blanks (fun c hc => ⟨hblank c hc, hsingle c hc⟩) htext
  · have hfresh : ∀ e ∈ Reader.lineEnds, ({} : Reader).line e = .ok {} := by decide
    rw [hfresh e he] at hend
    cases hend
    exact ⟨rfl, fun _ => he⟩
  · rw [Reader.MayEnd.line_lineEnd (by simp [Reader.MayEnd, Reader.extend]) he] at hend
    cases hend
    refine ⟨rfl, fun hcomment => ?_⟩
    have hdrop : dropBlanks text = [] := List.dropWhile_eq_nil_iff.mpr hblank
    simp [Reader.extend, Reader.saveField, isComment, hdrop] at hcomment

/-! ## Which lines mean nothing -/

/-- A line that leaves the ranges of all files alone: an empty one, or a comment of which no field
is left open or too long. -/
def IsHarmless (l : List Char) : Prop :=
  l ∈ Reader.lineEnds ∨ IsCommentLine l ∧ IsCompleteLine l

/-- A harmless line holds a whole record, which is a comment. -/
lemma IsHarmless.record? (h : IsHarmless l) :
    ∃ fields, Csv.record? l = some fields ∧ isComment fields := by
  rcases h with hempty | ⟨hcomment, hcomplete⟩
  · have hfresh : ∀ l ∈ Reader.lineEnds, Csv.record? l = some [] := by decide
    exact ⟨[], hfresh l hempty, rfl⟩
  · obtain ⟨fields, hfields⟩ := Option.isSome_iff_exists.mp hcomplete
    obtain ⟨r, hline, hplace, rfl⟩ := Csv.record?_eq_some_iff.mp hfields
    rcases line_of_commentLine hcomment hline with ⟨-, hisComment⟩ | ⟨-, hquotes⟩
    · exact ⟨_, hfields, hisComment⟩
    · rw [hplace] at hquotes
      cases hquotes

/-- Without quotes and line breaks, nothing goes wrong in a text that is not too long. -/
lemma exists_steps_of_quote_notMem {r : Reader}
    (hplace : r.place ∈ [.recordStart, .fieldStart, .inField]) (hsingle : IsSingle text)
    (hquote : '"' ∉ text) (hlength : r.size + text.length ≤ Csv.fieldLimit) :
    ∃ r', r.steps text = .ok r' ∧ r'.place ∈ [.recordStart, .fieldStart, .inField] := by
  induction text generalizing r with
  | nil => exact ⟨r, rfl, hplace⟩
  | cons c cs ih =>
    rw [IsSingle, List.forall_mem_cons] at hsingle
    rw [List.mem_cons, not_or] at hquote
    rw [List.length_cons] at hlength
    obtain ⟨hc, hsingle⟩ := hsingle
    have hstep : ∃ r₁, r.step c = .ok r₁ ∧ r₁.place ∈ [.recordStart, .fieldStart, .inField] ∧
        r₁.size ≤ r.size + 1 := by
      simp only [List.mem_cons, List.not_mem_nil, or_false] at hplace
      by_cases hcomma : c = ','
      · refine ⟨r.saveField .fieldStart, ?_, by simp [Reader.saveField], by simp [Reader.saveField]⟩
        subst hcomma
        rcases hplace with h | h | h <;>
          simp [Reader.step, Reader.stepFieldStart, h, Reader.isLineEnd]
      · have hadd : r.addChar c .inField = .ok (r.extend [c] .inField) :=
          Reader.addChar_eq_ok_iff.mpr ⟨by omega, rfl⟩
        refine ⟨r.extend [c] .inField, ?_, by simp [Reader.extend], le_rfl⟩
        rcases hplace with h | h | h
        · exact (Reader.step_start (.inl h) ⟨hc, hcomma⟩ (Ne.symm hquote.1)).trans hadd
        · exact (Reader.step_start (.inr h) ⟨hc, hcomma⟩ (Ne.symm hquote.1)).trans hadd
        · exact (Reader.step_inField h ⟨hc, hcomma⟩).trans hadd
    obtain ⟨r₁, hr₁, hplace₁, hsize⟩ := hstep
    obtain ⟨r', hr', hplace'⟩ := ih hplace₁ hsingle hquote.2 (by omega)
    exact ⟨r', by rw [Reader.steps, hr₁]; exact hr', hplace'⟩

/-- Comments without quotes are harmless, but for their length. -/
theorem isHarmless_of_quote_notMem (h : IsCommentLine l) (hquote : '"' ∉ l)
    (hlength : l.length ≤ Csv.fieldLimit) : IsHarmless l := by
  refine .inr ⟨h, ?_⟩
  obtain ⟨text, e, he, rfl, hsingle, hstart⟩ := h
  rw [List.mem_append, not_or] at hquote
  rw [List.length_append] at hlength
  obtain ⟨r, hsteps, hplace⟩ :=
    exists_steps_of_quote_notMem (r := {}) (by decide) hsingle hquote.1 (by simp only; omega)
  have hstarted := (Reader.commented_of_steps hsingle hstart hsteps).started
  have hend : r.MayEnd := by
    simp only [List.mem_cons, List.not_mem_nil, or_false, hstarted, false_or] at hplace
    rcases hplace with h | h <;> simp [Reader.MayEnd, h]
  have hline : ({} : Reader).line (text ++ e) = .ok (r.saveField .recordStart) := by
    rw [Reader.line_append, hsteps]
    exact hend.line_lineEnd he
  exact Option.isSome_iff_exists.mpr ⟨_, Csv.record?_eq_some_iff.mpr ⟨_, hline, rfl, rfl⟩⟩

/-- Harmless lines can be put between complete ones. -/
lemma Inserted.readRanges {kind : List Char → Prop} (h : Inserted kind lines lines')
    (hkind : ∀ l, kind l → IsHarmless l) (hcomplete : ∀ l ∈ lines, IsCompleteLine l)
    (hread : readRanges lines = (ranges, none)) : readRanges lines' = (ranges, none) := by
  induction h generalizing ranges with
  | nil => exact hread
  | keep l h ih =>
    rw [List.forall_mem_cons] at hcomplete
    obtain ⟨fields, hfields⟩ := Option.isSome_iff_exists.mp hcomplete.1
    rw [readRanges_cons_iff hfields] at hread ⊢
    rcases hread with ⟨hcomment, hread⟩ | ⟨hcomment, range, ranges', hrange, hread, hranges⟩
    · exact .inl ⟨hcomment, ih hcomplete.2 hread⟩
    · exact .inr ⟨hcomment, range, ranges', hrange, ih hcomplete.2 hread, hranges⟩
  | insert hl h ih =>
    obtain ⟨fields, hfields, hcomment⟩ := (hkind _ hl).record?
    exact (readRanges_cons_iff hfields).mpr (.inl ⟨hcomment, ih hcomplete hread⟩)

/-- A line with a range, and no quotes. -/
def plainLine : List Char := "16777216,16777471,apnic,1313020800,AU,AUS,Australia\n".toList

/-- The range on it. -/
def plainRange : Range where
  first := ⟨0x1000000, by decide⟩
  last := ⟨0x10000ff, by decide⟩
  registry := "apnic"
  assigned := ⟨⟨2011, 8, 11⟩, 0, 0, 0, 0, some 0⟩
  shortCode := "AU"
  longCode := "AUS"
  country := "Australia"

lemma readRanges_plainLine : readRanges [plainLine] = ([plainRange], none) := by decide +kernel

lemma rangesFrom_of_comments {records : List (List String)} {n : ℕ}
    (h : ∀ fields ∈ records, isComment fields) : rangesFrom n records = ([], none) := by
  induction records generalizing n with
  | nil => rfl
  | cons fields records ih =>
    rw [List.forall_mem_cons] at h
    exact rangesFrom_cons_iff.mpr (.inl ⟨h.1, ih h.2⟩)

/-- Where a quoted field of a comment is left open, the next line belongs to the comment. -/
lemma records_of_commented {r : Reader} (hline : ({} : Reader).line l = .ok r)
    (hr : r.Commented) (hquotes : r.place = .inQuotes) (next : List Char)
    (hread : (records [l, next]).2 = none) :
    ∀ fields ∈ (records [l, next]).1, isComment fields := by
  have hopen : recordsFrom {} [l, next] = recordsFrom r [next] := by
    simp [recordsFrom, hline, hquotes]
  rw [records, hopen] at hread ⊢
  cases hnext : r.line next with
  | error e => simp [recordsFrom, hnext] at hread
  | ok r' =>
    obtain ⟨r₁, hsteps, rfl⟩ := Reader.line_eq_ok_iff.mp hnext
    have hr₁ := hr.steps hsteps
    rcases hr₁.endLine with ⟨hplace, hcomment⟩ | ⟨hsame, hquotes'⟩
    · have hrecords : recordsFrom r [next] = ([r₁.endLine.fields.reverse], .ok {}) := by
        simp [recordsFrom, hnext, hplace]
      rw [hrecords]
      exact List.forall_mem_singleton.mpr hcomment
    · have hrecords : recordsFrom r [next] = ([], .ok r₁) := by
        simp [recordsFrom, hnext, hsame, hquotes']
      have hlast : r₁.unfinished? = some (r₁.saveField .recordStart).fields.reverse :=
        if_pos (.inr hquotes')
      simp only [hrecords, hlast, List.nil_append, Option.toList_some]
      exact List.forall_mem_singleton.mpr hr₁.isComment_saveField

/-- A blank line or a comment that leaves the range behind it alone is harmless. -/
lemma isHarmless_of_readRanges (hl : IsBlankLine l ∨ IsCommentLine l)
    (h : readRanges [l, plainLine] = ([plainRange], none)) : IsHarmless l := by
  have hread := readRanges_eq_iff.mp h
  cases hline : ({} : Reader).line l with
  | error e => simp [Csv.records, recordsFrom, hline] at hread
  | ok r =>
    by_cases hplace : r.place = .recordStart
    · have hrecord : Csv.record? l = some r.fields.reverse :=
        Csv.record?_eq_some_iff.mpr ⟨r, hline, hplace, rfl⟩
      rcases (readRanges_cons_iff hrecord).mp h with
        ⟨hcomment, -⟩ | ⟨-, range, ranges', -, hrest, hranges⟩
      · rcases hl with hblank | hcommentLine
        · exact .inl ((line_of_blankLine hblank hline).2 hcomment)
        · exact .inr ⟨hcommentLine, Option.isSome_iff_exists.mpr ⟨_, hrecord⟩⟩
      -- Otherwise there would be two ranges.
      · rw [readRanges_plainLine] at hrest
        cases hrest
        cases hranges
    · rcases hl with hblank | hcommentLine
      · exact absurd (line_of_blankLine hblank hline).1 hplace
      · rcases line_of_commentLine hcommentLine hline with ⟨hstart, -⟩ | ⟨hcommented, hquotes⟩
        · exact absurd hstart hplace
        · have hcomments := records_of_commented hline hcommented hquotes plainLine hread.1
          rw [rangesFrom_of_comments hcomments] at hread
          cases hread.2

/-- Blank lines and comments can be put between the complete lines of every file that is read
without error, and its ranges stay what they are, exactly if these lines are harmless: empty, or
comments of which no quoted field is left open and no field is too long. -/
theorem comments_hide_nothing_iff {kind : List Char → Prop}
    (hkind : ∀ l, kind l → IsBlankLine l ∨ IsCommentLine l) :
    (∀ lines lines' ranges, (∀ l ∈ lines, IsCompleteLine l) → readRanges lines = (ranges, none) →
      Inserted kind lines lines' → readRanges lines' = (ranges, none)) ↔
    ∀ l, kind l → IsHarmless l := by
  constructor
  · intro h l hl
    have hcomplete : ∀ l ∈ [plainLine], IsCompleteLine l := by decide +kernel
    exact isHarmless_of_readRanges (hkind l hl)
      (h [plainLine] [l, plainLine] [plainRange] hcomplete readRanges_plainLine
        (.insert hl (.refl _ _)))
  · intro h lines lines' ranges hcomplete hread hinserted
    exact hinserted.readRanges h hcomplete hread

/-- A heading before the range and an empty line behind it leave the range alone. -/
theorem heading_hides_nothing :
    readRanges ["# IpToCountry.csv, \"free\"\n".toList, plainLine, "\r\n".toList] =
      ([plainRange], none) := by
  let heading := "# IpToCountry.csv, \"free\"\n".toList
  let blank := "\r\n".toList
  have hheading : IsCommentLine heading :=
    ⟨"# IpToCountry.csv, \"free\"".toList, ['\n'], by decide, by decide, by decide, by decide⟩
  have hblank : IsBlankLine blank := ⟨[], ['\r', '\n'], by decide, rfl, nofun, nofun⟩
  have hkind : ∀ l, l = heading ∨ l = blank → IsBlankLine l ∨ IsCommentLine l := by
    rintro l (rfl | rfl)
    · exact .inr hheading
    · exact .inl hblank
  have hharmless : ∀ l, l = heading ∨ l = blank → IsHarmless l := by
    rintro l (rfl | rfl)
    · exact .inr ⟨hheading, by decide +kernel⟩
    · exact .inl (by decide)
  have hcomplete : ∀ l ∈ [plainLine], IsCompleteLine l := by decide +kernel
  exact (comments_hide_nothing_iff hkind).mpr hharmless [plainLine] [heading, plainLine, blank]
    [plainRange] hcomplete readRanges_plainLine
    (.insert (.inl rfl) (.keep plainLine (.insert (.inr rfl) .nil)))

/-- A comment with a quote behind a comma, and the line of a range. -/
def openComment : List Char := "# registries,\"apnic\n".toList

/-- The line of a range with quotes around its fields. -/
def quotedLine : List Char :=
  ("\"16777216\",\"16777471\",\"apnic\",\"1313020800\",\"AU\",\"AUS\"," ++
    "\"Australia\"\n").toList

/-- Such a comment hides the range behind it, without an error, and so a line of blanks is refused
where an empty one is not. -/
theorem openComment_hides_range :
    IsCommentLine openComment ∧ IsCompleteLine quotedLine ∧
    readRanges [quotedLine] = ([plainRange], none) ∧
    readRanges [openComment, quotedLine] = ([], none) ∧
    IsBlankLine " \n".toList ∧
    readRanges [" \n".toList, quotedLine] = ([], some (.record 1 (.fieldCount 1))) := by
  refine ⟨?_, by decide +kernel, by decide +kernel, by decide +kernel, ?_, by decide +kernel⟩
  · exact ⟨"# registries,\"apnic".toList, ['\n'], by decide, by decide, by decide, by decide⟩
  · exact ⟨[' '], ['\n'], by decide, rfl, by decide, List.forall_mem_singleton.mpr rfl⟩

end Country

end FirewallPolicy
