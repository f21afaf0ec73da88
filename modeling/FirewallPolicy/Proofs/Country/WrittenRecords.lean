import FirewallPolicy.Proofs.Country.Records
import FirewallPolicy.Text.Lines
import FirewallPolicy.Text.Split

/-!
# Written records

A record is written as its fields with commas between them.  A field may stand between quotes, with
its own quotes written twice, and then hold line ends, which cut the text of the record into several
lines.

* `Csv.quoted`, `Csv.IsWritten`: how a field may be written.
* `Csv.recordsFrom_linesOf_cons`: a text is read character by character, whatever lines it is cut
  into, where line ends stand inside quotes only.
* `Csv.records_linesOf_append`: a record that was written is read.
-/

namespace FirewallPolicy

/-! ## Lines -/

namespace Text

variable {c : Char} {rest : List Char}

/-- A line feed behind a carriage return stands in the same line; other line ends end theirs. -/
lemma linesOf_cons_of_not (h : c = '\r' → rest.head? ≠ some '\n') :
    linesOf (c :: rest) = if c = '\n' ∨ c = '\r' then [c] :: linesOf rest
      else match linesOf rest with
        | [] => [[c]]
        | line :: lines => (c :: line) :: lines := by
  refine linesOf.eq_3 c rest ?_
  rintro rest' rfl rfl
  exact h rfl rfl

lemma linesOf_ne_nil (h : rest ≠ []) : linesOf rest ≠ [] := by
  obtain ⟨c, rest, rfl⟩ := List.exists_cons_of_ne_nil h
  by_cases hboth : c = '\r' ∧ rest.head? = some '\n'
  · obtain ⟨rfl, hhead⟩ := hboth
    obtain ⟨rest', rfl⟩ := List.head?_eq_some_iff.mp hhead
    exact List.cons_ne_nil _ _
  · rw [linesOf_cons_of_not fun hc hhead => hboth ⟨hc, hhead⟩]
    split
    · exact List.cons_ne_nil _ _
    · split <;> exact List.cons_ne_nil _ _

/-- A character begins the first line of the rest, or it is a line of its own. -/
lemma linesOf_cons (c : Char) (h : rest ≠ []) :
    (∃ line lines, linesOf rest = line :: lines ∧ linesOf (c :: rest) = (c :: line) :: lines) ∨
      linesOf (c :: rest) = [c] :: linesOf rest ∧ (c = '\n' ∨ c = '\r') := by
  by_cases hboth : c = '\r' ∧ rest.head? = some '\n'
  · obtain ⟨rfl, hhead⟩ := hboth
    obtain ⟨rest', rfl⟩ := List.head?_eq_some_iff.mp hhead
    exact .inl ⟨['\n'], linesOf rest', linesOf_cons_of_not fun h => absurd h (by decide), rfl⟩
  · rw [linesOf_cons_of_not fun hc hhead => hboth ⟨hc, hhead⟩]
    by_cases hc : c = '\n' ∨ c = '\r'
    · exact .inr ⟨if_pos hc, hc⟩
    · obtain ⟨line, lines, hlines⟩ := List.exists_cons_of_ne_nil (linesOf_ne_nil h)
      exact .inl ⟨line, lines, hlines, by rw [if_neg hc, hlines]⟩

end Text

namespace Csv

open FirewallPolicy.Text (linesOf joinWith)

/-! ## Writing -/

/-- A text with its quotes written twice. -/
def doubleQuotes (cs : List Char) : List Char :=
  cs.flatMap fun c => if c = '"' then ['"', '"'] else [c]

/-- A field between quotes. -/
def quoted (field : String) : List Char := '"' :: doubleQuotes field.toList ++ ['"']

/-- How a field may be written: between quotes, or as it is where it holds neither commas nor line
ends and does not begin with a quote. -/
inductive IsWritten : List Char → String → Prop
  | quoted {field : String} (hlength : field.toList.length ≤ fieldLimit) :
    IsWritten (quoted field) field
  | plain {field : String} (hlength : field.toList.length ≤ fieldLimit)
    (hchars : ∀ c ∈ field.toList, Reader.isLineEnd c = false ∧ c ≠ ',')
    (hquote : field.toList.head? ≠ some '"') : IsWritten field.toList field

/-! ## Reading -/

variable {r r₁ : Reader} {c : Char} {cs rest w : List Char} {field : String} {fields : List String}

/-- One character of a text is read, and then the others.  Where a line ends inside quotes, the
record goes on. -/
lemma recordsFrom_linesOf_cons (hstep : r.step c = .ok r₁) (hrest : rest ≠ [])
    (hend : Reader.isLineEnd c → r₁.place = .inQuotes) :
    recordsFrom r (linesOf (c :: rest)) = recordsFrom r₁ (linesOf rest) := by
  rcases Text.linesOf_cons c hrest with ⟨line, lines, hlines, hcons⟩ | ⟨hcons, hc⟩
  · have hline : r.line (c :: line) = r₁.line line := by
      rw [Reader.line, Reader.steps, hstep]
      rfl
    rw [hcons, hlines]
    simp only [recordsFrom, hline]
  · have hquotes : r₁.place = .inQuotes := hend (by rcases hc with rfl | rfl <;> rfl)
    have hline : r.line [c] = .ok r₁ := by
      rw [Reader.line, Reader.steps, hstep]
      show Except.ok r₁.endLine = _
      rw [Reader.endLine, hquotes]
    rw [hcons]
    simp [recordsFrom, hline, hquotes]

/-- Other characters than line ends need no quotes around them. -/
lemma recordsFrom_linesOf_cons_of_not (hstep : r.step c = .ok r₁) (hrest : rest ≠ [])
    (hc : Reader.isLineEnd c = false) :
    recordsFrom r (linesOf (c :: rest)) = recordsFrom r₁ (linesOf rest) :=
  recordsFrom_linesOf_cons hstep hrest (by simp [hc])

/-- A field inside quotes is read up to its closing quote. -/
lemma recordsFrom_quoted (hplace : r.place = .inQuotes) (hlength : r.size + cs.length ≤ fieldLimit)
    (hrest : rest ≠ []) :
    recordsFrom r (linesOf (doubleQuotes cs ++ '"' :: rest)) =
      recordsFrom (r.extend cs .afterQuote) (linesOf rest) := by
  induction cs generalizing r with
  | nil =>
    refine recordsFrom_linesOf_cons_of_not ?_ hrest rfl
    simp [Reader.step, hplace, Reader.extend]
  | cons c cs ih =>
    rw [List.length_cons] at hlength
    have hadd : ∀ place, r.addChar c place = .ok (r.extend [c] place) := fun place =>
      Reader.addChar_eq_ok_iff.mpr ⟨by omega, rfl⟩
    have hnext : recordsFrom (r.extend [c] .inQuotes) (linesOf (doubleQuotes cs ++ '"' :: rest)) =
        recordsFrom (r.extend (c :: cs) .afterQuote) (linesOf rest) := by
      rw [ih rfl (by simp only [Reader.extend, List.length_singleton]; omega),
        Reader.extend_extend]
    have hbehind : doubleQuotes cs ++ '"' :: rest ≠ [] := by simp
    by_cases hc : c = '"'
    · subst hc
      have hfirst : r.step '"' = .ok { r with place := .afterQuote } := by
        simp [Reader.step, hplace]
      have hsecond : ({ r with place := .afterQuote } : Reader).step '"' =
          .ok (r.extend ['"'] .inQuotes) := hadd .inQuotes
      have htext : doubleQuotes ('"' :: cs) ++ '"' :: rest =
          '"' :: '"' :: (doubleQuotes cs ++ '"' :: rest) := rfl
      rw [htext, recordsFrom_linesOf_cons_of_not hfirst (List.cons_ne_nil _ _) rfl,
        recordsFrom_linesOf_cons_of_not hsecond hbehind rfl, hnext]
    · have hstep : r.step c = .ok (r.extend [c] .inQuotes) := by
        simp [Reader.step, hplace, hc, hadd]
      have htext : doubleQuotes (c :: cs) ++ '"' :: rest =
          c :: (doubleQuotes cs ++ '"' :: rest) := by
        simp [doubleQuotes, hc]
      rw [htext, recordsFrom_linesOf_cons hstep hbehind fun _ => rfl, hnext]

/-- The rest of a field without quotes is read. -/
lemma recordsFrom_inField (hplace : r.place = .inField)
    (hchars : ∀ c ∈ cs, Reader.isLineEnd c = false ∧ c ≠ ',')
    (hlength : r.size + cs.length ≤ fieldLimit) (hrest : rest ≠ []) :
    recordsFrom r (linesOf (cs ++ rest)) = recordsFrom (r.extend cs .inField) (linesOf rest) := by
  induction cs generalizing r with
  | nil =>
    rw [List.nil_append, Reader.extend, ← hplace]
    rfl
  | cons c cs ih =>
    rw [List.forall_mem_cons] at hchars
    rw [List.length_cons] at hlength
    have hadd : r.addChar c .inField = .ok (r.extend [c] .inField) :=
      Reader.addChar_eq_ok_iff.mpr ⟨by omega, rfl⟩
    have hstep : r.step c = .ok (r.extend [c] .inField) :=
      (Reader.step_inField hplace hchars.1).trans hadd
    rw [List.cons_append, recordsFrom_linesOf_cons_of_not hstep (by simp [hrest]) hchars.1.1,
      ih rfl hchars.2 (by simp only [Reader.extend, List.length_singleton]; omega),
      Reader.extend_extend]

/-- A field that was written is read, and then it may end. -/
lemma IsWritten.read (h : IsWritten w field) (fields : List String) :
    ∃ r : Reader, r.MayEnd ∧ (∀ place, r.saveField place = ⟨place, [], 0, field :: fields⟩) ∧
      ∀ rest ≠ [], recordsFrom ⟨.fieldStart, [], 0, fields⟩ (linesOf (w ++ rest)) =
        recordsFrom r (linesOf rest) := by
  have hsave : ∀ p p' place, ((⟨p, [], 0, fields⟩ : Reader).extend field.toList p').saveField
      place = ⟨place, [], 0, field :: fields⟩ := by
    intro p p' place
    simp [Reader.extend, Reader.saveField]
  cases h with
  | quoted hlength =>
    refine ⟨(⟨.inQuotes, [], 0, fields⟩ : Reader).extend field.toList .afterQuote,
      by simp [Reader.MayEnd, Reader.extend], hsave _ _, fun rest hrest => ?_⟩
    have htext : Csv.quoted field ++ rest = '"' :: (doubleQuotes field.toList ++ '"' :: rest) := by
      simp [Csv.quoted]
    have hstep : (⟨.fieldStart, [], 0, fields⟩ : Reader).step '"' =
        .ok ⟨.inQuotes, [], 0, fields⟩ := rfl
    rw [htext, recordsFrom_linesOf_cons_of_not hstep (by simp) rfl,
      recordsFrom_quoted rfl (by simpa using hlength) hrest]
  | plain hlength hchars hquote =>
    cases hfield : field.toList with
    | nil =>
      refine ⟨⟨.fieldStart, [], 0, fields⟩, by simp [Reader.MayEnd], ?_, fun rest _ => rfl⟩
      have hstart := hsave .fieldStart .fieldStart
      rwa [hfield] at hstart
    | cons c cs =>
      have hstart := hsave .fieldStart .inField
      rw [hfield] at hstart hlength hchars hquote
      rw [List.forall_mem_cons] at hchars
      rw [List.length_cons] at hlength
      refine ⟨_, by simp [Reader.MayEnd, Reader.extend], hstart, fun rest hrest => ?_⟩
      have hadd : (⟨.fieldStart, [], 0, fields⟩ : Reader).addChar c .inField =
          .ok ((⟨.fieldStart, [], 0, fields⟩ : Reader).extend [c] .inField) :=
        Reader.addChar_eq_ok_iff.mpr ⟨by simp only; omega, rfl⟩
      have hstep := (Reader.step_start (.inr rfl) hchars.1
        (by rintro rfl; exact hquote rfl)).trans hadd
      rw [List.cons_append, recordsFrom_linesOf_cons_of_not hstep (by simp [hrest]) hchars.1.1,
        recordsFrom_inField rfl hchars.2
          (by simp only [Reader.extend, List.length_singleton]; omega) hrest,
        Reader.extend_extend]

/-- A record that was written is read to its fields, and then the rest is. -/
lemma recordsFrom_joinWith {ws : List (List Char)} {fs : List String} {e : List Char}
    (h : List.Forall₂ IsWritten ws fs) (hne : ws ≠ []) (he : e = ['\n'] ∨ e = ['\r', '\n'])
    (fields : List String) (rest : List Char) :
    recordsFrom ⟨.fieldStart, [], 0, fields⟩ (linesOf (joinWith ',' ws ++ (e ++ rest))) =
      ((fields.reverse ++ fs) :: (recordsFrom {} (linesOf rest)).1,
        (recordsFrom {} (linesOf rest)).2) := by
  have hline : ∀ rest, linesOf (e ++ rest) = e :: linesOf rest := by
    rcases he with rfl | rfl <;> intro rest <;> rfl
  have hne' : e ++ rest ≠ [] := by
    rcases he with rfl | rfl <;> exact List.cons_ne_nil _ _
  induction h generalizing fields with
  | nil => exact absurd rfl hne
  | @cons w f ws fs hw hws ih =>
    obtain ⟨r, hend, hsave, hread⟩ := hw.read fields
    cases ws with
    | nil =>
      cases hws
      have hrecord : r.line e = .ok ⟨.recordStart, [], 0, f :: fields⟩ := by
        rw [hend.line_lineEnd (by rcases he with rfl | rfl <;> decide), hsave]
      rw [joinWith, hread _ hne', hline]
      simp [recordsFrom, hrecord]
    | cons w' ws =>
      have htext : joinWith ',' (w :: w' :: ws) ++ (e ++ rest) =
          w ++ (',' :: (joinWith ',' (w' :: ws) ++ (e ++ rest))) := by
        simp [joinWith]
      have hcomma : r.step ',' = .ok ⟨.fieldStart, [], 0, f :: fields⟩ := by
        rw [hend.step_comma, hsave]
      rw [htext, hread _ (List.cons_ne_nil _ _),
        recordsFrom_linesOf_cons_of_not hcomma (by simp [hne']) rfl, ih (List.cons_ne_nil _ _)]
      simp

/-- A record of which the first field stands between quotes is read, and then the rest is. -/
theorem records_linesOf_append {ws : List (List Char)} {fs : List String} {e : List Char}
    (h : List.Forall₂ IsWritten ws fs) (he : e = ['\n'] ∨ e = ['\r', '\n'])
    (hquoted : ∃ field, ws.head? = some (Csv.quoted field)) (rest : List Char) :
    records (linesOf (joinWith ',' ws ++ e ++ rest)) =
      (fs :: (records (linesOf rest)).1, (records (linesOf rest)).2) := by
  obtain ⟨field, hhead⟩ := hquoted
  obtain ⟨ws', rfl⟩ := List.head?_eq_some_iff.mp hhead
  obtain ⟨cs, htext, hcs⟩ : ∃ cs, joinWith ',' (quoted field :: ws') ++ (e ++ rest) = '"' :: cs ∧
      cs ≠ [] := by
    cases ws' <;> exact ⟨_, rfl, by simp⟩
  -- At the start of a record a quote does what it does at the start of a field.
  have hstart : recordsFrom {} (linesOf ('"' :: cs)) =
      recordsFrom ⟨.fieldStart, [], 0, []⟩ (linesOf ('"' :: cs)) := by
    have hrecord : ({} : Reader).step '"' = .ok ⟨.inQuotes, [], 0, []⟩ := rfl
    have hfield : (⟨.fieldStart, [], 0, []⟩ : Reader).step '"' = .ok ⟨.inQuotes, [], 0, []⟩ := rfl
    rw [recordsFrom_linesOf_cons_of_not hrecord hcs rfl,
      recordsFrom_linesOf_cons_of_not hfield hcs rfl]
  have hread := recordsFrom_joinWith h (List.cons_ne_nil _ _) he [] rest
  rw [htext, ← hstart] at hread
  rw [List.append_assoc, htext, records, records, hread]
  obtain ⟨records, final⟩ := recordsFrom {} (linesOf rest)
  cases final <;> rfl

end Csv

end FirewallPolicy
