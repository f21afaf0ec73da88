import FirewallPolicy.Country.Range
import FirewallPolicy.Proofs.Policy.Accepted
import Mathlib.Data.Nat.Notation

/-!
# Records and their ranges

Most lines hold a whole record.  Such a line is read on its own, whatever stands around it, and so
is the range in its record.

* `Csv.record?`, `Csv.IsCompleteLine`: the record on a line, and lines that hold a whole one.
* `readRange_eq_ok_iff`: the records that are read to a range.
* `readRanges_cons_iff`: lines are read one by one where they are complete.
-/

namespace FirewallPolicy

/-! ## Single characters -/

namespace Csv.Reader

variable {r r' : Reader} {c : Char} {cs : List Char} {place : Place}

/-- A reader whose field has some more characters in it. -/
def extend (r : Reader) (cs : List Char) (place : Place) : Reader :=
  ⟨place, cs.reverse ++ r.field, r.size + cs.length, r.fields⟩

/-- A character is added where the field is not full yet. -/
lemma addChar_eq_ok_iff :
    r.addChar c place = .ok r' ↔ r.size < fieldLimit ∧ r' = r.extend [c] place := by
  unfold addChar
  split_ifs with hlimit
  · simp [Nat.not_lt.mpr hlimit]
  · simp [Nat.lt_of_not_le hlimit, extend, eq_comm]

lemma extend_extend {place' : Place} (c : Char) (cs : List Char) :
    (r.extend [c] place).extend cs place' = r.extend (c :: cs) place' := by
  simp [extend, Nat.add_assoc, Nat.add_comm 1]

lemma steps_append (cs cs' : List Char) :
    r.steps (cs ++ cs') = r.steps cs >>= (·.steps cs') := by
  induction cs generalizing r with
  | nil => rfl
  | cons c cs ih =>
    rw [List.cons_append, steps, steps]
    cases r.step c with
    | error e => rfl
    | ok r₁ => exact ih

/-- In a field without quotes, characters that end neither field nor line are added. -/
lemma step_inField (hplace : r.place = .inField) (hc : isLineEnd c = false ∧ c ≠ ',') :
    r.step c = r.addChar c .inField := by
  simp only [step, hplace, hc.1, hc.2, Bool.false_eq_true, if_false]

/-- And so they are at the start of a field, but for a quote. -/
lemma step_start (hplace : r.place = .recordStart ∨ r.place = .fieldStart)
    (hc : isLineEnd c = false ∧ c ≠ ',') (hquote : c ≠ '"') :
    r.step c = r.addChar c .inField := by
  rcases hplace with h | h <;>
    simp only [step, h, stepFieldStart, hc.1, hc.2, hquote, Bool.false_eq_true, if_false]

lemma steps_inField (hplace : r.place = .inField) (hcs : ∀ c ∈ cs, isLineEnd c = false ∧ c ≠ ',')
    (hread : r.steps cs = .ok r') : r' = r.extend cs .inField := by
  induction cs generalizing r with
  | nil =>
    cases hread
    rw [extend, ← hplace]
    rfl
  | cons c cs ih =>
    rw [List.forall_mem_cons] at hcs
    obtain ⟨r₁, hstep, hrest⟩ := exists_of_bind_eq_ok hread
    rw [step_inField hplace hcs.1] at hstep
    obtain ⟨-, rfl⟩ := addChar_eq_ok_iff.mp hstep
    rw [ih rfl hcs.2 hrest, extend_extend]

/-! ## Ends of lines -/

/-- How a line may end. -/
def lineEnds : List (List Char) := [[], ['\n'], ['\r'], ['\r', '\n']]

/-- The reader is where a field may end: at its start, in a field without quotes, or behind the
closing quote. -/
def MayEnd (r : Reader) : Prop := r.place ∈ [.fieldStart, .inField, .afterQuote]

lemma line_eq_ok_iff : r.line cs = .ok r' ↔ ∃ r₁, r.steps cs = .ok r₁ ∧ r₁.endLine = r' := by
  rw [line]
  cases r.steps cs <;> simp [Except.map]

lemma line_append (cs cs' : List Char) : r.line (cs ++ cs') = r.steps cs >>= (·.line cs') := by
  rw [line, steps_append]
  cases r.steps cs <;> rfl

/-- A comma ends a field that may end. -/
lemma MayEnd.step_comma (h : r.MayEnd) : r.step ',' = .ok (r.saveField .fieldStart) := by
  simp only [MayEnd, List.mem_cons, List.not_mem_nil, or_false] at h
  rcases h with h | h | h <;> simp [step, stepFieldStart, h, isLineEnd]

/-- The end of a line ends a field that may end, and its record. -/
lemma MayEnd.line_lineEnd {e : List Char} (h : r.MayEnd) (he : e ∈ lineEnds) :
    r.line e = .ok (r.saveField .recordStart) := by
  have hstep : ∀ c, isLineEnd c → r.step c = .ok (r.saveField .lineEnd) := by
    intro c hc
    have hquote : c ≠ '"' ∧ c ≠ ',' := by
      constructor <;>
      · rintro rfl
        exact absurd hc (by decide)
    simp only [MayEnd, List.mem_cons, List.not_mem_nil, or_false] at h
    rcases h with h | h | h <;> simp [step, stepFieldStart, h, hc, hquote]
  simp only [lineEnds, List.mem_cons, List.not_mem_nil, or_false] at he
  rcases he with rfl | rfl | rfl | rfl
  · simp only [MayEnd, List.mem_cons, List.not_mem_nil, or_false] at h
    rcases h with h | h | h <;> simp [line, steps, endLine, h, Except.map]
  · simp only [line, steps, hstep '\n' rfl]
    rfl
  · simp only [line, steps, hstep '\r' rfl]
    rfl
  · simp only [line, steps, hstep '\r' rfl]
    rfl

end Csv.Reader

/-! ## Complete lines -/

namespace Csv

/-- The record on a line, where the line ends with its record. -/
def record? (l : List Char) : Option (List String) :=
  match ({} : Reader).line l with
  | .ok r => if r.place = .recordStart then some r.fields.reverse else none
  | .error _ => none

/-- A line holds a whole record: no field of it is left open, and none is too long. -/
def IsCompleteLine (l : List Char) : Prop := (record? l).isSome

instance (l : List Char) : Decidable (IsCompleteLine l) :=
  inferInstanceAs (Decidable ((record? l).isSome = true))

variable {l : List Char} {fields : List String} {r : Reader}

lemma record?_eq_some_iff : record? l = some fields ↔
    ∃ r, ({} : Reader).line l = .ok r ∧ r.place = .recordStart ∧ r.fields.reverse = fields := by
  unfold record?
  cases ({} : Reader).line l with
  | error e => simp
  | ok r => simp

/-- The record of a complete line comes before those of the other lines. -/
lemma records_cons (h : record? l = some fields) (lines : List (List Char)) :
    records (l :: lines) = (fields :: (records lines).1, (records lines).2) := by
  obtain ⟨r, hline, hplace, rfl⟩ := record?_eq_some_iff.mp h
  have hrecords : recordsFrom {} (l :: lines) =
      (r.fields.reverse :: (recordsFrom {} lines).1, (recordsFrom {} lines).2) := by
    simp only [recordsFrom, hline, hplace, if_true]
  rw [records, records, hrecords]
  obtain ⟨rest, final⟩ := recordsFrom {} lines
  cases final <;> rfl

end Csv

/-! ## Ranges -/

namespace Country

open FirewallPolicy.Calendar (DateTime)
open FirewallPolicy.Text (readInt trim)

variable {fields : List String} {records : List (List String)} {range : Range}
  {ranges : List Range} {n : ℕ}

lemma mapError_eq_ok_iff {ε ε' α : Type} {x : Except ε α} {f : ε → ε'} {a : α} :
    x.mapError f = .ok a ↔ x = .ok a := by
  cases x <;> simp [Except.mapError]

lemma mapError_eq_error_iff {ε ε' α : Type} {x : Except ε α} {f : ε → ε'} {e : ε'} :
    x.mapError f = .error e ↔ ∃ e', x = .error e' ∧ f e' = e := by
  cases x <;> simp [Except.mapError]

/-- A text is read to the number of an address. -/
lemma number_address_eq_ok_iff {text : String} {a : Address.IPv4} :
    (number text >>= address) = .ok a ↔ readInt text = .ok a.value := by
  constructor
  · intro h
    obtain ⟨k, hk, haddress⟩ := exists_of_bind_eq_ok h
    rw [mapError_eq_ok_iff.mp hk]
    unfold address at haddress
    split_ifs at haddress with hrange
    cases haddress
    exact congrArg _ (Int.toNat_of_nonneg hrange.1).symm
  · intro h
    obtain ⟨v, hv⟩ := a
    have hrange : 0 ≤ (v : Int) ∧ (v : Int) < 0x100000000 := ⟨by omega, by omega⟩
    have hnumber : number text = .ok (v : Int) := mapError_eq_ok_iff.mpr h
    have haddress : address v = .ok ⟨v, hv⟩ := by
      rw [address, dif_pos hrange]
      simp only [Int.toNat_natCast]
    simp only [hnumber, bind, Except.bind, haddress]

lemma assignment_eq_ok_iff {seconds : Int} {t : DateTime} :
    assignment n seconds = .ok t ↔ DateTime.ofEpoch seconds 0 = .ok t := by
  unfold assignment
  split <;> simp [*]

/-- The records that are read to a range: they have seven fields or more, the numbers in them can be
read, and the range does not end before it starts. -/
theorem readRange_eq_ok_iff : readRange n fields = .ok range ↔
    ∃ first last assigned extra seconds,
      fields.map trim = first :: last :: range.registry :: assigned :: range.shortCode ::
        range.longCode :: range.country :: extra ∧
      readInt first = .ok range.first.value ∧ readInt last = .ok range.last.value ∧
      readInt assigned = .ok seconds ∧ DateTime.ofEpoch seconds 0 = .ok range.assigned ∧
      range.first.value ≤ range.last.value := by
  constructor
  · intro h
    unfold readRange at h
    split at h
    · rename_i first last registry assigned shortCode longCode country extra hfields
      obtain ⟨a, ha, h⟩ := exists_of_bind_eq_ok h
      obtain ⟨b, hb, h⟩ := exists_of_bind_eq_ok h
      obtain ⟨t, ht, h⟩ := exists_of_bind_eq_ok h
      obtain ⟨seconds, hseconds, ht⟩ := exists_of_bind_eq_ok ht
      split_ifs at h with horder
      · cases h
      cases h
      exact ⟨first, last, assigned, extra, seconds, hfields,
        number_address_eq_ok_iff.mp (mapError_eq_ok_iff.mp ha),
        number_address_eq_ok_iff.mp (mapError_eq_ok_iff.mp hb),
        mapError_eq_ok_iff.mp (mapError_eq_ok_iff.mp hseconds), assignment_eq_ok_iff.mp ht,
        Nat.le_of_not_lt horder⟩
    · cases h
  · rintro ⟨first, last, assigned, extra, seconds, hfields, hfirst, hlast, hassigned, ht, horder⟩
    have ha := number_address_eq_ok_iff.mpr hfirst
    have hb := number_address_eq_ok_iff.mpr hlast
    have hseconds : number assigned = .ok seconds := mapError_eq_ok_iff.mpr hassigned
    have hmoment : assignment n seconds = .ok range.assigned := assignment_eq_ok_iff.mpr ht
    simp only [readRange, hfields, ha, hb, hseconds, Except.mapError]
    simp [bind, Except.bind, hmoment, Nat.not_lt.mpr horder, pure, Except.pure]

/-- The ranges of records that are all read. -/
lemma rangesFrom_cons_iff : rangesFrom n (fields :: records) = (ranges, none) ↔
    isComment fields ∧ rangesFrom (n + 1) records = (ranges, none) ∨
    ¬ isComment fields ∧ ∃ range ranges', readRange n fields = .ok range ∧
      rangesFrom (n + 1) records = (ranges', none) ∧ ranges = range :: ranges' := by
  rw [rangesFrom]
  by_cases hcomment : isComment fields
  · simp [hcomment]
  · cases hread : readRange n fields with
    | error e => simp [hcomment]
    | ok range =>
      obtain ⟨ranges', error⟩ := rangesFrom (n + 1) records
      simp only [hcomment, Bool.false_eq_true, if_false, false_and, false_or, not_false_eq_true,
        true_and, Prod.mk.injEq, Except.ok.injEq]
      constructor
      · rintro ⟨rfl, rfl⟩
        exact ⟨range, ranges', rfl, ⟨rfl, rfl⟩, rfl⟩
      · rintro ⟨_, _, rfl, ⟨rfl, rfl⟩, rfl⟩
        exact ⟨rfl, rfl⟩

/-- The numbers of records matter for errors only. -/
lemma rangesFrom_of_number (h : rangesFrom n records = (ranges, none)) (m : ℕ) :
    rangesFrom m records = (ranges, none) := by
  induction records generalizing n m ranges with
  | nil => exact h
  | cons fields records ih =>
    rw [rangesFrom_cons_iff] at h ⊢
    rcases h with ⟨hcomment, h⟩ | ⟨hcomment, range, ranges', hread, h, hranges⟩
    · exact .inl ⟨hcomment, ih h (m + 1)⟩
    · have hread' : readRange m fields = .ok range :=
        readRange_eq_ok_iff.mpr (readRange_eq_ok_iff.mp hread)
      exact .inr ⟨hcomment, range, ranges', hread', ih h (m + 1), hranges⟩

/-- Lines are read without error if their records are. -/
lemma readRanges_eq_iff {lines : List (List Char)} : readRanges lines = (ranges, none) ↔
    (Csv.records lines).2 = none ∧ rangesFrom 1 (Csv.records lines).1 = (ranges, none) := by
  rw [readRanges]
  obtain ⟨records, error⟩ := Csv.records lines
  simp only
  cases hranges : rangesFrom 1 records with
  | mk ranges' fault => cases fault <;> simp [and_comm]

/-- If lines begin with the record of other lines, this is a comment, or it is read to a range that
comes before those of the other lines. -/
lemma readRanges_iff_of_records {lines lines' : List (List Char)}
    (h : Csv.records lines = (fields :: (Csv.records lines').1, (Csv.records lines').2)) :
    readRanges lines = (ranges, none) ↔
      isComment fields ∧ readRanges lines' = (ranges, none) ∨
      ¬ isComment fields ∧ ∃ range ranges', readRange 1 fields = .ok range ∧
        readRanges lines' = (ranges', none) ∧ ranges = range :: ranges' := by
  have hnumber : ∀ records ranges, rangesFrom (1 + 1) records = (ranges, none) ↔
      rangesFrom 1 records = (ranges, none) :=
    fun _ _ => ⟨fun h => rangesFrom_of_number h _, fun h => rangesFrom_of_number h _⟩
  simp only [readRanges_eq_iff, h, rangesFrom_cons_iff, hnumber]
  constructor
  · rintro ⟨herror, ⟨hcomment, hranges⟩ | ⟨hcomment, range, ranges', hread, hranges, rfl⟩⟩
    · exact .inl ⟨hcomment, herror, hranges⟩
    · exact .inr ⟨hcomment, range, ranges', hread, ⟨herror, hranges⟩, rfl⟩
  · rintro (⟨hcomment, herror, hranges⟩ | ⟨hcomment, range, ranges', hread, ⟨herror, hranges⟩, rfl⟩)
    · exact ⟨herror, .inl ⟨hcomment, hranges⟩⟩
    · exact ⟨herror, .inr ⟨hcomment, range, ranges', hread, hranges, rfl⟩⟩

/-- A complete line is a comment, or it is read to a range that comes before those of the other
lines. -/
theorem readRanges_cons_iff {l : List Char} (h : Csv.record? l = some fields)
    {lines : List (List Char)} : readRanges (l :: lines) = (ranges, none) ↔
      isComment fields ∧ readRanges lines = (ranges, none) ∨
      ¬ isComment fields ∧ ∃ range ranges', readRange 1 fields = .ok range ∧
        readRanges lines = (ranges', none) ∧ ranges = range :: ranges' :=
  readRanges_iff_of_records (Csv.records_cons h lines)

end Country

end FirewallPolicy
