import FirewallPolicy.Proofs.Calendar.Moments
import FirewallPolicy.Proofs.Country.WrittenRecords
import FirewallPolicy.Proofs.Text.WrittenNumbers
import Mathlib.Data.List.Forall2

/-!
# Written ranges

A range is written as a line with seven fields between quotes, which other fields may follow.
Ranges that were written so are read as they were, whatever their texts hold: commas, quotes, number
signs and line ends, at which the lines are cut before they are read.

* `Range.fields`, `Range.IsWritable`, `IsLineOf`: the lines of a range.
* `readRange_fields`: a range is read from its fields.
* `ranges_read_as_written`: and from its lines.
-/

namespace FirewallPolicy.Country

open FirewallPolicy.Calendar (DateTime)
open FirewallPolicy.Text (IsTrimmed decimalText joinWith linesOf readInt trim)

variable {range : Range} {field : String}

/-! ## Writing -/

/-- The texts of a range. -/
def Range.texts (range : Range) : List String :=
  [range.registry, range.shortCode, range.longCode, range.country]

/-- The fields in which a range is written. -/
def Range.fields (range : Range) : List String :=
  [decimalText range.first.value, decimalText range.last.value, range.registry,
    decimalText range.assigned.epoch, range.shortCode, range.longCode, range.country]

/-- Ranges that can be written: they do not end before they start, they were assigned at a full
second, and their texts have no blanks at the ends and are not longer than a field may be. -/
structure Range.IsWritable (range : Range) : Prop where
  ordered : range.first.value ≤ range.last.value
  moment : range.assigned.IsMoment
  trimmed : ∀ text ∈ range.texts, IsTrimmed text.toList
  length : ∀ text ∈ range.texts, text.toList.length ≤ Csv.fieldLimit

/-- A line in which a range is written. -/
def IsLineOf (range : Range) (line : List Char) : Prop :=
  ∃ ws extra e, List.Forall₂ Csv.IsWritten ws extra ∧ (e = ['\n'] ∨ e = ['\r', '\n']) ∧
    line = joinWith ',' (range.fields.map Csv.quoted ++ ws) ++ e

/-! ## Fields -/

lemma natAbs_value_lt (a : Address.IPv4) : (a.value : Int).natAbs < 10 ^ 12 := by
  have hlt := a.value_lt
  omega

lemma natAbs_epoch_lt {t : DateTime} (h : t.IsMoment) : t.epoch.natAbs < 10 ^ 12 := by
  obtain ⟨hdate, ⟨hhour, hminute, hsecond⟩, -⟩ := DateTime.isMoment_iff.mp h
  have hbounds := hdate.toDays_bounds
  rw [h.epoch_eq]
  omega

/-- What is written of a range is one of its texts or a number of few digits. -/
lemma Range.IsWritable.mem_fields (h : range.IsWritable) (hfield : field ∈ range.fields) :
    field ∈ range.texts ∨ ∃ k : Int, field = decimalText k ∧ k.natAbs < 10 ^ 12 := by
  simp only [Range.fields, List.mem_cons, List.not_mem_nil, or_false] at hfield
  rcases hfield with rfl | rfl | rfl | rfl | rfl | rfl | rfl
  · exact .inr ⟨_, rfl, natAbs_value_lt _⟩
  · exact .inr ⟨_, rfl, natAbs_value_lt _⟩
  · exact .inl (by simp [Range.texts])
  · exact .inr ⟨_, rfl, natAbs_epoch_lt h.moment⟩
  · exact .inl (by simp [Range.texts])
  · exact .inl (by simp [Range.texts])
  · exact .inl (by simp [Range.texts])

lemma Range.IsWritable.length_field_le (h : range.IsWritable) (hfield : field ∈ range.fields) :
    field.toList.length ≤ Csv.fieldLimit := by
  rcases h.mem_fields hfield with htext | ⟨k, rfl, hk⟩
  · exact h.length field htext
  · exact (Text.length_decimalText_le (by decide) hk).trans (by decide)

lemma Range.IsWritable.trim_field (h : range.IsWritable) (hfield : field ∈ range.fields) :
    trim field = field := by
  rcases h.mem_fields hfield with htext | ⟨k, rfl, -⟩
  · exact Text.trim_eq_self (h.trimmed field htext)
  · exact Text.trim_eq_self (Text.isTrimmed_decimalText k)

/-- A range is read from its fields. -/
theorem readRange_fields (h : range.IsWritable) (extra : List String) (n : ℕ) :
    readRange n (range.fields ++ extra) = .ok range := by
  have hnumber : ∀ {k : Int}, k.natAbs < 10 ^ 12 → readInt (decimalText k) = .ok k := fun hk =>
    Text.readInt_decimalText (Text.isWritable_of_natAbs_lt hk (by decide))
  have hvalue : ∀ a : Address.IPv4, readInt (decimalText a.value) = .ok a.value := fun a =>
    hnumber (natAbs_value_lt a)
  have hfields : range.fields.map trim = range.fields :=
    List.map_congr_left (fun _ => h.trim_field) |>.trans (List.map_id _)
  refine readRange_eq_ok_iff.mpr ⟨_, _, _, extra.map trim, range.assigned.epoch, ?_, hvalue _,
    hvalue _, hnumber (natAbs_epoch_lt h.moment), DateTime.ofEpoch_epoch h.moment, h.ordered⟩
  rw [List.map_append, hfields]
  rfl

/-- A range is no comment, since its first field is a number. -/
lemma isComment_fields (range : Range) (extra : List String) :
    isComment (range.fields ++ extra) = false := by
  have hdigits : (decimalText range.first.value).toList = Nat.toDigits 10 range.first.value := by
    rw [Text.toList_decimalText, if_neg (by omega), List.nil_append, Int.natAbs_natCast]
  have hsign : '#' ∉ Nat.toDigits 10 range.first.value := fun h =>
    absurd (Text.isDecimal_of_mem_toDigits h) (by decide)
  show ((Text.dropBlanks (decimalText range.first.value).toList).head? == some '#') = false
  rw [Text.dropBlanks_eq_self (Text.isTrimmed_decimalText _).head, hdigits, beq_eq_false_iff_ne]
  exact fun hhead => hsign (List.mem_of_head? hhead)

/-! ## Lines -/

/-- The lines of a text that begins with a line of a range begin with the record of the range. -/
lemma IsLineOf.records {line : List Char} (h : IsLineOf range line) (hrange : range.IsWritable)
    (rest : List Char) : ∃ extra, Csv.records (linesOf (line ++ rest)) =
      ((range.fields ++ extra) :: (Csv.records (linesOf rest)).1,
        (Csv.records (linesOf rest)).2) := by
  obtain ⟨ws, extra, e, hextra, he, rfl⟩ := h
  have hfields : List.Forall₂ Csv.IsWritten (range.fields.map Csv.quoted) range.fields :=
    List.forall₂_map_left_iff.mpr (List.forall₂_same.mpr fun field hfield =>
      .quoted (hrange.length_field_le hfield))
  exact ⟨extra, Csv.records_linesOf_append (List.rel_append hfields hextra) he ⟨_, rfl⟩ rest⟩

/-- Ranges are read as they were written, one line after the other. -/
theorem ranges_read_as_written {ranges : List Range} {lines : List (List Char)}
    (hranges : ∀ range ∈ ranges, range.IsWritable) (h : List.Forall₂ IsLineOf ranges lines) :
    readRanges (linesOf lines.flatten) = (ranges, none) := by
  induction h with
  | nil => rfl
  | @cons range line ranges lines hline _ ih =>
    rw [List.forall_mem_cons] at hranges
    obtain ⟨extra, hrecords⟩ := hline.records hranges.1 lines.flatten
    refine (readRanges_iff_of_records hrecords).mpr (.inr ⟨?_, range, ranges,
      readRange_fields hranges.1 extra 1, ih hranges.2, rfl⟩)
    rw [isComment_fields]
    exact Bool.false_ne_true

/-- A range with quotes, commas, number signs and line ends in its texts, assigned before 1970. -/
def crowdedRange : Range where
  first := ⟨0, by decide⟩
  last := ⟨0xffffffff, by decide⟩
  registry := "#1, \"iana\""
  assigned := ⟨⟨1969, 12, 31⟩, 23, 59, 59, 0, some 0⟩
  shortCode := ""
  longCode := "\""
  country := "first\r\n# second\r\n\nlast,"

/-- A line of it, with further fields. -/
def crowdedLine : List Char :=
  ("\"0\",\"4294967295\",\"#1, \"\"iana\"\"\",\"-1\",\"\",\"\"\"\"," ++
    "\"first\r\n# second\r\n\nlast,\",\"more, and\n\",\"\",,# more\r\n").toList

/-- A range of one address. -/
def loneRange : Range :=
  { crowdedRange with last := ⟨0, by decide⟩, country := "nowhere" }

/-- A line of it. -/
def loneLine : List Char :=
  ("\"0\",\"0\",\"#1, \"\"iana\"\"\",\"-1\",\"\",\"\"\"\",\"nowhere\"\n").toList

/-- Both ranges are read from their lines. -/
theorem crowdedRange_read_as_written :
    readRanges (linesOf (crowdedLine ++ loneLine)) = ([crowdedRange, loneRange], none) := by
  have hcrowded : crowdedRange.IsWritable :=
    ⟨by decide, rfl, by decide +kernel, by decide +kernel⟩
  have hlone : loneRange.IsWritable := ⟨by decide, rfl, by decide +kernel, by decide +kernel⟩
  have hmore : List.Forall₂ Csv.IsWritten
      [Csv.quoted "more, and\n", Csv.quoted "", "".toList, "# more".toList]
      ["more, and\n", "", "", "# more"] :=
    .cons (.quoted (by decide)) (.cons (.quoted (by decide))
      (.cons (.plain (by decide) (by simp) (by decide))
        (.cons (.plain (by decide) (by simp [Csv.Reader.isLineEnd]) (by decide)) .nil)))
  have hcrowdedLine : IsLineOf crowdedRange crowdedLine :=
    ⟨_, _, ['\r', '\n'], hmore, .inr rfl, by decide +kernel⟩
  have hloneLine : IsLineOf loneRange loneLine :=
    ⟨[], [], ['\n'], .nil, .inl rfl, by decide +kernel⟩
  have hread := ranges_read_as_written
    (List.forall_mem_cons.mpr ⟨hcrowded, List.forall_mem_singleton.mpr hlone⟩)
    (.cons hcrowdedLine (.cons hloneLine .nil))
  rwa [List.flatten_cons, List.flatten_singleton] at hread

end FirewallPolicy.Country
