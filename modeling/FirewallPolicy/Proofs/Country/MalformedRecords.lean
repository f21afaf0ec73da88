import FirewallPolicy.Proofs.Calendar.Years
import FirewallPolicy.Proofs.Country.Records

/-!
# Malformed records

The ranges of a list are read up to the first record that is no comment and describes no range.
What is wrong with that record is told with its number, but for a time of assignment that is beyond
the clock, and for records that cannot be cut into fields at all.

* `Describes`, `IsMalformed`, `IsFirstMalformed`: records by what they say.
* `IsTimeless`: records of which only the time of assignment is beyond the clock.
* `readRange_error`: what becomes of a malformed record.
* `faults_have_places_iff`: when every fault is told with the number of its record.
-/

namespace FirewallPolicy.Country

open FirewallPolicy.Address (IPv4)
open FirewallPolicy.Calendar (DateTime IsBeyondClock)
open FirewallPolicy.Text (readInt trim)

variable {fields : List String} {records : List (List String)} {range : Range} {e : RangeError}
  {n : ℕ}

/-! ## What records say -/

/-- The range that a record describes in its first seven fields. -/
def Describes (fields : List String) (range : Range) : Prop :=
  ∃ first last assigned extra seconds,
    fields.map trim = first :: last :: range.registry :: assigned :: range.shortCode ::
      range.longCode :: range.country :: extra ∧
    readInt first = .ok range.first.value ∧ readInt last = .ok range.last.value ∧
    readInt assigned = .ok seconds ∧ DateTime.ofEpoch seconds 0 = .ok range.assigned ∧
    range.first.value ≤ range.last.value

/-- A record that is no comment and describes no range. -/
def IsMalformed (fields : List String) : Prop :=
  isComment fields = false ∧ ∀ range, ¬ Describes fields range

/-- The first malformed record, and its number. -/
def IsFirstMalformed (records : List (List String)) (n : ℕ) (fields : List String) : Prop :=
  ∃ before after, records = before ++ fields :: after ∧ n = before.length + 1 ∧
    (∀ earlier ∈ before, ¬ IsMalformed earlier) ∧ IsMalformed fields

/-- A record with two addresses of which the time of assignment is beyond the clock. -/
def IsTimeless (fields : List String) : Prop :=
  ∃ first last registry assigned rest, ∃ a b : IPv4, ∃ seconds,
    fields.map trim = first :: last :: registry :: assigned :: rest ∧ 3 ≤ rest.length ∧
    readInt first = .ok a.value ∧ readInt last = .ok b.value ∧ readInt assigned = .ok seconds ∧
    IsBeyondClock seconds

/-- An error is told with the number of a record. -/
def RangeError.IsPlaced (e : RangeError) (n : ℕ) : Prop :=
  ∃ fault, e = .record n fault ∧ e.message = invalidText s!"line {n}" fault.message

/-! ## Single records -/

/-- A time of assignment is the fault of the record, unless it is beyond the clock. -/
lemma assignment_error {seconds : Int} (h : assignment n seconds = .error e) :
    (∃ fault, e = .record n fault) ∧ ¬ IsBeyondClock seconds ∨
      (∃ cause, e = .moment cause) ∧ IsBeyondClock seconds := by
  rw [← DateTime.ofEpoch_beyond_iff seconds 0]
  unfold assignment at h
  split at h
  · cases h
  · rename_i hyear
    cases h
    exact .inr ⟨⟨_, rfl⟩, .inl hyear⟩
  · rename_i hmoment
    cases h
    exact .inr ⟨⟨_, rfl⟩, .inr hmoment⟩
  · rename_i cause hyear hmoment hcause
    cases h
    rw [hcause, Except.error.injEq, Except.error.injEq]
    exact .inl ⟨⟨_, rfl⟩, fun hbeyond => hbeyond.elim hyear hmoment⟩

lemma not_isBeyondClock_of_assignment {seconds : Int} {t : DateTime}
    (h : assignment n seconds = .ok t) : ¬ IsBeyondClock seconds := by
  rw [← DateTime.ofEpoch_beyond_iff seconds 0, assignment_eq_ok_iff.mp h]
  exact fun hbeyond => hbeyond.elim nofun nofun

/-- A record of seven fields or more is timeless if both addresses can be read, and its time of
assignment is beyond the clock. -/
lemma isTimeless_iff {first last registry assigned shortCode longCode country : String}
    {extra : List String} (h : fields.map trim =
      first :: last :: registry :: assigned :: shortCode :: longCode :: country :: extra) :
    IsTimeless fields ↔ (∃ a, number first >>= address = .ok a) ∧
      (∃ b, number last >>= address = .ok b) ∧
      ∃ seconds, number assigned = .ok seconds ∧ IsBeyondClock seconds := by
  unfold IsTimeless
  simp only [h, number_address_eq_ok_iff]
  constructor
  · rintro ⟨_, _, _, _, _, a, b, seconds, hfields, -, ha, hb, hseconds, hbeyond⟩
    cases hfields
    exact ⟨⟨a, ha⟩, ⟨b, hb⟩, seconds, mapError_eq_ok_iff.mpr hseconds, hbeyond⟩
  · rintro ⟨⟨a, ha⟩, ⟨b, hb⟩, seconds, hseconds, hbeyond⟩
    refine ⟨_, _, _, _, _, a, b, seconds, rfl, ?_, ha, hb, mapError_eq_ok_iff.mp hseconds, hbeyond⟩
    simp only [List.length_cons]
    omega

/-- What is wrong with a record is told with its number, unless only its time of assignment is
beyond the clock. -/
theorem readRange_error (h : readRange n fields = .error e) :
    (∃ fault, e = .record n fault) ∧ ¬ IsTimeless fields ∨
      (∃ cause, e = .moment cause) ∧ IsTimeless fields := by
  unfold readRange at h
  split at h
  · rename_i first last registry assigned shortCode longCode country extra hfields
    rw [isTimeless_iff hfields]
    -- The steps of the reader in their order; the first that fails decides.
    rcases bind_eq_error_iff.mp h with hfirst | ⟨a, ha, h⟩
    · obtain ⟨fault, hfault, rfl⟩ := mapError_eq_error_iff.mp hfirst
      exact .inl ⟨⟨fault, rfl⟩, by simp [hfault]⟩
    rcases bind_eq_error_iff.mp h with hlast | ⟨b, hb, h⟩
    · obtain ⟨fault, hfault, rfl⟩ := mapError_eq_error_iff.mp hlast
      exact .inl ⟨⟨fault, rfl⟩, by simp [hfault]⟩
    rw [mapError_eq_ok_iff] at ha hb
    simp only [ha, hb, Except.ok.injEq, exists_eq', true_and]
    rcases bind_eq_error_iff.mp h with hassigned | ⟨t, ht, h⟩
    · rcases bind_eq_error_iff.mp hassigned with hnumber | ⟨seconds, hseconds, hmoment⟩
      · obtain ⟨fault, hfault, rfl⟩ := mapError_eq_error_iff.mp hnumber
        exact .inl ⟨⟨fault, rfl⟩, by simp [hfault]⟩
      · simp only [mapError_eq_ok_iff.mp hseconds, Except.ok.injEq, exists_eq_left']
        exact assignment_error hmoment
    · obtain ⟨seconds, hseconds, hmoment⟩ := exists_of_bind_eq_ok ht
      simp only [mapError_eq_ok_iff.mp hseconds, Except.ok.injEq, exists_eq_left']
      split_ifs at h
      · cases h
        exact .inl ⟨⟨_, rfl⟩, not_isBeyondClock_of_assignment hmoment⟩
      · cases h
  · rename_i hfields
    cases h
    refine .inl ⟨⟨_, rfl⟩, ?_⟩
    rintro ⟨first, last, registry, assigned, rest, a, b, seconds, hmap, hrest, -⟩
    match rest with
    | [] | [_] | [_, _] => exact absurd hrest (by simp)
    | _ :: _ :: _ :: _ => exact hfields _ _ _ _ _ _ _ _ hmap

/-- A record that is no comment is malformed if it is not read. -/
lemma isMalformed_iff : IsMalformed fields ↔
    isComment fields = false ∧ ∃ e, readRange n fields = .error e := by
  have hdescribes : ∀ range, Describes fields range ↔ readRange n fields = .ok range :=
    fun range => readRange_eq_ok_iff.symm
  unfold IsMalformed
  simp only [hdescribes]
  cases readRange n fields <;> simp

/-! ## Lists of records -/

/-- A malformed record stops the reading. -/
lemma snd_rangesFrom_of_isMalformed (h : IsMalformed fields) (n : ℕ)
    (records : List (List String)) :
    ∃ e, readRange n fields = .error e ∧ (rangesFrom n (fields :: records)).2 = some e := by
  obtain ⟨hcomment, e, he⟩ := (isMalformed_iff (n := n)).mp h
  refine ⟨e, he, ?_⟩
  simp only [rangesFrom, hcomment, he, Bool.false_eq_true, if_false]

/-- Any other record leaves the outcome to those behind it. -/
lemma snd_rangesFrom_of_not_isMalformed (h : ¬ IsMalformed fields) :
    (rangesFrom n (fields :: records)).2 = (rangesFrom (n + 1) records).2 := by
  rw [isMalformed_iff (n := n)] at h
  rw [rangesFrom]
  by_cases hcomment : isComment fields
  · rw [if_pos hcomment]
  · cases hread : readRange n fields with
    | error e => exact absurd ⟨Bool.eq_false_iff.mpr hcomment, e, hread⟩ h
    | ok range => rw [if_neg hcomment]

/-- Records are read up to the first malformed one, whose error is the outcome. -/
lemma snd_rangesFrom_eq_some_iff : (rangesFrom n records).2 = some e ↔
    ∃ before fields after, records = before ++ fields :: after ∧
      (∀ earlier ∈ before, ¬ IsMalformed earlier) ∧ IsMalformed fields ∧
      readRange (n + before.length) fields = .error e := by
  induction records generalizing n with
  | nil => simp [rangesFrom]
  | cons first records ih =>
    by_cases hfirst : IsMalformed first
    · obtain ⟨e', hread, hstop⟩ := snd_rangesFrom_of_isMalformed hfirst n records
      rw [hstop, Option.some.injEq]
      constructor
      · rintro rfl
        exact ⟨[], first, records, rfl, List.forall_mem_nil _, hfirst, hread⟩
      · rintro ⟨before, fields, after, hrecords, hbefore, -, herror⟩
        cases before with
        | nil =>
          cases hrecords
          rw [List.length_nil, Nat.add_zero, hread] at herror
          exact Except.error.inj herror
        | cons _ before =>
          cases hrecords
          exact absurd hfirst (hbefore first List.mem_cons_self)
    · rw [snd_rangesFrom_of_not_isMalformed hfirst, ih]
      constructor
      · rintro ⟨before, fields, after, rfl, hbefore, hfields, herror⟩
        refine ⟨first :: before, fields, after, rfl, ?_, hfields, ?_⟩
        · exact List.forall_mem_cons.mpr ⟨hfirst, hbefore⟩
        · rwa [List.length_cons, Nat.add_comm before.length, ← Nat.add_assoc]
      · rintro ⟨before, fields, after, hrecords, hbefore, hfields, herror⟩
        cases before with
        | nil =>
          cases hrecords
          exact absurd hfields hfirst
        | cons _ before =>
          cases hrecords
          rw [List.length_cons, Nat.add_comm before.length, ← Nat.add_assoc] at herror
          exact ⟨before, fields, after, rfl, (List.forall_mem_cons.mp hbefore).2, hfields, herror⟩

/-- All records are read if none of them is malformed. -/
lemma snd_rangesFrom_eq_none_iff : (rangesFrom n records).2 = none ↔
    ∀ fields ∈ records, ¬ IsMalformed fields := by
  induction records generalizing n with
  | nil => simp [rangesFrom]
  | cons first records ih =>
    rw [List.forall_mem_cons]
    by_cases hfirst : IsMalformed first
    · obtain ⟨e, -, hstop⟩ := snd_rangesFrom_of_isMalformed hfirst n records
      simp [hstop, hfirst]
    · rw [snd_rangesFrom_of_not_isMalformed hfirst, ih]
      simp [hfirst]

/-- No range ends before it starts. -/
lemma ordered_of_mem_rangesFrom (h : range ∈ (rangesFrom n records).1) :
    range.first.value ≤ range.last.value := by
  induction records generalizing n with
  | nil => cases h
  | cons fields records ih =>
    rw [rangesFrom] at h
    split_ifs at h with hcomment
    · exact ih h
    · cases hread : readRange n fields with
      | error e =>
        rw [hread] at h
        cases h
      | ok first =>
        rw [hread] at h
        rcases List.mem_cons.mp h with rfl | hrest
        · obtain ⟨_, _, _, _, _, _, _, _, _, _, hordered⟩ := readRange_eq_ok_iff.mp hread
          exact hordered
        · exact ih hrest

/-! ## Lines -/

variable {lines : List (List Char)}

/-- Lines give the ranges of their records. -/
lemma fst_readRanges (lines : List (List Char)) :
    (readRanges lines).1 = (rangesFrom 1 (Csv.records lines).1).1 := by
  unfold readRanges
  obtain ⟨records, error⟩ := Csv.records lines
  simp only
  split <;> simp [*]

/-- The fault of a record stops the reading before lines that cannot be cut into fields do. -/
lemma snd_readRanges (lines : List (List Char)) :
    (readRanges lines).2 = ((rangesFrom 1 (Csv.records lines).1).2).or
      ((Csv.records lines).2.map .csv) := by
  unfold readRanges
  obtain ⟨records, error⟩ := Csv.records lines
  simp only
  split <;> simp [*]

/-- Why the reading stops: at the first malformed record, or else at lines that cannot be cut into
fields. -/
lemma readRanges_error_cases (h : (readRanges lines).2 = some e) :
    (∃ n fields, IsFirstMalformed (Csv.records lines).1 n fields ∧ readRange n fields = .error e) ∨
      (∀ fields ∈ (Csv.records lines).1, ¬ IsMalformed fields) ∧
        ∃ cause, (Csv.records lines).2 = some cause ∧ e = .csv cause := by
  rw [snd_readRanges] at h
  cases hranges : (rangesFrom 1 (Csv.records lines).1).2 with
  | some e' =>
    rw [hranges] at h
    cases h
    obtain ⟨before, fields, after, hrecords, hbefore, hfields, herror⟩ :=
      snd_rangesFrom_eq_some_iff.mp hranges
    rw [Nat.add_comm] at herror
    exact .inl ⟨_, fields, ⟨before, after, hrecords, rfl, hbefore, hfields⟩, herror⟩
  | none =>
    rw [hranges, Option.none_or, Option.map_eq_some_iff] at h
    obtain ⟨cause, hcause, rfl⟩ := h
    exact .inr ⟨snd_rangesFrom_eq_none_iff.mp hranges, cause, hcause, rfl⟩

/-- The reading stops at the first malformed record. -/
lemma IsFirstMalformed.exists_error (h : IsFirstMalformed (Csv.records lines).1 n fields) :
    ∃ e, readRange n fields = .error e ∧ (readRanges lines).2 = some e := by
  obtain ⟨before, after, hrecords, rfl, hbefore, hfields⟩ := h
  obtain ⟨-, e, he⟩ := (isMalformed_iff (n := before.length + 1)).mp hfields
  have hranges : (rangesFrom 1 (Csv.records lines).1).2 = some e :=
    snd_rangesFrom_eq_some_iff.mpr
      ⟨before, fields, after, hrecords, hbefore, hfields, by rwa [Nat.add_comm]⟩
  exact ⟨e, he, by rw [snd_readRanges, hranges, Option.some_or]⟩

/-- No range that is read ends before it starts.  The reading runs to the end exactly if no record
is malformed and all lines can be cut into records, and the only record that is ever blamed by its
number is the first malformed one.  It is blamed whenever the reading stops, exactly if its time of
assignment is not beyond the clock, and if there is such a record wherever lines cannot be cut. -/
theorem faults_have_places_iff (lines : List (List Char)) :
    (∀ range ∈ (readRanges lines).1,
      range.first.value ≤ range.last.value ∧ range.last.value < 2 ^ 32) ∧
    ((readRanges lines).2 = none ↔
      (∀ fields ∈ (Csv.records lines).1, ¬ IsMalformed fields) ∧ (Csv.records lines).2 = none) ∧
    (∀ e ∈ (readRanges lines).2, ∀ n, e.IsPlaced n →
      ∃ fields, IsFirstMalformed (Csv.records lines).1 n fields) ∧
    ((∀ e ∈ (readRanges lines).2, ∃ n, e.IsPlaced n) ↔
      (∀ n fields, IsFirstMalformed (Csv.records lines).1 n fields → ¬ IsTimeless fields) ∧
      ((∀ fields ∈ (Csv.records lines).1, ¬ IsMalformed fields) →
        (Csv.records lines).2 = none)) := by
  refine ⟨fun range hrange => ?_, ?_, fun e he n hplaced => ?_, fun hplaced => ⟨?_, ?_⟩, ?_⟩
  · rw [fst_readRanges] at hrange
    exact ⟨ordered_of_mem_rangesFrom hrange, range.last.value_lt⟩
  · rw [snd_readRanges, Option.or_eq_none_iff, snd_rangesFrom_eq_none_iff, Option.map_eq_none_iff]
  · obtain ⟨fault, rfl, -⟩ := hplaced
    rcases readRanges_error_cases he with ⟨m, fields, hfirst, herror⟩ | ⟨-, cause, -, hcause⟩
    · rcases readRange_error herror with ⟨⟨_, hrecord⟩, -⟩ | ⟨⟨_, hmoment⟩, -⟩
      · cases hrecord
        exact ⟨fields, hfirst⟩
      · cases hmoment
    · cases hcause
  · intro n fields hfirst
    obtain ⟨e, herror, hstop⟩ := hfirst.exists_error
    obtain ⟨m, fault, rfl, -⟩ := hplaced e hstop
    rcases readRange_error herror with ⟨-, htimely⟩ | ⟨⟨_, hmoment⟩, -⟩
    · exact htimely
    · cases hmoment
  · intro hall
    by_contra hcsv
    obtain ⟨cause, hcause⟩ := Option.ne_none_iff_exists'.mp hcsv
    have hstop : (readRanges lines).2 = some (.csv cause) := by
      rw [snd_readRanges, snd_rangesFrom_eq_none_iff.mpr hall, hcause]
      rfl
    obtain ⟨m, fault, hrecord, -⟩ := hplaced _ hstop
    cases hrecord
  · rintro ⟨htimely, hcut⟩ e he
    rcases readRanges_error_cases he with ⟨n, fields, hfirst, herror⟩ | ⟨hall, cause, hcause, -⟩
    · rcases readRange_error herror with ⟨⟨fault, rfl⟩, -⟩ | ⟨-, htimeless⟩
      · exact ⟨n, fault, rfl, rfl⟩
      · exact absurd htimeless (htimely n fields hfirst)
    · rw [hcut hall] at hcause
      cases hcause

/-- The line of a range that was assigned at a time beyond the clock. -/
def distantLine : List Char :=
  "16777216,16777471,apnic,100000000000000000000,AU,AUS,Australia\n".toList

/-- The line of a range that was assigned in a year beyond the clock. -/
def distantYearLine : List Char :=
  "16777216,16777471,apnic,67768036191676800,AU,AUS,Australia\n".toList

/-- Such a time is not told with its record, and neither is a line that goes on behind its end. -/
theorem distantLine_has_no_place :
    readRanges [distantLine] = ([], some (.moment .momentTooLarge)) ∧
    readRanges [distantYearLine] = ([], some (.moment .yearTooLarge)) ∧
    readRanges ["a\rb\n".toList] = ([], some (.csv .characterAfterLineEnd)) ∧
    ¬ ∀ lines, ∀ e ∈ (readRanges lines).2, ∃ n, e.IsPlaced n := by
  have hdistant : readRanges [distantLine] = ([], some (.moment .momentTooLarge)) := by
    decide +kernel
  refine ⟨hdistant, by decide +kernel, by decide +kernel, fun hplaced => ?_⟩
  obtain ⟨n, fault, hrecord, -⟩ := hplaced [distantLine] _ (by rw [hdistant]; rfl)
  cases hrecord

end FirewallPolicy.Country
