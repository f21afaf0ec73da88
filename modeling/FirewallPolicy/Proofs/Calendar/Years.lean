import FirewallPolicy.Proofs.Calendar.Moments

/-!
# Years of moments

Every day belongs to the year on whose first of January or later it is, and so a clock that counts
years in 32 bits tells the moments between two numbers of seconds.

* `exists_cycles`: every day is given by cycles of years.
* `le_year_iff`: the years up to that of a day are those whose first day is not behind it.
* `IsBeyondClock`, `DateTime.ofEpoch_beyond_iff`: the moments that such a clock does not tell.
-/

namespace FirewallPolicy.Calendar

/-! ## Days by cycles -/

/-- Every day is one of a year in a span of four years, of a century, of 400 years. -/
lemma exists_cycles (days : Int) : ∃ era c q s n : Int,
    (0 ≤ c ∧ c ≤ 3) ∧ (0 ≤ q ∧ q ≤ 24) ∧ (0 ≤ s ∧ s ≤ 3) ∧ 0 ≤ n ∧
      (n < 365 ∨ n = 365 ∧ s = 3 ∧ (q < 24 ∨ c = 3)) ∧
      days = era * 146097 + (36524 * c + 1461 * q + 365 * s + n) - 719468 := by
  obtain ⟨era, dayOfEra, hdays, hera⟩ : ∃ era dayOfEra : Int,
      days = era * 146097 + dayOfEra - 719468 ∧ 0 ≤ dayOfEra ∧ dayOfEra ≤ 146096 :=
    ⟨(days + 719468) / 146097, (days + 719468) % 146097, by omega, by omega, by omega⟩
  -- The last century, and the last year of a span, may have one day more than the others.
  obtain ⟨c, dayOfCentury, hcentury, hc, hday⟩ : ∃ c dayOfCentury : Int,
      dayOfEra = 36524 * c + dayOfCentury ∧ (0 ≤ c ∧ c ≤ 3) ∧ 0 ≤ dayOfCentury ∧
        (dayOfCentury < 36524 ∨ dayOfCentury = 36524 ∧ c = 3) := by
    by_cases hend : dayOfEra = 146096
    · exact ⟨3, 36524, by omega, by omega, by omega⟩
    · exact ⟨dayOfEra / 36524, dayOfEra % 36524, by omega, by omega, by omega⟩
  obtain ⟨q, dayOfSpan, hspan, hq, hday'⟩ : ∃ q dayOfSpan : Int,
      dayOfCentury = 1461 * q + dayOfSpan ∧ (0 ≤ q ∧ q ≤ 24) ∧ 0 ≤ dayOfSpan ∧
        (dayOfSpan < 1460 ∨ dayOfSpan = 1460 ∧ (q < 24 ∨ c = 3)) :=
    ⟨dayOfCentury / 1461, dayOfCentury % 1461, by omega, by omega, by omega⟩
  obtain ⟨s, n, hyear, hs, hn⟩ : ∃ s n : Int,
      dayOfSpan = 365 * s + n ∧ (0 ≤ s ∧ s ≤ 3) ∧ 0 ≤ n ∧
        (n < 365 ∨ n = 365 ∧ s = 3 ∧ dayOfSpan = 1460) := by
    by_cases hend : dayOfSpan = 1460
    · exact ⟨3, 365, by omega, by omega, by omega⟩
    · exact ⟨dayOfSpan / 365, dayOfSpan % 365, by omega, by omega, by omega⟩
  exact ⟨era, c, q, s, n, hc, hq, hs, hn.1, by omega, by omega⟩

/-! ## First days of years -/

/-- The number of days from 1970-01-01 to the first of January of a year. -/
def firstDay (year : Int) : Int :=
  365 * (year - 1) + (year - 1) / 4 - (year - 1) / 100 + (year - 1) / 400 - 719162

lemma firstDay_add_one (year : Int) : firstDay year + 365 ≤ firstDay (year + 1) := by
  unfold firstDay
  omega

lemma firstDay_le {year year' : Int} (h : year ≤ year') : firstDay year ≤ firstDay year' := by
  obtain ⟨k, rfl⟩ := Int.le.dest h
  induction k with
  | zero => simp
  | succ k ih =>
    have hstep := firstDay_add_one (year + k)
    have hprev := ih (by omega)
    rw [Nat.cast_succ, ← Int.add_assoc]
    omega

/-- A day is in the year that begins on it or before it, and not in the next one. -/
lemma firstDay_year (days : Int) :
    firstDay (civilOfDays days).1 ≤ days ∧ days < firstDay ((civilOfDays days).1 + 1) := by
  obtain ⟨era, c, q, s, n, hc, hq, hs, hn, hlast, rfl⟩ := exists_cycles days
  obtain ⟨year, hyear⟩ : ∃ year, year = 100 * c + 4 * q + s + era * 400 := ⟨_, rfl⟩
  -- The year that begins in March is followed by the one whose first of January is in it.
  have hfirst : firstDay (year + 1) = era * 146097 + 36524 * c + 1461 * q + 365 * s - 719162 := by
    unfold firstDay
    omega
  have hbefore := firstDay_add_one year
  have hbehind := firstDay_add_one (year + 1)
  rw [civilOfDays_eq hc hq hs hn hlast]
  simp only [← hyear]
  by_cases hmarch : n < 306
  · have hmonth : (5 * n + 2) / 153 < 10 := by omega
    rw [if_pos hmonth, if_neg (by omega), Int.add_zero]
    omega
  · have hmonth : ¬ (5 * n + 2) / 153 < 10 := by omega
    rw [if_neg hmonth, if_pos (by omega)]
    omega

/-- The years up to that of a day are those whose first day is not behind it. -/
theorem le_year_iff (year days : Int) : year ≤ (civilOfDays days).1 ↔ firstDay year ≤ days := by
  have hyear := firstDay_year days
  constructor
  · intro h
    have hle := firstDay_le h
    omega
  · intro h
    by_contra hlt
    have hle := firstDay_le (show (civilOfDays days).1 + 1 ≤ year by omega)
    omega

/-! ## The reach of the clock -/

/-- Whether a moment is beyond a clock that counts years from 1900 in 32 bits: before the year
-2147481748, or after the year 2147485547. -/
def IsBeyondClock (seconds : Int) : Prop :=
  seconds < -67768040609740800 ∨ 67768036191676800 ≤ seconds

instance (seconds : Int) : Decidable (IsBeyondClock seconds) :=
  inferInstanceAs (Decidable (_ ∨ _))

/-- A moment is refused for another reason than its year in the calendar exactly if it is beyond the
clock. -/
theorem DateTime.ofEpoch_beyond_iff (seconds : Int) (microsecond : ℕ) :
    ofEpoch seconds microsecond = .error .yearTooLarge ∨
      ofEpoch seconds microsecond = .error .momentTooLarge ↔ IsBeyondClock seconds := by
  obtain ⟨days, hdays⟩ : ∃ days, days = seconds.fdiv 86400 := ⟨_, rfl⟩
  have hfirst : firstDay (-2147481748) = -784352321872 ∧ firstDay 2147485548 = 784352270737 := by
    decide
  have hlow := le_year_iff (-2147481748) days
  have hhigh := le_year_iff 2147485548 days
  rw [hfirst.1] at hlow
  rw [hfirst.2] at hhigh
  unfold ofEpoch IsBeyondClock
  simp only [← hdays]
  rw [Int.fdiv_eq_ediv_of_nonneg _ (by decide)] at hdays
  split_ifs with hmoment hclock hcalendar
  · simp only [or_true, true_iff]
    omega
  · simp only [true_or, true_iff]
    omega
  · simp only [Except.error.injEq, reduceCtorEq, or_self, false_iff]
    omega
  · simp only [or_self, false_iff]
    omega

end FirewallPolicy.Calendar
