import FirewallPolicy.Calendar.Date
import Mathlib.Tactic.Common
import Mathlib.Tactic.IntervalCases

/-!
# Moments and seconds

A time to the second in universal time is a number of seconds from 1970-01-01, and is found again
from that number.

Years are taken to begin in March, so that the 29th of February is the last day of its year.  In 400
such years there are 4 centuries, in a century 25 spans of four years (the last one shorter by a day
in all but the fourth century), and in a span four years.

* `civilOfDays_toDays`: the days of the calendar.
* `DateTime.ofEpoch_epoch`: and the times of day.
-/

namespace FirewallPolicy.Calendar

/-! ## Numbers of days -/

/-- The year in 400 years is found from the day in them. -/
lemma yearOfEra_eq {c q s n : Int} (hc : 0 ≤ c ∧ c ≤ 3) (hq : 0 ≤ q ∧ q ≤ 24)
    (hs : 0 ≤ s ∧ s ≤ 3) (hn : 0 ≤ n) (hlast : n < 365 ∨ n = 365 ∧ s = 3 ∧ (q < 24 ∨ c = 3)) :
    let dayOfEra := 36524 * c + 1461 * q + 365 * s + n
    (dayOfEra - dayOfEra / 1460 + dayOfEra / 36524 - dayOfEra / 146096) / 365 =
      100 * c + 4 * q + s := by
  intro dayOfEra
  -- The last day of the 400 years is the only one that the last division counts.
  by_cases hend : dayOfEra = 146096
  · have hc' : c = 3 := by omega
    have hq' : q = 24 := by omega
    have hs' : s = 3 := by omega
    omega
  have hcenturies : dayOfEra / 36524 = c := by omega
  have heras : dayOfEra / 146096 = 0 := by omega
  have hspans : dayOfEra / 1460 = 25 * c + q + (24 * c + q + 365 * s + n) / 1460 := by omega
  have hrest : 0 ≤ n - (24 * c + q + 365 * s + n) / 1460 ∧
      n - (24 * c + q + 365 * s + n) / 1460 < 365 := by
    omega
  omega

/-- The month is found from the day in the year. -/
lemma monthFromMarch_eq {m d : Int} (hm : 0 ≤ m ∧ m ≤ 11) (hd : 1 ≤ d)
    (hlength : (153 * m + 2) / 5 + d ≤ (153 * (m + 1) + 2) / 5) :
    (5 * ((153 * m + 2) / 5 + d - 1) + 2) / 153 = m := by
  obtain ⟨hm, hm'⟩ := hm
  interval_cases m <;> omega

/-- Year, month and day of a day that is given by cycles of years. -/
lemma civilOfDays_eq {era c q s n : Int} (hc : 0 ≤ c ∧ c ≤ 3) (hq : 0 ≤ q ∧ q ≤ 24)
    (hs : 0 ≤ s ∧ s ≤ 3) (hn : 0 ≤ n) (hlast : n < 365 ∨ n = 365 ∧ s = 3 ∧ (q < 24 ∨ c = 3)) :
    civilOfDays (era * 146097 + (36524 * c + 1461 * q + 365 * s + n) - 719468) =
      let m := (5 * n + 2) / 153
      let month := if m < 10 then m + 3 else m - 9
      (100 * c + 4 * q + s + era * 400 + (if month ≤ 2 then 1 else 0), month.toNat,
        (n - (153 * m + 2) / 5 + 1).toNat) := by
  have hera : (era * 146097 + (36524 * c + 1461 * q + 365 * s + n)) / 146097 = era := by omega
  have hday : 36524 * c + 1461 * q + 365 * s + n - (365 * (100 * c + 4 * q + s) +
      (100 * c + 4 * q + s) / 4 - (100 * c + 4 * q + s) / 100) = n := by
    clear hera
    omega
  have hyear := yearOfEra_eq hc hq hs hn hlast
  simp only at hyear
  unfold civilOfDays
  simp (disch := decide) only [Int.fdiv_eq_ediv_of_nonneg, Int.sub_add_cancel, hera,
    add_sub_cancel_left, hyear, hday]

/-! ## Days of the calendar -/

/-- A day that is in the calendar. -/
def Date.IsValid (d : Date) : Prop := Date.make d.year d.month d.day = .ok d

lemma Date.isValid_iff {d : Date} : d.IsValid ↔ (1 ≤ d.year ∧ d.year ≤ 9999) ∧
    (1 ≤ d.month ∧ d.month ≤ 12) ∧ 1 ≤ d.day ∧ d.day ≤ daysInMonth d.year d.month := by
  unfold IsValid make
  split_ifs with hyear hmonth hday
  · simp only [false_iff]
    omega
  · simp only [false_iff]
    omega
  · simp only [false_iff]
    omega
  · simp only [true_iff]
    omega

/-- The month of a date, counted from March. -/
def Date.monthFromMarch (d : Date) : Int := if 2 < d.month then d.month - 3 else d.month + 9

/-- Where a day of the calendar stands in a year that begins in March. -/
lemma Date.dayOfYear_spec {d : Date} (hmonth : 1 ≤ d.month ∧ d.month ≤ 12)
    (hday : d.day ≤ daysInMonth d.year d.month) :
    let m := d.monthFromMarch
    (0 ≤ m ∧ m ≤ 11) ∧ (153 * m + 2) / 5 + d.day ≤ (153 * (m + 1) + 2) / 5 ∧
      ((153 * m + 2) / 5 + d.day ≤ 365 ∨
        (153 * m + 2) / 5 + d.day = 366 ∧ d.month = 2 ∧ isLeap d.year) := by
  obtain ⟨year, month, day⟩ := d
  obtain ⟨hmonth, hmonth'⟩ := hmonth
  simp only [monthFromMarch, daysInMonth] at *
  cases hleap : isLeap year <;> interval_cases month <;> simp [hleap] at hday ⊢ <;> omega

/-- Where a day stands: in which 400 years, century, span of four years and year of the span, and
on which day of that year. -/
structure Date.Stands (d : Date) (era c q s n : Int) : Prop where
  century : 0 ≤ c ∧ c ≤ 3
  span : 0 ≤ q ∧ q ≤ 24
  yearOfSpan : 0 ≤ s ∧ s ≤ 3
  eras : 0 ≤ era ∧ era ≤ 24
  year : 400 * era + (100 * c + 4 * q + s) = if d.month ≤ 2 then (d.year : Int) - 1 else d.year
  dayOfYear : n = (153 * d.monthFromMarch + 2) / 5 + d.day - 1
  dayOfYear_nonneg : 0 ≤ n
  lastDay : n < 365 ∨ n = 365 ∧ s = 3 ∧ (q < 24 ∨ c = 3)
  toDays : d.toDays = era * 146097 + (36524 * c + 1461 * q + 365 * s + n) - 719468

lemma Date.IsValid.exists_stands {d : Date} (h : d.IsValid) :
    ∃ era c q s n, d.Stands era c q s n := by
  obtain ⟨hyear, hmonth, hday, hday'⟩ := Date.isValid_iff.mp h
  obtain ⟨hm, -, hlast⟩ := Date.dayOfYear_spec hmonth hday'
  obtain ⟨y, hy⟩ : ∃ y : Int, y = if d.month ≤ 2 then (d.year : Int) - 1 else d.year := ⟨_, rfl⟩
  obtain ⟨n, hn⟩ : ∃ n, n = (153 * d.monthFromMarch + 2) / 5 + d.day - 1 := ⟨_, rfl⟩
  have hrange : 0 ≤ y ∧ y ≤ 9999 := by
    split_ifs at hy <;> omega
  obtain ⟨era, c, q, s, hsplit, hc, hq, hs⟩ : ∃ era c q s : Int,
      y = 400 * era + (100 * c + 4 * q + s) ∧ (0 ≤ c ∧ c ≤ 3) ∧ (0 ≤ q ∧ q ≤ 24) ∧
        (0 ≤ s ∧ s ≤ 3) :=
    ⟨y / 400, y % 400 / 100, y % 100 / 4, y % 4, by omega, by omega, by omega, by omega⟩
  have hera : y / 400 = era := by omega
  have hyearOfEra : y - era * 400 = 100 * c + 4 * q + s := by omega
  have hleaps : (100 * c + 4 * q + s) / 4 = 25 * c + q ∧ (100 * c + 4 * q + s) / 100 = c := by
    omega
  have hleap : isLeap d.year → d.month = 2 → s = 3 ∧ (q < 24 ∨ c = 3) := by
    intro hleap hfeb
    simp only [isLeap, Bool.and_eq_true, beq_iff_eq, Bool.or_eq_true, bne_iff_ne] at hleap
    rw [if_pos (by omega)] at hy
    omega
  have hdays : d.toDays = era * 146097 + (36524 * c + 1461 * q + 365 * s + n) - 719468 := by
    have hunfold : d.toDays = y.fdiv 400 * 146097 + ((y - y.fdiv 400 * 400) * 365 +
        (y - y.fdiv 400 * 400).fdiv 4 - (y - y.fdiv 400 * 400).fdiv 100 +
          ((153 * d.monthFromMarch + 2).fdiv 5 + d.day - 1)) - 719468 := by
      rw [hy]
      rfl
    rw [hunfold]
    simp (disch := decide) only [Int.fdiv_eq_ediv_of_nonneg, hera, hyearOfEra, hleaps, ← hn]
    omega
  refine ⟨era, c, q, s, n, hc, hq, hs, by omega, by rw [← hsplit, hy], hn, by omega, ?_, hdays⟩
  rcases hlast with hlast | ⟨hlast, hfeb, hleapYear⟩
  · exact .inl (by omega)
  · exact .inr ⟨by omega, hleap hleapYear hfeb⟩

/-- A day of the calendar is found again from its number. -/
theorem civilOfDays_toDays {d : Date} (h : d.IsValid) :
    civilOfDays d.toDays = (↑d.year, d.month, d.day) := by
  obtain ⟨era, c, q, s, n, hstands⟩ := h.exists_stands
  obtain ⟨-, hmonth, hday, hday'⟩ := Date.isValid_iff.mp h
  obtain ⟨hm, hlength, -⟩ := Date.dayOfYear_spec hmonth hday'
  have hn := hstands.dayOfYear
  have hmonthFromMarch : (5 * n + 2) / 153 = d.monthFromMarch := by
    rw [hn]
    exact monthFromMarch_eq hm (by omega) hlength
  have hmonthOf : (if d.monthFromMarch < 10 then d.monthFromMarch + 3
      else d.monthFromMarch - 9) = (d.month : Int) := by
    unfold Date.monthFromMarch
    split_ifs <;> omega
  have hyearOf : 100 * c + 4 * q + s + era * 400 + (if (d.month : Int) ≤ 2 then 1 else 0) =
      d.year := by
    have hyear := hstands.year
    split_ifs at hyear ⊢ <;> omega
  rw [hstands.toDays, civilOfDays_eq hstands.century hstands.span hstands.yearOfSpan
    hstands.dayOfYear_nonneg hstands.lastDay]
  simp only [hmonthFromMarch, hmonthOf, hyearOf, Int.toNat_natCast, Prod.mk.injEq, true_and]
  omega

lemma Date.IsValid.toDays_bounds {d : Date} (h : d.IsValid) :
    -719468 ≤ d.toDays ∧ d.toDays ≤ 2932957 := by
  obtain ⟨era, c, q, s, n, hstands⟩ := h.exists_stands
  have hc := hstands.century
  have hq := hstands.span
  have hs := hstands.yearOfSpan
  have hera := hstands.eras
  have hn := hstands.dayOfYear_nonneg
  have hlast := hstands.lastDay
  rw [hstands.toDays]
  omega

/-! ## Times to the second -/

/-- The seconds from 1970-01-01 to a time. -/
def DateTime.epoch (t : DateTime) : Int := t.toMicroseconds / 1000000

/-- A time to the second, in universal time. -/
def DateTime.IsMoment (t : DateTime) : Prop :=
  DateTime.make t.date.year t.date.month t.date.day t.hour t.minute t.second 0 (some 0) = .ok t

lemma DateTime.isMoment_iff {t : DateTime} : t.IsMoment ↔ t.date.IsValid ∧
    (t.hour ≤ 23 ∧ t.minute ≤ 59 ∧ t.second ≤ 59) ∧ t.microsecond = 0 ∧ t.offset = some 0 := by
  obtain ⟨⟨year, month, day⟩, hour, minute, second, microsecond, offset⟩ := t
  simp only [IsMoment, make, Date.IsValid]
  cases hdate : Date.make year month day with
  | error e => simp [bind, Except.bind]
  | ok date =>
    simp only [bind, Except.bind, pure, Except.pure, throw, throwThe, MonadExceptOf.throw]
    split_ifs with hhour hminute hsecond
    · simp only [false_iff]
      omega
    · simp only [false_iff]
      omega
    · simp only [false_iff]
      omega
    · simp only [Except.ok.injEq, mk.injEq, true_and]
      constructor
      · rintro ⟨hd, hmicro, hoffset⟩
        exact ⟨hd, by omega, hmicro.symm, hoffset.symm⟩
      · rintro ⟨hd, -, hmicro, hoffset⟩
        exact ⟨hd, hmicro.symm, hoffset.symm⟩

/-- The seconds of a time, by days and times of day. -/
lemma DateTime.IsMoment.epoch_eq {t : DateTime} (h : t.IsMoment) :
    t.epoch = t.date.toDays * 86400 + (t.hour * 3600 + t.minute * 60 + t.second : Nat) := by
  obtain ⟨-, -, hmicro, hoffset⟩ := isMoment_iff.mp h
  simp only [epoch, toMicroseconds, hmicro, hoffset, Option.getD_some]
  omega

/-- A time to the second is found again from its seconds. -/
theorem DateTime.ofEpoch_epoch {t : DateTime} (h : t.IsMoment) : ofEpoch t.epoch 0 = .ok t := by
  obtain ⟨hdate, ⟨hhour, hminute, hsecond⟩, hmicro, hoffset⟩ := isMoment_iff.mp h
  have hbounds := hdate.toDays_bounds
  obtain ⟨⟨hyear, hyear'⟩, -, -⟩ := Date.isValid_iff.mp hdate
  obtain ⟨rest, hrest⟩ : ∃ rest, rest = t.hour * 3600 + t.minute * 60 + t.second := ⟨_, rfl⟩
  have hepoch := h.epoch_eq
  rw [← hrest] at hepoch
  have hdays : t.epoch.fdiv 86400 = t.date.toDays := by
    rw [Int.fdiv_eq_ediv_of_nonneg _ (by decide)]
    omega
  have hrest' : (t.epoch - t.date.toDays * 86400).toNat = rest := by omega
  unfold ofEpoch
  rw [if_neg (by omega)]
  simp only [hdays, hrest', civilOfDays_toDays hdate]
  rw [if_neg (by omega), if_neg (by omega)]
  obtain ⟨⟨year, month, day⟩, hour, minute, second, microsecond, offset⟩ := t
  simp only at hhour hminute hsecond hmicro hoffset hrest
  simp only [hmicro, hoffset, Int.toNat_natCast, Except.ok.injEq, mk.injEq, true_and, and_true]
  omega

end FirewallPolicy.Calendar
