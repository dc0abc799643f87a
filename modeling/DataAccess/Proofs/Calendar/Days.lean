import DataAccess.Calendar.Timestamp

/-!
# Days of the calendar

`ofDays` finds the year of a day by a division that leaves out leap days. It is right because
leaving them out is monotone and meets the first day of every year of an era; the 400 years are
checked one by one.

* `ofDays_isDate` — every day has a date that the calendar has.
* `ofDays_year_lt` — before `daysToYear10000`, its year has at most four digits.
-/

namespace DataAccess.Calendar.Timestamp

/-! ## Years of an era -/

/-- A day of an era, with the leap days before it left out. -/
def withoutLeapDays (day : Nat) : Nat := day - day / 1460 + day / 36524 - day / 146096

/-- The first day of a year of an era. -/
def yearStart (year : Nat) : Nat := 365 * year + year / 4 - year / 100

theorem withoutLeapDays_mono {day day' : Nat} (h : day ≤ day') :
    withoutLeapDays day ≤ withoutLeapDays day' := by
  unfold withoutLeapDays
  omega

theorem le_withoutLeapDays_yearStart :
    ∀ year < 400, 365 * year ≤ withoutLeapDays (yearStart year) := by
  decide +kernel

theorem yearOfEra_lt {day : Nat} (h : day < 146097) : withoutLeapDays day / 365 < 400 := by
  have hle := withoutLeapDays_mono (show day ≤ 146096 by omega)
  have hlast : withoutLeapDays 146096 = 145999 := by decide
  omega

/-- The year that is found has not ended. -/
theorem lt_yearStart_succ {day : Nat} (hyear : withoutLeapDays day / 365 < 399) :
    day < yearStart (withoutLeapDays day / 365 + 1) := by
  generalize hy : withoutLeapDays day / 365 = year at hyear ⊢
  refine Nat.lt_of_not_le fun hge => ?_
  have hle := withoutLeapDays_mono (show yearStart (year + 1) ≤ day by omega)
  have hstart := le_withoutLeapDays_yearStart (year + 1) (by omega)
  omega

/-- A year has at most 366 days, counted from 0, and the last one only before a leap day. -/
theorem dayOfYear_le {day : Nat} (h : day < 146097) (era : Nat) :
    day - yearStart (withoutLeapDays day / 365) ≤ 365 ∧
      (day - yearStart (withoutLeapDays day / 365) = 365 →
        isLeap (withoutLeapDays day / 365 + era * 400 + 1) = true) := by
  have hlt := yearOfEra_lt h
  have hsucc : withoutLeapDays day / 365 < 399 → _ := lt_yearStart_succ
  generalize withoutLeapDays day / 365 = year at hlt hsucc ⊢
  unfold yearStart at hsucc ⊢
  simp only [isLeap, Bool.and_eq_true, Bool.or_eq_true, beq_iff_eq, bne_iff_ne]
  have hmod4 : (year + era * 400 + 1) % 4 = (year + 1) % 4 := by omega
  have hmod100 : (year + era * 400 + 1) % 100 = (year + 1) % 100 := by omega
  have hmod400 : (year + era * 400 + 1) % 400 = (year + 1) % 400 := by omega
  rw [hmod4, hmod100, hmod400]
  by_cases hlast : year < 399
  · have hday := hsucc hlast
    by_cases h4 : (year + 1) % 4 = 0
    · have hnext4 : (year + 1) / 4 = year / 4 + 1 := by omega
      by_cases h100 : (year + 1) % 100 = 0
      · have hnext100 : (year + 1) / 100 = year / 100 + 1 := by omega
        omega
      · have hnext100 : (year + 1) / 100 = year / 100 := by omega
        omega
    · have hnext4 : (year + 1) / 4 = year / 4 := by omega
      have hnext100 : (year + 1) / 100 = year / 100 := by omega
      omega
  · omega

/-! ## Months -/

/-- The month of a day of a year that starts in March, and the day of the month. -/
def monthDay (dayOfYear : Nat) : Nat × Nat :=
  let shifted := (5 * dayOfYear + 2) / 153
  (if shifted < 10 then shifted + 3 else shifted - 9, dayOfYear - (153 * shifted + 2) / 5 + 1)

/-- The days of the months, with a leap day on the last day of the year. -/
theorem monthDay_spec : ∀ dayOfYear < 366,
    1 ≤ (monthDay dayOfYear).1 ∧ (monthDay dayOfYear).1 ≤ 12 ∧ 1 ≤ (monthDay dayOfYear).2 ∧
      (monthDay dayOfYear).2 ≤
        (if (monthDay dayOfYear).1 = 2 then (if dayOfYear = 365 then 29 else 28)
          else if [4, 6, 9, 11].contains (monthDay dayOfYear).1 then 30 else 31) := by
  decide +kernel

theorem monthDay_early : ∀ dayOfYear < 306, 2 < (monthDay dayOfYear).1 := by
  decide +kernel

/-! ## Dates -/

/-- The number of days from the beginning of 1970 to the beginning of the year 10000. -/
def daysToYear10000 : Nat := 2932897

theorem ofDays_eq (days : Nat) :
    ofDays days =
      let day := (days + 719468) % 146097
      let year := withoutLeapDays day / 365
      let date := monthDay (day - yearStart year)
      (year + (days + 719468) / 146097 * 400 + (if date.1 ≤ 2 then 1 else 0), date.1, date.2) :=
  rfl

/-- Every day has a date that the calendar has. -/
theorem ofDays_isDate (days : Nat) :
    isDate (ofDays days).1 (ofDays days).2.1 (ofDays days).2.2 = true := by
  have hday : (days + 719468) % 146097 < 146097 := Nat.mod_lt _ (by decide)
  obtain ⟨hle, hleap⟩ := dayOfYear_le hday ((days + 719468) / 146097)
  rw [ofDays_eq]
  simp only
  generalize (days + 719468) / 146097 = era at hleap ⊢
  generalize withoutLeapDays ((days + 719468) % 146097) / 365 = year at hle hleap ⊢
  generalize (days + 719468) % 146097 - yearStart year = dayOfYear at hle hleap ⊢
  obtain ⟨hmonth, hmonth', hday, hday'⟩ := monthDay_spec dayOfYear (by omega)
  -- February is the month that depends on the year, and its leap day is day 365.
  have hin : (monthDay dayOfYear).2 ≤
      daysIn (year + era * 400 + (if (monthDay dayOfYear).1 ≤ 2 then 1 else 0))
        (monthDay dayOfYear).1 := by
    unfold daysIn
    by_cases hfeb : (monthDay dayOfYear).1 = 2
    · have hjan : (monthDay dayOfYear).1 ≤ 2 := Nat.le_of_eq hfeb
      rw [if_pos hfeb] at hday'
      rw [if_pos hfeb, if_pos hjan]
      by_cases hend : dayOfYear = 365
      · rw [if_pos hend] at hday'
        rw [hleap hend]
        exact hday'
      · rw [if_neg hend] at hday'
        split <;> omega
    · rw [if_neg hfeb] at hday' ⊢
      exact hday'
  simp [isDate, hmonth, hmonth', hday, hin]

/-- Before the year 10000, a year has at most four digits. -/
theorem ofDays_year_lt {days : Nat} (h : days < daysToYear10000) : (ofDays days).1 < 10000 := by
  unfold daysToYear10000 at h
  have hday : (days + 719468) % 146097 < 146097 := Nat.mod_lt _ (by decide)
  have hyear := yearOfEra_lt hday
  have hera : (days + 719468) / 146097 ≤ 24 := by omega
  rw [ofDays_eq]
  simp only
  by_cases hlast : withoutLeapDays ((days + 719468) % 146097) / 365 = 399 ∧
      (days + 719468) / 146097 = 24
  · -- In the last year of the last era, only the days from March on are left.
    have hstart : yearStart 399 = 145731 := by decide
    have hearly := monthDay_early ((days + 719468) % 146097 - yearStart 399) (by omega)
    rw [hlast.1, hlast.2, if_neg (by omega)]
    decide
  · split <;> omega

end DataAccess.Calendar.Timestamp
