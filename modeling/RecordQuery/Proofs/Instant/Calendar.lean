import Mathlib.Order.Monotone.Basic
import RecordQuery.Instant.Basic

/-!
# Days and dates

Four hundred years make an era, which is the same number of days for all of them.  Within an era the
year of a day is found by leaving out the leap days and dividing by 365; that this hits the year is
shown at its first and its last day, and for the days between them by monotonicity.

* `Civil.yearStart`: the first day of a year of an era, counted from March.
* `Civil.yearStart_le`, `Civil.lt_yearStart`: a day lies in the year that is computed for it.
* `Civil.dayNumber_ofDayNumber`: a day is found again by its date.
* `Civil.isDate_ofDayNumber`: every day has a date.
* `Instant.ofCivil_toCivil`: an instant is found again by its civil time.
-/

namespace RecordQuery

namespace Civil

/-! ### Years of an era -/

/-- The number of days in front of a year of an era, which begins in March. -/
def yearStart (year : Nat) : Nat := 365 * year + year / 4 - year / 100 + year / 400

/-- The number of days in front of a day of an era, without the leap days among them. -/
def withoutLeapDays (day : Nat) : Nat := day - day / 1460 + day / 36524 - day / 146096

/-- The year of an era in which a day lies. -/
def yearOfEra (day : Nat) : Nat := withoutLeapDays day / 365

/-- A leap day is left out at the end of four years, a century without one is made up for, and so
on. -/
theorem withoutLeapDays_mono : Monotone withoutLeapDays := by
  refine monotone_nat_of_le_succ fun day => ?_
  unfold withoutLeapDays
  omega

theorem withoutLeapDays_yearStart : ∀ year : Fin 400,
    365 * (year : Nat) ≤ withoutLeapDays (yearStart year) ∧
      withoutLeapDays (yearStart (year + 1) - 1) < 365 * ((year : Nat) + 1) := by
  decide +kernel

theorem yearOfEra_lt {day : Nat} (h : day < 146097) : yearOfEra day < 400 := by
  unfold yearOfEra withoutLeapDays
  omega

/-- A day does not lie in front of its year. -/
theorem yearStart_le {day : Nat} (h : day < 146097) : yearStart (yearOfEra day) ≤ day := by
  by_contra hlt
  obtain ⟨year, hyear⟩ : ∃ year, yearOfEra day = year + 1 := by
    refine Nat.exists_eq_succ_of_ne_zero fun hzero => hlt ?_
    rw [hzero]
    exact Nat.zero_le day
  have hbound := (withoutLeapDays_yearStart ⟨year, by have := yearOfEra_lt h; omega⟩).2
  have hmono : withoutLeapDays day ≤ withoutLeapDays (yearStart (year + 1) - 1) :=
    withoutLeapDays_mono (by rw [hyear] at hlt; omega)
  have hdiv : yearOfEra day < year + 1 := by
    unfold yearOfEra
    dsimp only at hbound
    omega
  omega

/-- A day lies in front of the next year. -/
theorem lt_yearStart {day : Nat} (h : day < 146097) : day < yearStart (yearOfEra day + 1) := by
  by_contra hle
  have hlt := yearOfEra_lt h
  have hnext : yearOfEra day + 1 < 400 := by
    refine lt_of_le_of_ne hlt fun hlast => hle ?_
    rw [show yearOfEra day + 1 = 400 from hlast]
    exact h
  have hbound := (withoutLeapDays_yearStart ⟨yearOfEra day + 1, hnext⟩).1
  have hmono := withoutLeapDays_mono (Nat.not_lt.mp hle)
  have hdiv : yearOfEra day + 1 ≤ yearOfEra day := by
    conv => rhs; unfold yearOfEra
    dsimp only at hbound
    omega
  omega

/-- The day of its year on which a day of an era lies, from the first of March. -/
def yearDay (day : Nat) : Nat := day - yearStart (yearOfEra day)

/-- A year ends with a leap day if the next one, in which that day lies, is a leap year. -/
theorem yearStart_succ (year : Nat) (era : Int) :
    yearStart (year + 1) =
      yearStart year + if isLeapYear (year + era * 400 + 1) then 366 else 365 := by
  have hleap : isLeapYear (year + era * 400 + 1) = true ↔
      4 ∣ year + 1 ∧ (¬ 100 ∣ year + 1 ∨ 400 ∣ year + 1) := by
    simp only [isLeapYear, Bool.and_eq_true, Bool.or_eq_true, beq_iff_eq, bne_iff_ne]
    omega
  have hpassed : year / 100 ≤ 365 * year := by omega
  rw [yearStart, yearStart, Nat.succ_div, Nat.succ_div, Nat.succ_div]
  by_cases h4 : 4 ∣ year + 1
  · by_cases h100 : 100 ∣ year + 1
    · by_cases h400 : 400 ∣ year + 1
      · rw [if_pos (hleap.mpr ⟨h4, .inr h400⟩), if_pos h4, if_pos h100, if_pos h400]
        omega
      · rw [if_neg fun h => (hleap.mp h).2.elim (· h100) h400, if_pos h4, if_pos h100, if_neg h400]
        omega
    · have h400 : ¬ 400 ∣ year + 1 := by omega
      rw [if_pos (hleap.mpr ⟨h4, .inl h100⟩), if_pos h4, if_neg h100, if_neg h400]
      omega
  · have h100 : ¬ 100 ∣ year + 1 := by omega
    have h400 : ¬ 400 ∣ year + 1 := by omega
    rw [if_neg fun h => h4 (hleap.mp h).1, if_neg h4, if_neg h100, if_neg h400]
    omega

theorem yearDay_le {day : Nat} (h : day < 146097) : yearDay day ≤ 365 := by
  have hlt := lt_yearStart h
  rw [yearStart_succ _ 0] at hlt
  unfold yearDay
  split at hlt <;> omega

theorem isLeapYear_of_yearDay {day : Nat} (h : day < 146097) (hlast : yearDay day = 365)
    (era : Int) : isLeapYear (yearOfEra day + era * 400 + 1) = true := by
  have hlt := lt_yearStart h
  rw [yearStart_succ _ era] at hlt
  unfold yearDay at hlast
  by_contra hnot
  rw [if_neg hnot] at hlt
  omega

/-! ### Days of a year -/

/-- The date of a day of a year that begins in March. -/
def dateOfYearDay (year : Int) (day : Nat) : Int × Nat × Nat :=
  let month := (5 * day + 2) / 153
  let dayOfMonth := day - (153 * month + 2) / 5 + 1
  if month < 10 then (year, month + 3, dayOfMonth) else (year + 1, month - 9, dayOfMonth)

theorem ofDayNumber_eq {days era : Int} {day : Nat} (h : day < 146097)
    (hdays : days + 719468 = era * 146097 + day) :
    ofDayNumber days = dateOfYearDay (yearOfEra day + era * 400) (yearDay day) := by
  have hera : (days + 719468) / 146097 = era := by omega
  have hday : days + 719468 - era * 146097 = day := by omega
  have hyear : ((day : Int) - day / 1460 + day / 36524 - day / 146096) / 365 = yearOfEra day := by
    unfold yearOfEra withoutLeapDays
    omega
  have hyearDay : (day : Int) - (365 * yearOfEra day + (yearOfEra day : Int) / 4 -
      (yearOfEra day : Int) / 100) = yearDay day := by
    have hle := yearStart_le h
    have hlt := yearOfEra_lt h
    unfold yearDay
    unfold yearStart at hle ⊢
    omega
  rw [ofDayNumber, hera, hday, hyear, hyearDay, dateOfYearDay]
  have hle := yearDay_le h
  obtain ⟨month, hmonth⟩ : ∃ month, (5 * yearDay day + 2) / 153 = month := ⟨_, rfl⟩
  have hmonthInt : (5 * (yearDay day : Int) + 2) / 153 = month := by omega
  have hday : ((yearDay day : Int) - (153 * month + 2) / 5 + 1).toNat =
      yearDay day - (153 * month + 2) / 5 + 1 := by omega
  rw [hmonthInt, hmonth, hday]
  by_cases hlow : month < 10
  · have hlowInt : (month : Int) < 10 := by omega
    rw [if_pos hlow, if_pos hlowInt, if_neg (by omega)]
    rfl
  · have hhighInt : ¬ (month : Int) < 10 := by omega
    rw [if_neg hlow, if_neg hhighInt, if_pos (by omega)]
    congr 2
    omega

theorem dayNumber_dateOfYearDay {era : Int} {year day : Nat} (hyear : year < 400)
    (hday : day ≤ 365) :
    (let date := dateOfYearDay (year + era * 400) day; dayNumber date.1 date.2.1 date.2.2) =
      era * 146097 + yearStart year + day - 719468 := by
  have hera : ((year : Int) + era * 400) / 400 = era := by omega
  rw [dateOfYearDay, yearStart]
  obtain ⟨month, hmonth⟩ : ∃ month, (5 * day + 2) / 153 = month := ⟨_, rfl⟩
  rw [hmonth]
  dsimp only
  by_cases hlow : month < 10
  · rw [if_pos hlow, dayNumber, if_neg (by dsimp only; omega), hera, if_neg (by dsimp only; omega)]
    dsimp only
    omega
  · rw [if_neg hlow, dayNumber, if_pos (by dsimp only; omega), Int.add_sub_cancel, hera,
      if_pos (by dsimp only; omega)]
    dsimp only
    omega

theorem dateOfYearDay_spec {year : Int} {day : Nat} (hday : day ≤ 365)
    (hleap : day = 365 → isLeapYear (year + 1) = true) :
    let date := dateOfYearDay year day
    1 ≤ date.2.1 ∧ date.2.1 ≤ 12 ∧ 1 ≤ date.2.2 ∧ date.2.2 ≤ daysInMonth date.1 date.2.1 := by
  rw [dateOfYearDay]
  obtain ⟨month, hmonth⟩ : ∃ month, (5 * day + 2) / 153 = month := ⟨_, rfl⟩
  rw [hmonth]
  have hle : month ≤ 11 := by omega
  by_cases hlow : month < 10
  · rw [if_pos hlow]
    refine ⟨by dsimp only; omega, by dsimp only; omega, by dsimp only; omega, ?_⟩
    rw [daysInMonth, if_neg (by dsimp only; omega)]
    dsimp only
    split <;> omega
  · rw [if_neg hlow]
    refine ⟨by dsimp only; omega, by dsimp only; omega, by dsimp only; omega, ?_⟩
    rw [daysInMonth]
    dsimp only
    by_cases hfebruary : month = 11
    · rw [if_pos (by omega)]
      by_cases hlast : day = 365
      · rw [if_pos (hleap hlast)]
        omega
      · split <;> omega
    · rw [if_neg (by omega), if_neg (by omega)]
      omega

/-! ### Dates and instants -/

theorem daysInMonth_le (year : Int) (month : Nat) : daysInMonth year month ≤ 31 := by
  unfold daysInMonth
  split_ifs <;> decide

theorem exists_era (days : Int) :
    ∃ (era : Int) (day : Nat), day < 146097 ∧ days + 719468 = era * 146097 + day :=
  ⟨(days + 719468) / 146097, ((days + 719468) % 146097).toNat, by omega, by omega⟩

/-- **A day is found again by its date.** -/
theorem dayNumber_ofDayNumber (days : Int) :
    dayNumber (ofDayNumber days).1 (ofDayNumber days).2.1 (ofDayNumber days).2.2 = days := by
  obtain ⟨era, day, hday, hdays⟩ := exists_era days
  rw [ofDayNumber_eq hday hdays, dayNumber_dateOfYearDay (yearOfEra_lt hday) (yearDay_le hday),
    yearDay]
  have := yearStart_le hday
  omega

/-- **Every day has a date.** -/
theorem isDate_ofDayNumber {days : Int} (hlow : -262143 ≤ (ofDayNumber days).1)
    (hhigh : (ofDayNumber days).1 ≤ 262142) :
    isDate (ofDayNumber days).1 (ofDayNumber days).2.1 (ofDayNumber days).2.2 = true := by
  obtain ⟨era, day, hday, hdays⟩ := exists_era days
  have hspec := dateOfYearDay_spec (yearDay_le hday) fun hlast =>
    isLeapYear_of_yearDay hday hlast era
  rw [← ofDayNumber_eq hday hdays] at hspec
  simp only [isDate, Bool.and_eq_true, decide_eq_true_eq]
  exact ⟨⟨⟨⟨⟨hlow, hhigh⟩, hspec.1⟩, hspec.2.1⟩, hspec.2.2.1⟩, hspec.2.2.2⟩

end Civil

namespace Instant

/-- **An instant is found again by its civil time.** -/
theorem ofCivil_toCivil (t : Instant) : ofCivil t.toCivil 0 = t := by
  have hday := Civil.dayNumber_ofDayNumber t.days
  rw [ofCivil, toCivil]
  dsimp only
  rw [hday, days]
  have hseconds : t.seconds / 86400 * 86400 +
      (((t.seconds % 86400).toNat / 3600 : Nat) : Int) * 3600 +
      (((t.seconds % 86400).toNat / 60 % 60 : Nat) : Int) * 60 +
      (((t.seconds % 86400).toNat % 60 : Nat) : Int) - 0 = t.seconds := by omega
  rw [hseconds]

end Instant

end RecordQuery
