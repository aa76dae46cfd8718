/-
# The Gregorian calendar

Days are counted from 1970-01-01.  The conversion to a date and back counts in years that begin in
March, so that a leap day comes last, and in eras of 400 years, after which the calendar repeats.
Both ways are inverse to each other, on all days and on all valid dates.
-/
import Mathlib.Algebra.Group.Basic
import Mathlib.Algebra.Group.Int.Defs
import Mathlib.Tactic.Common
import Mathlib.Tactic.IntervalCases

namespace Calendar

/-- A year with 29 February. -/
def IsLeap (y : ℤ) : Prop := y % 4 = 0 ∧ (y % 100 ≠ 0 ∨ y % 400 = 0)

instance (y : ℤ) : Decidable (IsLeap y) := inferInstanceAs (Decidable (_ ∧ _))

/-- The number of days of a month; January is 1. -/
def daysInMonth (y m : ℤ) : ℤ :=
  if m = 2 then if IsLeap y then 29 else 28
  else if m = 4 ∨ m = 6 ∨ m = 9 ∨ m = 11 then 30
  else 31

/-- A year, a month and a day of the month. -/
structure Date where
  year : ℤ
  month : ℤ
  day : ℤ
deriving DecidableEq

/-- The date is in the calendar. -/
structure Date.IsValid (d : Date) : Prop where
  month_pos : 1 ≤ d.month
  month_le : d.month ≤ 12
  day_pos : 1 ≤ d.day
  day_le : d.day ≤ daysInMonth d.year d.month

instance (d : Date) : Decidable d.IsValid :=
  decidable_of_iff (1 ≤ d.month ∧ d.month ≤ 12 ∧ 1 ≤ d.day ∧ d.day ≤ daysInMonth d.year d.month)
    ⟨fun ⟨h1, h2, h3, h4⟩ => ⟨h1, h2, h3, h4⟩, fun ⟨h1, h2, h3, h4⟩ => ⟨h1, h2, h3, h4⟩⟩

/-- The days of an era before a year of it. -/
def yearStart (y : ℤ) : ℤ := 365 * y + y / 4 - y / 100

/-- The year of an era that a day of it is in. -/
def yearOf (n : ℤ) : ℤ := (n - n / 1460 + n / 36524 - n / 146096) / 365

/-- The days of a year before a month of it; March is 0. -/
def monthStart (m : ℤ) : ℤ := (153 * m + 2) / 5

/-- The month that a day of a year is in. -/
def monthOf (n : ℤ) : ℤ := (5 * n + 2) / 153

/-- A day of a year that begins in March, as a date. -/
def marchDate (y n : ℤ) : Date where
  year := y + (if monthOf n < 10 then 0 else 1)
  month := if monthOf n < 10 then monthOf n + 3 else monthOf n - 9
  day := n - monthStart (monthOf n) + 1

/-- The date of a day. -/
def ofDays (n : ℤ) : Date :=
  let era := (n + 719468) / 146097
  let dayOfEra := (n + 719468) % 146097
  let year := yearOf dayOfEra
  marchDate (year + 400 * era) (dayOfEra - yearStart year)

/-- The year of a date, where years begin in March. -/
def Date.marchYear (d : Date) : ℤ := d.year - (if d.month < 3 then 1 else 0)

/-- The number of the date in that year, from 0. -/
def Date.dayOfYear (d : Date) : ℤ :=
  monthStart (if d.month < 3 then d.month + 9 else d.month - 3) + d.day - 1

/-- The day of a date. -/
def Date.toDays (d : Date) : ℤ :=
  d.marchYear / 400 * 146097 + (yearStart (d.marchYear % 400) + d.dayOfYear) - 719468

/-- The first day of a year. -/
def newYear (y : ℤ) : ℤ :=
  365 * (y - 1) + (y - 1) / 4 - (y - 1) / 100 + (y - 1) / 400 + 306 - 719468

/-! ## Years -/

section Years

/-- The day with this number, from 0, in a year of an era; the next year may be a leap year. -/
structure InYear (y d : ℤ) : Prop where
  year_nonneg : 0 ≤ y
  year_lt : y < 400
  day_nonneg : 0 ≤ d
  day_le : d ≤ 365
  leap : d = 365 → IsLeap (y + 1)

/-- A century of an era, a cycle of four years in it and a year of the cycle. -/
structure InCycle (q a b : ℤ) : Prop where
  century_nonneg : 0 ≤ q
  century_le : q ≤ 3
  cycle_nonneg : 0 ≤ a
  cycle_le : a ≤ 24
  year_nonneg : 0 ≤ b
  year_le : b ≤ 3

variable {q a b : ℤ}

lemma InCycle.yearStart (h : InCycle q a b) :
    yearStart (100 * q + 4 * a + b) = 36524 * q + 1461 * a + 365 * b := by
  obtain ⟨-, -, ha0, ha24, hb0, hb3⟩ := h
  have h4 : (100 * q + 4 * a + b) / 4 = 25 * q + a := by omega
  have h100 : (100 * q + 4 * a + b) / 100 = q := by omega
  rw [Calendar.yearStart, h4, h100]
  omega

lemma InCycle.isLeap (h : InCycle q a b) :
    IsLeap (100 * q + 4 * a + b + 1) ↔ b = 3 ∧ (a = 24 → q = 3) := by
  obtain ⟨hq0, hq3, ha0, ha24, hb0, hb3⟩ := h
  have h4 : (100 * q + 4 * a + b + 1) % 4 = 0 ↔ b = 3 := by omega
  rw [IsLeap, h4]
  refine and_congr_right ?_
  rintro rfl
  by_cases ha : a = 24
  · subst ha
    omega
  · have h100 : (100 * q + 4 * a + 3 + 1) % 100 ≠ 0 := by omega
    simp [h100, ha]

lemma exists_inCycle {y : ℤ} (h0 : 0 ≤ y) (h1 : y < 400) :
    ∃ q a b, InCycle q a b ∧ y = 100 * q + 4 * a + b :=
  ⟨y / 100, y % 100 / 4, y % 4, ⟨by omega, by omega, by omega, by omega, by omega, by omega⟩,
    by omega⟩

/-- The year of a day that is counted from the start of a year. -/
lemma yearOf_yearStart {y d : ℤ} (h : InYear y d) : yearOf (yearStart y + d) = y := by
  obtain ⟨hy0, hy1, hd0, hd1, hleap⟩ := h
  obtain ⟨q, a, b, hcycle, rfl⟩ := exists_inCycle hy0 hy1
  rw [hcycle.isLeap] at hleap
  rw [hcycle.yearStart]
  obtain ⟨hq0, hq3, ha0, ha24, hb0, hb3⟩ := hcycle
  clear hy0 hy1
  have hb : d ≤ 364 ∨ b = 3 := by
    rcases Int.lt_or_eq_of_le hd1 with hd | hd
    · exact Or.inl (by omega)
    · exact Or.inr (hleap hd).1
  have hrest : 1461 * a + 365 * b + d ≤ 36523 ∨ q = 3 ∧ 1461 * a + 365 * b + d = 36524 := by
    rcases Int.lt_or_eq_of_le hd1 with hd | hd
    · exact Or.inl (by omega)
    · obtain ⟨rfl, ha⟩ := hleap hd
      omega
  clear hleap
  -- what the quotient by 1460 is ahead by
  obtain ⟨e, he⟩ : ∃ e, e = (24 * q + a + 365 * b + d) / 1460 := ⟨_, rfl⟩
  have hday : 0 ≤ d - e ∧ d - e < 365 := by
    clear hrest
    have he1 : e ≤ 1 := by omega
    omega
  obtain ⟨n, hn⟩ : ∃ n, n = 36524 * q + 1461 * a + 365 * b + d := ⟨_, rfl⟩
  have hcycles : n / 1460 = 25 * q + a + e := by
    clear hrest hb hday
    omega
  have hcenturies : n / 36524 - n / 146096 = q := by
    clear hcycles hb hday he
    rcases hrest with hrest | ⟨rfl, hrest⟩
    · have hcentury : n / 36524 = q := by omega
      have hera : n / 146096 = 0 := by omega
      omega
    · have hlast : n = 146096 := by omega
      rw [hlast]
      rfl
  have hsum : n - n / 1460 + n / 36524 - n / 146096 = 365 * (100 * q + 4 * a + b) + (d - e) := by
    clear hrest hb hday he
    omega
  rw [← hn, yearOf, hsum]
  clear hcycles hcenturies hsum hrest hb he hn
  omega

/-- Every day of an era is one of a year. -/
lemma exists_inYear {n : ℤ} (h0 : 0 ≤ n) (h1 : n < 146097) :
    ∃ y d, n = yearStart y + d ∧ InYear y d := by
  obtain ⟨q, r, hq0, hq3, hr0, hr1, hr3, hn⟩ : ∃ q r : ℤ, 0 ≤ q ∧ q ≤ 3 ∧ 0 ≤ r ∧ r ≤ 36524 ∧
      (r = 36524 → q = 3) ∧ n = 36524 * q + r := by
    by_cases hlast : n = 146096
    · exact ⟨3, 36524, by omega, by omega, by omega, by omega, by omega, by omega⟩
    · exact ⟨n / 36524, n % 36524, by omega, by omega, by omega, by omega, by omega, by omega⟩
  obtain ⟨a, s, ha0, ha24, hs0, hs1, has, hr⟩ : ∃ a s : ℤ, 0 ≤ a ∧ a ≤ 24 ∧ 0 ≤ s ∧ s ≤ 1460 ∧
      (a = 24 → s = 1460 → q = 3) ∧ r = 1461 * a + s := by
    exact ⟨r / 1461, r % 1461, by omega, by omega, by omega, by omega, by omega, by omega⟩
  obtain ⟨b, d, hb0, hb3, hd0, hd1, hbd, hs⟩ : ∃ b d : ℤ, 0 ≤ b ∧ b ≤ 3 ∧ 0 ≤ d ∧ d ≤ 365 ∧
      (d = 365 → b = 3) ∧ s = 365 * b + d := by
    by_cases hlast : s = 1460
    · exact ⟨3, 365, by omega, by omega, by omega, by omega, by omega, by omega⟩
    · exact ⟨s / 365, s % 365, by omega, by omega, by omega, by omega, by omega, by omega⟩
  have hcycle : InCycle q a b := ⟨hq0, hq3, ha0, ha24, hb0, hb3⟩
  refine ⟨100 * q + 4 * a + b, d, ?_, by omega, by omega, hd0, hd1, fun hd => ?_⟩
  · rw [hcycle.yearStart]
    omega
  · rw [hcycle.isLeap]
    obtain rfl := hbd hd
    exact ⟨rfl, fun ha => has ha (by omega)⟩

/-- The days before a year, and the year of a day, where eras are counted too. -/
lemma isLeap_add_era (y era : ℤ) : IsLeap (y + 400 * era) ↔ IsLeap y := by
  have h4 : (y + 400 * era) % 4 = y % 4 := by omega
  have h100 : (y + 400 * era) % 100 = y % 100 := by omega
  have h400 : (y + 400 * era) % 400 = y % 400 := by omega
  rw [IsLeap, IsLeap, h4, h100, h400]

lemma InYear.bounds {y d : ℤ} (h : InYear y d) :
    0 ≤ yearStart y + d ∧ yearStart y + d < 146097 := by
  obtain ⟨hy0, hy1, hd0, hd1, -⟩ := h
  obtain ⟨q, a, b, hcycle, rfl⟩ := exists_inCycle hy0 hy1
  rw [hcycle.yearStart]
  obtain ⟨hq0, hq3, ha0, ha24, hb0, hb3⟩ := hcycle
  omega

end Years

/-! ## Months -/

section Months

lemma isValid_marchDate {y n : ℤ} (h0 : 0 ≤ n) (h1 : n ≤ 365)
    (hleap : n = 365 → IsLeap (y + 1)) : (marchDate y n).IsValid := by
  obtain ⟨m, hm⟩ : ∃ m, m = monthOf n := ⟨_, rfl⟩
  have hm' : m = (5 * n + 2) / 153 := hm
  have hm0 : 0 ≤ m := by omega
  have hm11 : m ≤ 11 := by omega
  have hday : 0 ≤ n - monthStart m := by
    unfold monthStart
    omega
  constructor
  · simp only [marchDate, ← hm]
    split <;> omega
  · simp only [marchDate, ← hm]
    split <;> omega
  · simp only [marchDate, ← hm]
    omega
  · simp only [marchDate, ← hm]
    by_cases hfebruary : m = 11
    · subst hfebruary
      have hlast : n ≤ 365 := h1
      by_cases hly : IsLeap (y + 1)
      · simp [daysInMonth, monthStart, hly]
        omega
      · have hne : n ≠ 365 := fun h => hly (hleap h)
        simp [daysInMonth, monthStart, hly]
        omega
    · clear hleap hm
      interval_cases m <;> simp [daysInMonth, monthStart] <;> omega

lemma monthOf_bounds {n : ℤ} (h0 : 0 ≤ n) (h1 : n ≤ 365) : 0 ≤ monthOf n ∧ monthOf n ≤ 11 := by
  unfold monthOf
  omega

lemma marchYear_marchDate {n : ℤ} (y : ℤ) (h0 : 0 ≤ n) (h1 : n ≤ 365) :
    (marchDate y n).marchYear = y := by
  have hbounds := monthOf_bounds h0 h1
  by_cases h : monthOf n < 10
  · have hmonth : (marchDate y n).month = monthOf n + 3 := if_pos h
    have hyear : (marchDate y n).year = y := by simp [marchDate, h]
    rw [Date.marchYear, if_neg (by omega), hyear, Int.sub_zero]
  · have hmonth : (marchDate y n).month = monthOf n - 9 := if_neg h
    have hyear : (marchDate y n).year = y + 1 := by simp [marchDate, h]
    rw [Date.marchYear, if_pos (by omega), hyear]
    omega

lemma dayOfYear_marchDate {n : ℤ} (y : ℤ) (h0 : 0 ≤ n) (h1 : n ≤ 365) :
    (marchDate y n).dayOfYear = n := by
  have hbounds := monthOf_bounds h0 h1
  have hday : (marchDate y n).day = n - monthStart (monthOf n) + 1 := rfl
  have hback : (if (marchDate y n).month < 3 then (marchDate y n).month + 9
      else (marchDate y n).month - 3) = monthOf n := by
    by_cases h : monthOf n < 10
    · have hmonth : (marchDate y n).month = monthOf n + 3 := if_pos h
      rw [if_neg (by omega), hmonth]
      omega
    · have hmonth : (marchDate y n).month = monthOf n - 9 := if_neg h
      rw [if_pos (by omega), hmonth]
      omega
  rw [Date.dayOfYear, hback, hday]
  omega

/-- The month of a day that is not past its end. -/
lemma monthOf_eq {m n : ℤ} (hstart : monthStart m ≤ n) (hend : n < monthStart (m + 1)) :
    monthOf n = m := by
  unfold monthStart at hstart hend
  unfold monthOf
  omega

lemma daysInMonth_le (y : ℤ) {m : ℤ} (h1 : 1 ≤ m) (h12 : m ≤ 12) :
    (m < 3 → daysInMonth y m ≤ monthStart (m + 10) - monthStart (m + 9)) ∧
      (3 ≤ m → daysInMonth y m ≤ monthStart (m - 2) - monthStart (m - 3)) := by
  by_cases hy : IsLeap y <;> interval_cases m <;> simp [daysInMonth, monthStart, hy]

lemma daysInMonth_february (y : ℤ) :
    daysInMonth y 2 ≤ 29 ∧ (29 ≤ daysInMonth y 2 → IsLeap y) := by
  by_cases hy : IsLeap y <;> simp [daysInMonth, hy]

lemma daysInMonth_le_31 (y m : ℤ) : daysInMonth y m ≤ 31 := by
  unfold daysInMonth
  split_ifs <;> omega

/-- A valid date is a day of its year. -/
lemma Date.IsValid.dayOfYear {d : Date} (h : d.IsValid) :
    0 ≤ d.dayOfYear ∧ d.dayOfYear ≤ 365 ∧ (d.dayOfYear = 365 → IsLeap (d.marchYear + 1)) ∧
      marchDate d.marchYear d.dayOfYear = d := by
  obtain ⟨y, m, k⟩ := d
  obtain ⟨hm1, hm12, hk1, hk⟩ := h
  obtain ⟨hnext, hnext'⟩ := daysInMonth_le y hm1 hm12
  obtain ⟨hfebruary, hleap⟩ := daysInMonth_february y
  simp only at hm1 hm12 hk1 hk hnext hnext'
  by_cases hlow : m < 3
  · have hday : (Date.mk y m k).dayOfYear = monthStart (m + 9) + k - 1 := by
      rw [Date.dayOfYear, if_pos hlow]
    have hyear : (Date.mk y m k).marchYear = y - 1 := by rw [Date.marchYear, if_pos hlow]
    have hend := hnext hlow
    have hmonth : monthOf (monthStart (m + 9) + k - 1) = m + 9 :=
      monthOf_eq (by omega) (by rw [show m + 9 + 1 = m + 10 by omega]; omega)
    rw [hday, hyear]
    refine ⟨?_, ?_, ?_, ?_⟩
    · unfold monthStart
      omega
    · obtain rfl | rfl : m = 1 ∨ m = 2 := by omega
      · unfold monthStart at hend ⊢
        omega
      · unfold monthStart
        omega
    · intro h365
      obtain rfl | rfl : m = 1 ∨ m = 2 := by omega
      · unfold monthStart at hend h365
        omega
      · unfold monthStart at h365
        rw [Int.sub_add_cancel]
        exact hleap (by omega)
    · rw [marchDate, hmonth, if_neg (by omega), if_neg (by omega)]
      congr 1 <;> omega
  · have hday : (Date.mk y m k).dayOfYear = monthStart (m - 3) + k - 1 := by
      rw [Date.dayOfYear, if_neg hlow]
    have hyear : (Date.mk y m k).marchYear = y := by
      rw [Date.marchYear, if_neg hlow, Int.sub_zero]
    have hend := hnext' (by omega)
    have hmonth : monthOf (monthStart (m - 3) + k - 1) = m - 3 :=
      monthOf_eq (by omega) (by rw [show m - 3 + 1 = m - 2 by omega]; omega)
    rw [hday, hyear]
    refine ⟨?_, ?_, ?_, ?_⟩
    · unfold monthStart
      omega
    · unfold monthStart at hend ⊢
      omega
    · intro h365
      unfold monthStart at hend h365
      omega
    · rw [marchDate, hmonth, if_pos (by omega), if_pos (by omega)]
      congr 1 <;> omega

end Months

/-! ## Days -/

/-- A day is one of a year of an era. -/
lemma exists_ofDays (n : ℤ) :
    ∃ era y d, InYear y d ∧ n = era * 146097 + (yearStart y + d) - 719468 ∧
      ofDays n = marchDate (y + 400 * era) d := by
  have h0 : 0 ≤ (n + 719468) % 146097 := Int.emod_nonneg _ (by decide)
  have h1 : (n + 719468) % 146097 < 146097 := Int.emod_lt_of_pos _ (by decide)
  obtain ⟨y, d, hn, hy⟩ := exists_inYear h0 h1
  refine ⟨(n + 719468) / 146097, y, d, hy, by omega, ?_⟩
  rw [ofDays, hn, yearOf_yearStart hy, add_sub_cancel_left]

/-- Every day has a date of the calendar. -/
theorem isValid_ofDays (n : ℤ) : (ofDays n).IsValid := by
  obtain ⟨era, y, d, hy, -, hof⟩ := exists_ofDays n
  rw [hof]
  refine isValid_marchDate hy.day_nonneg hy.day_le fun h => ?_
  rw [show y + 400 * era + 1 = y + 1 + 400 * era by omega, isLeap_add_era]
  exact hy.leap h

/-- The day of the date of a day. -/
theorem toDays_ofDays (n : ℤ) : (ofDays n).toDays = n := by
  obtain ⟨era, y, d, hy, hn, hof⟩ := exists_ofDays n
  have hera : (y + 400 * era) / 400 = era ∧ (y + 400 * era) % 400 = y := by
    have hy0 := hy.year_nonneg
    have hy1 := hy.year_lt
    omega
  rw [hof, Date.toDays, marchYear_marchDate _ hy.day_nonneg hy.day_le,
    dayOfYear_marchDate _ hy.day_nonneg hy.day_le, hera.1, hera.2, hn]

/-- The date of the day of a date. -/
theorem ofDays_toDays {d : Date} (h : d.IsValid) : ofDays d.toDays = d := by
  obtain ⟨h0, h1, hleap, hmarch⟩ := h.dayOfYear
  have hsplit : d.marchYear = d.marchYear % 400 + 400 * (d.marchYear / 400) := by omega
  have hy : InYear (d.marchYear % 400) d.dayOfYear := by
    refine ⟨by omega, by omega, h0, h1, fun h => ?_⟩
    rw [← isLeap_add_era _ (d.marchYear / 400)]
    rw [show d.marchYear % 400 + 1 + 400 * (d.marchYear / 400) = d.marchYear + 1 by omega]
    exact hleap h
  have hbounds := hy.bounds
  have hshift : d.toDays + 719468 =
      d.marchYear / 400 * 146097 + (yearStart (d.marchYear % 400) + d.dayOfYear) := by
    unfold Date.toDays
    omega
  have hera : (d.toDays + 719468) / 146097 = d.marchYear / 400 := by omega
  have hday : (d.toDays + 719468) % 146097 = yearStart (d.marchYear % 400) + d.dayOfYear := by
    omega
  rw [ofDays, hera, hday, yearOf_yearStart hy, add_sub_cancel_left, ← hsplit, hmarch]

/-! ## New years -/

section NewYears

lemma newYear_succ (y : ℤ) : newYear y + 365 ≤ newYear (y + 1) := by
  unfold newYear
  omega

lemma newYear_mono {y y' : ℤ} (h : y ≤ y') : newYear y ≤ newYear y' := by
  have h4 : (y - 1) / 4 ≤ (y' - 1) / 4 := by omega
  have h100 : (y' - 1) / 100 - (y - 1) / 100 ≤ y' - y := by omega
  have h400 : (y - 1) / 400 ≤ (y' - 1) / 400 := by omega
  unfold newYear
  omega

/-- Before a year of the calendar there are 365 days for every year and one for every leap year. -/
lemma Date.toDays_eq (d : Date) : d.toDays = 365 * d.marchYear + d.marchYear / 4 -
    d.marchYear / 100 + d.marchYear / 400 + d.dayOfYear - 719468 := by
  obtain ⟨q, r, hr0, hr1, hq⟩ : ∃ q r : ℤ, 0 ≤ r ∧ r < 400 ∧ d.marchYear = 400 * q + r :=
    ⟨d.marchYear / 400, d.marchYear % 400, by omega, by omega, by omega⟩
  have h4 : (400 * q + r) / 4 = 100 * q + r / 4 := by omega
  have h100 : (400 * q + r) / 100 = 4 * q + r / 100 := by omega
  have h400 : (400 * q + r) / 400 = q := by omega
  have hmod : (400 * q + r) % 400 = r := by omega
  rw [Date.toDays, yearStart, hq, h4, h100, h400, hmod]
  omega

/-- The days of a year are before the next year. -/
lemma Date.IsValid.toDays_bounds {d : Date} (h : d.IsValid) :
    newYear d.year ≤ d.toDays ∧ d.toDays < newYear (d.year + 1) := by
  obtain ⟨h0, h1, -, -⟩ := h.dayOfYear
  obtain ⟨hm1, hm12, hk1, hk⟩ := h
  have hsucc := newYear_succ d.year
  by_cases hlow : d.month < 3
  · have hday : 306 ≤ d.dayOfYear := by
      rw [Date.dayOfYear, if_pos hlow]
      unfold monthStart
      omega
    have hdays : d.toDays = newYear d.year - 306 + d.dayOfYear := by
      rw [Date.toDays_eq, Date.marchYear, if_pos hlow, newYear]
      omega
    omega
  · have hday : d.dayOfYear < 306 := by
      have hend := (daysInMonth_le d.year hm1 hm12).2 (by omega)
      rw [Date.dayOfYear, if_neg hlow]
      unfold monthStart at hend ⊢
      omega
    have hdays : d.toDays = newYear (d.year + 1) - 306 + d.dayOfYear := by
      rw [Date.toDays_eq, Date.marchYear, if_neg hlow, newYear, Int.sub_zero, add_sub_cancel_right]
      omega
    omega

/-- A day between two new years is in a year between them. -/
lemma year_ofDays {n y y' : ℤ} (h : newYear y ≤ n) (h' : n < newYear y') :
    y ≤ (ofDays n).year ∧ (ofDays n).year < y' := by
  obtain ⟨hge, hlt⟩ := (isValid_ofDays n).toDays_bounds
  rw [toDays_ofDays] at hge hlt
  constructor
  · by_contra hyear
    have := newYear_mono (show (ofDays n).year + 1 ≤ y by omega)
    omega
  · by_contra hyear
    have := newYear_mono (show y' ≤ (ofDays n).year by omega)
    omega

end NewYears

end Calendar
