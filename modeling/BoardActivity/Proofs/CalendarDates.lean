import BoardActivity.Time.Instant
import Mathlib.Order.Basic
import Mathlib.Order.Interval.Finset.Nat
import Mathlib.Tactic.IntervalCases

/-!
# Dates and days

Counting days and naming dates are inverse to each other: every day has a date of the calendar
(`Date.isValid_ofDays`), and the day counted from that date is the same (`Date.toDays_ofDays`).

Both functions work with years that begin in March, within an era of 400 years. `Date.ofMarch` is
the date by the number of such a year and of a day in it; the arithmetic that finds the year of a
day is checked at the first and last day of each of the 400 years, and is monotone in between.
-/

namespace BoardActivity.Time.Date

/-! ### Years of an era -/

/-- The days of an era before its year `y`. -/
def daysBefore (y : Nat) : Nat := 365 * y + y / 4 - y / 100

/-- The year of an era that its day `n` belongs to. -/
def yearOf (n : Nat) : Nat := (n - n / 1460 + n / 36524 - n / 146096) / 365

theorem yearOf_mono {m n : Nat} (h : m ≤ n) : yearOf m ≤ yearOf n := by
  induction n, h using Nat.le_induction with
  | base => exact le_rfl
  | succ n _ ih =>
      refine ih.trans (Nat.div_le_div_right ?_)
      omega

/-- The first day of each year, and the last day of each but the last year. -/
theorem yearOf_daysBefore : ∀ y < 400, yearOf (daysBefore y) = y ∧
    (y < 399 → yearOf (daysBefore (y + 1) - 1) = y) := by
  decide +kernel

theorem daysBefore_succ (y : Nat) : daysBefore (y + 1) + (if (y + 1) % 100 = 0 then 1 else 0) =
    daysBefore y + 365 + if (y + 1) % 4 = 0 then 1 else 0 := by
  have hfour : (y + 1) / 4 = y / 4 + if (y + 1) % 4 = 0 then 1 else 0 := by
    split_ifs
    all_goals omega
  have hhundred : (y + 1) / 100 = y / 100 + if (y + 1) % 100 = 0 then 1 else 0 := by
    split_ifs
    all_goals omega
  unfold daysBefore
  rw [hfour, hhundred]
  split_ifs
  all_goals omega

/-- The last year of an era has a day more, since its number as a year divides by 400. -/
theorem yearOf_spec {n : Nat} (h : n < 146097) : yearOf n < 400 ∧ daysBefore (yearOf n) ≤ n ∧
    n < daysBefore (yearOf n + 1) + if yearOf n = 399 then 1 else 0 := by
  have hlast : yearOf n < 400 :=
    Nat.lt_succ_of_le ((yearOf_mono (Nat.le_of_lt_succ h)).trans (by decide))
  refine ⟨hlast, ?_, ?_⟩
  · by_contra hlt
    cases hy : yearOf n with
    | zero =>
        rw [hy] at hlt
        exact hlt (Nat.zero_le n)
    | succ y =>
        rw [hy] at hlt hlast
        have hle := yearOf_mono (Nat.le_sub_one_of_lt (Nat.lt_of_not_le hlt))
        rw [hy, (yearOf_daysBefore y (by omega)).2 (by omega)] at hle
        omega
  · split_ifs with hy
    · rw [hy]
      exact h
    · by_contra hge
      have hle := yearOf_mono (Nat.le_of_not_lt hge)
      rw [Nat.add_zero, (yearOf_daysBefore _ (by omega)).1] at hle
      omega

/-! ### Dates of an era -/

def ofMarch (era : Int) (y day : Nat) : Date :=
  let month := (5 * day + 2) / 153
  let dayOfMonth := day - (153 * month + 2) / 5 + 1
  if month < 10 then ⟨era * 400 + y, month + 3, dayOfMonth⟩
  else ⟨era * 400 + y + 1, month - 9, dayOfMonth⟩

theorem isLeapYear_era (era : Int) (y : Nat) : isLeapYear (era * 400 + y + 1) = true ↔
    (y + 1) % 4 = 0 ∧ ((y + 1) % 100 ≠ 0 ∨ (y + 1) % 400 = 0) := by
  simp only [isLeapYear, Bool.and_eq_true, beq_iff_eq, Bool.or_eq_true, bne_iff_ne]
  omega

/-- A day by its era, its year and its number in the year. The year has a day more when it ends
with the February of a leap year. -/
theorem ofDays_eq (days : Int) : ∃ (era : Int) (y day : Nat), y < 400 ∧
    day < 365 + (if isLeapYear (era * 400 + y + 1) then 1 else 0) ∧
    days = era * 146097 + (daysBefore y + day : Nat) - 719468 ∧
    ofDays days = ofMarch era y day := by
  obtain ⟨n, hn⟩ : ∃ n : Nat, (days + 719468) % 146097 = n :=
    Int.eq_ofNat_of_zero_le (Int.emod_nonneg _ (by decide))
  have hlt : n < 146097 := by omega
  obtain ⟨hy, hle, hday⟩ := yearOf_spec hlt
  have hdays : n - daysBefore (yearOf n) < 365 +
      if isLeapYear ((days + 719468) / 146097 * 400 + yearOf n + 1) then 1 else 0 := by
    have hstep := daysBefore_succ (yearOf n)
    simp only [isLeapYear_era]
    split_ifs at hday hstep ⊢
    all_goals omega
  have hbound : n - daysBefore (yearOf n) < 366 := by
    split_ifs at hdays
    all_goals omega
  refine ⟨(days + 719468) / 146097, yearOf n, n - daysBefore (yearOf n), hy, hdays, by omega, ?_⟩
  -- Era, year and day are found in the integers, and are natural numbers.
  have hera : days + 719468 - (days + 719468) / 146097 * 146097 = n := by omega
  have hyear : ((n : Int) - n / 1460 + n / 36524 - n / 146096) / 365 = (yearOf n : Nat) := by
    unfold yearOf
    omega
  have hrest : (n : Int) - (365 * (yearOf n : Nat) + (yearOf n : Nat) / 4 -
      (yearOf n : Nat) / 100) = (n - daysBefore (yearOf n) : Nat) := by
    unfold daysBefore at hle ⊢
    omega
  unfold ofDays ofMarch
  simp only [hera, hyear, hrest]
  generalize n - daysBefore (yearOf n) = day at hbound ⊢
  have hmonth : (5 * (day : Int) + 2) / 153 = ((5 * day + 2) / 153 : Nat) := by omega
  have hdate : (day : Int) - (153 * ((5 * day + 2) / 153 : Nat) + 2) / 5 + 1 =
      (day - (153 * ((5 * day + 2) / 153) + 2) / 5 + 1 : Nat) := by omega
  simp only [hmonth, hdate]
  clear hmonth hdate hrest hera hyear hdays hday hle hn
  split_ifs
  all_goals
    simp only [Date.mk.injEq]
    omega

theorem toDays_ofMarch {era : Int} {y day : Nat} (hy : y < 400) (hday : day < 366) :
    (ofMarch era y day).toDays = era * 146097 + (daysBefore y + day : Nat) - 719468 := by
  unfold ofMarch daysBefore
  simp only
  split_ifs with hm
  · unfold toDays
    simp only
    omega
  · unfold toDays
    simp only
    omega

/-- From March to December the months lie apart by their lengths. -/
theorem daysInMonth_fromMarch (year : Int) : ∀ m < 10,
    daysInMonth year (m + 3) = (153 * (m + 1) + 2) / 5 - (153 * m + 2) / 5 := by
  intro m hm
  interval_cases m
  all_goals rfl

theorem isValid_ofMarch {era : Int} {y day : Nat}
    (hday : day < 365 + if isLeapYear (era * 400 + y + 1) then 1 else 0) :
    (ofMarch era y day).isValid = true := by
  have hmonth : (5 * day + 2) / 153 < 12 := by
    split_ifs at hday
    all_goals omega
  unfold ofMarch
  simp only [isValid]
  split_ifs with hm
  · simp only [daysInMonth_fromMarch _ _ hm, Bool.and_eq_true, decide_eq_true_eq]
    omega
  · obtain hjanuary | hfebruary : (5 * day + 2) / 153 = 10 ∨ (5 * day + 2) / 153 = 11 := by omega
    · have hdays : daysInMonth (era * 400 + y + 1) 1 = 31 := rfl
      simp only [hjanuary, hdays, Bool.and_eq_true, decide_eq_true_eq]
      omega
    · have hdays : daysInMonth (era * 400 + y + 1) 2 =
          28 + if isLeapYear (era * 400 + y + 1) then 1 else 0 := by
        rw [daysInMonth, if_pos rfl]
        split_ifs
        all_goals rfl
      simp only [hfebruary, hdays, Bool.and_eq_true, decide_eq_true_eq]
      omega

/-! ### All days -/

/-- The day counted from the date of a day is that day. -/
theorem toDays_ofDays (days : Int) : (ofDays days).toDays = days := by
  obtain ⟨era, y, day, hy, hday, hdays, heq⟩ := ofDays_eq days
  have hbound : day < 366 := by
    split_ifs at hday
    all_goals omega
  rw [heq, toDays_ofMarch hy hbound, hdays]

/-- Every day has a date of the calendar. -/
theorem isValid_ofDays (days : Int) : (ofDays days).isValid = true := by
  obtain ⟨era, y, day, -, hday, -, heq⟩ := ofDays_eq days
  rw [heq, isValid_ofMarch hday]

/-- Months and days of the month are written with two digits. -/
theorem isValid_bounds {d : Date} (h : d.isValid = true) : d.month ≤ 12 ∧ d.day ≤ 31 := by
  simp only [isValid, daysInMonth, Bool.and_eq_true, decide_eq_true_eq] at h
  split_ifs at h
  all_goals grind

/-- The date of a day between the first and the last that timestamps can carry. -/
theorem year_ofDays {days : Int} (hfirst : (⟨Instant.firstYear, 1, 1⟩ : Date).toDays ≤ days)
    (hlast : days ≤ (⟨Instant.lastYear, 12, 31⟩ : Date).toDays) :
    Instant.firstYear ≤ (ofDays days).year ∧ (ofDays days).year ≤ Instant.lastYear := by
  obtain ⟨era, y, day, hy, hday, hdays, heq⟩ := ofDays_eq days
  have hbound : day < 366 := by
    split_ifs at hday
    all_goals omega
  have hfirstDay : (⟨Instant.firstYear, 1, 1⟩ : Date).toDays = -96465292 := by decide
  have hlastDay : (⟨Instant.lastYear, 12, 31⟩ : Date).toDays = 95026236 := by decide
  rw [hfirstDay, hdays] at hfirst
  rw [hlastDay, hdays] at hlast
  rw [heq]
  unfold ofMarch Instant.firstYear Instant.lastYear
  unfold daysBefore at hfirst hlast
  clear hdays heq hday hfirstDay hlastDay
  simp only
  split_ifs
  · simp only
    omega
  · -- In the last era the last year is cut short.
    rcases lt_trichotomy era 655 with hera | rfl | hera
    all_goals
      simp only
      omega

end BoardActivity.Time.Date
