-- SUMMARY: Dates one after another (`Date.next`): every day has a date of the calendar (`Date.inCalendar_ofDays`), and dates are counted as they follow one another (`Date.toDays_next`).
import GitHubReconciler.Proofs.Time.Calendar
import Mathlib.Tactic.IntervalCases

/-!
# Dates one after another

The calendar is told by the lengths of its months: after the last day of a month comes the first of
the next, after that of a year the first of the next year. Days are counted in this order, from the
first of January 1970 on, so that the count of a date is determined by the calendar alone.

The date of a day was found in years that begin in March. Only the last month of such a year,
February, has no fixed length, and its last day is the only one that may be missing.
-/

namespace GitHubReconciler.Date

/-! ## The calendar -/

/-- A date is one of the calendar. -/
structure InCalendar (d : Date) : Prop where
  one_le_month : 1 ≤ d.month
  month_le : d.month ≤ 12
  one_le_day : 1 ≤ d.day
  day_le : d.day ≤ monthLength d.year d.month

/-- The first day that is counted. -/
def epoch : Date := { year := 1970, month := 1, day := 1 }

/-- The date after a date. -/
def next (d : Date) : Date :=
  if d.day < monthLength d.year d.month then { d with day := d.day + 1 }
  else if d.month < 12 then { d with month := d.month + 1, day := 1 }
  else { year := d.year + 1, month := 1, day := 1 }

theorem isLeapYear_iff {year : Int} :
    isLeapYear year = true ↔ year % 4 = 0 ∧ (year % 100 = 0 → year % 400 = 0) := by
  simp only [isLeapYear, Bool.and_eq_true, Bool.or_eq_true, beq_iff_eq, bne_iff_ne]
  omega

/-- February ends before the first of March, whether the year has a leap day or not. -/
theorem toDays_march {year : Int} :
    toDays { year, month := 3, day := 1 } =
      toDays { year, month := 2, day := monthLength year 2 } + 1 := by
  by_cases hleap : isLeapYear year = true
  · obtain ⟨hfour, hcentury⟩ := isLeapYear_iff.mp hleap
    simp only [toDays, monthLength, if_pos hleap]
    dsimp
    omega
  · have hcommon := mt isLeapYear_iff.mpr hleap
    simp only [toDays, monthLength, if_neg hleap]
    dsimp
    omega

/-- A month begins where the one before it has ended. -/
theorem toDays_first_of_next {year : Int} {month : Nat} (hfirst : 1 ≤ month) (hlast : month < 12) :
    toDays { year, month := month + 1, day := 1 } =
      toDays { year, month, day := monthLength year month } + 1 := by
  by_cases hfebruary : month = 2
  · rw [hfebruary]
    exact toDays_march
  · -- Neither month is February, so both lie in the same year from March to February.
    interval_cases month
    all_goals simp [toDays, monthLength] at hfebruary ⊢
    all_goals omega

/-- A year begins where the one before it has ended. -/
theorem toDays_new_year {year : Int} :
    toDays { year := year + 1, month := 1, day := 1 } =
      toDays { year, month := 12, day := monthLength year 12 } + 1 := by
  simp [toDays, monthLength]
  omega

/-- Dates are counted one after another. -/
theorem toDays_next {d : Date} (h : d.InCalendar) : d.next.toDays = d.toDays + 1 := by
  obtain ⟨year, month, day⟩ := d
  obtain ⟨hmonth, hlast, hday, hlength⟩ := h
  dsimp only at hmonth hlast hday hlength
  unfold next
  dsimp only
  split
  next hwithin =>
    simp only [toDays]
    omega
  next hend =>
    obtain rfl : day = monthLength year month := by omega
    split
    next hbefore => exact toDays_first_of_next hmonth hbefore
    next hyear =>
      obtain rfl : month = 12 := by omega
      exact toDays_new_year

theorem one_le_monthLength {year : Int} {month : Nat} : 1 ≤ monthLength year month := by
  unfold monthLength
  split_ifs <;> decide

theorem monthLength_le {year : Int} {month : Nat} : monthLength year month ≤ 31 := by
  unfold monthLength
  split_ifs <;> decide

/-- After a date of the calendar comes another one. -/
theorem InCalendar.next {d : Date} (h : d.InCalendar) : d.next.InCalendar := by
  obtain ⟨hmonth, hlast, hday, hlength⟩ := h
  unfold Date.next
  split
  next hwithin => exact ⟨hmonth, hlast, by simp, hwithin⟩
  next hend =>
    split
    next hbefore => exact ⟨by simp, hbefore, Nat.le_refl 1, one_le_monthLength⟩
    next hyear => exact ⟨Nat.le_refl 1, by simp, Nat.le_refl 1, one_le_monthLength⟩

/-! ## The dates of days -/

/-- Only a year that ends with a leap day has a day more. -/
theorem leap_of_dayOfYear {day : Nat} (h : day < 146097) (hlast : dayOfYear day = 365) :
    (yearOfEra day + 1) % 4 = 0 ∧ ((yearOfEra day + 1) % 100 = 0 → yearOfEra day = 399) := by
  by_cases hera : day = 146096
  · subst hera
    decide
  · obtain ⟨span, rest, hday, hrest, hfirst, hspan, hyear⟩ :=
      exists_span_of_century day (day / 36524) (by omega) (by omega) (by omega)
    generalize hcentury : day / 36524 = century at *
    generalize hin : min 3 (rest / 365) = year at *
    have hfour : (4 * span + year) / 4 = span := by omega
    have hhundred : (4 * span + year) / 100 = century := by omega
    unfold dayOfYear at hlast
    rw [hyear, hfour, hhundred] at hlast
    rw [hyear]
    omega

/-- In a year from the first of March every month but the last has a fixed length. -/
theorem day_le_of_lt {year : Int} {day : Nat} (h : monthFromMarch day < 11) :
    day - (153 * monthFromMarch day + 2) / 5 + 1 ≤
      monthLength year (calendarMonth (monthFromMarch day)) := by
  generalize hmonth : monthFromMarch day = month at *
  unfold monthFromMarch at hmonth
  interval_cases month
  all_goals simp [calendarMonth, monthLength]
  all_goals omega

/-- A day is one of its month. -/
theorem day_le_monthLength {days : Int} :
    (ofDays days).day ≤ monthLength (ofDays days).year (ofDays days).month := by
  have hle := (eq_add_dayOfYear (dayOfEra_lt days)).2
  have hleap := leap_of_dayOfYear (dayOfEra_lt days)
  rw [ofDays_eq]
  dsimp only
  rcases Nat.lt_or_ge (monthFromMarch (dayOfYear (dayOfEra days))) 11 with hfixed | hfebruary
  · exact day_le_of_lt hfixed
  · have hmonth : monthFromMarch (dayOfYear (dayOfEra days)) = 11 :=
      Nat.le_antisymm (monthFromMarch_le hle) hfebruary
    rw [hmonth]
    generalize dayOfYear (dayOfEra days) = day at *
    generalize yearOfEra (dayOfEra days) = year at *
    change day - 337 + 1 ≤ if isLeapYear (era days * 400 + year + 1) then 29 else 28
    split
    next => omega
    next hcommon =>
      have hshort : day ≠ 365 := by
        intro hlast
        obtain ⟨hfour, hcentury⟩ := hleap hlast
        exact hcommon (isLeapYear_iff.mpr (by omega))
      omega

theorem inCalendar_ofDays {days : Int} : (ofDays days).InCalendar where
  one_le_month := month_ofDays.1
  month_le := month_ofDays.2
  one_le_day := day_ofDays.1
  day_le := day_le_monthLength

end GitHubReconciler.Date
