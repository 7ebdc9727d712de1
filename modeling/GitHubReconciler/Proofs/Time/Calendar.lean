-- SUMMARY: The dates of days (`Date.ofDays`): they have bounded fields, and no two days have the same one (`Date.toDays_ofDays`).
import GitHubReconciler.Time.Reading

/-!
# The calendar

An era of 400 years has four centuries of 36524 days and one day more, and a century has 25 spans
of four years, which have 1461 days but for the last. If the days that are missing at the ends of
centuries are put back, a day of an era lies in one span of 1461 days and in one year of it
(`exists_span`). All else about dates is read off from that.
-/

namespace GitHubReconciler.Date

/-! ## Eras -/

/-- The year of an era that a day of the era lies in. -/
def yearOfEra (day : Nat) : Nat :=
  (day - day / 1460 + day / 36524 - day / 146096) / 365

/-- Where a day lies in its era, before the last day of it. -/
theorem exists_span_of_century (day century : Nat) (hcentury : century ≤ 3)
    (hfirst : 36524 * century ≤ day) (hlast : day < 36524 * (century + 1)) :
    ∃ span rest, day + century = 1461 * span + rest ∧ rest ≤ 1460 ∧
      25 * century ≤ span ∧ span < 25 * (century + 1) ∧
      yearOfEra day = 4 * span + min 3 (rest / 365) := by
  have hyear : yearOfEra day = (day - day / 1460 + century) / 365 := by
    unfold yearOfEra
    omega
  -- Leap days make up for at most one of the days that the formula takes off.
  have hoff : day / 1460 = (day + century) / 1461 ∨ day / 1460 = (day + century) / 1461 + 1 := by
    omega
  refine ⟨(day + century) / 1461, (day + century) % 1461, by omega, by omega, by omega, by omega,
    ?_⟩
  rw [hyear]
  generalize hspan : (day + century) / 1461 = span at *
  generalize hrest : (day + century) % 1461 = rest at *
  have hday : day + century = 1461 * span + rest := by omega
  rcases hoff with hoff | hoff
  · have hrest : rest ≤ 1459 := by omega
    rw [hoff]
    omega
  · have hrest : 1096 ≤ rest := by omega
    rw [hoff]
    omega

/-- Where a day lies in its era: in which century, in which four years, in which of them and where
    in that one. -/
theorem exists_span {day : Nat} (h : day < 146097) :
    ∃ century span year rest, century ≤ 3 ∧ 25 * century ≤ span ∧ span < 25 * (century + 1) ∧
      year ≤ 3 ∧ rest ≤ 365 ∧ day + century = 1461 * span + 365 * year + rest ∧
      yearOfEra day = 4 * span + year := by
  by_cases hlast : day = 146096
  · subst hlast
    exact ⟨3, 99, 3, 365, by decide⟩
  · obtain ⟨span, rest, hday, hrest, hfirst, hspan, hyear⟩ :=
      exists_span_of_century day (day / 36524) (by omega) (by omega) (by omega)
    exact ⟨day / 36524, span, min 3 (rest / 365), rest - 365 * min 3 (rest / 365), by omega, hfirst,
      hspan, by omega, by omega, by omega, hyear⟩

/-- The day of the year that a day of an era lies in, from the first of March. -/
def dayOfYear (day : Nat) : Nat :=
  day - (365 * yearOfEra day + yearOfEra day / 4 - yearOfEra day / 100)

theorem yearOfEra_lt {day : Nat} (h : day < 146097) : yearOfEra day < 400 := by
  obtain ⟨century, span, year, rest, hcentury, -, hspan, hle, -, -, hyear⟩ := exists_span h
  omega

/-- A day of an era is a day of its year, counted from the year's first day. -/
theorem eq_add_dayOfYear {day : Nat} (h : day < 146097) :
    day + yearOfEra day / 100 = 365 * yearOfEra day + yearOfEra day / 4 + dayOfYear day ∧
      dayOfYear day ≤ 365 := by
  obtain ⟨century, span, year, rest, -, hfirst, hspan, hle, hrest, hday, hyear⟩ := exists_span h
  have hleap : yearOfEra day / 4 = span := by omega
  have hcentury : yearOfEra day / 100 = century := by omega
  unfold dayOfYear
  rw [hleap, hcentury, hyear]
  omega

/-! ## Dates -/

variable {days : Int}

/-- The era that a day lies in. -/
def era (days : Int) : Int :=
  (days + 719468) / 146097

/-- The day of its era that a day is. -/
def dayOfEra (days : Int) : Nat :=
  ((days + 719468) % 146097).toNat

theorem dayOfEra_lt (days : Int) : dayOfEra days < 146097 := by
  unfold dayOfEra
  omega

theorem eq_add_dayOfEra (days : Int) : days + 719468 = 146097 * era days + dayOfEra days := by
  unfold era dayOfEra
  omega

/-- The month that a day of a year from the first of March lies in, counted from March. -/
def monthFromMarch (day : Nat) : Nat :=
  (5 * day + 2) / 153

/-- A month of the calendar by its count from March. -/
def calendarMonth (fromMarch : Nat) : Nat :=
  if fromMarch < 10 then fromMarch + 3 else fromMarch - 9

/-- A year of the calendar by the year from the first of March and the month. -/
def calendarYear (year : Int) (fromMarch : Nat) : Int :=
  year + if calendarMonth fromMarch ≤ 2 then 1 else 0

/-- A date by its parts. -/
theorem ofDays_eq : ofDays days =
    let day := dayOfYear (dayOfEra days)
    { year := calendarYear (era days * 400 + yearOfEra (dayOfEra days)) (monthFromMarch day)
      month := calendarMonth (monthFromMarch day)
      day := day - (153 * monthFromMarch day + 2) / 5 + 1 } :=
  rfl

theorem monthFromMarch_le {day : Nat} (h : day ≤ 365) : monthFromMarch day ≤ 11 := by
  unfold monthFromMarch
  omega

theorem firstOfMonth_le (day : Nat) : (153 * monthFromMarch day + 2) / 5 ≤ day := by
  unfold monthFromMarch
  omega

theorem month_ofDays : 1 ≤ (ofDays days).month ∧ (ofDays days).month ≤ 12 := by
  have hle := monthFromMarch_le (eq_add_dayOfYear (dayOfEra_lt days)).2
  rw [ofDays_eq]
  unfold calendarMonth
  dsimp only
  split
  · omega
  · omega

theorem day_ofDays : 1 ≤ (ofDays days).day ∧ (ofDays days).day ≤ 31 := by
  rw [ofDays_eq]
  unfold monthFromMarch
  dsimp only
  omega

/-- Whether the first of March is before it or after it, a date counts from there. -/
theorem toDays_calendar {year : Int} {month day : Nat} (h : month ≤ 11) :
    toDays { year := calendarYear year month, month := calendarMonth month, day } =
      365 * year + year / 4 - year / 100 + year / 400 + ((153 * month + 2) / 5 + day - 1 : Nat)
        - 719468 := by
  unfold toDays calendarYear calendarMonth
  dsimp only
  by_cases hspring : month < 10
  · have hlate : ¬ month + 3 ≤ 2 := by omega
    simp only [if_pos hspring, if_neg hlate, Int.add_zero, Nat.add_sub_cancel]
  · have hearly : month - 9 ≤ 2 := by omega
    have hback : month - 9 + 9 = month := by omega
    simp only [if_neg hspring, if_pos hearly, Int.add_sub_cancel, hback]

/-- Counting the days of a date gives the day that it is the date of. -/
theorem toDays_ofDays : (ofDays days).toDays = days := by
  have hera := eq_add_dayOfEra days
  have hyear := yearOfEra_lt (dayOfEra_lt days)
  obtain ⟨hday, hle⟩ := eq_add_dayOfYear (dayOfEra_lt days)
  have hfirst := firstOfMonth_le (dayOfYear (dayOfEra days))
  rw [ofDays_eq, toDays_calendar (monthFromMarch_le hle)]
  omega

end GitHubReconciler.Date
