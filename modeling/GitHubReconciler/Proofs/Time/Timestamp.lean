-- SUMMARY: The text of a timestamp spells the civil fields of its second (`Timestamp.spells_format_iff`), and timestamps are written alike just if they lie in the same second (`Timestamp.format_eq_iff`).
import GitHubReconciler.Proofs.Time.Spelling
import GitHubReconciler.Proofs.Time.Succession

/-!
# Texts of timestamps

A text determines the fields that it spells. The fields in turn determine the second, a leap second
being told from the second before it by its number.
-/

namespace GitHubReconciler

/-! ## Seconds -/

namespace Timestamp

/-- The place of a timestamp's second among all seconds, where one that is followed by a leap second
    leaves room for it. -/
def tick (t : Timestamp) : Int :=
  2 * t.seconds + if t.isLeap then 1 else 0

variable {t u : Timestamp}

theorem tick_eq_iff : t.tick = u.tick ↔ t.seconds = u.seconds ∧ t.isLeap = u.isLeap := by
  unfold tick
  cases t.isLeap <;> cases u.isLeap <;> simp <;> omega

theorem seconds_mod_of_isLeap (h : t.isLeap = true) : t.seconds % 60 = 59 :=
  t.leap_ends_minute (of_decide_eq_true h)

theorem inBounds_civil (t : Timestamp) : t.civil.InBounds where
  month := Date.month_ofDays.2
  day := Date.day_ofDays.2
  hour := by
    simp only [civil]
    omega
  minute := by
    simp only [civil]
    omega
  second := by
    simp only [civil]
    split <;> omega

/-- A leap second is the one with the number 60. -/
theorem isLeap_iff_second (t : Timestamp) : t.isLeap = true ↔ t.civil.second = 60 := by
  simp only [civil]
  constructor
  · intro hleap
    have hlast := seconds_mod_of_isLeap hleap
    rw [if_pos hleap]
    omega
  · intro hsecond
    by_cases hleap : t.isLeap = true
    · exact hleap
    · rw [if_neg hleap] at hsecond
      omega

/-- The second of a timestamp, counted from its fields. -/
theorem seconds_eq_civil (t : Timestamp) :
    t.seconds = 86400 * t.civil.date.toDays +
      (3600 * t.civil.hour + 60 * t.civil.minute + min t.civil.second 59 : Nat) := by
  have hdays : t.civil.date.toDays = t.seconds / 86400 := Date.toDays_ofDays
  rw [hdays]
  simp only [civil]
  by_cases hleap : t.isLeap = true
  · have hlast := seconds_mod_of_isLeap hleap
    rw [if_pos hleap]
    omega
  · rw [if_neg hleap]
    omega

/-- The fields of a timestamp determine its second. -/
theorem civil_inj : t.civil = u.civil ↔ t.seconds = u.seconds ∧ t.isLeap = u.isLeap := by
  constructor
  · intro h
    constructor
    · rw [seconds_eq_civil t, h, ← seconds_eq_civil u]
    · rw [Bool.eq_iff_iff, isLeap_iff_second, isLeap_iff_second, h]
  · rintro ⟨hseconds, hleap⟩
    simp [civil, hseconds, hleap]

/-- Timestamps are written alike just if they lie in the same second. -/
theorem format_eq_iff : t.format = u.format ↔ t.tick = u.tick := by
  rw [format, format, CivilTime.format_inj (inBounds_civil t) (inBounds_civil u), civil_inj,
    tick_eq_iff]

/-! ## Civil fields -/

/-- Fields are those of the calendar and the clock in the second of a timestamp. The second 60 of a
    minute comes after its second 59, whose count it shares. -/
structure IsShownBy (t : Timestamp) (c : CivilTime) : Prop where
  inCalendar : c.date.InCalendar
  hour_lt : c.hour < 24
  minute_lt : c.minute < 60
  second_le : c.second ≤ 60
  isLeap_iff : t.isLeap = true ↔ c.second = 60
  seconds_eq : t.seconds =
    86400 * c.date.toDays + (3600 * c.hour + 60 * c.minute + min c.second 59 : Nat)

theorem isShownBy_civil (t : Timestamp) : t.IsShownBy t.civil where
  inCalendar := Date.inCalendar_ofDays
  hour_lt := (inBounds_civil t).hour
  minute_lt := (inBounds_civil t).minute
  second_le := (inBounds_civil t).second
  isLeap_iff := isLeap_iff_second t
  seconds_eq := seconds_eq_civil t

/-- The text of a timestamp spells its civil fields and no others. -/
theorem spells_format_iff {c : CivilTime} : CivilTime.Spells t.format c ↔ c = t.civil := by
  have hcivil : CivilTime.Spells t.format t.civil := CivilTime.spells_format (inBounds_civil t)
  constructor
  · intro h
    exact h.unique hcivil
  · rintro rfl
    exact hcivil

end Timestamp

end GitHubReconciler
