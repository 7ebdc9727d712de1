-- SUMMARY: What the parts of a spelled time read as (`Timestamp.Reader.Takes`), and that the text of an instant, nanoseconds and all, reads as that instant (`Instant.parse_formatExact`).
import GitHubReconciler.Proofs.Time.Timestamp
import Mathlib.Data.List.TakeWhile

/-!
# Reading spelled times

Each reader takes a part of a text from its front and leaves the rest. `Takes` says so of one
reader, and the laws of the readers are put together as the readers are. A number ends where its
digits do: after two of them, or at the mark behind a year or a fraction.

An instant is read back from its text because its fields are in the bounds that reading holds them
to, and because the fields and the nanoseconds determine it.
-/

namespace GitHubReconciler

namespace Timestamp.Reader

variable {α β : Type} {x : α} {y : β} {r : Reader α} {f : α → Reader β}
  {digits text more rest : List Char} {c : Char} {n : Nat}

/-! ## Taking from the front -/

/-- A reader gives a value for a text, whatever it leaves being the rest of a longer one. -/
def Takes (r : Reader α) (text rest : List Char) (x : α) : Prop :=
  r (text ++ rest) = .ok (x, rest)

theorem Takes.bind (hr : Takes r text (more ++ rest) x) (hf : Takes (f x) more rest y) :
    Takes (r >>= f) (text ++ more) rest y := by
  unfold Takes at hr hf ⊢
  change (r (text ++ more ++ rest) >>= fun p => f p.1 p.2) = _
  rw [List.append_assoc, hr]
  exact hf

/-- What follows a reader may take nothing more. -/
theorem Takes.bind_nil (hr : Takes r text rest x) (hf : Takes (f x) [] rest y) :
    Takes (r >>= f) text rest y := by
  have hboth := hr.bind hf
  rwa [List.append_nil] at hboth

/-- There may be nothing to drop before a text. -/
theorem Takes.after {s : Reader Unit} (hs : Takes s [] (text ++ rest) ())
    (hr : Takes r text rest x) : Takes (do s; r) text rest x :=
  Takes.bind hs hr

theorem Takes.map (hr : Takes r text rest x) (g : α → β) :
    Takes (do return g (← r)) text rest (g x) :=
  hr.bind_nil rfl

theorem takes_skipBlank (hc : Text.isBlank c = false) : Takes skipBlank [] (c :: rest) () := by
  change Except.ok ((), (c :: rest).dropWhile Text.isBlank) = _
  rw [List.dropWhile_cons_of_neg (by rw [hc]; decide)]

theorem takes_oneOf {allowed : List Char} (hc : allowed.contains c = true) :
    Takes (oneOf allowed) [c] rest () := by
  change (if allowed.contains c then set rest else throw Fault.malformed : Reader Unit) _ = _
  rw [if_pos hc]
  rfl

theorem takes_mark (hc : Text.isBlank c = false) : Takes (mark c) [c] rest () :=
  (takes_skipBlank hc).after (takes_oneOf (by simp))

/-! ## Numbers -/

/-- Digits stand at the front of a text, and reading at most `most` of them stops where they end. -/
structure Ends (digits rest : List Char) (most : Nat) : Prop where
  ne_nil : digits ≠ []
  isDigit : ∀ c ∈ digits, c.isDigit = true
  takeWhile_eq : ((digits ++ rest).take most).takeWhile Char.isDigit = digits

/-- Digits end when there are as many as may be read. -/
theorem ends_of_length {most : Nat} (hmost : 0 < most) (hdigits : ∀ c ∈ digits, c.isDigit = true)
    (hlength : digits.length = most) : Ends digits rest most where
  ne_nil := List.ne_nil_of_length_pos (hlength ▸ hmost)
  isDigit := hdigits
  takeWhile_eq := by
    rw [← hlength, List.take_left, List.takeWhile_eq_self_iff]
    exact hdigits

/-- Digits end before a character that is none. -/
theorem ends_before {most : Nat} (hfirst : 0 < digits.length)
    (hdigits : ∀ c ∈ digits, c.isDigit = true) (hmost : digits.length ≤ most)
    (hc : c.isDigit = false) : Ends digits (c :: rest) most where
  ne_nil := List.ne_nil_of_length_pos hfirst
  isDigit := hdigits
  takeWhile_eq := by
    rw [List.take_append, List.take_of_length_le hmost, List.takeWhile_append_of_pos hdigits]
    cases most - digits.length with
    | zero => simp
    | succ k => simp [hc]

theorem takes_digits {most : Nat} (h : Ends digits rest most) :
    Takes (Reader.digits most) digits rest digits := by
  change (if (((digits ++ rest).take most).takeWhile Char.isDigit).isEmpty
      then throw (if (digits ++ rest).isEmpty then Fault.tooShort else .malformed)
      else do
        set ((digits ++ rest).drop (((digits ++ rest).take most).takeWhile Char.isDigit).length)
        return ((digits ++ rest).take most).takeWhile Char.isDigit : Reader (List Char)) _ = _
  rw [h.takeWhile_eq, if_neg (by simpa using h.ne_nil), List.drop_left]
  rfl

theorem takes_skipBlank_of_ends {most : Nat} (h : Ends digits rest most) :
    Takes skipBlank [] (digits ++ rest) () := by
  obtain ⟨c, ds, rfl⟩ := List.exists_cons_of_ne_nil h.ne_nil
  exact takes_skipBlank (Text.isBlank_of_isDigit (h.isDigit c List.mem_cons_self))

theorem takes_number {low high : Nat} (h : Text.TwoDigits digits n) (hlow : low ≤ n)
    (hhigh : n ≤ high) : Takes (number low high) digits rest n := by
  have hends : Ends digits rest 2 := ends_of_length (by decide) h.isDigit h.length_eq
  have hvalue : Takes (if low ≤ Text.digitsValue digits ∧ Text.digitsValue digits ≤ high
      then return Text.digitsValue digits else throw Fault.outOfRange : Reader Nat) [] rest n := by
    rw [h.value_eq, if_pos ⟨hlow, hhigh⟩]
    rfl
  exact (takes_skipBlank_of_ends hends).after ((takes_digits hends).bind_nil hvalue)

/-! ## Dates -/

/-- A year that begins with a digit has no sign. -/
theorem signedYear_eq (h : ∀ c ∈ text.head?, c.isDigit = true) :
    signedYear text =
      (do return (Text.digitsValue (← Reader.digits 4) : Int) : Reader Int) text := by
  simp only [signedYear, bind, StateT.bind, get, getThe, MonadStateOf.get, StateT.get, pure,
    Except.pure, Except.bind]
  split
  next => exact absurd (h '-' rfl) (by decide)
  next => exact absurd (h '+' rfl) (by decide)
  next => rfl

/-- Behind a sign all digits of a year are read, without one four of them. -/
theorem takes_signedYear {year : Int} (h : Date.SpellsYear text year) :
    Takes signedYear text ('-' :: rest) year := by
  have hall {digits : List Char} {n : Nat} (hdigits : Text.Denotes digits n)
      (hlength : 4 ≤ digits.length) :
      Takes (Reader.digits (digits ++ '-' :: rest).length) digits ('-' :: rest) digits :=
    takes_digits (ends_before (by omega) hdigits.isDigit (by simp) (by decide))
  cases h with
  | @plain _ n hdigits hlength =>
    have hends : Ends text ('-' :: rest) 4 := ends_of_length (by decide) hdigits.isDigit hlength
    have hread := (takes_digits hends).map fun ds => (Text.digitsValue ds : Int)
    rw [hdigits.value_eq] at hread
    have hhead : ∀ c ∈ (text ++ '-' :: rest).head?, c.isDigit = true := by
      obtain ⟨d, ds, rfl⟩ := List.exists_cons_of_ne_nil hends.ne_nil
      rintro _ ⟨⟩
      exact hdigits.isDigit d List.mem_cons_self
    unfold Takes at hread ⊢
    rwa [signedYear_eq hhead]
  | later hdigits hlength =>
    have hread := (hall hdigits hlength).map fun ds => (Text.digitsValue ds : Int)
    rw [hdigits.value_eq] at hread
    exact hread
  | before hdigits hlength =>
    have hread := (hall hdigits hlength).map fun ds => (-(Text.digitsValue ds : Int))
    rw [hdigits.value_eq] at hread
    exact hread

theorem takes_year {year : Int} (h : Date.SpellsYear text year) (hfirst : Date.first.year ≤ year)
    (hlast : year ≤ Date.last.year) : Takes Reader.year text ('-' :: rest) year := by
  have hfits : Int32.minValue.toInt ≤ year ∧ year ≤ Int32.maxValue.toInt :=
    ⟨Int.le_trans (by decide) hfirst, Int.le_trans hlast (by decide)⟩
  have hvalue : Takes (if Int32.minValue.toInt ≤ year ∧ year ≤ Int32.maxValue.toInt
      then return year else throw Fault.outOfRange : Reader Int) [] ('-' :: rest) year := by
    rw [if_pos hfits]
    rfl
  have hstart : Takes skipBlank [] (text ++ '-' :: rest) () := by
    cases h with
    | plain hdigits hlength =>
      exact takes_skipBlank_of_ends (ends_of_length (by decide) hdigits.isDigit hlength)
    | later => exact takes_skipBlank (by decide)
    | before => exact takes_skipBlank (by decide)
  exact hstart.after ((takes_signedYear h).bind_nil hvalue)

/-- A date in bounds is read from its year, month and day. -/
theorem takes_date {d : Date} {year month day : List Char} (hyear : Date.SpellsYear year d.year)
    (hmonth : Text.TwoDigits month d.month) (hday : Text.TwoDigits day d.day)
    (hd : d.InCalendar) (hfirst : Date.first.year ≤ d.year) (hlast : d.year ≤ Date.last.year) :
    Takes date (year ++ (['-'] ++ (month ++ (['-'] ++ day)))) rest d := by
  have hdash : Text.isBlank '-' = false := by decide
  have hle : d.day ≤ 31 := Nat.le_trans hd.day_le Date.monthLength_le
  apply (takes_year hyear hfirst hlast).bind
  apply (takes_mark hdash).bind
  apply (takes_number hmonth hd.one_le_month hd.month_le).bind
  apply (takes_mark hdash).bind
  exact (takes_number hday hd.one_le_day hle).map fun day => { d with day }

/-! ## Times of day -/

/-- Digits behind a point give nanoseconds, by how many they are. -/
theorem takes_point (h : Ends digits ('Z' :: rest) 9) :
    Takes fraction ('.' :: digits) ('Z' :: rest)
      (Text.digitsValue digits * Nat.pow 10 (9 - digits.length)) := by
  have hdrop : Takes (modify (·.dropWhile Char.isDigit) : Reader Unit) [] ('Z' :: rest) () := rfl
  exact (takes_digits h).bind_nil
    (f := fun counted => do
      modify (·.dropWhile Char.isDigit)
      return Text.digitsValue counted * Nat.pow 10 (9 - counted.length))
    (hdrop.map _)

theorem takes_padded {width : Nat} (hwidth : 0 < width) (hmost : width ≤ 9)
    (hn : n < 10 ^ width) :
    Takes fraction ("." ++ Text.padded width n).toList ('Z' :: rest)
      (n * Nat.pow 10 (9 - width)) := by
  have hlength : (Text.padded width n).toList.length = width := Text.length_padded hwidth hn
  have hends : Ends (Text.padded width n).toList ('Z' :: rest) 9 :=
    ends_before (by omega) (fun _ => Text.isDigit_of_mem_padded) (by omega) (by decide)
  have hread := takes_point hends
  rw [Text.digitsValue_padded, hlength] at hread
  rw [String.toList_append]
  exact hread

/-- A fraction is read as its nanoseconds, with however many digits it is written. -/
theorem takes_fraction (hn : n < 1000000000) :
    Takes fraction (formatFraction n).toList ('Z' :: rest) n := by
  unfold formatFraction
  split
  next hzero =>
    subst hzero
    rfl
  next hsome =>
    split
    next hmillis =>
      have hread : Takes fraction _ ('Z' :: rest) (n / 1000000 * 1000000) :=
        takes_padded (by decide : 0 < 3) (by decide) (by omega)
      rwa [Nat.div_mul_cancel (Nat.dvd_of_mod_eq_zero hmillis)] at hread
    next =>
      split
      next hmicros =>
        have hread : Takes fraction _ ('Z' :: rest) (n / 1000 * 1000) :=
          takes_padded (by decide : 0 < 6) (by decide) (by omega)
        rwa [Nat.div_mul_cancel (Nat.dvd_of_mod_eq_zero hmicros)] at hread
      next =>
        have hread : Takes fraction _ ('Z' :: rest) (n * 1) :=
          takes_padded (by decide : 0 < 9) (by decide) (by omega)
        rwa [Nat.mul_one] at hread

/-- The seconds and nanoseconds of a time of day are read from its fields and the fraction. -/
theorem takes_timeOfDay {c : CivilTime} {hour minute second : List Char}
    (hhour : Text.TwoDigits hour c.hour) (hminute : Text.TwoDigits minute c.minute)
    (hsecond : Text.TwoDigits second c.second) (hc : c.InBounds) (hn : n < 1000000000) :
    Takes timeOfDay
      (hour ++ ([':'] ++ (minute ++ ([':'] ++ (second ++ (formatFraction n).toList)))))
      ('Z' :: rest)
      (3600 * c.hour + 60 * c.minute + min c.second 59,
        if c.second = 60 then 1000000000 + n else n) := by
  have hcolon : Text.isBlank ':' = false := by decide
  apply (takes_number hhour (Nat.zero_le _) (Nat.le_of_lt_succ hc.hour)).bind
  apply (takes_mark hcolon).bind
  apply (takes_number hminute (Nat.zero_le _) (Nat.le_of_lt_succ hc.minute)).bind
  apply (takes_mark hcolon).bind
  apply (takes_number hsecond (Nat.zero_le _) hc.second).bind
  exact (takes_fraction hn).map _

theorem takes_offset : Takes offset ['Z'] rest 0 :=
  rfl

/-- A date and a time of day that can be read make a point in time in UTC. -/
theorem takes_parts {d : Date} {time : Nat × Nat} (hdate : ∀ rest, Takes date text rest d)
    (htime : ∀ rest, Takes timeOfDay more ('Z' :: rest) time) :
    Takes parts (text ++ (['T'] ++ (more ++ ['Z']))) rest (d, time, 0) := by
  apply (hdate _).bind
  apply (takes_oneOf (by decide)).bind
  apply (htime rest).bind
  exact takes_offset.map _

end Timestamp.Reader

/-! ## Instants -/

/-- No date from the first day on is of an earlier year. -/
theorem Date.InCalendar.first_year_le {d : Date} (hd : d.InCalendar)
    (h : first.toDays ≤ d.toDays) : first.year ≤ d.year := by
  have hday := Nat.le_trans hd.day_le monthLength_le
  have hmonth := hd.month_le
  change -96465292 ≤ d.toDays at h
  change -262143 ≤ d.year
  simp only [toDays] at h
  split at h
  next => omega
  next => omega

/-- No date up to the last day is of a later year. -/
theorem Date.InCalendar.year_le_last {d : Date} (hd : d.InCalendar)
    (h : d.toDays ≤ last.toDays) : d.year ≤ last.year := by
  have hday := hd.one_le_day
  have hmonth := hd.one_le_month
  change d.toDays ≤ 95026236 at h
  change d.year ≤ 262142
  simp only [toDays] at h
  split at h
  next => omega
  next => omega

namespace Timestamp

theorem subsecond_lt (t : Timestamp) : t.subsecond < 1000000000 :=
  Nat.mod_lt t.nanos (by decide)

/-- The nanoseconds are those after the second that is shown, and a second more if that is a leap
    second. -/
theorem nanos_eq_subsecond (t : Timestamp) :
    t.nanos = if t.civil.second = 60 then 1000000000 + t.subsecond else t.subsecond := by
  have hlt := t.nanos_lt
  unfold subsecond
  by_cases hleap : t.isLeap = true
  · have hle : 1000000000 ≤ t.nanos := of_decide_eq_true hleap
    rw [if_pos ((isLeap_iff_second t).mp hleap)]
    omega
  · have hgt : ¬ 1000000000 ≤ t.nanos := mt decide_eq_true hleap
    rw [if_neg (mt (isLeap_iff_second t).mpr hleap)]
    omega

end Timestamp

namespace Instant

open Timestamp

theorem year_bounds (t : Instant) :
    Date.first.year ≤ t.civil.date.year ∧ t.civil.date.year ≤ Date.last.year := by
  have hdays : t.civil.date.toDays = t.seconds / 86400 := Date.toDays_ofDays
  have hcalendar : t.civil.date.InCalendar := Date.inCalendar_ofDays
  have hfirst := t.first_le
  have hlast := t.lt_last
  exact ⟨hcalendar.first_year_le (by omega), hcalendar.year_le_last (by omega)⟩

/-- The parts of an instant's text are its date, the seconds and nanoseconds since the day began,
    and no offset. -/
theorem takes_formatExact (t : Instant) :
    Reader.Takes Reader.parts t.formatExact.toList []
      (t.civil.date,
        (3600 * t.civil.hour + 60 * t.civil.minute + min t.civil.second 59, t.nanos), 0) := by
  have hbounds := inBounds_civil t.toTimestamp
  obtain ⟨hfirst, hlast⟩ := t.year_bounds
  have htext : t.formatExact.toList =
      ((Date.formatYear t.civil.date.year).toList ++ (['-'] ++
        ((Text.padded 2 t.civil.date.month).toList ++ (['-'] ++
          (Text.padded 2 t.civil.date.day).toList)))) ++
        (['T'] ++ (((Text.padded 2 t.civil.hour).toList ++ ([':'] ++
          ((Text.padded 2 t.civil.minute).toList ++ ([':'] ++
            ((Text.padded 2 t.civil.second).toList ++
              (formatFraction t.subsecond).toList))))) ++ ['Z'])) := by
    simp [formatExact, CivilTime.formatFields]
  rw [htext, nanos_eq_subsecond]
  apply Reader.takes_parts
  · intro rest
    exact Reader.takes_date (Date.spellsYear_formatYear _)
      (Text.twoDigits_padded (Nat.lt_of_le_of_lt hbounds.month (by decide)))
      (Text.twoDigits_padded (Nat.lt_of_le_of_lt hbounds.day (by decide)))
      Date.inCalendar_ofDays hfirst hlast
  · intro rest
    exact Reader.takes_timeOfDay
      (Text.twoDigits_padded (Nat.lt_trans hbounds.hour (by decide)))
      (Text.twoDigits_padded (Nat.lt_trans hbounds.minute (by decide)))
      (Text.twoDigits_padded (Nat.lt_of_le_of_lt hbounds.second (by decide)))
      hbounds t.subsecond_lt

/-- The date of an instant and what has passed of its day give the instant back. -/
theorem ofLocal_civil (t : Instant) :
    ofLocal t.civil.date (3600 * t.civil.hour + 60 * t.civil.minute + min t.civil.second 59)
      t.nanos 0 = .ok t := by
  obtain ⟨hfirst, hlast⟩ := t.year_bounds
  have hvalid : t.civil.date.isValid = true := by
    simp only [Date.isValid, Bool.and_eq_true, decide_eq_true_eq]
    exact ⟨⟨hfirst, hlast⟩, Date.day_le_monthLength⟩
  have hparts : ofParts? t.seconds t.nanos = some t.toTimestamp :=
    dif_pos ⟨t.nanos_lt, t.leap_ends_minute⟩
  have hseconds := seconds_eq_civil t.toTimestamp
  unfold ofLocal
  rw [if_neg (by simp [hvalid]), ← hseconds, Int.sub_zero, hparts]
  exact dif_pos ⟨t.first_le, t.lt_last⟩

/-- The text of an instant reads as that instant. -/
theorem parse_formatExact (t : Instant) : parse t.formatExact = .ok t := by
  have hparts := t.takes_formatExact
  unfold Reader.Takes at hparts
  rw [List.append_nil] at hparts
  unfold parse
  rw [hparts]
  exact t.ofLocal_civil

end Instant

end GitHubReconciler
