-- SUMMARY: Which fields a text of RFC 3339 spells (`CivilTime.Spells`): a text spells one list of fields at most, and the text that is written for fields spells them (`CivilTime.spells_format`).
import GitHubReconciler.Proofs.Text.Decimal
import GitHubReconciler.Time.Timestamp

/-!
# Spelled-out times

`Spells` says which fields of a calendar and a clock a text of RFC 3339 in UTC stands for, whoever
has written it. Every field but the year has two digits. A year has four, or a sign and at least
four, so it is not of a fixed length; but what follows it always is, so that a text stands for one
list of fields at most.
-/

namespace GitHubReconciler

/-! ## Numbers -/

namespace Text

/-- Digits stand for a number. -/
structure Denotes (digits : List Char) (n : Nat) : Prop where
  isDigit : ∀ c ∈ digits, c.isDigit = true
  value_eq : digitsValue digits = n

/-- Two digits stand for a number. -/
structure TwoDigits (digits : List Char) (n : Nat) : Prop extends Denotes digits n where
  length_eq : digits.length = 2

theorem denotes_padded {width n : Nat} : Denotes (padded width n).toList n where
  isDigit _ := isDigit_of_mem_padded
  value_eq := digitsValue_padded

theorem twoDigits_padded {n : Nat} (h : n < 100) : TwoDigits (padded 2 n).toList n where
  toDenotes := denotes_padded
  length_eq := length_padded (by decide) h

/-- Two digits can be told from the text behind them. -/
theorem TwoDigits.append_inj {ds es xs ys : List Char} {n m : Nat} (hds : TwoDigits ds n)
    (hes : TwoDigits es m) (h : ds ++ xs = es ++ ys) : n = m ∧ xs = ys := by
  obtain ⟨rfl, rfl⟩ := List.append_inj h (hds.length_eq.trans hes.length_eq.symm)
  exact ⟨hds.value_eq.symm.trans hes.value_eq, rfl⟩

end Text

/-! ## Years -/

namespace Date

/-- How years are spelled: one from 0 to 9999 by four digits, any other by its sign and at least
    four. -/
inductive SpellsYear : List Char → Int → Prop where
  | plain {digits : List Char} {n : Nat} :
      Text.Denotes digits n → digits.length = 4 → SpellsYear digits n
  | later {digits : List Char} {n : Nat} :
      Text.Denotes digits n → 4 ≤ digits.length → 9999 < n → SpellsYear ('+' :: digits) n
  | before {digits : List Char} {n : Nat} :
      Text.Denotes digits n → 4 ≤ digits.length → 0 < n → SpellsYear ('-' :: digits) (-n)

/-- The year that a text denotes. -/
def yearValue : List Char → Int
  | '-' :: digits => -(Text.digitsValue digits : Int)
  | '+' :: digits => Text.digitsValue digits
  | digits => Text.digitsValue digits

theorem yearValue_of_denotes {digits : List Char} {n : Nat} (h : Text.Denotes digits n) :
    yearValue digits = n := by
  unfold yearValue
  split
  next => exact absurd (h.isDigit '-' List.mem_cons_self) (by decide)
  next => exact absurd (h.isDigit '+' List.mem_cons_self) (by decide)
  next => exact congrArg Nat.cast h.value_eq

/-- A year can be read off the text that spells it. -/
theorem SpellsYear.yearValue_eq {text : List Char} {year : Int} (h : SpellsYear text year) :
    yearValue text = year := by
  cases h with
  | plain hdigits => exact yearValue_of_denotes hdigits
  | later hdigits => exact congrArg Nat.cast hdigits.value_eq
  | before hdigits => exact congrArg (fun n : Nat => -(n : Int)) hdigits.value_eq

theorem spellsYear_formatYear (year : Int) : SpellsYear (formatYear year).toList year := by
  unfold formatYear
  split
  next hplain =>
    obtain ⟨n, rfl⟩ := Int.eq_ofNat_of_zero_le hplain.1
    exact .plain Text.denotes_padded (Text.length_padded (by decide) (by omega))
  next hother =>
    split
    next hlater =>
      obtain ⟨n, rfl⟩ := Int.eq_ofNat_of_zero_le hlater
      rw [String.toList_append]
      exact .later Text.denotes_padded Text.le_length_padded (by omega)
    next hbefore =>
      obtain ⟨n, rfl⟩ := Int.exists_eq_neg_ofNat (a := year) (by omega)
      rw [String.toList_append, Int.natAbs_neg, Int.natAbs_natCast]
      exact .before Text.denotes_padded Text.le_length_padded (by omega)

end Date

/-! ## Fields -/

namespace CivilTime

variable {c d : CivilTime} {text : String}

/-- A text spells the fields of a calendar and a clock in UTC. -/
inductive Spells (text : String) (c : CivilTime) : Prop where
  | intro {year month day hour minute second : List Char} :
      text.toList = year ++ ['-'] ++ month ++ ['-'] ++ day ++ ['T'] ++ hour ++ [':'] ++ minute ++
        [':'] ++ second ++ ['Z'] →
      Date.SpellsYear year c.date.year →
      Text.TwoDigits month c.date.month →
      Text.TwoDigits day c.date.day →
      Text.TwoDigits hour c.hour →
      Text.TwoDigits minute c.minute →
      Text.TwoDigits second c.second →
      Spells text c

/-- A text spells one list of fields at most. -/
theorem Spells.unique (hc : Spells text c) (hd : Spells text d) : c = d := by
  obtain ⟨htext, hyear, hmonth, hday, hhour, hminute, hsecond⟩ := hc
  obtain ⟨htext', hyear', hmonth', hday', hhour', hminute', hsecond'⟩ := hd
  have hsame := htext.symm.trans htext'
  simp only [List.append_assoc, List.cons_append, List.nil_append] at hsame
  obtain ⟨rfl, hrest⟩ := List.append_inj' hsame (by
    simp [hmonth.length_eq, hmonth'.length_eq, hday.length_eq, hday'.length_eq, hhour.length_eq,
      hhour'.length_eq, hminute.length_eq, hminute'.length_eq, hsecond.length_eq,
      hsecond'.length_eq])
  clear htext htext' hsame
  obtain ⟨hmonth, hrest⟩ := hmonth.append_inj hmonth' (List.cons.inj hrest).2
  obtain ⟨hday, hrest⟩ := hday.append_inj hday' (List.cons.inj hrest).2
  obtain ⟨hhour, hrest⟩ := hhour.append_inj hhour' (List.cons.inj hrest).2
  obtain ⟨hminute, hrest⟩ := hminute.append_inj hminute' (List.cons.inj hrest).2
  obtain ⟨hsecond, -⟩ := hsecond.append_inj hsecond' (List.cons.inj hrest).2
  have hyear : c.date.year = d.date.year := hyear.yearValue_eq.symm.trans hyear'.yearValue_eq
  obtain ⟨⟨_, _, _⟩, _, _, _⟩ := c
  obtain ⟨⟨_, _, _⟩, _, _, _⟩ := d
  simp_all

/-- The fields that have bounds are in them. -/
structure InBounds (c : CivilTime) : Prop where
  month : c.date.month ≤ 12
  day : c.date.day ≤ 31
  hour : c.hour < 24
  minute : c.minute < 60
  second : c.second ≤ 60

/-- What is written for fields in bounds spells them. -/
theorem spells_format (h : c.InBounds) : Spells c.format c :=
  .intro (by simp [format, formatFields]) (Date.spellsYear_formatYear _)
    (Text.twoDigits_padded (Nat.lt_of_le_of_lt h.month (by decide)))
    (Text.twoDigits_padded (Nat.lt_of_le_of_lt h.day (by decide)))
    (Text.twoDigits_padded (Nat.lt_trans h.hour (by decide)))
    (Text.twoDigits_padded (Nat.lt_trans h.minute (by decide)))
    (Text.twoDigits_padded (Nat.lt_of_le_of_lt h.second (by decide)))

/-- Fields in bounds can be read off the text. -/
theorem format_inj (hc : c.InBounds) (hd : d.InBounds) : c.format = d.format ↔ c = d := by
  constructor
  · intro h
    have hspells := spells_format hc
    rw [h] at hspells
    exact hspells.unique (spells_format hd)
  · rintro rfl
    rfl

end CivilTime

end GitHubReconciler
