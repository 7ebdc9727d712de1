-- SUMMARY: Which texts are read as unsigned numbers (`Text.unsigned?_eq_some_iff`): a numeral of any length (`Numeral`), with or without a plus sign, once the white space around it is gone (`Stripped`), as long as the number fits into 64 bits.
import GitHubReconciler.Proofs.Text.Decimal
import Mathlib.Data.List.DropRight

/-!
# Unsigned numbers

`Numeral` says what a row of digits denotes, digit by digit from the front, so a numeral may be of
any length and leading zeros count for nothing. `Stripped` says what is left of a text without the
white space around it, in whichever order its two ends lose theirs. A text is read as the number
that what is left of it denotes; a number that does not fit is not cut down, but refused.
-/

namespace GitHubReconciler.Text

/-! ## Numerals -/

/-- What a numeral denotes: a single digit itself, and a digit behind a numeral its own value and
    ten times that of the numeral. -/
inductive Numeral : List Char → Nat → Prop where
  | digit {d : Nat} : d < 10 → Numeral [d.digitChar] d
  | snoc {cs : List Char} {n d : Nat} :
      Numeral cs n → d < 10 → Numeral (cs ++ [d.digitChar]) (10 * n + d)

variable {cs core : List Char} {n : Nat}

theorem digitsValue_concat {d : Nat} (hd : d < 10) :
    digitsValue (cs ++ [d.digitChar]) = 10 * digitsValue cs + d := by
  have hdigit : d.digitChar.toNat - '0'.toNat = d := Nat.toNat_digitChar_sub_48_of_lt_ten hd
  rw [digitsValue, List.foldl_append, List.foldl_cons, List.foldl_nil, hdigit, digitsValue]

@[simp] theorem digitsValue_nil : digitsValue [] = 0 := rfl

/-- The digits are ten characters in a row. -/
theorem isDigit_iff {c : Char} : c.isDigit = true ↔ ∃ d < 10, c = Nat.digitChar d := by
  constructor
  · intro h
    simp only [Char.isDigit, Bool.and_eq_true, decide_eq_true_eq, ge_iff_le,
      UInt32.le_iff_toNat_le] at h
    have hbounds : 48 ≤ c.toNat ∧ c.toNat ≤ 57 := h
    refine ⟨c.toNat - 48, by omega, Char.toNat_inj.mp ?_⟩
    rw [Nat.toNat_digitChar_of_lt_ten (by omega)]
    omega
  · rintro ⟨d, hd, rfl⟩
    rw [Nat.isDigit_digitChar, decide_eq_true_eq]
    exact hd

theorem Numeral.ne_nil (h : Numeral cs n) : cs ≠ [] := by
  cases h <;> simp

theorem Numeral.isDigit (h : Numeral cs n) : ∀ c ∈ cs, c.isDigit = true := by
  induction h with
  | digit hd =>
    intro c hc
    rw [List.mem_singleton] at hc
    exact isDigit_iff.mpr ⟨_, hd, hc⟩
  | snoc _ hd ih =>
    intro c hc
    rcases List.mem_append.mp hc with hbefore | hlast
    · exact ih c hbefore
    · rw [List.mem_singleton] at hlast
      exact isDigit_iff.mpr ⟨_, hd, hlast⟩

theorem Numeral.value_eq (h : Numeral cs n) : digitsValue cs = n := by
  induction h with
  | @digit d hd => simpa using @digitsValue_concat [] d hd
  | snoc _ hd ih => rw [digitsValue_concat hd, ih]

/-- Every row of digits is a numeral. -/
theorem numeral_digitsValue (hne : cs ≠ []) (hdigits : ∀ c ∈ cs, c.isDigit = true) :
    Numeral cs (digitsValue cs) := by
  -- From the back, since that is where a numeral takes its next digit.
  induction cs using List.reverseRecOn with
  | nil => exact absurd rfl hne
  | append_singleton cs c ih =>
    obtain ⟨d, hd, rfl⟩ := isDigit_iff.mp (hdigits c (by simp))
    rw [digitsValue_concat hd]
    by_cases hfirst : cs = []
    · subst hfirst
      simpa using Numeral.digit hd
    · exact (ih hfirst fun c hc => hdigits c (List.mem_append_left _ hc)).snoc hd

/-- A row of characters is read as the number that it is a numeral of. -/
theorem natural?_eq_some_iff : natural? cs = some n ↔ Numeral cs n := by
  constructor
  · intro h
    rw [natural?, Option.ite_none_right_eq_some, Option.some_inj, List.all_eq_true] at h
    obtain ⟨⟨hne, hdigits⟩, rfl⟩ := h
    exact numeral_digitsValue hne hdigits
  · intro h
    rw [natural?, if_pos ⟨h.ne_nil, List.all_eq_true.mpr h.isDigit⟩, h.value_eq]

/-! ## White space -/

/-- A text is `core` with white space around it, and `core` neither begins nor ends with any. -/
structure Stripped (cs core : List Char) : Prop where
  surrounded : ∃ before after, cs = before ++ core ++ after ∧
    (∀ c ∈ before, isBlank c = true) ∧ ∀ c ∈ after, isBlank c = true
  first : ∀ h : core ≠ [], isBlank (core.head h) = false
  last : ∀ h : core ≠ [], isBlank (core.getLast h) = false

theorem rdropWhile_append {after : List Char} (h : ∀ c ∈ after, isBlank c = true) :
    (cs ++ after).rdropWhile isBlank = cs.rdropWhile isBlank := by
  rw [List.rdropWhile, List.reverse_append, List.dropWhile_append_of_pos, List.rdropWhile]
  intro c hc
  exact h c (List.mem_reverse.mp hc)

theorem trim_eq_rdropWhile (cs : List Char) :
    trim cs = (cs.dropWhile isBlank).rdropWhile isBlank := rfl

theorem stripped_trim (cs : List Char) : Stripped cs (trim cs) where
  surrounded := by
    refine ⟨cs.takeWhile isBlank, (cs.dropWhile isBlank).rtakeWhile isBlank, ?_,
      fun _ => List.mem_takeWhile_imp, fun _ => List.mem_rtakeWhile_imp⟩
    rw [trim_eq_rdropWhile, List.append_assoc, List.rdropWhile_append_rtakeWhile,
      List.takeWhile_append_dropWhile]
  first h := by
    have hfront := List.rdropWhile_prefix isBlank (cs.dropWhile isBlank)
    rw [← trim_eq_rdropWhile] at hfront
    rw [hfront.head h]
    exact List.head_dropWhile_not _ _
  last h := Bool.eq_false_iff.mpr (List.rdropWhile_last_not _ _ h)

theorem Stripped.trim_eq (h : Stripped cs core) : trim cs = core := by
  obtain ⟨before, after, rfl, hbefore, hafter⟩ := h.surrounded
  rw [trim_eq_rdropWhile, List.append_assoc, List.dropWhile_append_of_pos hbefore]
  cases core with
  | nil =>
    rw [List.nil_append, List.dropWhile_eq_nil_iff.mpr hafter, List.rdropWhile_nil]
  | cons c rest =>
    have hfirst : isBlank c = false := h.first (List.cons_ne_nil c rest)
    have hlast : (c :: rest).rdropWhile isBlank = c :: rest :=
      List.rdropWhile_eq_self_iff.mpr fun hne => Bool.eq_false_iff.mp (h.last hne)
    rw [List.cons_append, List.dropWhile_cons_of_neg (by rw [hfirst]; decide), ← List.cons_append,
      rdropWhile_append hafter, hlast]

/-- What trimming leaves is all that a text can be without the white space around it. -/
theorem trim_eq_iff : trim cs = core ↔ Stripped cs core := by
  constructor
  · rintro rfl
    exact stripped_trim cs
  · exact Stripped.trim_eq

/-! ## Unsigned numbers -/

/-- A text spells a number: without the white space around it, it is a numeral, or one with a plus
    sign before it. -/
inductive SpellsNumber (text : String) (n : Nat) : Prop where
  | plain {digits : List Char} :
      Stripped text.toList digits → Numeral digits n → SpellsNumber text n
  | plus {digits : List Char} :
      Stripped text.toList ('+' :: digits) → Numeral digits n → SpellsNumber text n

variable {text : String} {v : UInt64}

/-- One plus sign is dropped, and none is read as a digit. -/
theorem natural?_dropPlus_eq_some_iff :
    natural? (dropPlus cs) = some n ↔
      Numeral cs n ∨ ∃ digits, cs = '+' :: digits ∧ Numeral digits n := by
  unfold dropPlus
  split
  next digits =>
    have hplus : ¬ Numeral ('+' :: digits) n := fun h =>
      absurd (h.isDigit '+' List.mem_cons_self) (by decide)
    rw [natural?_eq_some_iff]
    simp [hplus]
  next hnoplus =>
    rw [natural?_eq_some_iff, or_iff_left]
    rintro ⟨digits, rfl, -⟩
    exact hnoplus digits rfl

theorem natural?_trim_eq_some_iff :
    natural? (dropPlus (trim text.toList)) = some n ↔ SpellsNumber text n := by
  rw [natural?_dropPlus_eq_some_iff]
  constructor
  · rintro (hplain | ⟨digits, hplus, hdigits⟩)
    · exact .plain (stripped_trim _) hplain
    · exact .plus (trim_eq_iff.mp hplus) hdigits
  · rintro (⟨hplain, hdigits⟩ | ⟨hplus, hdigits⟩)
    · exact .inl (hplain.trim_eq.symm ▸ hdigits)
    · exact .inr ⟨_, hplus.trim_eq, hdigits⟩

/-- A text is read as the number that it spells, and refused if it spells none of 64 bits. -/
theorem unsigned?_eq_some_iff : unsigned? text = some v ↔ SpellsNumber text v.toNat := by
  rw [← natural?_trim_eq_some_iff, unsigned?]
  split
  next n hread =>
    rw [hread, Option.ite_none_right_eq_some, Option.some_inj, Option.some_inj]
    constructor
    · rintro ⟨hfits, rfl⟩
      exact (UInt64.toNat_ofNat_of_lt' hfits).symm
    · rintro rfl
      exact ⟨v.toNat_lt_size, UInt64.ofNat_toNat⟩
  next hread =>
    rw [hread]
    simp

/-- A text spells one number at most. -/
theorem SpellsNumber.unique {m : Nat} (hm : SpellsNumber text m) (hn : SpellsNumber text n) :
    m = n :=
  Option.some_inj.mp
    ((natural?_trim_eq_some_iff.mpr hm).symm.trans (natural?_trim_eq_some_iff.mpr hn))

/-- Digits, the plus sign and white space are all that a text has that spells a number. -/
theorem SpellsNumber.mem (h : SpellsNumber text n) {c : Char} (hc : c ∈ text.toList) :
    isBlank c = true ∨ c = '+' ∨ c.isDigit = true := by
  have hcore {core : List Char} (hstripped : Stripped text.toList core) :
      isBlank c = true ∨ c ∈ core := by
    obtain ⟨before, after, htext, hbefore, hafter⟩ := hstripped.surrounded
    rw [htext, List.mem_append, List.mem_append] at hc
    rcases hc with (hc | hc) | hc
    · exact .inl (hbefore c hc)
    · exact .inr hc
    · exact .inl (hafter c hc)
  cases h with
  | plain hstripped hdigits => exact (hcore hstripped).imp_right fun h => .inr (hdigits.isDigit c h)
  | plus hstripped hdigits =>
    exact (hcore hstripped).imp_right fun h =>
      (List.mem_cons.mp h).imp_right (hdigits.isDigit c)

end GitHubReconciler.Text
