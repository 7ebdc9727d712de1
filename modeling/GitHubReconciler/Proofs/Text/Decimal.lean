-- SUMMARY: Digits are no white space, and numbers written with leading zeros (`Text.padded`) read back as themselves; how long they are.
import GitHubReconciler.Text.Decimal
import Mathlib.Algebra.Group.Nat.Defs

/-!
# Padded numerals

Leading zeros do not change what a numeral denotes. A number is written with at least as many digits
as the width says, and with just as many if it has no more.
-/

namespace GitHubReconciler.Text

variable {width n : Nat}

theorem isBlank_of_isDigit {c : Char} (h : c.isDigit = true) : isBlank c = false := by
  simp only [Char.isDigit, Bool.and_eq_true, decide_eq_true_eq, ge_iff_le,
    UInt32.le_iff_toNat_le] at h
  change 48 ≤ c.toNat ∧ c.toNat ≤ 57 at h
  simp [isBlank]
  omega

theorem digitsValue_eq_ofDigitChars (cs : List Char) :
    digitsValue cs = Nat.ofDigitChars 10 cs 0 := by
  rw [Nat.ofDigitChars_eq_foldl]
  rfl

/-- A padded number reads back as itself. -/
@[simp] theorem digitsValue_padded : digitsValue (padded width n).toList = n := by
  rw [digitsValue_eq_ofDigitChars, padded, String.toList_ofList, Nat.ofDigitChars_append,
    Nat.ofDigitChars_replicate_zero, Nat.mul_zero, Nat.ofDigitChars_ten_toDigits]

theorem isDigit_of_mem_padded {c : Char} (h : c ∈ (padded width n).toList) : c.isDigit = true := by
  rw [padded, String.toList_ofList] at h
  rcases List.mem_append.mp h with hzero | hdigit
  · rw [List.eq_of_mem_replicate hzero]
    rfl
  · exact Nat.isDigit_of_mem_toDigits (by decide) (by decide) hdigit

theorem le_length_padded : width ≤ (padded width n).toList.length := by
  rw [padded, String.toList_ofList, List.length_append, List.length_replicate]
  omega

theorem length_padded (hwidth : 0 < width) (hn : n < 10 ^ width) :
    (padded width n).toList.length = width := by
  have hle : (Nat.toDigits 10 n).length ≤ width :=
    (Nat.length_toDigits_le_iff (by decide) hwidth).mpr hn
  rw [padded, String.toList_ofList, List.length_append, List.length_replicate]
  omega

end GitHubReconciler.Text
