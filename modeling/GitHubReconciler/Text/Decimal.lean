-- SUMMARY: Decimal numerals: reading unsigned numbers (`Text.natural?`, `Text.unsigned?`) and writing them with leading zeros (`Text.padded`).
import GitHubReconciler.Text.Blank

/-!
# Decimal numerals

A numeral is one or more ASCII digits. An unsigned setting allows a plus sign before it and
white space around it, and must stay below `2 ^ 64`.
-/

namespace GitHubReconciler.Text

/-- The number that a list of digits denotes, most significant digit first. -/
def digitsValue (cs : List Char) : Nat :=
  cs.foldl (fun n c => 10 * n + (c.toNat - '0'.toNat)) 0

/-- Read one or more ASCII digits. -/
def natural? (cs : List Char) : Option Nat :=
  if cs ≠ [] ∧ cs.all Char.isDigit then some (digitsValue cs) else none

/-- Drop one leading plus sign. -/
def dropPlus : List Char → List Char
  | '+' :: cs => cs
  | cs => cs

/-- Read a 64-bit unsigned number with white space around it and at most one plus sign. -/
def unsigned? (text : String) : Option UInt64 :=
  match natural? (dropPlus (trim text.toList)) with
  | some n => if n < UInt64.size then some (UInt64.ofNat n) else none
  | none => none

/-- Write `n` with at least `width` digits. -/
def padded (width n : Nat) : String :=
  let digits := Nat.toDigits 10 n
  String.ofList (List.replicate (width - digits.length) '0' ++ digits)

end GitHubReconciler.Text
