-- SUMMARY: Classes of characters given by ranges of their codes (`Text.Ranges`).
/-!
# Ranges of characters

A class of characters that no simple rule describes is a table of ranges in ascending order.
-/

namespace GitHubReconciler.Text

/-- Ranges of character codes, each given by its first and its last code. -/
abbrev Ranges := List (Nat × Nat)

/-- Whether a character is in one of the ranges. -/
def Ranges.contains (ranges : Ranges) (c : Char) : Bool :=
  ranges.any fun r => r.1 ≤ c.toNat && c.toNat ≤ r.2

end GitHubReconciler.Text
