-- SUMMARY: Arithmetic on machine words that stops at the greatest word (`addSat`, `mulSat`, `succSat`).
/-!
# Saturating arithmetic

Sums and products that do not fit are the greatest word.
-/

namespace GitHubReconciler

/-- The sum, or the greatest word. -/
def addSat (a b : UInt64) : UInt64 :=
  UInt64.ofNat (min (a.toNat + b.toNat) (UInt64.size - 1))

/-- The product, or the greatest word. -/
def mulSat (a b : UInt64) : UInt64 :=
  UInt64.ofNat (min (a.toNat * b.toNat) (UInt64.size - 1))

/-- The next number, or the greatest word. -/
def succSat (n : UInt32) : UInt32 :=
  UInt32.ofNat (min (n.toNat + 1) (UInt32.size - 1))

theorem toNat_addSat (a b : UInt64) :
    (addSat a b).toNat = min (a.toNat + b.toNat) (UInt64.size - 1) :=
  UInt64.toNat_ofNat_of_lt' (Nat.lt_of_le_of_lt (Nat.min_le_right _ _) (by decide))

theorem toNat_mulSat (a b : UInt64) :
    (mulSat a b).toNat = min (a.toNat * b.toNat) (UInt64.size - 1) :=
  UInt64.toNat_ofNat_of_lt' (Nat.lt_of_le_of_lt (Nat.min_le_right _ _) (by decide))

theorem toNat_succSat (n : UInt32) :
    (succSat n).toNat = min (n.toNat + 1) (UInt32.size - 1) :=
  UInt32.toNat_ofNat_of_lt' (Nat.lt_of_le_of_lt (Nat.min_le_right _ _) (by decide))

end GitHubReconciler
