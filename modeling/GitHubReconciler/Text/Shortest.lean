-- SUMMARY: The shortest decimals of binary fractions (`Text.Shortest.decimal`) and how they are written (`Text.Shortest.write`).
import GitHubReconciler.Text.Decimal

/-!
# Shortest decimals

A floating-point number of 64 bits is written with as few digits as tell it from all others. The
numbers that round to it form an interval; the ends belong to it if its mantissa is even. For
one digit, two digits and so on, the two multiples of a power of ten next to the number are tried,
and the first that lies in the interval is taken, of two the closer one.

Of the digits the point stands among or behind the first sixteen. Beyond that, and for more than
four zeros behind the point, an exponent is written, always with its sign.
-/

namespace GitHubReconciler.Text.Shortest

/-! ## Binary fractions -/

/-- The number `mantissa * 2 ^ exponent`. -/
structure Binary where
  mantissa : Nat
  exponent : Int
  /-- Whether the gap to the next smaller number is half of that to the next larger one. -/
  narrowBelow : Bool
  deriving DecidableEq, Repr

/-- The absolute value of a finite number, from its bits. -/
def Binary.ofBits (bits : UInt64) : Binary :=
  let exponent := (bits >>> 52).toNat % 2048
  let fraction := bits.toNat % Nat.pow 2 52
  if exponent = 0 then ⟨fraction, -1074, false⟩
  else ⟨Nat.pow 2 52 + fraction, (exponent : Int) - 1075, fraction == 0 && 1 < exponent⟩

/-- The number `digits * 10 ^ exponent`. -/
structure Decimal where
  digits : Nat
  exponent : Int
  deriving DecidableEq, Repr

/-- Compare `a * 10 ^ i` with `b * 2 ^ j`. -/
def compareScaled (a : Nat) (i : Int) (b : Nat) (j : Int) : Ordering :=
  compare (a * Nat.pow 10 i.toNat * Nat.pow 2 (-j).toNat)
    (b * Nat.pow 2 j.toNat * Nat.pow 10 (-i).toNat)

/-- Whether a decimal lies among the numbers that round to a binary fraction. -/
def Binary.readsBack (x : Binary) (d : Decimal) : Bool :=
  let low := if x.narrowBelow then 4 * x.mantissa - 1 else 4 * x.mantissa - 2
  let above := compareScaled d.digits d.exponent low (x.exponent - 2)
  let below := compareScaled d.digits d.exponent (4 * x.mantissa + 2) (x.exponent - 2)
  let withEnds := x.mantissa % 2 = 0
  (above = .gt || (withEnds && above = .eq)) && (below = .lt || (withEnds && below = .eq))

/-! ## Selection -/

/-- The largest multiple of `10 ^ exponent` that does not exceed a binary fraction, as a number
    of such powers. -/
def Binary.floorAt (x : Binary) (exponent : Int) : Nat :=
  x.mantissa * Nat.pow 2 x.exponent.toNat * Nat.pow 10 (-exponent).toNat
    / (Nat.pow 2 (-x.exponent).toNat * Nat.pow 10 exponent.toNat)

/-- Of two neighbouring multiples of a power of ten the one that is closer to a binary fraction,
    or the even one. -/
def Binary.closer (x : Binary) (low : Decimal) : Decimal :=
  let high := { low with digits := low.digits + 1 }
  match compareScaled (2 * low.digits + 1) low.exponent (2 * x.mantissa) x.exponent with
  | .gt => low
  | .lt => high
  | .eq => if low.digits % 2 = 0 then low else high

/-- The multiple of `10 ^ exponent` that stands for a binary fraction, if there is one. -/
def Binary.decimalAt? (x : Binary) (exponent : Int) : Option Decimal :=
  let low : Decimal := ⟨x.floorAt exponent, exponent⟩
  let high : Decimal := ⟨low.digits + 1, exponent⟩
  match x.readsBack low, x.readsBack high with
  | true, true => some (x.closer low)
  | true, false => some low
  | false, true => some high
  | false, false => none

/-- Find the least exponent from `k` on, within `fuel` steps, whose power of ten exceeds a binary
    fraction. -/
def Binary.magnitudeFrom (x : Binary) (k : Int) : Nat → Int
  | 0 => k
  | fuel + 1 =>
      if compareScaled 1 k x.mantissa x.exponent = .gt then k else x.magnitudeFrom (k + 1) fuel

/-- The least exponent whose power of ten exceeds a binary fraction. The search begins at the
    binary logarithm in terms of ten, rounded so far down that the exponent is not missed. -/
def Binary.magnitude (x : Binary) : Int :=
  x.magnitudeFrom (((x.mantissa.log2 : Int) + x.exponent) * 30102 / 100000 - 1) 4

/-- Drop zeros at the end of the digits, of which there are at most `fuel`. -/
def Decimal.strip (d : Decimal) : Nat → Decimal
  | 0 => d
  | fuel + 1 =>
      if d.digits % 10 = 0 ∧ d.digits ≠ 0 then
        (Decimal.mk (d.digits / 10) (d.exponent + 1)).strip fuel
      else d

/-- The shortest decimal that stands for a binary fraction; seventeen digits always suffice. -/
def decimal (x : Binary) : Decimal :=
  if x.mantissa = 0 then ⟨0, 0⟩
  else
    match (List.range 17).findSome? fun (n : Nat) => x.decimalAt? (x.magnitude - n - 1) with
    | some d => d.strip 17
    | none => ⟨x.floorAt (x.magnitude - 17), x.magnitude - 17⟩

/-! ## Writing -/

/-- Write a decimal with a point among its digits, or with an exponent. -/
def layout (d : Decimal) : List Char :=
  let digits := Nat.toDigits 10 d.digits
  let point : Int := digits.length + d.exponent
  if 0 ≤ d.exponent ∧ point ≤ 16 then
    digits ++ List.replicate d.exponent.toNat '0' ++ ['.', '0']
  else if 0 < point ∧ point ≤ 16 then
    digits.take point.toNat ++ ['.'] ++ digits.drop point.toNat
  else if -5 < point ∧ point ≤ 0 then
    ['0', '.'] ++ List.replicate (-point).toNat '0' ++ digits
  else
    let fraction := if digits.length = 1 then [] else '.' :: digits.drop 1
    let sign := if 0 < point then ['+'] else []
    digits.take 1 ++ fraction ++ ['e'] ++ sign ++ (toString (point - 1)).toList

/-- Write a finite number. -/
def write (x : Float) : String :=
  let sign := if x.toBits.toNat < Nat.pow 2 63 then [] else ['-']
  String.ofList (sign ++ layout (decimal (.ofBits x.toBits)))

end GitHubReconciler.Text.Shortest
