-- SUMMARY: Numbers as they are written in JSON text (`Json.Numeral`) and what they denote.
import GitHubReconciler.Json.Fault
import GitHubReconciler.Json.Value
import GitHubReconciler.Text.Decimal
import GitHubReconciler.Text.Shortest

/-!
# Numerals

A number is written with digits before the point, and maybe digits behind it and an exponent. It is
an integer if it has neither and fits in 64 bits; all other numbers are floating-point numbers, the
negative zero among them.

The floating-point value is that of the leading digits, as many of them as fit in 64 bits, scaled
by a power of ten. A number beyond all floating-point numbers has no value, and one too small for
them is zero.
-/

namespace GitHubReconciler.Json

/-- A number as it is written. -/
structure Numeral where
  negative : Bool
  whole : List Char
  /-- The digits behind the point. -/
  fraction : Option (List Char) := none
  /-- Whether the exponent is negative, and its digits. -/
  exponent : Option (Bool × List Char) := none
  deriving DecidableEq, Repr

namespace Numeral

/-! ## Integers -/

/-- Whether the number is written like an integer; a negative zero is not. -/
def isWhole (n : Numeral) : Bool :=
  n.fraction.isNone && n.exponent.isNone && !(n.negative && n.whole == ['0'])

/-- The integer before the point. -/
def wholePart (n : Numeral) : Int :=
  if n.negative then -(Text.digitsValue n.whole : Int) else Text.digitsValue n.whole

/-- The integer that the number is, if it is one and fits in 64 bits. -/
def integer? (n : Numeral) : Option Int :=
  if n.isWhole ∧ Int64.minValue.toInt ≤ n.wholePart ∧ n.wholePart < UInt64.size then
    some n.wholePart
  else none

/-! ## Floating-point values -/

/-- Take digits into a number as long as it fits in 64 bits. Gives the digits left over too. -/
def significand (start : Nat) : List Char → Nat × List Char
  | [] => (start, [])
  | d :: rest =>
      let next := 10 * start + (d.toNat - '0'.toNat)
      if next < UInt64.size then significand next rest else (start, d :: rest)

/-- Scale a number by a power of ten; none if the result is too large. Dividing three times by the
    largest power leaves zero of every number that fits in 64 bits. -/
def scale (x : Float) (exponent : Int) : Nat → Option Float
  | 0 => some x
  | fuel + 1 =>
      if exponent.natAbs ≤ 308 then
        let power := Float.ofScientific 1 false exponent.natAbs
        let y := if 0 ≤ exponent then x * power else x / power
        if y.isInf then none else some y
      else if x == 0 then some x
      else if 0 ≤ exponent then none
      else scale (x / Float.ofScientific 1 false 308) (exponent + 308) fuel

/-- The largest exponent that is read. -/
def largestExponent : Nat := Nat.pow 2 31 - 1

/-- The first digits of an exponent up to the one that makes it too large to be read, if one
    does. -/
def excess? (digits : List Char) : Option Nat :=
  (List.range (digits.length + 1)).find? fun n =>
    largestExponent < Text.digitsValue (digits.take n)

/-- The number before and behind the point, without the exponent, as digits and a power of
    ten. -/
def scaledDigits (n : Numeral) : Nat × Int :=
  let (whole, dropped) := significand 0 n.whole
  let (digits, ignored) := significand whole (n.fraction.getD [])
  (digits, (dropped.length : Int) - ((n.fraction.getD []).length - ignored.length : Nat))

/-- The absolute value; none if it is too large. -/
def magnitude? (n : Numeral) : Option Float :=
  let (digits, places) := n.scaledDigits
  let x := (UInt64.ofNat digits).toFloat
  match n.exponent with
  | none => scale x places 4
  | some (negative, expo) =>
      match excess? expo with
      | some _ => if digits = 0 ∨ negative then some 0 else none
      | none =>
          let value : Int := Text.digitsValue expo
          scale x (if negative then places - value else places + value) 4

/-- The number with its sign, shown in the shortest way; none if it is too large. -/
def shown? (n : Numeral) : Option String :=
  n.magnitude?.map fun x => Text.Shortest.write (if n.negative then -x else x)

/-! ## Values -/

/-- The number as it is written, without needless signs. -/
def literal (n : Numeral) : String :=
  let sign := if n.negative then ['-'] else []
  let fraction := match n.fraction with
    | some digits => '.' :: digits
    | none => []
  let exponent := match n.exponent with
    | some (true, digits) => 'e' :: '-' :: digits
    | some (false, digits) => 'e' :: digits
    | none => []
  String.ofList (sign ++ n.whole ++ fraction ++ exponent)

/-- The number as a document. -/
def json (n : Numeral) : Json :=
  match n.integer? with
  | some value => .int value
  | none => .real (n.shown?.getD n.literal)

/-- How the number is called where something else is expected. -/
def found (n : Numeral) : Found :=
  match n.integer? with
  | some value => .integer value
  | none => .real (n.shown?.getD n.literal)

end Numeral

end GitHubReconciler.Json
