-- SUMMARY: Bytes as lower-case hexadecimal digits (`Text.Hex.encode`, `Text.Hex.decode?`).
/-!
# Hexadecimal bytes

Two lower-case digits a byte, the high half first.
-/

namespace GitHubReconciler

/-- A string of bytes. -/
abbrev Bytes := List UInt8

namespace Text.Hex

/-- The digit of a number below sixteen. -/
def digit (n : Nat) : Char :=
  if n < 10 then Char.ofNat ('0'.toNat + n) else Char.ofNat ('a'.toNat + (n - 10))

/-- Write each byte as two digits. -/
def encode (bytes : Bytes) : String :=
  String.ofList (bytes.flatMap fun b => [digit (b.toNat / 16), digit (b.toNat % 16)])

/-- The number of a digit. -/
def digitValue? (c : Char) : Option Nat :=
  if '0' ≤ c ∧ c ≤ '9' then some (c.toNat - '0'.toNat)
  else if 'a' ≤ c ∧ c ≤ 'f' then some (c.toNat - 'a'.toNat + 10)
  else none

/-- Read pairs of digits; refuses an odd number of them. -/
def decodeDigits? : List Char → Option Bytes
  | [] => some []
  | [_] => none
  | high :: low :: rest => do
      let h ← digitValue? high
      let l ← digitValue? low
      let bytes ← decodeDigits? rest
      return UInt8.ofNat (16 * h + l) :: bytes

/-- Read the bytes of a text of digits. -/
def decode? (text : String) : Option Bytes :=
  decodeDigits? text.toList

end Text.Hex

end GitHubReconciler
