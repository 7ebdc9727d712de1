-- SUMMARY: Standard base64 with canonical padding: `Text.Base64.encode`, the strict `Text.Base64.decode` and the texts of its faults.
import GitHubReconciler.Text.Hex

/-!
# Base64

Three bytes are written as four symbols of the standard alphabet; one or two left over are
padded to four with `=`. The decoder is strict: it takes exactly what the encoder writes.
It refuses missing or superfluous padding, and a last symbol whose unused low bits are not
zero.

A refusal names the first fault that is met when the complete groups of four before the last
group are read first and the last group is read after them. One fault comes before all that:
a single byte left over at the end that no group can begin with.
-/

namespace GitHubReconciler.Text.Base64

/-! ## Alphabet -/

/-- The byte that ends a short last group, `=`. -/
def padding : UInt8 := 61

/-- The symbol of a value below 64, as an ASCII byte. -/
def symbol (value : Nat) : UInt8 :=
  if value < 26 then UInt8.ofNat (65 + value)
  else if value < 52 then UInt8.ofNat (97 + (value - 26))
  else if value < 62 then UInt8.ofNat (48 + (value - 52))
  else if value = 62 then 43
  else 47

/-- The value of a symbol, or `none` for a byte outside the alphabet. -/
def value? (b : UInt8) : Option Nat :=
  let n := b.toNat
  if 65 ≤ n ∧ n ≤ 90 then some (n - 65)
  else if 97 ≤ n ∧ n ≤ 122 then some (n - 97 + 26)
  else if 48 ≤ n ∧ n ≤ 57 then some (n - 48 + 52)
  else if n = 43 then some 62
  else if n = 47 then some 63
  else none

theorem value?_symbol : ∀ v < 64, value? (symbol v) = some v := by decide

/-! ## Encoding -/

/-- Encode bytes as ASCII symbols. -/
def encodeBytes : Bytes → Bytes
  | [] => []
  | [a] =>
      let n := a.toNat
      [symbol (n / 4), symbol (n % 4 * 16), padding, padding]
  | [a, b] =>
      let n := 256 * a.toNat + b.toNat
      [symbol (n / 1024), symbol (n / 16 % 64), symbol (n % 16 * 4), padding]
  | a :: b :: c :: rest =>
      let n := 65536 * a.toNat + 256 * b.toNat + c.toNat
      symbol (n / 262144) :: symbol (n / 4096 % 64) :: symbol (n / 64 % 64) :: symbol (n % 64)
        :: encodeBytes rest

theorem length_encodeBytes (bytes : Bytes) :
    (encodeBytes bytes).length = (bytes.length + 2) / 3 * 4 := by
  fun_induction encodeBytes bytes with
  | case1 => rfl
  | case2 => simp
  | case3 => simp
  | case4 a b c rest n ih =>
    simp only [List.length_cons, ih]
    omega

def encode (bytes : Bytes) : String :=
  String.ofList ((encodeBytes bytes).map fun b => Char.ofNat b.toNat)

@[simp] theorem length_encode (bytes : Bytes) :
    (encode bytes).length = (bytes.length + 2) / 3 * 4 := by
  simp [encode, length_encodeBytes]

/-! ## Decoding -/

/-- Why a text is not the encoding of any bytes. Offsets count the bytes of the text. -/
inductive Fault where
  /-- A byte that may not stand where it stands. -/
  | invalidSymbol (symbol : UInt8) (offset : Nat)
  /-- The last symbol has unused bits that are not zero. -/
  | invalidLastSymbol (symbol : UInt8) (offset : Nat)
  /-- A group of a single symbol; `length` counts the symbols up to and with it. -/
  | invalidLength (length : Nat)
  /-- The last group is not padded to four. -/
  | invalidPadding
  deriving DecidableEq, Repr

def Fault.message : Fault → String
  | .invalidSymbol symbol offset => s!"Invalid symbol {symbol.toNat}, offset {offset}."
  | .invalidLastSymbol symbol offset => s!"Invalid last symbol {symbol.toNat}, offset {offset}."
  | .invalidLength length => s!"Invalid input length: {length}"
  | .invalidPadding => "Invalid padding"

/-- The value of the symbol at `offset`. -/
def valueAt (b : UInt8) (offset : Nat) : Except Fault Nat :=
  match value? b with
  | some v => .ok v
  | none => .error (.invalidSymbol b offset)

/-- Read the last group from its `k`-th byte on: the values of its symbols, and where its
    padding begins, if it has any. Padding begins no earlier than at the third byte, and only
    padding follows it. -/
def scanLast (start : Nat) : Nat → Option Nat → Bytes → Except Fault (List Nat × Nat)
  | _, _, [] => .ok ([], 0)
  | k, firstPadding, b :: rest =>
      if b = padding then
        if k < 2 then .error (.invalidSymbol padding (start + k))
        else do
          let (values, paddings) ← scanLast start (k + 1) (firstPadding.or (some k)) rest
          return (values, paddings + 1)
      else
        match firstPadding with
        | some p => .error (.invalidSymbol padding (start + p))
        | none => do
            let v ← valueAt b (start + k)
            let (values, paddings) ← scanLast start (k + 1) none rest
            return (v :: values, paddings)

/-- Read the last group, which begins at offset `start` and has one to four bytes. -/
def decodeLast (start : Nat) (group : Bytes) : Except Fault Bytes := do
  let (values, paddings) ← scanLast start 0 none group
  if values.length < 2 then .error (.invalidLength (start + values.length))
  else if (values.length + paddings) % 4 ≠ 0 then .error .invalidPadding
  else
    match values with
    | [a, b] =>
        if b % 16 ≠ 0 then .error (.invalidLastSymbol (symbol b) (start + 1))
        else return [UInt8.ofNat (a * 4 + b / 16)]
    | [a, b, c] =>
        if c % 4 ≠ 0 then .error (.invalidLastSymbol (symbol c) (start + 2))
        else return [UInt8.ofNat (a * 4 + b / 16), UInt8.ofNat (b % 16 * 16 + c / 4)]
    | [a, b, c, d] =>
        return [UInt8.ofNat (a * 4 + b / 16), UInt8.ofNat (b % 16 * 16 + c / 4),
          UInt8.ofNat (c % 4 * 64 + d)]
    | _ => .error .invalidPadding

/-- Read the groups from offset `start` on. A group that others follow has four symbols. -/
def decodeGroups (start : Nat) : Bytes → Except Fault Bytes
  | [] => .ok []
  | a :: b :: c :: d :: e :: rest => do
      let a ← valueAt a start
      let b ← valueAt b (start + 1)
      let c ← valueAt c (start + 2)
      let d ← valueAt d (start + 3)
      let bytes ← decodeGroups (start + 4) (e :: rest)
      return UInt8.ofNat (a * 4 + b / 16) :: UInt8.ofNat (b % 16 * 16 + c / 4)
        :: UInt8.ofNat (c % 4 * 64 + d) :: bytes
  | group => decodeLast start group

/-- Whether a single byte is left over at the end that cannot begin a group. -/
def strayLast? (text : Bytes) : Option UInt8 :=
  if text.length % 4 = 1 then
    text.getLast?.filter fun b => b != padding && (value? b).isNone
  else none

/-- Decode ASCII symbols. -/
def decodeBytes (text : Bytes) : Except Fault Bytes :=
  match strayLast? text with
  | some b => .error (.invalidSymbol b (text.length - 1))
  | none => decodeGroups 0 text

def decode (text : String) : Except Fault Bytes :=
  decodeBytes text.toUTF8.toList

end GitHubReconciler.Text.Base64
