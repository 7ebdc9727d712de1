-- SUMMARY: Bytes as little-endian numbers and words (`Bytes.toNat`, `Bytes.ofNat`, `Bytes.words32`) and cutting bytes into blocks (`Bytes.blocks`).
import GitHubReconciler.Text.Hex

/-!
# Bytes, numbers and words

A string of bytes denotes a number, its first byte being the least significant one. Words are
numbers of four or eight bytes.
-/

namespace GitHubReconciler.Bytes

/-- The number that bytes denote, least significant byte first. -/
def toNat : Bytes → Nat
  | [] => 0
  | b :: rest => b.toNat + 256 * toNat rest

/-- The `size` least significant bytes of a number. -/
def ofNat : Nat → Nat → Bytes
  | 0, _ => []
  | size + 1, n => UInt8.ofNat (n % 256) :: ofNat size (n / 256)

@[simp] theorem length_ofNat (size n : Nat) : (ofNat size n).length = size := by
  induction size generalizing n with
  | zero => rfl
  | succ size ih => simp [ofNat, ih]

/-- Bytes cut into blocks of `size + 1`; the last block may be shorter. -/
def blocks (size : Nat) (bytes : Bytes) : List Bytes :=
  match bytes with
  | [] => []
  | b :: rest => (b :: rest.take size) :: blocks size (rest.drop size)
termination_by bytes.length
decreasing_by rw [List.length_drop, List.length_cons]; omega

/-- The 32-bit words that bytes denote. -/
def words32 (bytes : Bytes) : List UInt32 :=
  (blocks 3 bytes).map fun b => UInt32.ofNat (toNat b)

/-- The 64-bit words that bytes denote. -/
def words64 (bytes : Bytes) : List UInt64 :=
  (blocks 7 bytes).map fun b => UInt64.ofNat (toNat b)

/-- The bytes of 32-bit words. -/
def ofWords32 (words : List UInt32) : Bytes :=
  words.flatMap fun w => ofNat 4 w.toNat

@[simp] theorem length_ofWords32 (words : List UInt32) :
    (ofWords32 words).length = 4 * words.length := by
  induction words with
  | nil => rfl
  | cons w rest ih =>
    simp only [ofWords32, List.flatMap_cons, List.length_append, length_ofNat, List.length_cons]
      at ih ⊢
    omega

/-- The bytes of 64-bit words. -/
def ofWords64 (words : List UInt64) : Bytes :=
  words.flatMap fun w => ofNat 8 w.toNat

/-- Combine two strings of bytes by exclusive or, up to the end of the shorter one. -/
def xor (a b : Bytes) : Bytes :=
  List.zipWith (· ^^^ ·) a b

end GitHubReconciler.Bytes
