-- SUMMARY: The SHA-256 digest (`Sha256.digest`) of a string of bytes.
import GitHubReconciler.Crypto.Words

/-!
# SHA-256

The digest of FIPS 180-4. The message is padded to blocks of 64 bytes; each block is expanded
to a schedule of 64 words, which 64 rounds mix into eight words of state.
-/

namespace GitHubReconciler.Sha256

/-! ## Constants -/

/-- The first 32 bits of the fractional parts of the square roots of the first eight primes. -/
def initial : List UInt32 :=
  [0x6a09e667, 0xbb67ae85, 0x3c6ef372, 0xa54ff53a, 0x510e527f, 0x9b05688c, 0x1f83d9ab, 0x5be0cd19]

/-- The first 32 bits of the fractional parts of the cube roots of the first 64 primes. -/
def roundConstants : List UInt32 :=
  [0x428a2f98, 0x71374491, 0xb5c0fbcf, 0xe9b5dba5, 0x3956c25b, 0x59f111f1, 0x923f82a4, 0xab1c5ed5,
   0xd807aa98, 0x12835b01, 0x243185be, 0x550c7dc3, 0x72be5d74, 0x80deb1fe, 0x9bdc06a7, 0xc19bf174,
   0xe49b69c1, 0xefbe4786, 0x0fc19dc6, 0x240ca1cc, 0x2de92c6f, 0x4a7484aa, 0x5cb0a9dc, 0x76f988da,
   0x983e5152, 0xa831c66d, 0xb00327c8, 0xbf597fc7, 0xc6e00bf3, 0xd5a79147, 0x06ca6351, 0x14292967,
   0x27b70a85, 0x2e1b2138, 0x4d2c6dfc, 0x53380d13, 0x650a7354, 0x766a0abb, 0x81c2c92e, 0x92722c85,
   0xa2bfe8a1, 0xa81a664b, 0xc24b8b70, 0xc76c51a3, 0xd192e819, 0xd6990624, 0xf40e3585, 0x106aa070,
   0x19a4c116, 0x1e376c08, 0x2748774c, 0x34b0bcb5, 0x391c0cb3, 0x4ed8aa4a, 0x5b9cca4f, 0x682e6ff3,
   0x748f82ee, 0x78a5636f, 0x84c87814, 0x8cc70208, 0x90befffa, 0xa4506ceb, 0xbef9a3f7, 0xc67178f2]

/-! ## Padding -/

/-- The message, a one bit, zeros, and the length of the message in bits. -/
def pad (message : Bytes) : Bytes :=
  let zeros := (119 - message.length % 64) % 64
  message ++ [0x80] ++ List.replicate zeros 0 ++ (Bytes.ofNat 8 (8 * message.length)).reverse

/-- The words of a block, most significant byte first. -/
def blockWords (block : Bytes) : List UInt32 :=
  (Bytes.blocks 3 block).map fun b => UInt32.ofNat (Bytes.toNat b.reverse)

/-! ## Compression -/

/-- Rotate a word to the right. -/
def rotr (n x : UInt32) : UInt32 :=
  (x >>> n) ||| (x <<< (32 - n))

/-- The word that follows sixteen words of the schedule. -/
def nextWord : List UInt32 → UInt32
  | [w0, w1, _, _, _, _, _, _, _, w9, _, _, _, _, w14, _] =>
      let s0 := rotr 7 w1 ^^^ rotr 18 w1 ^^^ (w1 >>> 3)
      let s1 := rotr 17 w14 ^^^ rotr 19 w14 ^^^ (w14 >>> 10)
      w0 + s0 + w9 + s1
  | _ => 0

/-- The eight words of state during the rounds. -/
structure State where
  a : UInt32
  b : UInt32
  c : UInt32
  d : UInt32
  e : UInt32
  f : UInt32
  g : UInt32
  h : UInt32

/-- One round with its constant and its word of the schedule. -/
def State.round (s : State) (k w : UInt32) : State :=
  let sum1 := rotr 6 s.e ^^^ rotr 11 s.e ^^^ rotr 25 s.e
  let choice := (s.e &&& s.f) ^^^ ((s.e ^^^ 0xffffffff) &&& s.g)
  let t1 := s.h + sum1 + choice + k + w
  let sum0 := rotr 2 s.a ^^^ rotr 13 s.a ^^^ rotr 22 s.a
  let majority := (s.a &&& s.b) ^^^ (s.a &&& s.c) ^^^ (s.b &&& s.c)
  { a := t1 + (sum0 + majority), b := s.a, c := s.b, d := s.c
    e := s.d + t1, f := s.e, g := s.f, h := s.g }

/-- Go through the rounds; `window` holds the next sixteen words of the schedule. -/
def rounds (s : State) : List UInt32 → List UInt32 → State
  | [], _ => s
  | _, [] => s
  | k :: ks, window@(w :: rest) => rounds (s.round k w) ks (rest ++ [nextWord window])

/-- Mix a block into the digest so far. -/
def compress (digest : List UInt32) (block : Bytes) : List UInt32 :=
  match digest with
  | [a, b, c, d, e, f, g, h] =>
      let s := rounds ⟨a, b, c, d, e, f, g, h⟩ roundConstants (blockWords block)
      [a + s.a, b + s.b, c + s.c, d + s.d, e + s.e, f + s.f, g + s.g, h + s.h]
  | _ => digest

/-- The digest of a message, 32 bytes. -/
def digest (message : Bytes) : Bytes :=
  let words := (Bytes.blocks 63 (pad message)).foldl compress initial
  words.flatMap fun w => (Bytes.ofNat 4 w.toNat).reverse

end GitHubReconciler.Sha256
