-- SUMMARY: The BLAKE2b digest (`Blake2b.digest`), of any length up to 64 bytes and without a key.
import GitHubReconciler.Crypto.Words

/-!
# BLAKE2b

The digest of RFC 7693 without a key. A block of 128 bytes is mixed into eight words of state
by twelve rounds of eight quarter rounds.
-/

namespace GitHubReconciler.Blake2b

/-- The first 64 bits of the fractional parts of the square roots of the first eight primes. -/
def initial : List UInt64 :=
  [0x6a09e667f3bcc908, 0xbb67ae8584caa73b, 0x3c6ef372fe94f82b, 0xa54ff53a5f1d36f1,
   0x510e527fade682d1, 0x9b05688c2b3e6c1f, 0x1f83d9abfb41bd6b, 0x5be0cd19137e2179]

/-- Which words of the message each round takes. -/
def schedule : List (List Nat) :=
  [[0, 1, 2, 3, 4, 5, 6, 7, 8, 9, 10, 11, 12, 13, 14, 15],
   [14, 10, 4, 8, 9, 15, 13, 6, 1, 12, 0, 2, 11, 7, 5, 3],
   [11, 8, 12, 0, 5, 2, 15, 13, 10, 14, 3, 6, 7, 1, 9, 4],
   [7, 9, 3, 1, 13, 12, 11, 14, 2, 6, 5, 10, 4, 0, 15, 8],
   [9, 0, 5, 7, 2, 4, 10, 15, 14, 1, 11, 12, 6, 8, 3, 13],
   [2, 12, 6, 10, 0, 11, 8, 3, 4, 13, 7, 5, 15, 14, 1, 9],
   [12, 5, 1, 15, 14, 13, 4, 10, 0, 7, 6, 3, 9, 2, 8, 11],
   [13, 11, 7, 14, 12, 1, 3, 9, 5, 0, 15, 4, 8, 6, 2, 10],
   [6, 15, 14, 9, 11, 3, 0, 8, 12, 2, 13, 7, 1, 4, 10, 5],
   [10, 2, 8, 4, 7, 6, 1, 5, 15, 11, 9, 14, 3, 12, 13, 0],
   [0, 1, 2, 3, 4, 5, 6, 7, 8, 9, 10, 11, 12, 13, 14, 15],
   [14, 10, 4, 8, 9, 15, 13, 6, 1, 12, 0, 2, 11, 7, 5, 3]]

/-- The places of the state that the eight quarter rounds of a round mix. -/
def lanes : List (Nat × Nat × Nat × Nat) :=
  [(0, 4, 8, 12), (1, 5, 9, 13), (2, 6, 10, 14), (3, 7, 11, 15),
   (0, 5, 10, 15), (1, 6, 11, 12), (2, 7, 8, 13), (3, 4, 9, 14)]

/-- Rotate a word to the right. -/
def rotr (n x : UInt64) : UInt64 :=
  (x >>> n) ||| (x <<< (64 - n))

/-- Mix two words of the message into four places of the state. -/
def quarterRound (v : Array UInt64) (lane : Nat × Nat × Nat × Nat) (x y : UInt64) :
    Array UInt64 :=
  let (i, j, k, l) := lane
  let a := v.getD i 0
  let b := v.getD j 0
  let c := v.getD k 0
  let d := v.getD l 0
  let a := a + b + x
  let d := rotr 32 (d ^^^ a)
  let c := c + d
  let b := rotr 24 (b ^^^ c)
  let a := a + b + y
  let d := rotr 16 (d ^^^ a)
  let c := c + d
  let b := rotr 63 (b ^^^ c)
  (((v.setIfInBounds i a).setIfInBounds j b).setIfInBounds k c).setIfInBounds l d

/-- One round: each quarter round takes two words of the message. -/
def round (message : Array UInt64) (v : Array UInt64) :
    List (Nat × Nat × Nat × Nat) → List Nat → Array UInt64
  | lane :: lanes, x :: y :: picks =>
      round message (quarterRound v lane (message.getD x 0) (message.getD y 0)) lanes picks
  | _, _ => v

/-- Mix a block into the state. `counted` is the number of bytes up to and with the block. -/
def compress (h : List UInt64) (block : Bytes) (counted : Nat) (last : Bool) : List UInt64 :=
  let message := (Bytes.words64 (block ++ List.replicate (128 - block.length) 0)).toArray
  let v := (h ++ initial).toArray
  let v := v.modify 12 (· ^^^ UInt64.ofNat counted)
  let v := if last then v.modify 14 (· ^^^ 0xffffffffffffffff) else v
  let v := schedule.foldl (fun v picks => round message v lanes picks) v
  h.mapIdx fun i x => x ^^^ v.getD i 0 ^^^ v.getD (i + 8) 0

/-- Mix blocks into the state; `counted` counts the bytes before them. -/
def compressAll (h : List UInt64) (counted : Nat) : List Bytes → List UInt64
  | [] => h
  | [block] => compress h block (counted + block.length) true
  | block :: rest =>
      compressAll (compress h block (counted + block.length) false) (counted + block.length) rest

def digest (size : Nat) (message : Bytes) : Bytes :=
  let parameters : UInt64 := 0x01010000 ^^^ UInt64.ofNat size
  let h := initial.modifyHead (· ^^^ parameters)
  let blocks := if message.isEmpty then [[]] else Bytes.blocks 127 message
  (Bytes.ofWords64 (compressAll h 0 blocks)).take size

end GitHubReconciler.Blake2b
