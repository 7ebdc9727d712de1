-- SUMMARY: The Salsa20 core, HSalsa20 and the keystream of XSalsa20 (`Salsa20.extended`).
import GitHubReconciler.Crypto.Words

/-!
# Salsa20

The core mixes a block of sixteen words by ten double rounds of quarter rounds, first along the
columns and then along the rows. A keystream block is the core's result added to its input.
XSalsa20 takes 24 bytes of nonce: the first sixteen derive a key, the last eight remain.
-/

namespace GitHubReconciler.Salsa20

/-- The words of the text that every block holds on its diagonal. -/
def diagonal : List UInt32 :=
  [0x61707865, 0x3320646e, 0x79622d32, 0x6b206574]

/-- Rotate a word to the left. -/
def rotl (n x : UInt32) : UInt32 :=
  (x <<< n) ||| (x >>> (32 - n))

/-- The places that the quarter rounds of a double round mix. -/
def lanes : List (Nat × Nat × Nat × Nat) :=
  [(0, 4, 8, 12), (5, 9, 13, 1), (10, 14, 2, 6), (15, 3, 7, 11),
   (0, 1, 2, 3), (5, 6, 7, 4), (10, 11, 8, 9), (15, 12, 13, 14)]

/-- Mix four places of a block. -/
def quarterRound (x : Array UInt32) (lane : Nat × Nat × Nat × Nat) : Array UInt32 :=
  let (i, j, k, l) := lane
  let a := x.getD i 0
  let b := x.getD j 0
  let c := x.getD k 0
  let d := x.getD l 0
  let b := b ^^^ rotl 7 (a + d)
  let c := c ^^^ rotl 9 (b + a)
  let d := d ^^^ rotl 13 (c + b)
  let a := a ^^^ rotl 18 (d + c)
  (((x.setIfInBounds i a).setIfInBounds j b).setIfInBounds k c).setIfInBounds l d

@[simp] theorem size_quarterRound (x : Array UInt32) (lane : Nat × Nat × Nat × Nat) :
    (quarterRound x lane).size = x.size := by
  simp [quarterRound]

/-- Twenty rounds, as ten double rounds. -/
def mix (block : Array UInt32) : Array UInt32 :=
  (List.replicate 10 lanes).foldl (fun x lanes => lanes.foldl quarterRound x) block

@[simp] theorem size_mix (block : Array UInt32) : (mix block).size = block.size := by
  have hround (lanes : List (Nat × Nat × Nat × Nat)) (x : Array UInt32) :
      (lanes.foldl quarterRound x).size = x.size := by
    induction lanes generalizing x with
    | nil => rfl
    | cons lane rest ih => rw [List.foldl_cons, ih, size_quarterRound]
  have hrounds (n : Nat) (x : Array UInt32) :
      ((List.replicate n lanes).foldl (fun x lanes => lanes.foldl quarterRound x) x).size =
        x.size := by
    induction n generalizing x with
    | zero => rfl
    | succ n ih => rw [List.replicate_succ, List.foldl_cons, ih, hround]
  exact hrounds 10 block

/-- The block of a key of eight words and an input of four. -/
def block (key input : List UInt32) : Array UInt32 :=
  let k := key.toArray
  let n := input.toArray
  let s := diagonal.toArray
  [s.getD 0 0, k.getD 0 0, k.getD 1 0, k.getD 2 0,
   k.getD 3 0, s.getD 1 0, n.getD 0 0, n.getD 1 0,
   n.getD 2 0, n.getD 3 0, s.getD 2 0, k.getD 4 0,
   k.getD 5 0, k.getD 6 0, k.getD 7 0, s.getD 3 0].toArray

/-- The 64 bytes of keystream of a key, a nonce of eight bytes and a block number. -/
def keystreamBlock (key nonce : Bytes) (number : Nat) : Bytes :=
  let x := block (Bytes.words32 key) (Bytes.words32 (nonce ++ Bytes.ofNat 8 number))
  Bytes.ofWords32 (List.zipWith (· + ·) x.toList (mix x).toList)

@[simp] theorem length_keystreamBlock (key nonce : Bytes) (number : Nat) :
    (keystreamBlock key nonce number).length = 64 := by
  simp [keystreamBlock, block]

/-- Derive a key of 32 bytes from a key and sixteen bytes of input. -/
def derive (key input : Bytes) : Bytes :=
  let z := mix (block (Bytes.words32 key) (Bytes.words32 input))
  Bytes.ofWords32 ([0, 5, 10, 15, 6, 7, 8, 9].map fun i => z.getD i 0)

/-- At least `length` bytes of keystream of a key and a nonce of 24 bytes. -/
def extended (key nonce : Bytes) (length : Nat) : Bytes :=
  let derived := derive key (nonce.take 16)
  (List.range (length / 64 + 1)).flatMap (keystreamBlock derived (nonce.drop 16))

theorem length_le_length_extended (key nonce : Bytes) (length : Nat) :
    length ≤ (extended key nonce length).length := by
  have hblocks (numbers : List Nat) (derived : Bytes) :
      (numbers.flatMap (keystreamBlock derived (nonce.drop 16))).length = 64 * numbers.length := by
    induction numbers with
    | nil => rfl
    | cons number rest ih =>
      rw [List.flatMap_cons, List.length_append, ih, length_keystreamBlock, List.length_cons]
      omega
  rw [extended, hblocks, List.length_range]
  omega

end GitHubReconciler.Salsa20
