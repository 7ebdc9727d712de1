-- SUMMARY: The X25519 function (`Curve25519.multiply`) and public keys (`Curve25519.publicKey`).
import GitHubReconciler.Crypto.Words

/-!
# X25519

The function of RFC 7748: it multiplies a point of Curve25519, given by its first coordinate, by
a clamped scalar. The ladder goes through the bits of the scalar and keeps two neighbouring
multiples of the point in projective form.
-/

namespace GitHubReconciler.Curve25519

/-- The prime of the field. -/
def prime : Nat := Nat.pow 2 255 - 19

/-- The difference of two numbers of the field. -/
def sub (a b : Nat) : Nat :=
  (a + (prime - b)) % prime

/-- A power of a number of the field, for exponents of `bits` bits. -/
def power (bits a e : Nat) : Nat :=
  match bits with
  | 0 => 1
  | bits + 1 =>
      let half := power bits (a * a % prime) (e / 2)
      if e % 2 = 1 then half * a % prime else half

/-- The inverse of a number of the field, and zero for zero. -/
def inverse (a : Nat) : Nat :=
  power 255 a (prime - 2)

/-- Two multiples of a point whose difference is the point. -/
structure Ladder where
  x2 : Nat
  z2 : Nat
  x3 : Nat
  z3 : Nat

/-- Exchange the two multiples. -/
def Ladder.swap (l : Ladder) : Ladder :=
  { x2 := l.x3, z2 := l.z3, x3 := l.x2, z3 := l.z2 }

/-- Double the first multiple and add it to the second one. -/
def Ladder.step (point : Nat) (l : Ladder) : Ladder :=
  let a := (l.x2 + l.z2) % prime
  let aa := a * a % prime
  let b := sub l.x2 l.z2
  let bb := b * b % prime
  let e := sub aa bb
  let c := (l.x3 + l.z3) % prime
  let d := sub l.x3 l.z3
  let da := d * a % prime
  let cb := c * b % prime
  { x3 := (da + cb) % prime * ((da + cb) % prime) % prime
    z3 := point * (sub da cb * sub da cb % prime) % prime
    x2 := aa * bb % prime
    z2 := e * ((aa + 121665 * e) % prime) % prime }

/-- Go through the `bits` lowest bits of a scalar, the highest of them first. -/
def ladder (point scalar : Nat) : Nat → Ladder → Ladder
  | 0, l => l
  | bits + 1, l =>
      let l := if scalar.testBit bits then (l.swap.step point).swap else l.step point
      ladder point scalar bits l

/-- The scalar of a secret key: a multiple of eight with bit 254 as its highest one. -/
def clamp (secret : Bytes) : Nat :=
  Bytes.toNat secret % Nat.pow 2 254 / 8 * 8 + Nat.pow 2 254

/-- The secret key's multiple of a point. -/
def multiply (secret point : Bytes) : Bytes :=
  let u := Bytes.toNat point % Nat.pow 2 255 % prime
  let l := ladder u (clamp secret) 255 { x2 := 1, z2 := 0, x3 := u, z3 := 1 }
  Bytes.ofNat 32 (l.x2 * inverse l.z2 % prime)

def publicKey (secret : Bytes) : Bytes :=
  multiply secret (Bytes.ofNat 32 9)

@[simp] theorem length_multiply (secret point : Bytes) : (multiply secret point).length = 32 :=
  Bytes.length_ofNat _ _

end GitHubReconciler.Curve25519
