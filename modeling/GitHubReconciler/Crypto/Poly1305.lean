-- SUMMARY: The Poly1305 authenticator (`Poly1305.tag`).
import GitHubReconciler.Crypto.Words

/-!
# Poly1305

The tag of a message is a polynomial in the first half of the key, modulo `2 ^ 130 - 5`, plus
the second half of the key. The coefficients are the blocks of sixteen bytes of the message,
each with a one byte put after it.
-/

namespace GitHubReconciler.Poly1305

/-- The prime modulus. -/
def modulus : Nat := Nat.pow 2 130 - 5

/-- The bits of the point that are kept. -/
def clampMask : Nat := 0x0ffffffc0ffffffc0ffffffc0fffffff

/-- The tag of a message under a one-time key of 32 bytes. -/
def tag (key message : Bytes) : Bytes :=
  let point := Bytes.toNat (key.take 16) &&& clampMask
  let offset := Bytes.toNat (key.drop 16)
  let value := (Bytes.blocks 15 message).foldl
    (fun acc block => (acc + Bytes.toNat (block ++ [1])) * point % modulus) 0
  Bytes.ofNat 16 ((value + offset) % Nat.pow 2 128)

@[simp] theorem length_tag (key message : Bytes) : (tag key message).length = 16 :=
  Bytes.length_ofNat _ _

end GitHubReconciler.Poly1305
