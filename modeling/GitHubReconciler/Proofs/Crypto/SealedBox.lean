-- SUMMARY: Opening undoes sealing (`SealedBox.opened?_sealed`) where the two key pairs agree on a point (`SealedBox.KeysAgree`).
import GitHubReconciler.Crypto.SealedBox

/-!
# Opening sealed boxes

Whoever opens a sealed box has the same nonce as whoever sealed it, since it comes from the two
public keys, and the same key, if the two key pairs agree on a point. From these both derive the
same keystream. So the tag is found to be right, and combining the body with the keystream a second
time gives the message back.

That key pairs agree is the law of the curve; it is a condition here, which can be computed for two
given key pairs.
-/

namespace GitHubReconciler

/-- Combining with the same stream twice has no effect. -/
theorem Bytes.xor_xor {message stream : Bytes} (h : message.length ≤ stream.length) :
    xor (xor message stream) stream = message := by
  induction message generalizing stream with
  | nil => rfl
  | cons b rest ih =>
    cases stream with
    | nil => simp at h
    | cons c stream =>
      have hrest : xor (xor rest stream) stream = rest := ih (by simpa using h)
      have hbyte : b ^^^ c ^^^ c = b := by rw [UInt8.xor_assoc, UInt8.xor_self, UInt8.xor_zero]
      rw [xor, xor, List.zipWith_cons_cons, List.zipWith_cons_cons, hbyte]
      exact congrArg (b :: ·) hrest

namespace SealedBox

open Curve25519

variable {secret secret' key nonce message : Bytes}

/-! ## Encryption -/

/-- There is a byte of keystream for each byte of the message. -/
theorem le_length_keystream (key nonce : Bytes) (length : Nat) :
    length ≤ (keystream key nonce length).2.length := by
  have hstream := Salsa20.length_le_length_extended key nonce (length + 32)
  simp only [keystream, List.length_drop]
  omega

theorem decrypt?_encrypt : decrypt? key nonce (encrypt key nonce message) = some message := by
  have hstream := le_length_keystream key nonce message.length
  have hbody : (Bytes.xor message (keystream key nonce message.length).2).length =
      message.length := by
    simp only [Bytes.xor, List.length_zipWith]
    omega
  have hlength : 16 ≤ (encrypt key nonce message).length := by
    rw [length_encrypt]
    omega
  have htag (tagKey body : Bytes) : (Poly1305.tag tagKey body).length = 16 :=
    Poly1305.length_tag tagKey body
  unfold decrypt?
  simp only [encrypt, List.drop_left' (htag _ _), List.take_left' (htag _ _), hbody, and_true]
    at hlength ⊢
  rw [if_pos hlength, Bytes.xor_xor hstream]

/-! ## Agreement on keys -/

/-- Two key pairs agree on a point: the secret half of each with the public half of the other gives
    the same one. -/
def KeysAgree (secret secret' : Bytes) : Prop :=
  multiply secret (publicKey secret') = multiply secret' (publicKey secret)

theorem KeysAgree.sharedKey_eq (h : KeysAgree secret secret') :
    sharedKey secret (publicKey secret') = sharedKey secret' (publicKey secret) :=
  congrArg (Salsa20.derive · _) h

/-- The holder of the secret half of a key pair opens what was sealed for its public half. -/
theorem opened?_sealed (h : KeysAgree secret secret') :
    opened? secret (sealed secret' (publicKey secret) message) = some message := by
  have hlength : overhead ≤ (sealed secret' (publicKey secret) message).length := by
    rw [length_sealed]
    omega
  have hpublic : (publicKey secret').length = 32 := length_multiply _ _
  unfold opened?
  rw [if_pos hlength]
  simp only [sealed, List.take_left' hpublic, List.drop_left' hpublic, h.sharedKey_eq]
  exact decrypt?_encrypt

end SealedBox

end GitHubReconciler
