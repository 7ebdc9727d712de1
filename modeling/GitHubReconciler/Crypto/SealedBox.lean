-- SUMMARY: Sealed boxes (`SealedBox.sealed`, `SealedBox.opened?`): encryption to a public key from a key pair used once.
import GitHubReconciler.Crypto.Blake2b
import GitHubReconciler.Crypto.Curve25519
import GitHubReconciler.Crypto.Poly1305
import GitHubReconciler.Crypto.Salsa20

/-!
# Sealed boxes

A sealed box is the public half of a key pair used once, followed by a tag and the encrypted
message. The nonce is a digest of the two public keys, so that the recipient can compute it.
Sealing takes the secret half of the pair as an argument; whoever calls it draws that at random.
-/

namespace GitHubReconciler.SealedBox

/-- The bytes that a sealed box has besides the message: a public key and a tag. -/
def overhead : Nat := 48

/-- The nonce for a key pair used once and a recipient. -/
def nonce (ephemeral recipient : Bytes) : Bytes :=
  Blake2b.digest 24 (ephemeral ++ recipient)

/-- The key that two parties agree on. -/
def sharedKey (secret point : Bytes) : Bytes :=
  Salsa20.derive (Curve25519.multiply secret point) (List.replicate 16 0)

/-- The key of the tag, and the keystream for `length` bytes of message. -/
def keystream (key nonce : Bytes) (length : Nat) : Bytes × Bytes :=
  let stream := Salsa20.extended key nonce (length + 32)
  (stream.take 32, stream.drop 32)

/-- Encrypt a message and put its tag in front. -/
def encrypt (key nonce message : Bytes) : Bytes :=
  let (tagKey, stream) := keystream key nonce message.length
  let body := Bytes.xor message stream
  Poly1305.tag tagKey body ++ body

@[simp] theorem length_encrypt (key nonce message : Bytes) :
    (encrypt key nonce message).length = 16 + message.length := by
  have hstream := Salsa20.length_le_length_extended key nonce (message.length + 32)
  simp only [encrypt, keystream, Bytes.xor, List.length_append, Poly1305.length_tag,
    List.length_zipWith, List.length_drop]
  omega

/-- Check the tag in front of an encrypted message and decrypt the message. -/
def decrypt? (key nonce box : Bytes) : Option Bytes :=
  let body := box.drop 16
  let (tagKey, stream) := keystream key nonce body.length
  if 16 ≤ box.length ∧ Poly1305.tag tagKey body = box.take 16 then some (Bytes.xor body stream)
  else none

/-- Seal a message for a recipient with the secret half of a key pair used once. -/
def sealed (secret recipient message : Bytes) : Bytes :=
  let ephemeral := Curve25519.publicKey secret
  ephemeral ++ encrypt (sharedKey secret recipient) (nonce ephemeral recipient) message

/-- The length of a sealed box tells that of the message and nothing else. -/
@[simp] theorem length_sealed (secret recipient message : Bytes) :
    (sealed secret recipient message).length = overhead + message.length := by
  simp only [sealed, Curve25519.publicKey, List.length_append, Curve25519.length_multiply,
    length_encrypt, overhead]
  omega

/-- Open a sealed box with the recipient's secret key. -/
def opened? (secret box : Bytes) : Option Bytes :=
  if overhead ≤ box.length then
    let ephemeral := box.take 32
    let recipient := Curve25519.publicKey secret
    decrypt? (sharedKey secret ephemeral) (nonce ephemeral recipient) (box.drop 32)
  else none

end GitHubReconciler.SealedBox
