-- SUMMARY: Sealing a value with a repository's public key (`Secret.sealValue`), and which keys can be used (`Secret.recipient`).
import GitHubReconciler.Crypto.SealedBox
import GitHubReconciler.Remote.Secret
import GitHubReconciler.Text.Base64

/-!
# Sealing secrets

A value is sealed for the holder of the repository's public key. The key can be used if it is
base64 of 32 bytes.
-/

namespace GitHubReconciler.Secret

/-- The number of bytes of a public key. -/
def keySize : Nat := 32

/-- Why a public key cannot be used. -/
inductive KeyFault where
  | absent
  | notBase64 (fault : Text.Base64.Fault)
  | wrongSize (size : Nat)
  deriving DecidableEq, Repr

def KeyFault.message : KeyFault → String
  | absent => "repository public key is empty"
  | notBase64 fault => "cannot decode public key: " ++ fault.message
  | wrongSize size =>
      "public key must be " ++ toString keySize ++ " bytes, got " ++ toString size
        ++ ": could not convert slice to array"

def recipient (publicKey : Remote.PublicKey) : Except KeyFault Bytes :=
  match publicKey.key with
  | none => .error .absent
  | some encoded =>
      match Text.Base64.decode encoded with
      | .error fault => .error (.notBase64 fault)
      | .ok bytes =>
          if bytes.length = keySize then .ok bytes else .error (.wrongSize bytes.length)

/-- Seal a value for a recipient under a name, with the secret half of a key pair that is used
    once. -/
def sealValue (publicKey : Remote.PublicKey) (recipient ephemeral : Bytes) (name : String)
    (value : Bytes) : Remote.SealedSecret where
  name := name
  keyId := publicKey.keyId.getD ""
  value := Text.Base64.encode (SealedBox.sealed ephemeral recipient value)

end GitHubReconciler.Secret
