-- SUMMARY: The desired state of a repository secret (`Secret.Desired`) and the fingerprint of its last upload (`Secret.Fingerprint`).
import GitHubReconciler.Crypto.Sha256
import GitHubReconciler.Remote.Secret
import GitHubReconciler.Resource.Object

/-!
# Desired secrets

A desired secret says which key of which cluster secret holds the value. GitHub never gives a
value back, so the status remembers a fingerprint of the last upload: the digest of the value,
and the time at which GitHub says it was written.
-/

namespace GitHubReconciler.Secret

/-- A key of a secret in the cluster. -/
structure Selector where
  name : String
  space : String
  key : String
  deriving DecidableEq, Inhabited, Repr

/-- Selectors as JSON, with the namespace under the name `namespace`. -/
def Selector.record : Record Selector Selector :=
  Selector.mk
    <$> .required "name" .text (·.name)
    <*> .required "namespace" .text (·.space)
    <*> .required "key" .text (·.key)

/-- The desired state of a repository secret. -/
structure Desired where
  owner : String
  repository : String
  /-- Where the value is. -/
  value : Selector
  deriving DecidableEq, Inhabited, Repr

def Desired.record : Record Desired Desired :=
  Desired.mk
    <$> .required "owner" .text (·.owner)
    <*> .required "repository" .text (·.repository)
    <*> .required "value" Selector.record.codec (·.value)

/-! ## Fingerprints -/

/-- What is remembered of the last upload; empty before the first one. -/
structure Fingerprint where
  /-- The digest of the value. -/
  digest : Option String := none
  /-- When GitHub says the value was written. -/
  updatedAt : Option String := none
  deriving DecidableEq, Inhabited, Repr

/-- The digest of a value in lower-case hexadecimal digits. -/
def digest (value : Bytes) : String :=
  Text.Hex.encode (Sha256.digest value)

namespace Fingerprint

/-- The fingerprint of an upload, from the digest of the value and GitHub's record. -/
def ofUpload (digest : String) (record : Remote.SecretRecord) : Fingerprint where
  digest := some digest
  updatedAt := some record.updatedAt.format

/-- Whether a value and GitHub's record are those of the upload that is remembered. -/
def isOf (f : Fingerprint) (value : Bytes) (record : Remote.SecretRecord) : Bool :=
  f.digest == some (Secret.digest value) && f.updatedAt == some record.updatedAt.format

def record : Record Fingerprint Fingerprint :=
  Fingerprint.mk
    <$> .optional "encrypt_value" .text (·.digest)
    <*> .optional "last_update" .text (·.updatedAt)

end Fingerprint

end GitHubReconciler.Secret
