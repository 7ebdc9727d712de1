-- SUMMARY: Repository secrets in GitHub: public keys, sealed secrets on their way and the record GitHub keeps.
import GitHubReconciler.Time.Timestamp

/-!
# Secrets in GitHub

GitHub takes the value of a secret sealed with the repository's public key, and never gives it
back. What it reports of a secret is its name and when it was written.
-/

namespace GitHubReconciler.Remote

/-- The public key that secrets of a repository are sealed with. -/
structure PublicKey where
  keyId : Option String := none
  /-- The key in base64. -/
  key : Option String := none
  deriving DecidableEq, Inhabited, Repr

/-- A secret on its way to GitHub. -/
structure SealedSecret where
  name : String
  keyId : String
  /-- The sealed box in base64. -/
  value : String
  deriving DecidableEq, Inhabited, Repr

/-- What GitHub reports of a secret. -/
structure SecretRecord where
  name : String
  createdAt : Timestamp
  updatedAt : Timestamp
  deriving DecidableEq, Inhabited, Repr

end GitHubReconciler.Remote
