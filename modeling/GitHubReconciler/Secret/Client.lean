-- SUMMARY: The client of declared secrets (`Secret.client`): uploading sealed values, and comparing the value and GitHub's record with the last upload.
import GitHubReconciler.Operation.Basic
import GitHubReconciler.Secret.Sealing

/-!
# The client of secrets

A secret in GitHub has the external name of the resource. Since GitHub never gives its value
back, a secret counts as existing once an upload is remembered. It is up to date if both the
digest of the current value and GitHub's time of the last write are those of that upload.
-/

namespace GitHubReconciler.Secret

open Operation

/-! ## Calls -/

def getPublicKey (owner repository : String) : Operation (Call.FromGitHub Remote.PublicKey) :=
  call (.getPublicKey owner repository)

/-- Get GitHub's record of a secret. -/
def getSecret (owner repository name : String) :
    Operation (Call.FromGitHub Remote.SecretRecord) :=
  call (.getSecret owner repository name)

/-- Upload a sealed secret. -/
def putSecret (owner repository : String) (secret : Remote.SealedSecret) :
    Operation (Call.FromGitHub Unit) :=
  call (.putSecret owner repository secret)

def deleteSecret (owner repository name : String) : Operation (Call.FromGitHub Unit) :=
  call (.deleteSecret owner repository name)

/-- Draw the secret half of a key pair that is used once. -/
def drawKey : Operation Bytes :=
  call .drawKey

/-- Read the current value of a secret. -/
def extract (selector : Selector) : Operation Bytes := do
  let answer : Except Failure Bytes ← call (.extract selector)
  match answer with
  | .ok value => return value
  | .error failure => throw failure

/-! ## Contexts of failures -/

def keyContext : String := "cannot get repository public key"

def uploadContext : String := "cannot create or update repository secret"

def getContext : String := "cannot get repository secret"

def deleteContext : String := "cannot delete repository secret"

/-! ## Parts of operations -/

/-- Seal the current value and upload it under a name. Gives the digest of the value. -/
def uploadSealed (d : Desired) (name : String) : Operation String := do
  let publicKey ← expect keyContext (← getPublicKey d.owner d.repository)
  let value ← extract d.value
  match recipient publicKey with
  | .error fault => throw (.encryption fault.message)
  | .ok recipient =>
      let sealedSecret := sealValue publicKey recipient (← drawKey) name value
      expect uploadContext (← putSecret d.owner d.repository sealedSecret)
      log .debug "Uploaded sealed secret" [("key_id", .text sealedSecret.keyId)]
      return digest value

/-- GitHub's record of the secret. -/
def fetchRecord (d : Desired) (name : String) : Operation Remote.SecretRecord := do
  expect getContext (← getSecret d.owner d.repository name)

/-- Whether GitHub still holds the current value, as far as the remembered upload tells. -/
def isUpToDate (d : Desired) (remembered : Fingerprint) (name : String) : Operation Bool := do
  let record ← fetchRecord d name
  let value ← extract d.value
  return remembered.isOf value record

/-- Upload the current value and remember the upload in the status. -/
def upload (o : SecretObject) : Operation SecretObject := do
  let name := o.metadata.externalName
  let digest ← uploadSealed o.desired name
  let record ← fetchRecord o.desired name
  let o := o.withObserved (.ofUpload digest record)
  set (Resource.secrets o)
  log .info "Uploaded repository secret" [("secret", .text name)]
  return o

/-! ## Operations -/

def observe (now : String) : Operation Observation := do
  let o ← getSecretObject
  if o.observed.digest.isNone then
    log .debug "Secret has not been uploaded yet" []
    return .absent
  else
    let upToDate ← isUpToDate o.desired o.observed o.metadata.externalName
    if !upToDate then
      note (.drifted Kind.secrets.name)
      log .info "Secret differs from its source value" []
    set (Resource.secrets (o.withCondition (.ready .available now)))
    return { resourceExists := true, upToDate, filledIn := false }

def create (now : String) : Operation Bool := do
  let o ← upload (← getSecretObject)
  set (Resource.secrets (o.withCondition (.ready .creating now)))
  return false

/-- Upload the current value again. -/
def update : Operation Unit := do
  let _ ← upload (← getSecretObject)

/-- Delete a secret and forget its upload. -/
def delete (now : String) : Operation Unit := do
  let o ← getSecretObject
  let name := o.metadata.externalName
  expect deleteContext (← deleteSecret o.desired.owner o.desired.repository name)
  set (Resource.secrets ((o.withObserved {}).withCondition (.ready .deleting now)))
  log .info "Deleted repository secret" [("secret", .text name)]

def client : Client where
  observe now := instrumented .secrets .observe (observe now)
  create now := instrumented .secrets .create (create now)
  update := instrumented .secrets .update update
  delete now := instrumented .secrets .delete (delete now)

end GitHubReconciler.Secret
