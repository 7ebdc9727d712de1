-- SUMMARY: The calls that operations make (`Call`) and what they are answered with (`Call.Answer`).
import GitHubReconciler.Failure
import GitHubReconciler.Resource.Basic

/-!
# Calls

Operations reach GitHub, the cluster and a source of randomness through calls. Every call is
answered with a value of the type that belongs to it: a call to GitHub with what it gives or its
failure, the write to the cluster with the resource as it is then stored.
-/

namespace GitHubReconciler

/-- A call to the outside world. -/
inductive Call where
  | getRepository (owner name : String)
  | createRepository (organization : String) (body : Remote.Repository)
  | editRepository (owner name : String) (changes : Remote.Repository)
  | deleteRepository (owner name : String)
  | generateRepository (templateOwner templateName : String) (request : Remote.TemplateRequest)
  | getPublicKey (owner repository : String)
  | getSecret (owner repository name : String)
  | putSecret (owner repository : String) (secret : Remote.SealedSecret)
  | deleteSecret (owner repository name : String)
  | getMembership (user organization : String)
  | invite (organization : String) (invitation : Remote.Invitation)
  | removeMember (organization user : String)
  | getFile (owner repository path : String) (branch : Option String)
  | createFile (owner repository path : String) (commit : Remote.Commit)
  | updateFile (owner repository path : String) (commit : Remote.Commit)
  | deleteFile (owner repository path : String) (commit : Remote.Commit)
  /-- Write a resource back to the cluster. -/
  | persist (resource : Resource)
  /-- Read the value that a selector points at. -/
  | extract (selector : Secret.Selector)
  /-- Draw the secret half of a key pair that is used once. -/
  | drawKey

namespace Call

/-- What a call to GitHub is answered with. -/
abbrev FromGitHub (α : Type) := Except ApiFailure α

def Answer : Call → Type
  | getRepository .. => FromGitHub Remote.Repository
  | createRepository .. => FromGitHub Remote.Repository
  | editRepository .. => FromGitHub Remote.Repository
  | deleteRepository .. => FromGitHub Unit
  | generateRepository .. => FromGitHub Remote.Repository
  | getPublicKey .. => FromGitHub Remote.PublicKey
  | getSecret .. => FromGitHub Remote.SecretRecord
  | putSecret .. => FromGitHub Unit
  | deleteSecret .. => FromGitHub Unit
  | getMembership .. => FromGitHub Remote.Membership
  | invite .. => FromGitHub Unit
  | removeMember .. => FromGitHub Unit
  | getFile .. => FromGitHub Remote.File
  | createFile .. => FromGitHub Remote.File
  | updateFile .. => FromGitHub Remote.File
  | deleteFile .. => FromGitHub Unit
  | persist .. => Except Causes Resource
  | extract .. => Except Failure Bytes
  | drawKey => Bytes

/-- Whether a call changes something in GitHub. -/
def isMutation : Call → Bool
  | createRepository .. | editRepository .. | deleteRepository .. | generateRepository .. => true
  | putSecret .. | deleteSecret .. => true
  | invite .. | removeMember .. => true
  | createFile .. | updateFile .. | deleteFile .. => true
  | _ => false

end Call

end GitHubReconciler
