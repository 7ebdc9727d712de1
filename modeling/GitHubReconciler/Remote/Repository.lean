-- SUMMARY: Repositories as GitHub reports them and takes them (`Remote.Repository`), and requests to generate one from a template.
import GitHubReconciler.Repository.Links
import GitHubReconciler.Repository.Settings
import GitHubReconciler.Time.Timestamp

/-!
# Repositories in GitHub

Every field may be missing: what GitHub does not report is kept apart from false, zero and the
empty text. The same type is the body of the calls that create and edit a repository.
-/

namespace GitHubReconciler.Remote

/-- A user or an organization, as the owner of a repository. -/
structure Account where
  login : Option String := none
  id : Option Int64 := none
  type : Option String := none
  deriving DecidableEq, Inhabited, Repr

def Account.isOrganization (a : Account) : Bool :=
  a.type == some "Organization"

/-- An organization, as a repository names it. -/
structure Organization where
  login : Option String := none
  id : Option Int64 := none
  name : Option String := none
  deriving DecidableEq, Inhabited, Repr

structure Repository where
  id : Option Int64 := none
  nodeId : Option String := none
  owner : Option Account := none
  organization : Option Organization := none
  name : Option String := none
  fullName : Option String := none
  settings : GitHubReconciler.Repository.Settings := {}
  links : GitHubReconciler.Repository.Links (Option String) := .const none
  counts : GitHubReconciler.Repository.Counts (Option Int64) := .const none
  createdAt : Option Timestamp := none
  pushedAt : Option Timestamp := none
  updatedAt : Option Timestamp := none
  language : Option String := none
  fork : Option Bool := none
  size : Option Int64 := none
  topics : Option (List String) := none
  disabled : Option Bool := none
  permissions : Option (List (String × Bool)) := none
  /-- The template that the repository was generated from. -/
  template : Option Repository := none
  deriving Inhabited, Repr

/-- A request to generate a repository from a template. -/
structure TemplateRequest where
  name : Option String
  owner : Option String
  description : Option String
  isPrivate : Option Bool
  deriving DecidableEq, Inhabited, Repr

end GitHubReconciler.Remote
