-- SUMMARY: The client of declared repositories (`Repository.client`): looking up under two names, observing, creating, editing and deleting.
import GitHubReconciler.Operation.Basic
import GitHubReconciler.Repository.Template

/-!
# The client of repositories

A repository is looked up under its desired name and, if that fails, under the name the status
recorded last. So a repository is still found between the change of its name in the
specification and the edit that applies it; that edit is addressed to the recorded name.

What a specification leaves open is filled in from GitHub when the repository is observed, and
written back to the cluster at once.
-/

namespace GitHubReconciler.Repository

open Operation

/-! ## Calls -/

def getRepository (owner name : String) : Operation (Call.FromGitHub Remote.Repository) :=
  call (.getRepository owner name)

/-- Create a repository in an organization, or for the user if that is empty. -/
def createRepository (organization : String) (body : Remote.Repository) :
    Operation (Call.FromGitHub Remote.Repository) :=
  call (.createRepository organization body)

def editRepository (owner name : String) (changes : Remote.Repository) :
    Operation (Call.FromGitHub Remote.Repository) :=
  call (.editRepository owner name changes)

def deleteRepository (owner name : String) : Operation (Call.FromGitHub Unit) :=
  call (.deleteRepository owner name)

def generateRepository (template : FullName) (request : Remote.TemplateRequest) :
    Operation (Call.FromGitHub Remote.Repository) :=
  call (.generateRepository template.owner template.name request)

/-- Write the resource back to the cluster. -/
def persist (r : Resource) : Operation (Except Causes Resource) :=
  call (.persist r)

/-! ## Contexts of failures -/

def getContext : String := "Cannot get GitHub repository"

def createContext : String := "cannot create Repository"

def updateContext : String := "cannot update Repository"

def deleteContext : String := "cannot delete Repository"

/-! ## Operations -/

/-- The name that the last observation recorded, empty before the first one. -/
def recordedName (o : RepositoryObject) : String :=
  o.observed.name

/-- Look a repository up by name, then by its recorded name if that is another one. -/
def lookUp (owner name recorded : String) : Operation (Call.FromGitHub Remote.Repository) := do
  match ← getRepository owner name with
  | .ok found => return .ok found
  | .error failure =>
      if recorded = "" ∨ recorded = name then
        return .error failure
      else
        log .debug "Repository lookup by desired name failed, retrying with observed name"
          [("error", .text failure.text), ("observed_name", .text recorded)]
        getRepository owner recorded

/-- Put filled-in settings into the resource and write it back to the cluster. -/
def storeFilled (o : RepositoryObject) (filled : Desired) : Operation Unit := do
  let resource : Resource := .repository (o.withDesired filled)
  set resource
  match ← persist resource with
  | .error causes => throw (.localPersistence Kind.repository.name causes)
  | .ok stored =>
      set stored
      note (.filledIn Kind.repository.name)
      log .info "Late-initialized repository parameters from GitHub" []

/-- Record a repository in the status of the resource, and whether it is as desired. -/
def record (now : String) (found : Remote.Repository) : Operation Bool := do
  let o ← getRepositoryObject
  set (Resource.repository
    ((o.withCondition (.ready .available now)).withObserved (.ofRemote found)))
  let upToDate := o.desired.isMetBy found
  if !upToDate then
    note (.drifted Kind.repository.name)
    log .info "Repository differs from desired state" []
  return upToDate

def observe (now : String) : Operation Observation := do
  let o ← getRepositoryObject
  match ← lookUp o.desired.owner o.desired.name (recordedName o) with
  | .error failure =>
      if failure.isNotFound then
        log .debug "Repository does not exist" []
        return .absent
      else
        throw (.remote getContext failure)
  | .ok found =>
      let (filled, found) := o.desired.fill found o.ready?
      if filled ≠ o.desired then
        storeFilled o filled
      let upToDate ← record now found
      return { resourceExists := true, upToDate, filledIn := filled ≠ o.desired }

/-- Create a repository from nothing. -/
def createPlain (d : Desired) : Operation Unit := do
  let organization := d.organization.getD ""
  let _ ← expect createContext (← createRepository organization (d.applyTo {}))
  log .info "Created repository" [("org", .text organization)]

/-- Generate a repository from a template. -/
def createFromTemplate (d : Desired) (template : Reference) : Operation Unit := do
  match FullName.parse? template.name with
  | none => throw .malformedReference
  | some fullName =>
      match ← generateRepository fullName d.templateRequest with
      | .ok _ =>
          log .info "Created repository from template" [("template", .text template.name)]
      | .error failure =>
          if failure.isNotFound then throw (.templateNotFound failure)
          else throw (.remote createContext failure)

def create (now : String) : Operation Bool := do
  let o ← getRepositoryObject
  match o.desired.template with
  | none => createPlain o.desired
  | some template => createFromTemplate o.desired template
  set (Resource.repository (o.withCondition (.ready .creating now)))
  return false

/-- Edit a repository, under its recorded name if there is one. -/
def update : Operation Unit := do
  let o ← getRepositoryObject
  let d := o.desired
  let recorded := recordedName o
  let found ← expect getContext (← lookUp d.owner d.name recorded)
  let current := if recorded = "" then d.name else recorded
  let _ ← expect updateContext (← editRepository d.owner current (d.applyTo found))
  log .info "Updated repository" [("current_name", .text current)]

/-- Delete a repository, under its desired name. -/
def delete : Operation Unit := do
  let o ← getRepositoryObject
  expect deleteContext (← deleteRepository o.desired.owner o.desired.name)
  log .info "Deleted repository" []

def client : Client where
  observe now := instrumented .repository .observe (observe now)
  create now := instrumented .repository .create (create now)
  update := instrumented .repository .update update
  delete _ := instrumented .repository .delete delete

end GitHubReconciler.Repository
