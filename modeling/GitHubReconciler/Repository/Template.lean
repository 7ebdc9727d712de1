-- SUMMARY: Full names of repositories (`FullName.parse?`) and requests to generate a repository from a template.
import GitHubReconciler.Repository.Desired

/-!
# Templates

A template is referred to by its full name: an owner, a slash and a name.
-/

namespace GitHubReconciler.Repository

structure FullName where
  owner : String
  name : String
  deriving DecidableEq, Inhabited, Repr

/-- Split a full name at its slash; there has to be exactly one. -/
def FullName.parse? (text : String) : Option FullName :=
  match text.toList.span (· != '/') with
  | (owner, _ :: name) =>
      if '/' ∈ name then none else some ⟨String.ofList owner, String.ofList name⟩
  | (_, []) => none

/-- A text, unless it is empty. -/
def nonEmpty? (text : String) : Option String :=
  if text = "" then none else some text

/-- The request to generate a desired repository from its template. -/
def Desired.templateRequest (d : Desired) : Remote.TemplateRequest where
  name := nonEmpty? d.name
  owner := nonEmpty? d.owner
  description := d.settings.description
  isPrivate := d.settings.isPrivate

end GitHubReconciler.Repository
