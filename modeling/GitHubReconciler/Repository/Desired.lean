-- SUMMARY: The desired state of a repository (`Repository.Desired`), its merge with GitHub's (`applyTo`), drift (`isMetBy`) and filling in (`fill`).
import GitHubReconciler.Remote.Repository
import GitHubReconciler.Resource.Object

/-!
# Desired repositories

A desired state names a repository and sets some of its settings. Three things are done with it
and a repository that GitHub reports:

* `applyTo` lays the desired state over the repository, which gives the body of an edit.
* `isMetBy` says whether there is nothing to edit: no setting differs but the first commit,
  which GitHub honours only when it creates a repository.
* `fill` sets what is not set yet from the repository, so that later changes in GitHub show as
  drift.

While a repository is being generated from a template, GitHub reports a default branch that is
about to change to the template's. `fill` then takes the template's branch for both sides.
-/

namespace GitHubReconciler.Repository

structure Desired where
  /-- The account that owns the repository. -/
  owner : String
  name : String
  /-- The organization to create the repository in; without one it is created for the user. -/
  organization : Option String := none
  settings : Settings := {}
  /-- The template to generate the repository from, as `owner/name`. -/
  template : Option Reference := none
  deriving DecidableEq, Inhabited, Repr

namespace Desired

/-! ## Merge and drift -/

/-- Lay the desired state over a repository. An empty name leaves the name alone. -/
def applyTo (d : Desired) (r : Remote.Repository) : Remote.Repository :=
  { r with
    name := if d.name = "" then r.name else some d.name
    settings := d.settings.orElse r.settings }

/-- Whether laying the desired state over the repository changes nothing that an edit could. -/
def isMetBy (d : Desired) (r : Remote.Repository) : Bool :=
  (d.applyTo r).name == r.name && (d.applyTo r).settings.lasting == r.settings.lasting

/-! ## Filling in -/

/-- The organization that owns a repository, if an organization does. -/
def owningOrganization (r : Remote.Repository) : Option String :=
  if r.owner.any (·.isOrganization) then r.organization.bind (·.login) else none

/-- The reference to the template that a repository was generated from. -/
def templateOf (r : Remote.Repository) : Option Reference :=
  (r.template.bind (·.fullName)).map Reference.mk

/-- Take the default branch of the template for the desired state and for the repository. -/
def adoptTemplateBranch (d : Desired) (r : Remote.Repository) : Desired × Remote.Repository :=
  let branch := r.template.bind (·.settings.defaultBranch)
  ({ d with settings := { d.settings with defaultBranch := branch } },
   { r with settings := { r.settings with defaultBranch := branch } })

/-- Whether the resource is still being created from a template. -/
def isGenerating (r : Remote.Repository) (ready : Option Condition) : Bool :=
  ready.any (·.hasReason Condition.ReadyReason.creating.text) && r.template.isSome

/-- Set what is not set yet from a repository that GitHub reports. The template is the one
    exception: if GitHub reports one, it replaces what is set. -/
def fill (d : Desired) (r : Remote.Repository) (ready : Option Condition) :
    Desired × Remote.Repository :=
  let filled : Desired :=
    { d with
      organization := d.organization.or (owningOrganization r)
      settings := d.settings.orElse r.settings
      template := (templateOf r).or d.template }
  if isGenerating r ready && d.settings.defaultBranch.isNone then filled.adoptTemplateBranch r
  else (filled, r)

/-! ## Documents -/

def record : Record Desired Desired :=
  (fun owner name organization settings template =>
      { owner, name, organization, settings, template })
    <$> .required "owner" .text (·.owner)
    <*> .required "name" .text (·.name)
    <*> .optional "org" .text (·.organization)
    <*> Settings.record.within (·.settings)
    <*> .optional "templateRef" Reference.record.codec (·.template)

end Desired

end GitHubReconciler.Repository
