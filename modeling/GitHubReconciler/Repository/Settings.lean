-- SUMMARY: The settings of a repository that a specification can dictate (`Repository.Settings`) and their merge, field by field (`Settings.orElse`).
import GitHubReconciler.Json.Codec

/-!
# Repository settings

The settings a specification can dictate are the same that GitHub reports, each of them set or
not. Laying a specification over a repository and filling a specification from a repository
are the same merge: each field is taken from the first side that sets it.
-/

namespace GitHubReconciler.Repository

/-- The settings of a repository, each of them set or not. -/
structure Settings where
  description : Option String := none
  homepage : Option String := none
  isPrivate : Option Bool := none
  visibility : Option String := none
  hasIssues : Option Bool := none
  hasProjects : Option Bool := none
  hasWiki : Option Bool := none
  isTemplate : Option Bool := none
  teamId : Option Int64 := none
  /-- Whether the repository is created with a first commit. -/
  autoInit : Option Bool := none
  gitignoreTemplate : Option String := none
  licenseTemplate : Option String := none
  allowSquashMerge : Option Bool := none
  allowMergeCommit : Option Bool := none
  allowRebaseMerge : Option Bool := none
  deleteBranchOnMerge : Option Bool := none
  hasPages : Option Bool := none
  hasDownloads : Option Bool := none
  defaultBranch : Option String := none
  archived : Option Bool := none
  deriving DecidableEq, Inhabited, Repr

namespace Settings

/-- Take each setting from `a` where it is set and from `b` otherwise. -/
def orElse (a b : Settings) : Settings where
  description := a.description.or b.description
  homepage := a.homepage.or b.homepage
  isPrivate := a.isPrivate.or b.isPrivate
  visibility := a.visibility.or b.visibility
  hasIssues := a.hasIssues.or b.hasIssues
  hasProjects := a.hasProjects.or b.hasProjects
  hasWiki := a.hasWiki.or b.hasWiki
  isTemplate := a.isTemplate.or b.isTemplate
  teamId := a.teamId.or b.teamId
  autoInit := a.autoInit.or b.autoInit
  gitignoreTemplate := a.gitignoreTemplate.or b.gitignoreTemplate
  licenseTemplate := a.licenseTemplate.or b.licenseTemplate
  allowSquashMerge := a.allowSquashMerge.or b.allowSquashMerge
  allowMergeCommit := a.allowMergeCommit.or b.allowMergeCommit
  allowRebaseMerge := a.allowRebaseMerge.or b.allowRebaseMerge
  deleteBranchOnMerge := a.deleteBranchOnMerge.or b.deleteBranchOnMerge
  hasPages := a.hasPages.or b.hasPages
  hasDownloads := a.hasDownloads.or b.hasDownloads
  defaultBranch := a.defaultBranch.or b.defaultBranch
  archived := a.archived.or b.archived

@[simp] theorem orElse_self (a : Settings) : a.orElse a = a := by
  simp [orElse]

theorem orElse_assoc (a b c : Settings) : (a.orElse b).orElse c = a.orElse (b.orElse c) := by
  simp [orElse, Option.or_assoc]

@[simp] theorem empty_orElse (a : Settings) : ({} : Settings).orElse a = a := by
  simp [orElse]

@[simp] theorem orElse_empty (a : Settings) : a.orElse {} = a := by
  simp [orElse]

/-- The settings that GitHub honours after the repository has been created. -/
def lasting (s : Settings) : Settings :=
  { s with autoInit := none }

def record : Record Settings Settings :=
  Settings.mk
    <$> .optional "description" .text (·.description)
    <*> .optional "homepage" .text (·.homepage)
    <*> .optional "private" .flag (·.isPrivate)
    <*> .optional "visibility" .text (·.visibility)
    <*> .optional "hasIssues" .flag (·.hasIssues)
    <*> .optional "hasProjects" .flag (·.hasProjects)
    <*> .optional "hasWiki" .flag (·.hasWiki)
    <*> .optional "isTemplate" .flag (·.isTemplate)
    <*> .optional "teamId" .integer (·.teamId)
    <*> .optional "autoInit" .flag (·.autoInit)
    <*> .optional "gitignoreTemplate" .text (·.gitignoreTemplate)
    <*> .optional "licenseTemplate" .text (·.licenseTemplate)
    <*> .optional "allowSquashMerge" .flag (·.allowSquashMerge)
    <*> .optional "allowMergeCommit" .flag (·.allowMergeCommit)
    <*> .optional "allowRebaseMerge" .flag (·.allowRebaseMerge)
    <*> .optional "deleteBranchOnMerge" .flag (·.deleteBranchOnMerge)
    <*> .optional "hasPages" .flag (·.hasPages)
    <*> .optional "hasDownloads" .flag (·.hasDownloads)
    <*> .optional "defaultBranch" .text (·.defaultBranch)
    <*> .optional "archived" .flag (·.archived)

end Settings

end GitHubReconciler.Repository
