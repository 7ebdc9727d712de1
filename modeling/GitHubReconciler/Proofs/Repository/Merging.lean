-- SUMMARY: What laying a desired state over a repository makes of it (`Desired.LaidOver`), and how several desired states laid over it one after another combine (`Desired.merge_exact`).
import GitHubReconciler.Proofs.Repository.Filling
import GitHubReconciler.Repository.Template

/-!
# Laying desired states over repositories

`LaidOver` says part by part what laying a desired state over a repository makes of the repository:
the name and the settings of the desired state stand where they are set, and all else stays. So
laying two desired states over a repository is the same as laying their combination over it, which
takes each part from the later one where that sets it (`followedBy`). The order does not matter just
if they agree on all that both of them set.
-/

namespace GitHubReconciler.Repository

variable {α : Type} {a b c : Option α}

/-! ## Single settings -/

/-- Where both are set, they are the same. -/
def Agree (a b : Option α) : Prop :=
  ∀ v w, a = some v → b = some w → v = w

theorem or_left_comm_iff_agree : b.or (a.or c) = a.or (b.or c) ↔ Agree a b := by
  cases a with
  | none => simp [Agree]
  | some v =>
    cases b with
    | none => simp [Agree]
    | some w => simp [Agree, eq_comm]

/-- The two set no setting differently. -/
@[mk_iff]
structure Settings.Agree (s t : Settings) : Prop where
  description : Repository.Agree s.description t.description
  homepage : Repository.Agree s.homepage t.homepage
  isPrivate : Repository.Agree s.isPrivate t.isPrivate
  visibility : Repository.Agree s.visibility t.visibility
  hasIssues : Repository.Agree s.hasIssues t.hasIssues
  hasProjects : Repository.Agree s.hasProjects t.hasProjects
  hasWiki : Repository.Agree s.hasWiki t.hasWiki
  isTemplate : Repository.Agree s.isTemplate t.isTemplate
  teamId : Repository.Agree s.teamId t.teamId
  autoInit : Repository.Agree s.autoInit t.autoInit
  gitignoreTemplate : Repository.Agree s.gitignoreTemplate t.gitignoreTemplate
  licenseTemplate : Repository.Agree s.licenseTemplate t.licenseTemplate
  allowSquashMerge : Repository.Agree s.allowSquashMerge t.allowSquashMerge
  allowMergeCommit : Repository.Agree s.allowMergeCommit t.allowMergeCommit
  allowRebaseMerge : Repository.Agree s.allowRebaseMerge t.allowRebaseMerge
  deleteBranchOnMerge : Repository.Agree s.deleteBranchOnMerge t.deleteBranchOnMerge
  hasPages : Repository.Agree s.hasPages t.hasPages
  hasDownloads : Repository.Agree s.hasDownloads t.hasDownloads
  defaultBranch : Repository.Agree s.defaultBranch t.defaultBranch
  archived : Repository.Agree s.archived t.archived

namespace Settings

variable {s t u : Settings}

theorem orElse_left_comm_iff_agree : t.orElse (s.orElse u) = s.orElse (t.orElse u) ↔ s.Agree t := by
  simp only [orElse, Settings.mk.injEq, or_left_comm_iff_agree, agree_iff]

/-- Completing all settings, the default branch included, is the merge. -/
theorem completed_and_branch_iff :
    (s.Completed t u ∧
      Repository.Completed s.defaultBranch t.defaultBranch u.defaultBranch) ↔ s.orElse t = u := by
  rw [completed_iff_eq, completed_iff_or_eq]
  constructor
  · rintro ⟨hsettings, hbranch⟩
    rw [← hsettings, ← hbranch]
    rfl
  · rintro rfl
    exact ⟨rfl, rfl⟩

end Settings

namespace Desired

variable {d d₁ d₂ : Desired} {r r' : Remote.Repository}

/-! ## One desired state -/

/-- `r'` is what becomes of a repository that a desired state is laid over. The name and the
    settings of the desired state are completed from the repository; the rest of the repository
    stays. -/
structure LaidOver (d : Desired) (r r' : Remote.Repository) : Prop where
  name : Completed (nonEmpty? d.name) r.name r'.name
  settings : d.settings.Completed r.settings r'.settings
  defaultBranch :
    Completed d.settings.defaultBranch r.settings.defaultBranch r'.settings.defaultBranch
  rest : r' = { r with name := r'.name, settings := r'.settings }

theorem applyTo_eq : d.applyTo r =
    { r with
      name := (nonEmpty? d.name).or r.name
      settings := d.settings.orElse r.settings } := by
  unfold applyTo nonEmpty?
  by_cases h : d.name = ""
  · simp [h]
  · simp [h]

/-- `LaidOver` holds of what the merge gives, and of nothing else. -/
theorem laidOver_iff_applyTo_eq : d.LaidOver r r' ↔ d.applyTo r = r' := by
  rw [applyTo_eq]
  constructor
  · intro h
    rw [completed_iff_or_eq.mp h.name,
      Settings.completed_and_branch_iff.mp ⟨h.settings, h.defaultBranch⟩]
    exact h.rest.symm
  · rintro rfl
    obtain ⟨hsettings, hbranch⟩ :=
      Settings.completed_and_branch_iff.mpr (rfl : d.settings.orElse r.settings = _)
    exact ⟨completed_iff_or_eq.mpr rfl, hsettings, hbranch, rfl⟩

/-! ## Several desired states -/

/-- Two desired states in one: each part is that of the later one, where that sets it. -/
def followedBy (d₁ d₂ : Desired) : Desired where
  owner := d₂.owner
  name := if d₂.name = "" then d₁.name else d₂.name
  organization := d₂.organization.or d₁.organization
  settings := d₂.settings.orElse d₁.settings
  template := d₂.template.or d₁.template

/-- `d` takes each part from `d₂` where that sets it, and from `d₁` otherwise. -/
structure Combined (d₁ d₂ d : Desired) : Prop where
  owner : d.owner = d₂.owner
  name : Completed (nonEmpty? d₂.name) (nonEmpty? d₁.name) (nonEmpty? d.name)
  organization : Completed d₂.organization d₁.organization d.organization
  settings : d₂.settings.Completed d₁.settings d.settings
  defaultBranch :
    Completed d₂.settings.defaultBranch d₁.settings.defaultBranch d.settings.defaultBranch
  template : Completed d₂.template d₁.template d.template

theorem nonEmpty?_followedBy_name :
    nonEmpty? (d₁.followedBy d₂).name = (nonEmpty? d₂.name).or (nonEmpty? d₁.name) := by
  unfold followedBy nonEmpty?
  by_cases h : d₂.name = ""
  · simp [h]
  · simp [h]

theorem combined_followedBy : d₁.Combined d₂ (d₁.followedBy d₂) where
  owner := rfl
  name := completed_iff_or_eq.mpr nonEmpty?_followedBy_name.symm
  organization := completed_iff_or_eq.mpr rfl
  settings := (Settings.completed_and_branch_iff.mpr rfl).1
  defaultBranch := completed_iff_or_eq.mpr rfl
  template := completed_iff_or_eq.mpr rfl

theorem applyTo_applyTo : d₂.applyTo (d₁.applyTo r) = (d₁.followedBy d₂).applyTo r := by
  simp only [applyTo_eq, nonEmpty?_followedBy_name, Option.or_assoc]
  simp only [followedBy, Settings.orElse_assoc]

theorem applyTo_self : d.applyTo (d.applyTo r) = d.applyTo r := by
  simp only [applyTo_eq, ← Option.or_assoc, Option.or_self, ← Settings.orElse_assoc,
    Settings.orElse_self]

/-- The two agree on all that both of them set of a repository. -/
structure Agree (d₁ d₂ : Desired) : Prop where
  name : Repository.Agree (nonEmpty? d₁.name) (nonEmpty? d₂.name)
  settings : d₁.settings.Agree d₂.settings

theorem applyTo_comm_iff :
    d₂.applyTo (d₁.applyTo r) = d₁.applyTo (d₂.applyTo r) ↔ d₁.Agree d₂ := by
  simp only [applyTo_eq, Remote.Repository.mk.injEq, or_left_comm_iff_agree,
    Settings.orElse_left_comm_iff_agree, true_and, and_true]
  exact ⟨fun h => ⟨h.1, h.2⟩, fun h => ⟨h.name, h.settings⟩⟩

/-- Laying desired states over a repository loses nothing that is set and changes nothing else.
    Laying a second one over it is laying their combination over it; so the same one twice has no
    further effect, and the order of two does not matter just if they agree on all that both of
    them set. -/
theorem merge_exact :
    (∀ (d : Desired) (r r' : Remote.Repository), d.applyTo r = r' ↔ d.LaidOver r r') ∧
    (∀ (d₁ d₂ : Desired) (r : Remote.Repository), d₁.Combined d₂ (d₁.followedBy d₂) ∧
      d₂.applyTo (d₁.applyTo r) = (d₁.followedBy d₂).applyTo r) ∧
    (∀ (d : Desired) (r : Remote.Repository), d.applyTo (d.applyTo r) = d.applyTo r) ∧
    ∀ (d₁ d₂ : Desired) (r : Remote.Repository),
      d₂.applyTo (d₁.applyTo r) = d₁.applyTo (d₂.applyTo r) ↔ d₁.Agree d₂ :=
  ⟨fun _ _ _ => laidOver_iff_applyTo_eq.symm,
    fun _ _ _ => ⟨combined_followedBy, applyTo_applyTo⟩,
    fun _ _ => applyTo_self,
    fun _ _ _ => applyTo_comm_iff⟩

end Desired

end GitHubReconciler.Repository
