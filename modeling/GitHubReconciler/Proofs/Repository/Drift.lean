-- SUMMARY: Which settings a repository carries (`Settings.Carries`), what that says about drift (`Desired.verdict_exact`), and that filling in neither causes nor hides drift nor changes what an edit sends.
import GitHubReconciler.Repository.Desired
import Mathlib.Tactic.MkIffOfInductiveProp

/-!
# Drift of repositories

One set of settings carries another if it agrees with all that the other sets. The first commit
is left out, since GitHub honours it only when it creates a repository. There is no drift just if
the repository has the desired name and carries the desired settings (`isMetBy_iff`). So it does not
matter what else the desired state and the repository hold (`isMetBy_congr`).

Filling in does not matter either (`isMetBy_fill`): what it adds to the desired state is carried
anyway. Nor does it matter to the body of an edit (`applyTo_fill`).
-/

namespace GitHubReconciler.Repository

variable {α : Type} {a b c : Option α}

/-! ## Single settings -/

/-- What the first side sets, the second side sets alike. -/
def Kept (a b : Option α) : Prop :=
  ∀ v, a = some v → b = some v

@[simp] theorem kept_none : Kept none b :=
  fun _ h => nomatch h

@[simp] theorem kept_refl : Kept a a :=
  fun _ h => h

theorem Kept.trans (hab : Kept a b) (hbc : Kept b c) : Kept a c :=
  fun v h => hbc v (hab v h)

theorem kept_iff_or_eq : Kept a b ↔ a.or b = b := by
  cases a with
  | none => simp
  | some x => simp [Kept, eq_comm]

theorem kept_or_left : Kept a (a.or b) :=
  fun v h => by simp [h]

@[simp] theorem kept_or_self : Kept (a.or b) b ↔ Kept a b := by
  cases a <;> simp [Kept]

/-- Where the first side sets nothing, the second side does not matter. -/
theorem kept_congr (h : a ≠ none → b = c) : Kept a b ↔ Kept a c := by
  cases a with
  | none => simp
  | some v => rw [h (Option.some_ne_none v)]

/-! ## Carried settings -/

/-- `s` agrees with all that `t` sets, except for the first commit. -/
@[mk_iff]
structure Settings.Carries (s t : Settings) : Prop where
  description : Kept t.description s.description
  homepage : Kept t.homepage s.homepage
  isPrivate : Kept t.isPrivate s.isPrivate
  visibility : Kept t.visibility s.visibility
  hasIssues : Kept t.hasIssues s.hasIssues
  hasProjects : Kept t.hasProjects s.hasProjects
  hasWiki : Kept t.hasWiki s.hasWiki
  isTemplate : Kept t.isTemplate s.isTemplate
  teamId : Kept t.teamId s.teamId
  gitignoreTemplate : Kept t.gitignoreTemplate s.gitignoreTemplate
  licenseTemplate : Kept t.licenseTemplate s.licenseTemplate
  allowSquashMerge : Kept t.allowSquashMerge s.allowSquashMerge
  allowMergeCommit : Kept t.allowMergeCommit s.allowMergeCommit
  allowRebaseMerge : Kept t.allowRebaseMerge s.allowRebaseMerge
  deleteBranchOnMerge : Kept t.deleteBranchOnMerge s.deleteBranchOnMerge
  hasPages : Kept t.hasPages s.hasPages
  hasDownloads : Kept t.hasDownloads s.hasDownloads
  defaultBranch : Kept t.defaultBranch s.defaultBranch
  archived : Kept t.archived s.archived

/-- `s` and `s'` are alike in all that `t` sets, except for the first commit. -/
@[mk_iff]
structure Settings.AgreeOn (t s s' : Settings) : Prop where
  description : t.description ≠ none → s.description = s'.description
  homepage : t.homepage ≠ none → s.homepage = s'.homepage
  isPrivate : t.isPrivate ≠ none → s.isPrivate = s'.isPrivate
  visibility : t.visibility ≠ none → s.visibility = s'.visibility
  hasIssues : t.hasIssues ≠ none → s.hasIssues = s'.hasIssues
  hasProjects : t.hasProjects ≠ none → s.hasProjects = s'.hasProjects
  hasWiki : t.hasWiki ≠ none → s.hasWiki = s'.hasWiki
  isTemplate : t.isTemplate ≠ none → s.isTemplate = s'.isTemplate
  teamId : t.teamId ≠ none → s.teamId = s'.teamId
  gitignoreTemplate : t.gitignoreTemplate ≠ none → s.gitignoreTemplate = s'.gitignoreTemplate
  licenseTemplate : t.licenseTemplate ≠ none → s.licenseTemplate = s'.licenseTemplate
  allowSquashMerge : t.allowSquashMerge ≠ none → s.allowSquashMerge = s'.allowSquashMerge
  allowMergeCommit : t.allowMergeCommit ≠ none → s.allowMergeCommit = s'.allowMergeCommit
  allowRebaseMerge : t.allowRebaseMerge ≠ none → s.allowRebaseMerge = s'.allowRebaseMerge
  deleteBranchOnMerge :
    t.deleteBranchOnMerge ≠ none → s.deleteBranchOnMerge = s'.deleteBranchOnMerge
  hasPages : t.hasPages ≠ none → s.hasPages = s'.hasPages
  hasDownloads : t.hasDownloads ≠ none → s.hasDownloads = s'.hasDownloads
  defaultBranch : t.defaultBranch ≠ none → s.defaultBranch = s'.defaultBranch
  archived : t.archived ≠ none → s.archived = s'.archived

namespace Settings

variable {s t u : Settings}

theorem Carries.trans (hst : s.Carries t) (htu : t.Carries u) : s.Carries u where
  description := htu.description.trans hst.description
  homepage := htu.homepage.trans hst.homepage
  isPrivate := htu.isPrivate.trans hst.isPrivate
  visibility := htu.visibility.trans hst.visibility
  hasIssues := htu.hasIssues.trans hst.hasIssues
  hasProjects := htu.hasProjects.trans hst.hasProjects
  hasWiki := htu.hasWiki.trans hst.hasWiki
  isTemplate := htu.isTemplate.trans hst.isTemplate
  teamId := htu.teamId.trans hst.teamId
  gitignoreTemplate := htu.gitignoreTemplate.trans hst.gitignoreTemplate
  licenseTemplate := htu.licenseTemplate.trans hst.licenseTemplate
  allowSquashMerge := htu.allowSquashMerge.trans hst.allowSquashMerge
  allowMergeCommit := htu.allowMergeCommit.trans hst.allowMergeCommit
  allowRebaseMerge := htu.allowRebaseMerge.trans hst.allowRebaseMerge
  deleteBranchOnMerge := htu.deleteBranchOnMerge.trans hst.deleteBranchOnMerge
  hasPages := htu.hasPages.trans hst.hasPages
  hasDownloads := htu.hasDownloads.trans hst.hasDownloads
  defaultBranch := htu.defaultBranch.trans hst.defaultBranch
  archived := htu.archived.trans hst.archived

/-- A merge carries what its first side sets. -/
theorem carries_orElse : (s.orElse t).Carries s := by
  simp [carries_iff, orElse, kept_or_left]

/-- Laying `t` over `s` changes nothing that lasts just if `s` carries `t`. -/
theorem lasting_orElse_eq_iff : (t.orElse s).lasting = s.lasting ↔ s.Carries t := by
  simp [carries_iff, kept_iff_or_eq, lasting, orElse]

/-- What is filled in from `s` is carried by `s`. -/
theorem carries_orElse_self : s.Carries (t.orElse s) ↔ s.Carries t := by
  simp [carries_iff, orElse]

/-- With the same default branch on both sides, only the other settings count. -/
theorem carries_with_defaultBranch {branch : Option String} (h : t.defaultBranch = none) :
    { s with defaultBranch := branch }.Carries { t.orElse s with defaultBranch := branch } ↔
      s.Carries t := by
  simp [carries_iff, orElse, h]

/-- The first commit does not count. -/
@[simp] theorem carries_lasting : s.Carries t.lasting ↔ s.Carries t := by
  simp [carries_iff, lasting]

/-- Only the settings that are wanted count. -/
theorem AgreeOn.carries_iff (h : t.AgreeOn s u) : s.Carries t ↔ u.Carries t := by
  simp only [Settings.carries_iff, kept_congr h.description, kept_congr h.homepage,
    kept_congr h.isPrivate, kept_congr h.visibility, kept_congr h.hasIssues,
    kept_congr h.hasProjects, kept_congr h.hasWiki, kept_congr h.isTemplate, kept_congr h.teamId,
    kept_congr h.gitignoreTemplate, kept_congr h.licenseTemplate, kept_congr h.allowSquashMerge,
    kept_congr h.allowMergeCommit, kept_congr h.allowRebaseMerge, kept_congr h.deleteBranchOnMerge,
    kept_congr h.hasPages, kept_congr h.hasDownloads, kept_congr h.defaultBranch,
    kept_congr h.archived]

end Settings

end GitHubReconciler.Repository

/-- A repository but for its first commit, which GitHub honours only when it creates one. -/
def GitHubReconciler.Remote.Repository.lasting (r : Remote.Repository) : Remote.Repository :=
  { r with settings := r.settings.lasting }

/-- `r` agrees with all that the body of a call sets, except for the first commit. -/
structure GitHubReconciler.Remote.Repository.Carries (r body : Remote.Repository) : Prop where
  name : Repository.Kept body.name r.name
  settings : r.settings.Carries body.settings

namespace GitHubReconciler.Repository

/-! ## Drift -/

namespace Desired

/-- Two repositories are alike in all that a desired state wants: in the name, if it has one, and
    in the settings that it sets. -/
structure SeesAlike (d : Desired) (r r' : Remote.Repository) : Prop where
  name : d.name ≠ "" → r.name = r'.name
  settings : d.settings.AgreeOn r.settings r'.settings

variable {d d' : Desired} {r r' base : Remote.Repository} {ready : Option Condition}

/-- The exact condition for there to be no drift. -/
theorem isMetBy_iff :
    d.isMetBy r = true ↔ (d.name = "" ∨ r.name = some d.name) ∧ r.settings.Carries d.settings := by
  have hname : (d.applyTo r).name = r.name ↔ d.name = "" ∨ r.name = some d.name := by
    unfold applyTo
    by_cases h : d.name = ""
    · simp [h]
    · simp [h, eq_comm]
  rw [isMetBy, Bool.and_eq_true, beq_iff_eq, beq_iff_eq, hname]
  exact and_congr_right' Settings.lasting_orElse_eq_iff

/-- There is no drift just if laying the desired state over the repository gives the same
    repository back, but for the first commit. -/
theorem isMetBy_iff_lasting_eq : d.isMetBy r = true ↔ (d.applyTo r).lasting = r.lasting := by
  rw [isMetBy, Bool.and_eq_true, beq_iff_eq, beq_iff_eq]
  constructor
  · rintro ⟨hname, hsettings⟩
    change { r with name := (d.applyTo r).name, settings := (d.applyTo r).settings.lasting } = _
    rw [hname, hsettings]
    rfl
  · intro h
    exact ⟨congrArg (·.name) h, congrArg (·.settings) h⟩

/-- Only the name and the settings that are wanted count, on both sides. -/
theorem isMetBy_congr (hname : d'.name = d.name)
    (hsettings : d'.settings.lasting = d.settings.lasting) (halike : d.SeesAlike r r') :
    d'.isMetBy r' = d.isMetBy r := by
  have hnames : (d.name = "" ∨ r'.name = some d.name) ↔ (d.name = "" ∨ r.name = some d.name) :=
    Decidable.or_congr_right' fun h => by rw [halike.name h]
  have hcarries : r'.settings.Carries d'.settings ↔ r.settings.Carries d.settings := by
    rw [← Settings.carries_lasting, hsettings, Settings.carries_lasting,
      halike.settings.carries_iff]
  rw [Bool.eq_iff_iff, isMetBy_iff, isMetBy_iff, hname, hnames, hcarries]

/-- A repository that the desired state was laid over is as desired. -/
theorem isMetBy_applyTo : d.isMetBy (d.applyTo r) = true := by
  refine isMetBy_iff.mpr ⟨?_, Settings.carries_orElse⟩
  by_cases h : d.name = ""
  · exact .inl h
  · exact .inr (if_neg h)

/-- The verdict on drift is the comparison of the repository with the merge, and it is exactly that
    the name and the settings that are wanted are there. So nothing else counts on either side, and
    there is nothing to edit after a merge. -/
theorem verdict_exact (d : Desired) (r : Remote.Repository) :
    (d.isMetBy r = true ↔ (d.applyTo r).lasting = r.lasting) ∧
    (d.isMetBy r = true ↔
      (d.name = "" ∨ r.name = some d.name) ∧ r.settings.Carries d.settings) ∧
    (∀ (d' : Desired) (r' : Remote.Repository), d'.name = d.name →
      d'.settings.lasting = d.settings.lasting → d.SeesAlike r r' →
      d'.isMetBy r' = d.isMetBy r) ∧
    d.isMetBy (d.applyTo r) = true :=
  ⟨isMetBy_iff_lasting_eq, isMetBy_iff, fun _ _ => isMetBy_congr, isMetBy_applyTo⟩

/-- Another owner, organization, template and first commit do not count, nor do issues, about which
    the desired state says nothing. -/
theorem verdict_exact_elsewhere :
    let d : Desired := { owner := "acme", name := "demo", settings := { hasWiki := some true } }
    let d' : Desired :=
      { owner := "other", name := "demo", organization := some "other", template := some ⟨"a/b"⟩
        settings := { hasWiki := some true, autoInit := some true } }
    let r : Remote.Repository := { name := some "demo", settings := { hasWiki := some false } }
    let r' : Remote.Repository :=
      { name := some "demo", fork := some true
        settings := { hasWiki := some false, hasIssues := some true, autoInit := some false } }
    d'.isMetBy r' = d.isMetBy r := by
  intro d d' r r'
  obtain ⟨-, -, hcongr, -⟩ := verdict_exact d r
  refine hcongr d' r' rfl rfl ⟨fun _ => rfl, ?_⟩
  simp [Settings.agreeOn_iff, d, r, r']

/-- Filling in leaves the name alone, and settings that are carried stay carried. -/
theorem isMetBy_fill : (d.fill r ready).1.isMetBy (d.fill r ready).2 = d.isMetBy r := by
  rw [Bool.eq_iff_iff, isMetBy_iff, isMetBy_iff]
  unfold fill
  dsimp only
  split
  next h =>
    simp only [Bool.and_eq_true, Option.isNone_iff_eq_none] at h
    simp only [adoptTemplateBranch]
    rw [Settings.carries_with_defaultBranch h.2]
  next =>
    rw [Settings.carries_orElse_self]

/-- A repository that carries a body that was merged from a desired state is as desired. -/
theorem isMetBy_of_carries (hname : Kept (d.applyTo base).name r.name)
    (hsettings : r.settings.Carries (d.applyTo base).settings) : d.isMetBy r = true := by
  refine isMetBy_iff.mpr ⟨?_, hsettings.trans Settings.carries_orElse⟩
  by_cases h : d.name = ""
  · exact .inl h
  · exact .inr (hname d.name (by simp [applyTo, h]))

/-! ## Filling in -/

/-- The default branch after filling in. -/
def filledBranch (set : Option String) (r : Remote.Repository) (ready : Option Condition) :
    Option String :=
  if isGenerating r ready && set.isNone then r.template.bind (·.settings.defaultBranch)
  else set.or r.settings.defaultBranch

/-- The desired state after filling in, field by field. -/
theorem fill_fst : (d.fill r ready).1 =
    { d with
      organization := d.organization.or (owningOrganization r)
      settings :=
        { d.settings.orElse r.settings with
          defaultBranch := filledBranch d.settings.defaultBranch r ready }
      template := (templateOf r).or d.template } := by
  unfold fill filledBranch
  dsimp only
  split
  · rfl
  · rfl

/-- What is laid over the repository after filling in is what the desired state sets itself: all
    that was filled in is there already. -/
theorem applyTo_fill :
    (d.fill r ready).1.applyTo (d.fill r ready).2 = d.applyTo (d.fill r ready).2 := by
  have hname : (d.fill r ready).1.name = d.name := by
    rw [fill_fst]
  have hsettings :
      (d.fill r ready).1.settings.orElse (d.fill r ready).2.settings =
        d.settings.orElse (d.fill r ready).2.settings := by
    unfold fill
    dsimp only
    split
    next h =>
      -- The branch of the template, if it has one, is on both sides.
      simp only [Bool.and_eq_true, Option.isNone_iff_eq_none] at h
      simp [adoptTemplateBranch, Settings.orElse, h.2, Option.or_assoc]
    next =>
      rw [Settings.orElse_assoc, Settings.orElse_self]
  simp only [applyTo, hname, hsettings]

/-- Filling in changes neither the verdict on drift nor the body of an edit. -/
theorem fill_neutral (d : Desired) (r : Remote.Repository) (ready : Option Condition) :
    let filled := d.fill r ready
    filled.1.isMetBy filled.2 = d.isMetBy r ∧ filled.1.applyTo filled.2 = d.applyTo filled.2 :=
  ⟨isMetBy_fill, applyTo_fill⟩

end Desired

end GitHubReconciler.Repository
