-- SUMMARY: What filling in makes of a desired state and of a repository, part by part (`Desired.Filled`), and that it is neither more nor less and done once and for all (`Desired.fill_exact`).
import GitHubReconciler.Proofs.Repository.Drift

/-!
# Filling in

`Filled` says part by part what filling in makes of a desired state and of the repository that it is
filled in from. A part is completed: it stays where it is set, and is taken from the repository
otherwise. Three parts have rules of their own. The organization is taken only if one owns the
repository. The template goes the other way round: what GitHub names replaces what was set. And the
default branch is that of the template while the repository is being generated, on both sides.

Nothing is left open by this (`filled_iff_fill_eq`), and filling in again changes neither side, also
if the template has no default branch.
-/

namespace GitHubReconciler.Repository

variable {α : Type} {a b c : Option α}

/-! ## Completed settings -/

/-- `c` is what `a` becomes when it is completed from `b`. -/
structure Completed (a b c : Option α) : Prop where
  kept : Kept a c
  taken : a = none → c = b

theorem completed_iff_or_eq : Completed a b c ↔ a.or b = c := by
  constructor
  · intro h
    cases a with
    | none => exact (h.taken rfl).symm
    | some v => exact (h.kept v rfl).symm
  · rintro rfl
    refine ⟨kept_or_left, ?_⟩
    rintro rfl
    rfl

/-- What has been completed is complete. -/
theorem Completed.again (h : Completed a b c) : Completed c b c := by
  refine ⟨kept_refl, ?_⟩
  rintro rfl
  refine h.taken ?_
  cases a with
  | none => rfl
  | some v => exact (h.kept v rfl).symm

/-- Every setting of `u` but the default branch is that of `s`, completed from `t`. -/
@[mk_iff]
structure Settings.Completed (s t u : Settings) : Prop where
  description : Repository.Completed s.description t.description u.description
  homepage : Repository.Completed s.homepage t.homepage u.homepage
  isPrivate : Repository.Completed s.isPrivate t.isPrivate u.isPrivate
  visibility : Repository.Completed s.visibility t.visibility u.visibility
  hasIssues : Repository.Completed s.hasIssues t.hasIssues u.hasIssues
  hasProjects : Repository.Completed s.hasProjects t.hasProjects u.hasProjects
  hasWiki : Repository.Completed s.hasWiki t.hasWiki u.hasWiki
  isTemplate : Repository.Completed s.isTemplate t.isTemplate u.isTemplate
  teamId : Repository.Completed s.teamId t.teamId u.teamId
  autoInit : Repository.Completed s.autoInit t.autoInit u.autoInit
  gitignoreTemplate :
    Repository.Completed s.gitignoreTemplate t.gitignoreTemplate u.gitignoreTemplate
  licenseTemplate : Repository.Completed s.licenseTemplate t.licenseTemplate u.licenseTemplate
  allowSquashMerge : Repository.Completed s.allowSquashMerge t.allowSquashMerge u.allowSquashMerge
  allowMergeCommit : Repository.Completed s.allowMergeCommit t.allowMergeCommit u.allowMergeCommit
  allowRebaseMerge : Repository.Completed s.allowRebaseMerge t.allowRebaseMerge u.allowRebaseMerge
  deleteBranchOnMerge :
    Repository.Completed s.deleteBranchOnMerge t.deleteBranchOnMerge u.deleteBranchOnMerge
  hasPages : Repository.Completed s.hasPages t.hasPages u.hasPages
  hasDownloads : Repository.Completed s.hasDownloads t.hasDownloads u.hasDownloads
  archived : Repository.Completed s.archived t.archived u.archived

/-- Completing says nothing about the default branch, and determines all else. -/
theorem Settings.completed_iff_eq {s t u : Settings} :
    s.Completed t u ↔ { s.orElse t with defaultBranch := u.defaultBranch } = u := by
  cases u
  simp [Settings.completed_iff, completed_iff_or_eq, orElse]

theorem Settings.Completed.again {s t u : Settings} {branch : Option String}
    (h : s.Completed t u) : u.Completed { t with defaultBranch := branch } u where
  description := h.description.again
  homepage := h.homepage.again
  isPrivate := h.isPrivate.again
  visibility := h.visibility.again
  hasIssues := h.hasIssues.again
  hasProjects := h.hasProjects.again
  hasWiki := h.hasWiki.again
  isTemplate := h.isTemplate.again
  teamId := h.teamId.again
  autoInit := h.autoInit.again
  gitignoreTemplate := h.gitignoreTemplate.again
  licenseTemplate := h.licenseTemplate.again
  allowSquashMerge := h.allowSquashMerge.again
  allowMergeCommit := h.allowMergeCommit.again
  allowRebaseMerge := h.allowRebaseMerge.again
  deleteBranchOnMerge := h.deleteBranchOnMerge.again
  hasPages := h.hasPages.again
  hasDownloads := h.hasDownloads.again
  archived := h.archived.again

/-! ## Parts with rules of their own -/

/-- An organization owns the repository. -/
def OwnedByOrganization (r : Remote.Repository) : Prop :=
  r.owner.bind (·.type) = some "Organization"

/-- The repository is being generated: the resource is marked as being created, and GitHub names a
    template. -/
def Generating (r : Remote.Repository) (ready : Option Condition) : Prop :=
  ready.bind (·.reason) = some "Creating" ∧ r.template.isSome = true

/-- The default branch of the template that GitHub names. -/
def templateBranch (r : Remote.Repository) : Option String :=
  r.template.bind (·.settings.defaultBranch)

variable {d d' : Desired} {r r' : Remote.Repository} {ready : Option Condition}

instance : Decidable (OwnedByOrganization r) :=
  inferInstanceAs (Decidable (_ = _))

instance : Decidable (Generating r ready) :=
  inferInstanceAs (Decidable (_ ∧ _))

theorem owningOrganization_eq :
    Desired.owningOrganization r =
      if OwnedByOrganization r then r.organization.bind (·.login) else none := by
  have howned : r.owner.any (·.isOrganization) = true ↔ OwnedByOrganization r := by
    cases howner : r.owner with
    | none => simp [OwnedByOrganization, howner]
    | some account => simp [OwnedByOrganization, howner, Remote.Account.isOrganization]
  simp only [Desired.owningOrganization, howned]

theorem isGenerating_iff : Desired.isGenerating r ready = true ↔ Generating r ready := by
  cases ready with
  | none => simp [Desired.isGenerating, Generating]
  | some condition =>
    simp [Desired.isGenerating, Generating, Condition.hasReason, Condition.ReadyReason.text]

namespace Desired

/-! ## Filling in -/

/-- `d'` and `r'` are what becomes of a desired state and of the repository that it is filled in
    from. -/
@[mk_iff]
structure Filled (d : Desired) (r : Remote.Repository) (ready : Option Condition) (d' : Desired)
    (r' : Remote.Repository) : Prop where
  owner : d'.owner = d.owner
  name : d'.name = d.name
  organization :
    Completed d.organization (if OwnedByOrganization r then r.organization.bind (·.login) else none)
      d'.organization
  settings : d.settings.Completed r.settings d'.settings
  /-- The template that GitHub names comes before the one that is set. -/
  template :
    Completed ((r.template.bind (·.fullName)).map Reference.mk) d.template d'.template
  defaultBranch :
    Completed d.settings.defaultBranch
      (if Generating r ready then templateBranch r else r.settings.defaultBranch)
      d'.settings.defaultBranch
  /-- The repository is left alone, unless the branch of the template stands for its own. -/
  observed :
    r' =
      if Generating r ready ∧ d.settings.defaultBranch = none then
        { r with settings := { r.settings with defaultBranch := templateBranch r } }
      else r

/-- The default branch after filling in is completed from the template or from the repository. -/
theorem filledBranch_eq {set : Option String} :
    filledBranch set r ready =
      set.or (if Generating r ready then templateBranch r else r.settings.defaultBranch) := by
  unfold filledBranch
  by_cases hgenerating : Generating r ready
  · rw [if_pos hgenerating, isGenerating_iff.mpr hgenerating]
    cases set <;> rfl
  · rw [if_neg hgenerating, Bool.eq_false_iff.mpr (mt isGenerating_iff.mp hgenerating)]
    rfl

/-- The repository after filling in. -/
theorem fill_snd : (d.fill r ready).2 =
    if Generating r ready ∧ d.settings.defaultBranch = none then
      { r with settings := { r.settings with defaultBranch := templateBranch r } }
    else r := by
  have hadopts : (isGenerating r ready && d.settings.defaultBranch.isNone) = true ↔
      Generating r ready ∧ d.settings.defaultBranch = none := by
    rw [Bool.and_eq_true, isGenerating_iff, Option.isNone_iff_eq_none]
  unfold fill
  simp only [hadopts]
  split
  · rfl
  · rfl

/-- `Filled` holds of what filling in gives, and of nothing else. -/
theorem filled_iff_fill_eq : d.Filled r ready d' r' ↔ d.fill r ready = (d', r') := by
  rw [Prod.ext_iff, fill_fst, fill_snd, filled_iff]
  cases d'
  simp only [Settings.completed_iff_eq, completed_iff_or_eq, Desired.mk.injEq, filledBranch_eq,
    owningOrganization_eq, templateOf]
  constructor
  · rintro ⟨rfl, rfl, rfl, hsettings, rfl, hbranch, rfl⟩
    rw [hbranch]
    exact ⟨⟨rfl, rfl, rfl, hsettings, rfl⟩, rfl⟩
  · rintro ⟨⟨rfl, rfl, rfl, rfl, rfl⟩, rfl⟩
    exact ⟨rfl, rfl, rfl, rfl, rfl, rfl, rfl⟩

/-- At most the default branch of the repository changes. -/
theorem Filled.exists_branch (h : d.Filled r ready d' r') :
    ∃ branch,
      branch = (if Generating r ready ∧ d.settings.defaultBranch = none then templateBranch r
        else r.settings.defaultBranch) ∧
      r' = { r with settings := { r.settings with defaultBranch := branch } } := by
  refine ⟨_, rfl, ?_⟩
  rw [h.observed]
  split
  · rfl
  · cases r
    rfl

/-- What has been filled in is filled in. -/
theorem Filled.again (h : d.Filled r ready d' r') : d'.Filled r' ready d' r' := by
  obtain ⟨branch, hbranch, rfl⟩ := h.exists_branch
  have hcompleted := h.defaultBranch.again
  -- Apart from its default branch the repository is as before, so the same rules apply to it.
  refine
    { owner := rfl
      name := rfl
      organization := h.organization.again
      settings := h.settings.again
      template := ⟨h.template.kept, fun _ => rfl⟩
      defaultBranch := ?_
      observed := ?_ }
  · change Completed _ (if Generating r ready then templateBranch r else branch) _
    by_cases hgenerating : Generating r ready
    · rwa [if_pos hgenerating] at hcompleted ⊢
    · rw [if_neg fun h => hgenerating h.1] at hbranch
      rw [if_neg hgenerating] at hcompleted ⊢
      rwa [hbranch]
  · split
    next hagain =>
      have hunset : d.settings.defaultBranch = none :=
        Option.eq_none_iff_forall_ne_some.mpr fun v hv => by
          cases hagain.2.symm.trans (h.defaultBranch.kept v hv)
      rw [hbranch, if_pos ⟨hagain.1, hunset⟩]
      rfl
    next => rfl

/-- Filling in gives what `Filled` says and nothing else, and filling in again changes neither the
    desired state nor the repository. -/
theorem fill_exact (d : Desired) (r : Remote.Repository) (ready : Option Condition) :
    (∀ d' r', d.fill r ready = (d', r') ↔ d.Filled r ready d' r') ∧
    let filled := d.fill r ready
    filled.1.fill filled.2 ready = filled :=
  ⟨fun _ _ => filled_iff_fill_eq.symm,
    filled_iff_fill_eq.mp (filled_iff_fill_eq.mpr rfl).again⟩

end Desired

end GitHubReconciler.Repository
