-- SUMMARY: An observation that finds what the one before it found takes nothing more over into the specification, but for a default branch that was awaited from a template (`second_learns_nothing`).
import GitHubReconciler.Proofs.Repository.Convergence
import GitHubReconciler.Proofs.Repository.Filling
import GitHubReconciler.Proofs.Repository.Reporting

/-!
# Learning from repositories

An observation learns what it fills in. The next one starts from what the first has left behind: the
specification that was filled in, and the mark that the resource is available. Because of the mark
it goes by other rules for the default branch, so that it can learn something although GitHub
reports the same repository. That is so in one case only, which is `Awaiting`: while the resource
was being created, the branch was to come from the template, and the template had none.
-/

namespace GitHubReconciler.Repository

open Operation

variable {now : String} {o p : RepositoryObject} {r' : Resource} {found : Remote.Repository}
  {branch : String} {xs : List Exchange} {result : Except Failure Observation}

/-! ## Filling in under another mark -/

/-- Set the default branch. -/
def Desired.withBranch (d : Desired) (branch : Option String) : Desired :=
  { d with settings := { d.settings with defaultBranch := branch } }

/-- Filling in from the same repository again changes at most the default branch, whatever the
    resource is marked as. -/
theorem Desired.fill_again {d : Desired} {r : Remote.Repository} {ready ready' : Option Condition} :
    let filled := (d.fill r ready).1
    (filled.fill r ready').1 =
      filled.withBranch (filledBranch filled.settings.defaultBranch r ready') := by
  have htemplate :
      (templateOf r).or ((templateOf r).or d.template) = (templateOf r).or d.template := by
    rw [← Option.or_assoc, Option.or_self]
  simp [fill_fst, withBranch, Settings.orElse, Option.or_assoc, htemplate]

/-- The resource was being created, from a template without a default branch, when it was filled in
    from a repository that has the default branch. -/
structure Awaiting (o : RepositoryObject) (found : Remote.Repository) (branch : String) : Prop where
  unset : o.desired.settings.defaultBranch = none
  generating : Generating found o.ready?
  missing : templateBranch found = none
  reported : found.settings.defaultBranch = some branch

/-- This is the only way in which filling in leaves a default branch out that GitHub reports. -/
theorem awaiting_iff :
    Awaiting o found branch ↔
      (filling o found).1.settings.defaultBranch = none ∧
        found.settings.defaultBranch = some branch := by
  have hfilled : (filling o found).1.settings.defaultBranch =
      o.desired.settings.defaultBranch.or
        (if Generating found o.ready? then templateBranch found
          else found.settings.defaultBranch) := by
    rw [filling, Desired.fill_fst]
    exact Desired.filledBranch_eq
  rw [hfilled, Option.or_eq_none_iff]
  constructor
  · rintro ⟨hunset, hgenerating, hmissing, hreported⟩
    rw [if_pos hgenerating]
    exact ⟨⟨hunset, hmissing⟩, hreported⟩
  · rintro ⟨⟨hunset, hmissing⟩, hreported⟩
    split at hmissing
    next hgenerating => exact ⟨hunset, hgenerating, hmissing, hreported⟩
    next => cases hmissing.symm.trans hreported

/-- A resource that was observed is not marked as being created any more. -/
theorem not_generating_settled : ¬ Generating found (settled now o found).ready? := by
  obtain ⟨c, hready, hstate⟩ :=
    ready_recording now (o.withDesired (filling o found).1) (filling o found).2
  rintro ⟨hreason, -⟩
  rw [settled, hready, Option.bind_some, (Condition.sameState_ready_iff.mp hstate).reason_eq]
    at hreason
  exact absurd hreason (by decide)

/-- What the next observation fills in. -/
theorem filling_settled :
    (filling (settled now o found) found).1 =
      (filling o found).1.withBranch
        ((filling o found).1.settings.defaultBranch.or found.settings.defaultBranch) := by
  change ((filling o found).1.fill found (settled now o found).ready?).1 = _
  rw [filling, Desired.fill_again, Desired.filledBranch_eq, if_neg not_generating_settled]

/-- Unless a branch is awaited, the next observation finds the specification full. -/
theorem filling_settled_of_not_awaiting (h : ∀ branch, ¬ Awaiting o found branch) :
    (filling (settled now o found) found).1 = (settled now o found).desired := by
  rw [filling_settled]
  cases hset : (filling o found).1.settings.defaultBranch with
  | some set =>
    rw [Option.some_or, ← hset]
    rfl
  | none =>
    cases hreported : found.settings.defaultBranch with
    | some branch => exact absurd (awaiting_iff.mpr ⟨hset, hreported⟩) (h branch)
    | none =>
      rw [Option.or_none, ← hset]
      rfl

/-- A branch that is awaited is filled in by the next observation. -/
theorem Awaiting.filling_settled (h : Awaiting o found branch) :
    (filling (settled now o found) found).1 = (settled now o found).desired.withBranch branch ∧
      (filling (settled now o found) found).1 ≠ (settled now o found).desired := by
  obtain ⟨hset, hreported⟩ := awaiting_iff.mp h
  have hfilled : (filling (settled now o found) found).1 =
      (settled now o found).desired.withBranch branch := by
    rw [Repository.filling_settled, hset, hreported]
    rfl
  refine ⟨hfilled, fun hfull => ?_⟩
  have hbranch : some branch = (filling o found).1.settings.defaultBranch :=
    congrArg (·.settings.defaultBranch) (hfilled.symm.trans hfull)
  cases hbranch.trans hset

/-! ## What an observation learns -/

theorem Settling.eq_of_full (h : Settling now o found xs result r')
    (hfull : (filling o found).1 = o.desired) :
    xs = [] ∧ ∃ upToDate, result = .ok ⟨true, upToDate, false⟩ := by
  cases h with
  | full => exact ⟨rfl, _, rfl⟩
  | unstored hfilled => exact absurd hfull hfilled
  | stored hfilled => exact absurd hfull hfilled
  | swapped hfilled => exact absurd hfull hfilled

theorem Settling.eq_of_filled (h : Settling now o found xs result r')
    (hfilled : (filling o found).1 ≠ o.desired)
    (hstore : ∀ q answer, (⟨.persist q, answer⟩ : Exchange) ∈ xs → answer = Except.ok q) :
    (∃ q, q = Resource.repository (o.withDesired (filling o found).1) ∧
      xs = [⟨.persist q, .ok q⟩]) ∧
      ∃ upToDate, result = .ok ⟨true, upToDate, true⟩ := by
  cases h with
  | full hfull => exact absurd hfull hfilled
  | unstored => cases hstore _ _ (List.mem_singleton_self _)
  | stored =>
    cases hstore _ _ (List.mem_singleton_self _)
    exact ⟨⟨_, rfl, rfl⟩, _, rfl⟩
  | swapped _ hkind =>
    cases hstore _ _ (List.mem_singleton_self _)
    exact absurd rfl hkind

section

variable {σ : Type} {world : Dialogue.World Call Call.Answer σ} {w : σ}

/-- What a run of an operation gives. -/
abbrev OperationRun (σ : Type) :=
  Dialogue.Run Call Call.Answer Note σ (Except Failure Outcome × Resource)

/-- An observation of `p` finds the repository, takes nothing over, writes nothing and leaves the
    specification as it was. -/
structure LearnsNothing (p : RepositoryObject) (run : OperationRun σ) : Prop where
  writes_eq : writes run.exchanges = []
  exists_spec_eq : ∃ upToDate q,
    run.value = (.ok (.observed ⟨true, upToDate, false⟩), .repository q) ∧ q.spec = p.spec

/-- An observation of `p` finds the repository, fills the desired state in to `filled`, writes that
    once and leaves it in the specification. -/
structure Learns (p : RepositoryObject) (filled : Desired) (run : OperationRun σ) : Prop where
  writes_eq : writes run.exchanges =
    [(.repository (p.withDesired filled), .ok (.repository (p.withDesired filled)))]
  exists_spec_eq : ∃ upToDate q,
    run.value = (.ok (.observed ⟨true, upToDate, true⟩), .repository q) ∧
      q.spec = { p.spec with forProvider := filled }

/-- An observation that finds a repository learns what there is to fill in. -/
theorem learns_of_found (now : String) (hstore : ∀ q s, (world (.persist q) s).1 = Except.ok q)
    (hfound : .ok found ∈
      lookUps ((client.converse .observe now (.repository p)).run world w).exchanges) :
    let run := (client.converse .observe now (.repository p)).run world w
    (∃ observation, run.value = (.ok (.observed observation), .repository (settled now p found))) ∧
    ((filling p found).1 = p.desired → LearnsNothing p run) ∧
    ((filling p found).1 ≠ p.desired → Learns p (filling p found).1 run) := by
  intro run
  obtain ⟨result, hvalue, hobserving⟩ :=
    observing_of_generates (Dialogue.generates_run world _ w : Dialogue.Generates _ _ run.value)
  obtain ⟨xs, ys, hsplit, hlook, hsettling⟩ := hobserving.settling_of_mem hfound
  have hlast : ∀ q answer, (⟨.persist q, answer⟩ : Exchange) ∈ ys → answer = Except.ok q := by
    intro q answer hmem
    obtain ⟨s, rfl⟩ :=
      (Dialogue.walk_run world _ w).exists_answer (hsplit ▸ List.mem_append_right xs hmem)
    exact hstore q s
  have hwrites : writes run.exchanges = writes ys := by
    rw [hsplit, writes_append, hlook.writes_eq_nil, List.nil_append]
  obtain ⟨⟨filledIn, hresult⟩, hresource⟩ := hsettling.eq_of_stores hlast
  refine ⟨⟨_, Prod.ext (hresult ▸ hvalue) hresource⟩, fun hfull => ?_, fun hfilled => ?_⟩
  · obtain ⟨rfl, upToDate, rfl⟩ := hsettling.eq_of_full hfull
    refine ⟨hwrites, upToDate, settled now p found, Prod.ext hvalue hresource, ?_⟩
    change { p.spec with forProvider := (filling p found).1 } = p.spec
    rw [hfull]
  · obtain ⟨⟨q, rfl, rfl⟩, upToDate, rfl⟩ := hsettling.eq_of_filled hfilled hlast
    exact ⟨hwrites, upToDate, settled now p found, Prod.ext hvalue hresource, rfl⟩

end

/-! ## The second observation -/

/-- After an observation that found a repository, the next one that finds it learns nothing. The one
    exception is a default branch that was awaited: it is learnt then, and nothing more after it. -/
theorem second_learns_nothing {σ : Type} (world : Dialogue.World Call Call.Answer σ) (v w x : σ)
    (o : RepositoryObject) (found : Remote.Repository) (first second third : String) :
    let observing := fun now r s => (client.converse .observe now r).run world s
    let run := observing first (.repository o) v
    let next := observing second run.value.2 w
    let last := observing third next.value.2 x
    (∀ q s, (world (.persist q) s).1 = Except.ok q) →
    .ok found ∈ lookUps run.exchanges → .ok found ∈ lookUps next.exchanges →
    ∃ observation p, run.value = (.ok (.observed observation), .repository p) ∧
      ((∀ branch, ¬ Awaiting o found branch) → LearnsNothing p next) ∧
      ∀ branch, Awaiting o found branch → Learns p (p.desired.withBranch branch) next ∧
        (.ok found ∈ lookUps last.exchanges →
          ∃ q, next.value.2 = .repository q ∧ LearnsNothing q last) := by
  intro observing run next last hstore hfound hagain
  obtain ⟨⟨observation, hrun⟩, -⟩ := learns_of_found first hstore hfound
  have hnext : next = observing second (.repository (settled first o found)) w := by
    change observing second run.value.2 w = _
    rw [hrun]
  rw [hnext] at hagain
  obtain ⟨⟨_, hsettled⟩, hnothing, hlearns⟩ := learns_of_found second hstore hagain
  refine ⟨observation, settled first o found, hrun, fun hnone => ?_, fun branch hawaiting => ?_⟩
  · rw [hnext]
    exact hnothing (filling_settled_of_not_awaiting hnone)
  obtain ⟨hfilled, hnew⟩ := hawaiting.filling_settled
  refine ⟨?_, fun honce => ?_⟩
  · rw [hnext]
    exact hfilled ▸ hlearns hnew
  -- The second observation has the mark that the first has left, so that nothing is awaited then.
  have hlast : last =
      observing third (.repository (settled second (settled first o found) found)) x := by
    change observing third next.value.2 x = _
    rw [hnext, hsettled]
  rw [hlast] at honce
  obtain ⟨-, hnothing, -⟩ := learns_of_found third hstore honce
  refine ⟨settled second (settled first o found) found, ?_, ?_⟩
  · rw [hnext, hsettled]
  · rw [hlast]
    exact hnothing (filling_settled_of_not_awaiting
      fun branch h => not_generating_settled h.generating)

/-- In a world with one repository every observation finds it. -/
theorem mem_lookUps_holding (r : Remote.Repository) (now : String) (q : RepositoryObject) :
    .ok r ∈ lookUps ((client.converse .observe now (.repository q)).run (holding r) ()).exchanges :=
  .head _

/-- A repository that was generated from a template whose default branch GitHub does not report. -/
def generated : Remote.Repository where
  name := some "demo"
  settings := { defaultBranch := some "main" }
  template := some { fullName := some "acme/base" }

/-- A declared repository that is being generated. -/
def pending : RepositoryObject where
  metadata := { name := some "demo" }
  spec := { forProvider := { owner := "acme", name := "demo", template := some ⟨"acme/base"⟩ } }
  status := some { conditions := [.ready .creating "before"], atProvider := default }

/-- The first observation waits for the branch of the template, the second takes that of the
    repository, and the third has nothing to learn. -/
theorem second_learns_nothing_generated :
    let observing := fun now r => (client.converse .observe now r).run (holding generated) ()
    let run := observing "first" (.repository pending)
    let next := observing "second" run.value.2
    let last := observing "third" next.value.2
    ∃ observation p q, run.value = (.ok (.observed observation), .repository p) ∧
      Learns p (p.desired.withBranch "main") next ∧
      next.value.2 = .repository q ∧ LearnsNothing q last := by
  intro observing run next last
  have hawaiting : Awaiting pending generated "main" := ⟨rfl, ⟨rfl, rfl⟩, rfl, rfl⟩
  have hstore : ∀ q s, (holding generated (.persist q) s).1 = Except.ok q := fun _ _ => rfl
  obtain ⟨observation, p, hrun, -, hlearns⟩ := second_learns_nothing (holding generated) () () ()
    pending generated "first" "second" "third" hstore (mem_lookUps_holding _ _ _)
    (mem_lookUps_holding _ _ _)
  obtain ⟨hnext, hlast⟩ := hlearns "main" hawaiting
  obtain ⟨_, q, hvalue, -⟩ := hnext.exists_spec_eq
  have hthird : .ok generated ∈ lookUps last.exchanges := by
    change _ ∈ lookUps (observing "third" next.value.2).exchanges
    rw [hvalue]
    exact mem_lookUps_holding generated "third" q
  obtain ⟨q, hq, hnothing⟩ := hlast hthird
  exact ⟨observation, p, q, hrun, hnext, hq, hnothing⟩

end GitHubReconciler.Repository
