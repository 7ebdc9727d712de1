-- SUMMARY: When an observation takes the default branch of the template (`Sighting.Adopts`): only while a creation is pending that the repository was not found after (`adoption_window`).
import GitHubReconciler.Proofs.Readiness
import GitHubReconciler.Proofs.Repository.Filling

/-!
# Taking the branch of a template

Just after a repository was generated GitHub reports a default branch that is about to change. So
an observation takes the branch of the template instead, and overwrites what GitHub reports, if the
desired state leaves the branch open. The only trace of the creation is the reason of the `Ready`
condition. That reason is as good as the history of the session (`beingCreated_iff_pending`): a
creation sets it, an observation that finds the repository takes it away, and nothing else touches
it, however often the branch is cleared again.
-/

namespace GitHubReconciler

/-! ## Being created -/

/-- The `Ready` condition says that the external object is being created. -/
def Resource.BeingCreated (r : Resource) : Prop :=
  r.ready?.bind (·.reason) = some "Creating"

namespace Session

/-- The turn is a creation that has ended well. -/
def Turn.creates (t : Turn) : Bool :=
  match t.report.result with
  | some (.ok (.created _)) => true
  | _ => false

/-- The turn is an observation that reports the external object as existing. -/
def Turn.finds (t : Turn) : Bool :=
  match t.report.result with
  | some (.ok (.observed observation)) => observation.resourceExists
  | _ => false

/-- A creation is pending after some turns of a session: the external object has not been found
    since. -/
inductive Pending (state : State) : List Turn → Prop where
  /-- It is one of the turns. -/
  | created {before after : List Turn} {t : Turn} :
      t.creates = true → (∀ u ∈ after, u.finds = false) → Pending state (before ++ t :: after)
  /-- It was pending from the start. -/
  | initial {turns : List Turn} :
      state.resource.BeingCreated → (∀ u ∈ turns, u.finds = false) → Pending state turns

/-- An observation is no creation. -/
theorem Turn.creates_eq_false_of_finds {t : Turn} (h : t.finds = true) : t.creates = false := by
  unfold Turn.finds at h
  unfold Turn.creates
  split at h
  next observation heq => rw [heq]
  next => cases h

variable {σ : Type} {world : Dialogue.World Call Call.Answer σ} {others : σ → σ → Prop}
  {state state' : State} {w w' : σ} {turns : List Turn} {t : Turn}

theorem pending_nil_iff : Pending state [] ↔ state.resource.BeingCreated := by
  constructor
  · intro h
    generalize hnil : ([] : List Turn) = turns at h
    cases h with
    | created => simp at hnil
    | initial hstart => exact hstart
  · exact fun h => .initial h (by simp)

/-- What a further turn makes of it. -/
theorem pending_snoc_iff :
    Pending state (turns ++ [t]) ↔
      t.creates = true ∨ t.finds = false ∧ Pending state turns := by
  constructor
  · intro h
    generalize hturns : turns ++ [t] = all at h
    cases h with
    | @created before after u hcreates hafter =>
      rcases List.eq_nil_or_concat after with rfl | ⟨rest, last, rfl⟩
      · obtain ⟨-, heq⟩ := List.append_inj' hturns rfl
        cases heq
        exact .inl hcreates
      · rw [List.concat_eq_append, ← List.cons_append, ← List.append_assoc] at hturns
        obtain ⟨rfl, heq⟩ := List.append_inj' hturns rfl
        cases heq
        rw [List.concat_eq_append, List.forall_mem_append] at hafter
        exact .inr ⟨hafter.2 t (by simp), .created hcreates hafter.1⟩
    | initial hstart hnone =>
      subst hturns
      rw [List.forall_mem_append] at hnone
      exact .inr ⟨hnone.2 t (by simp), .initial hstart hnone.1⟩
  · rintro (hcreates | ⟨hfinds, hpending⟩)
    · exact .created hcreates (by simp)
    · cases hpending with
      | created hcreates hafter =>
        rw [List.append_assoc, List.cons_append]
        exact .created hcreates (List.forall_mem_append.mpr ⟨hafter, by simpa using hfinds⟩)
      | initial hstart hnone =>
        exact .initial hstart (List.forall_mem_append.mpr ⟨hnone, by simpa using hfinds⟩)

/-- Without a creation nothing is pending that was not from the start. -/
theorem Pending.exists_creates (h : Pending state turns) (hstart : ¬ state.resource.BeingCreated) :
    ∃ t ∈ turns, t.creates = true := by
  cases h with
  | @created before after t hcreates _ => exact ⟨t, by simp, hcreates⟩
  | initial hinitial => exact absurd hinitial hstart

/-! ## Step by step -/

/-- Creations and findings are the only turns that set a state of `Ready`. -/
theorem readinessSet_repository :
    t.readinessSet .repository =
      if t.creates then some .creating else if t.finds then some .available else none := by
  unfold Turn.readinessSet Turn.creates Turn.finds
  cases t.report.result with
  | none => rfl
  | some result =>
    cases result with
    | error failure => rfl
    | ok outcome =>
      cases outcome with
      | observed observation => rfl
      | created nameAssigned => rfl
      | updated => rfl
      | deleted => rfl

theorem beingCreated_of_conditions_eq {now : String} {r r' : Resource}
    (h : r'.conditions = Condition.mark (t.readinessSet .repository) now r.conditions) :
    r'.BeingCreated ↔ t.creates = true ∨ t.finds = false ∧ r.BeingCreated := by
  unfold Resource.BeingCreated Resource.ready?
  rw [h, readinessSet_repository]
  cases t.creates with
  | true => simp [Condition.reason_find?_mark, Condition.ReadyReason.text]
  | false =>
    cases t.finds with
    | true => simp [Condition.reason_find?_mark, Condition.ReadyReason.text]
    | false => simp [Condition.mark]

/-- The `Ready` condition says so just if a creation is pending. -/
theorem beingCreated_iff_pending (hrun : Run .repository world others state w turns state' w')
    (hsteps : ∀ t ∈ turns, ∀ r, t.step ≠ .setResource r)
    (hstore : Repository.StoresOrFails (exchanges turns)) :
    state'.resource.BeingCreated ↔ Pending state turns := by
  induction hrun with
  | start => exact pending_nil_iff.symm
  | turn s now seconds hrun hstep ih =>
    rw [exchanges_snoc] at hstore
    have hs := hsteps _ (List.mem_append_right _ (List.mem_singleton_self _))
    rw [beingCreated_of_conditions_eq (conditions_eq_of_step hstep hs hstore.right),
      pending_snoc_iff, ih (fun t ht => hsteps t (List.mem_append_left _ ht)) hstore.left]
  | disturbed hrun hothers ih => exact ih hsteps hstore

/-! ## Observations that find the repository -/

/-- After a repository was found the desired state is as it was filled in, and the verdict is on
    this and on the repository after filling in, whether or not the write to the cluster fails. -/
theorem exists_desired_eq_of_settling {now : String} {o : RepositoryObject}
    {found : Remote.Repository} {xs : List Exchange} {result : Except Failure Observation}
    {r' : Resource} (h : Repository.Settling now o found xs result r')
    (hstore : Repository.StoresOrFails xs) :
    ∃ p, r' = .repository p ∧ p.desired = (Repository.filling o found).1 ∧
      ∀ observation, result = .ok observation →
        observation.upToDate = p.desired.isMetBy (Repository.filling o found).2 := by
  cases h with
  | full hfull =>
    refine ⟨_, rfl, hfull.symm, ?_⟩
    rintro _ ⟨⟩
    rfl
  | unstored => exact ⟨_, rfl, rfl, by simp⟩
  | stored =>
    cases (hstore _ _ (List.mem_singleton_self _)).resolve_left (by simp)
    refine ⟨_, rfl, rfl, ?_⟩
    rintro _ ⟨⟩
    rfl
  | swapped _ hkind =>
    cases (hstore _ _ (List.mem_singleton_self _)).resolve_left (by simp)
    exact absurd rfl hkind

/-- An observation in a session that finds a repository. -/
structure Sighting (world : Dialogue.World Call Call.Answer σ) (state : State) (w : σ)
    (state' : State) (w' : σ) where
  object : RepositoryObject
  found : Remote.Repository
  now : String
  seconds : Float
  report : Report
  resource_eq : state.resource = .repository object
  step_eq : step .repository world now seconds (.perform .observe) state w = (report, state', w')
  mem_lookUps : .ok found ∈ lookUps report.exchanges

namespace Sighting

open Repository

variable (x : Sighting world state w state' w')

/-- The turn of the session. -/
def turn : Turn :=
  ⟨.perform .observe, x.now, x.seconds, x.report⟩

/-- The observation takes the default branch of the template. -/
def Adopts : Prop :=
  Generating x.found x.object.ready? ∧ x.object.desired.settings.defaultBranch = none

instance : Decidable x.Adopts :=
  inferInstanceAs (Decidable (_ ∧ _))

/-- The default branch that the observation goes by. -/
def branch : Option String :=
  if x.Adopts then templateBranch x.found else x.found.settings.defaultBranch

/-- The repository with that branch for its own. -/
def seen : Remote.Repository :=
  { x.found with settings := { x.found.settings with defaultBranch := x.branch } }

theorem adopts_iff : x.Adopts ↔
    x.found.template.isSome = true ∧ x.object.desired.settings.defaultBranch = none ∧
      state.resource.BeingCreated := by
  have hready : state.resource.ready? = x.object.ready? := by
    rw [x.resource_eq]
    rfl
  rw [Adopts, Generating, Resource.BeingCreated, hready, and_assoc, and_comm, and_assoc]

/-- The branch is taken on both sides. -/
theorem filling_eq :
    (filling x.object x.found).1.settings.defaultBranch =
      x.object.desired.settings.defaultBranch.or x.branch ∧
    (filling x.object x.found).2 = x.seen := by
  have hfilled : x.object.desired.Filled x.found x.object.ready? (filling x.object x.found).1
      (filling x.object x.found).2 :=
    Desired.filled_iff_fill_eq.mpr rfl
  refine ⟨?_, ?_⟩
  · rw [← completed_iff_or_eq.mp hfilled.defaultBranch]
    cases hset : x.object.desired.settings.defaultBranch with
    | some branch => rfl
    | none => simp [branch, Adopts, hset]
  · obtain ⟨branch, rfl, heq⟩ := hfilled.exists_branch
    exact heq

/-- What the observation does with the repository that it has found. -/
theorem exists_settling : ∃ xs result,
    x.report.result = some (.observed <$> result) ∧
      Settling x.now x.object x.found xs result state'.resource ∧
      (StoresOrFails x.report.exchanges → StoresOrFails xs) := by
  obtain ⟨result, hresult, hgenerates, -⟩ := generates_of_step x.step_eq
  rw [x.resource_eq] at hgenerates
  obtain ⟨observed, rfl, hobserving⟩ := observing_of_generates hgenerates
  obtain ⟨ys, zs, heq, -, hsettling⟩ := hobserving.settling_of_mem x.mem_lookUps
  refine ⟨zs, observed, hresult, hsettling, fun hstore => ?_⟩
  rw [heq] at hstore
  exact hstore.right

/-- The desired state takes the branch if it leaves it open, and the verdict goes by the repository
    with that branch. -/
theorem exists_desired_eq (hstore : StoresOrFails x.report.exchanges) :
    ∃ p, state'.resource = .repository p ∧
      p.desired.settings.defaultBranch = x.object.desired.settings.defaultBranch.or x.branch ∧
      ∀ observation, x.report.result = some (.ok (.observed observation)) →
        observation.upToDate = p.desired.isMetBy x.seen := by
  obtain ⟨xs, result, hresult, hsettling, hstored⟩ := x.exists_settling
  obtain ⟨hbranch, hseen⟩ := x.filling_eq
  obtain ⟨p, hresource, hdesired, hverdict⟩ := exists_desired_eq_of_settling hsettling
    (hstored hstore)
  refine ⟨p, hresource, by rw [hdesired, hbranch], ?_⟩
  intro observation hok
  rw [← hseen]
  apply hverdict
  cases result with
  | error failure => cases hresult.symm.trans hok
  | ok reported =>
    cases hresult.symm.trans hok
    rfl

/-- An observation that ends well reports what it has found as existing. -/
theorem finds_of_ok {outcome : Outcome} (h : x.report.result = some (.ok outcome)) :
    x.turn.finds = true := by
  obtain ⟨xs, result, hresult, hsettling, -⟩ := x.exists_settling
  cases result with
  | error failure => cases hresult.symm.trans h
  | ok observation =>
    unfold Turn.finds turn
    rw [hresult]
    exact hsettling.resourceExists_eq_true

/-- The repository is not being created any more once it has been reported as existing. -/
theorem not_beingCreated_of_ok {outcome : Outcome} (h : x.report.result = some (.ok outcome))
    (hstore : StoresOrFails x.report.exchanges) : ¬ state'.resource.BeingCreated := by
  have hfinds := x.finds_of_ok h
  have hs : ∀ r, Step.perform .observe ≠ .setResource r := by simp
  rw [beingCreated_of_conditions_eq (t := x.turn) (conditions_eq_of_step x.step_eq hs hstore)]
  simp [hfinds, Turn.creates_eq_false_of_finds hfinds]

end Sighting

/-! ## The window -/

/-- An observation takes the default branch of the template just if GitHub names one, the desired
    state leaves the branch open and a creation is pending: one has ended well and the repository
    has not been found since, or the resource was being created from the start and the repository
    has never been found. The desired state gets the branch that the observation goes by if it
    leaves it open, and the verdict is on the repository with that branch. Once an observation that
    has found the repository has ended well, the branch of a template is taken again only after
    another creation has ended well, whatever fails and however often the specification is changed
    in between. -/
theorem adoption_window {middle last : State} {v : σ}
    (hrun : Run .repository world others state w turns middle w')
    (x : Sighting world middle w' last v)
    (hsteps : ∀ t ∈ turns, ∀ r, t.step ≠ .setResource r)
    (hstore : Repository.StoresOrFails (exchanges (turns ++ [x.turn]))) :
    (x.Adopts ↔ x.found.template.isSome = true ∧
      x.object.desired.settings.defaultBranch = none ∧ Pending state turns) ∧
    (∃ p, last.resource = .repository p ∧
      p.desired.settings.defaultBranch = x.object.desired.settings.defaultBranch.or x.branch ∧
      ∀ observation, x.report.result = some (.ok (.observed observation)) →
        observation.upToDate = p.desired.isMetBy x.seen) ∧
    ∀ {outcome : Outcome} {between : List Turn} {next final : State} {v' v'' : σ}
      (y : Sighting world next v' final v''), x.report.result = some (.ok outcome) →
      Run .repository world others last v between next v' →
      (∀ t ∈ between, ∀ r, t.step ≠ .setResource r) →
      Repository.StoresOrFails (exchanges between) → y.Adopts →
      ∃ t ∈ between, t.creates = true := by
  rw [exchanges_snoc] at hstore
  refine ⟨?_, x.exists_desired_eq hstore.right, ?_⟩
  · rw [x.adopts_iff, beingCreated_iff_pending hrun hsteps hstore.left]
  · intro outcome between next final v' v'' y hok hbetween hkept hstored hadopts
    have hcreated := (y.adopts_iff.mp hadopts).2.2
    rw [beingCreated_iff_pending hbetween hkept hstored] at hcreated
    exact hcreated.exists_creates (x.not_beingCreated_of_ok hok hstore.right)

/-- A repository that is declared to be generated from a template. -/
def skeletal : RepositoryObject where
  metadata := { name := some "demo" }
  spec := { forProvider :=
    { owner := "acme", name := "demo", template := some ⟨"acme/skeleton"⟩ } }

/-- The repository as GitHub reports it at first. -/
def growing : Remote.Repository where
  name := some "demo"
  settings := { defaultBranch := some "main" }
  template := some
    { fullName := some "acme/skeleton", settings := { defaultBranch := some "trunk" } }

/-- A world in which it is generated, and everything is stored. -/
def generating : Dialogue.World Call Call.Answer Unit
  | .generateRepository .., w => (Except.ok growing, w)
  | .getRepository .., w => (Except.ok growing, w)
  | .persist r, w => (Except.ok r, w)
  | c, w => (declined c, w)

/-- The creation of the repository. -/
def generated : List Turn × State × Unit :=
  play .repository generating [⟨.perform .create, "monday", 1⟩]
    { resource := .repository skeletal } ()

/-- The observation after it. -/
def sighted : Report × State × Unit :=
  step .repository generating "tuesday" 1 (.perform .observe) generated.2.1 ()

/-- The declaration is put back, and the repository is created again. -/
def regenerated : List Turn × State × Unit :=
  play .repository generating
    [⟨.setSpec (.repository skeletal.spec), "tuesday", 1⟩, ⟨.perform .create, "wednesday", 1⟩]
    sighted.2.1 ()

/-- The observation after that. -/
def sightedAgain : Report × State × Unit :=
  step .repository generating "thursday" 1 (.perform .observe) regenerated.2.1 ()

/-- The first observation takes the branch of the template. -/
def sighting : Sighting generating generated.2.1 () sighted.2.1 () where
  object := skeletal.withCondition (.ready .creating "monday")
  found := growing
  now := "tuesday"
  seconds := 1
  report := sighted.1
  resource_eq := by rfl
  step_eq := by rfl
  mem_lookUps := .head _

/-- And so does the second one. -/
def sightingAgain : Sighting generating regenerated.2.1 () sightedAgain.2.1 () where
  object :=
    { Repository.settled "tuesday" (skeletal.withCondition (.ready .creating "monday")) growing with
      spec := skeletal.spec }.withCondition (.ready .creating "wednesday")
  found := growing
  now := "thursday"
  seconds := 1
  report := sightedAgain.1
  resource_eq := by rfl
  step_eq := by rfl
  mem_lookUps := .head _

theorem run_generated :
    Run .repository generating Eq { resource := .repository skeletal } () generated.1
      generated.2.1 () :=
  Run.start.play [⟨.perform .create, "monday", 1⟩]

theorem run_regenerated :
    Run .repository generating Eq sighted.2.1 () regenerated.1 regenerated.2.1 () :=
  Run.start.play
    [⟨.setSpec (.repository skeletal.spec), "tuesday", 1⟩, ⟨.perform .create, "wednesday", 1⟩]

theorem storesOrFails_of_generating {state state' : State} {w w' : Unit} {turns : List Turn}
    (hrun : Run .repository generating Eq state w turns state' w') :
    Repository.StoresOrFails (exchanges turns) := by
  intro q answer hmem
  obtain ⟨w, rfl⟩ := hrun.exists_answer hmem
  exact .inr rfl

/-- The branch is taken twice, and the repository is created again in between. -/
theorem adoption_window_again :
    sighting.Adopts ∧ sightingAgain.Adopts ∧ ∃ t ∈ regenerated.1, t.creates = true := by
  have hsession := run_generated.turn (.perform .observe) "tuesday" 1 sighting.step_eq
  obtain ⟨hexact, -, hagain⟩ := adoption_window run_generated sighting
    (by simp [generated, play]) (storesOrFails_of_generating hsession)
  have hpending : Pending { resource := .repository skeletal } generated.1 :=
    (@pending_snoc_iff _ [] _).mpr (.inl rfl)
  have hfirst : sighting.Adopts := hexact.mpr ⟨rfl, rfl, hpending⟩
  have hsecond : sightingAgain.Adopts := ⟨⟨rfl, rfl⟩, rfl⟩
  exact ⟨hfirst, hsecond, hagain sightingAgain rfl run_regenerated
    (by simp [regenerated, play]) (storesOrFails_of_generating run_regenerated) hsecond⟩

end Session

end GitHubReconciler
