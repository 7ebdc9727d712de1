-- SUMMARY: After a repository has been written, an observation finds no drift (`upToDate_after_write`).
import GitHubReconciler.Proofs.Repository.Drift
import GitHubReconciler.Proofs.Repository.Writing

/-!
# Convergence of repositories

Once a creation or an edit has succeeded, nothing is left to edit: an observation that finds a
repository which carries the body that was sent reports no drift. Whatever else GitHub chose for
the repository does not matter, and neither does what the observation fills in.
-/

namespace GitHubReconciler.Repository

open Operation

variable {now : String} {o : RepositoryObject} {r' : Resource} {xs : List Exchange}

/-- An observation that finds a repository as desired reports that, if the cluster stores what it
    fills in. -/
theorem Observing.upToDate_of_isMetBy {result : Except Failure Observation}
    {found : Remote.Repository} (h : Observing now o xs result r')
    (hfound : .ok found ∈ lookUps xs) (hmet : o.desired.isMetBy found = true)
    (hstore : ∀ q answer, (⟨.persist q, answer⟩ : Exchange) ∈ xs → answer = Except.ok q) :
    ∃ filledIn, result = .ok ⟨true, true, filledIn⟩ := by
  obtain ⟨ys, zs, rfl, -, hsettling⟩ := h.settling_of_mem hfound
  obtain ⟨⟨filledIn, rfl⟩, -⟩ := hsettling.eq_of_stores
    fun q answer hmem => hstore q answer (List.mem_append_right _ hmem)
  -- What is compared in the end is the desired state that was filled in, on both sides.
  exact ⟨filledIn, by rw [filling, Desired.isMetBy_fill, hmet]⟩

/-! ## Bodies -/

theorem LookingUp.bodies_eq_nil {owner name recorded : String}
    {answer : Call.FromGitHub Remote.Repository} (h : LookingUp owner name recorded xs answer) :
    bodies xs = [] := by
  cases h with
  | found => rfl
  | failed => rfl
  | retried => rfl

/-- An edit that succeeds sends one body, merged from the desired state. -/
theorem Updating.bodies_eq (h : Updating o xs (.ok ())) :
    ∃ base, bodies xs = [o.desired.applyTo base] := by
  cases h with
  | @edited xs found answer hlook =>
    refine ⟨found, ?_⟩
    rw [bodies_append, hlook.bodies_eq_nil]
    rfl

/-- So does a creation from nothing, which has nothing to merge with. -/
theorem Creating.bodies_eq {assigned : Bool} (h : Creating now o xs (.ok assigned) r')
    (hplain : o.desired.template = none) : bodies xs = [o.desired.applyTo {}] := by
  cases h with
  | created => rfl
  | generated htemplate => cases hplain.symm.trans htemplate

/-- What the client sends when it writes a repository with success. -/
theorem bodies_of_written {verb : Verb} {outcome : Outcome}
    (hverb : verb = .update ∨ verb = .create ∧ o.desired.template = none)
    (h : (client.converse verb now (.repository o)).Generates xs (.ok outcome, r')) :
    ∃ base, bodies xs = [o.desired.applyTo base] := by
  rcases hverb with rfl | ⟨rfl, hplain⟩
  · obtain ⟨result, heq, hupdating, -⟩ := updating_of_generates h
    cases result with
    | error failure => cases heq
    | ok _ => exact hupdating.bodies_eq
  · obtain ⟨result, heq, hcreating⟩ := creating_of_generates h
    cases result with
    | error failure => cases heq
    | ok _ => exact ⟨{}, hcreating.bodies_eq hplain⟩

/-! ## Convergence -/

/-- After a creation from nothing or an edit, an observation of the same desired state that finds a
    repository which carries the body that was sent reports no drift. -/
theorem upToDate_after_write {σ τ : Type} (world : Dialogue.World Call Call.Answer σ) (w : σ)
    (later : Dialogue.World Call Call.Answer τ) (v : τ) (o p : RepositoryObject) (verb : Verb)
    (now then' : String) :
    let writing := (client.converse verb now (.repository o)).run world w
    let observing := (client.converse .observe then' (.repository p)).run later v
    verb = .update ∨ verb = .create ∧ o.desired.template = none →
    (∃ outcome, writing.value.1 = .ok outcome) →
    p.desired = o.desired →
    ∃ body, bodies writing.exchanges = [body] ∧
      ∀ found, .ok found ∈ lookUps observing.exchanges → found.Carries body →
        (∀ q answer, (⟨.persist q, answer⟩ : Exchange) ∈ observing.exchanges →
          answer = Except.ok q) →
        ∃ filledIn, observing.value.1 = .ok (.observed ⟨true, true, filledIn⟩) := by
  intro writing observing hverb hwritten hdesired
  obtain ⟨outcome, hok⟩ := hwritten
  have hwriting : (client.converse verb now (.repository o)).Generates writing.exchanges
      (.ok outcome, writing.value.2) := by
    rw [← hok]
    exact Dialogue.generates_run world _ w
  obtain ⟨base, hbody⟩ := bodies_of_written hverb hwriting
  refine ⟨_, hbody, ?_⟩
  intro found hfound hcarries hstore
  obtain ⟨result, hvalue, hobserving⟩ :=
    observing_of_generates
      (Dialogue.generates_run later _ v : Dialogue.Generates _ _ observing.value)
  have hmet : p.desired.isMetBy found = true := by
    rw [hdesired]
    exact Desired.isMetBy_of_carries hcarries.name hcarries.settings
  obtain ⟨filledIn, rfl⟩ := hobserving.upToDate_of_isMetBy hfound hmet hstore
  exact ⟨filledIn, hvalue⟩

/-- A world in which there is one repository, whatever it is asked for, and every edit succeeds. -/
def holding (r : Remote.Repository) : Dialogue.World Call Call.Answer Unit
  | .getRepository .., _ => (Except.ok r, ())
  | .editRepository .., _ => (Except.ok r, ())
  | c, _ => (declined c, ())

/-- A declared repository with a description. -/
def described : RepositoryObject where
  metadata := { name := some "demo" }
  spec := { forProvider :=
    { owner := "acme", name := "demo", settings := { description := some "A demo" } } }

/-- What GitHub makes of it: issues have been turned on besides. -/
def served : Remote.Repository where
  name := some "demo"
  settings := { description := some "A demo", hasIssues := some true }

/-- The description is sent, and what GitHub adds by itself is no drift. -/
theorem upToDate_after_write_described :
    ∃ filledIn,
      ((client.converse .observe "later" (.repository described)).run (holding served) ()).value.1
        = .ok (.observed ⟨true, true, filledIn⟩) := by
  obtain ⟨body, hbody, h⟩ := upToDate_after_write (holding { name := some "demo" }) ()
    (holding served) () described described .update "now" "later" (.inl rfl) ⟨_, rfl⟩ rfl
  have hsent : [described.desired.applyTo { name := some "demo" }] = [body] := hbody
  cases hsent
  refine h _ (List.mem_singleton_self _) ⟨?_, ?_⟩ ?_
  · exact kept_refl
  · simp [Settings.carries_iff, Desired.applyTo, Settings.orElse, described, served]
  · intro q answer hmem
    obtain ⟨_, rfl⟩ := (Dialogue.walk_run _ _ _).exists_answer hmem
    rfl

end GitHubReconciler.Repository
