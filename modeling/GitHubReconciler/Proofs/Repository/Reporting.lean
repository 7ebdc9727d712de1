-- SUMMARY: What an observation reports of a repository that exists is what it leaves behind (`report_truthful`), also when the store swaps the resource.
import GitHubReconciler.Proofs.Exchanges
import GitHubReconciler.Proofs.Repository.Observing
import GitHubReconciler.Proofs.Repository.Persistence
import GitHubReconciler.Proofs.Resource.Condition

/-!
# Truthful reports

An observation that finds a repository reports whether it is as desired and whether settings were
filled in. Before it does, the store may replace the resource by another one, with another
specification, other conditions and an older status. `Truthful` says how the report, the writes and
the resource at the end hang together: what is filled in comes from the resource as it was handed
over, while the record and the verdict go by the resource that the store has left, with the
repository as it is after filling in.
-/

namespace GitHubReconciler.Repository

open Operation

variable {now : String} {o base : RepositoryObject} {r' : Resource} {xs ys : List Exchange}
  {found : Remote.Repository} {observation : Observation}

/-- The report on a repository that was found for the resource `o`, the writes to the cluster and
    the resource `p` at the end tell the same. The store has left the resource as `base`. -/
structure Truthful (now : String) (o : RepositoryObject) (found : Remote.Repository)
    (xs : List Exchange) (observation : Observation) (base p : RepositoryObject) : Prop where
  /-- Settings are reported as filled in just if some were. -/
  filledIn_iff : observation.filledIn = true ↔ (filling o found).1 ≠ o.desired
  /-- What was filled in is written once, with the rest of the resource as it was. -/
  writes_eq : writes xs =
    if (filling o found).1 = o.desired then []
    else [(.repository (o.withDesired (filling o found).1), .ok (.repository base))]
  /-- Without a write the resource is the one that was handed over. -/
  base_eq : (filling o found).1 = o.desired → base = o
  metadata_eq : p.metadata = base.metadata
  spec_eq : p.spec = base.spec
  /-- The repository is recorded as it is after filling in. -/
  recorded : p.status.map (·.atProvider) = some (.ofRemote (filling o found).2)
  /-- The resource is marked as available. -/
  ready : ∃ c, p.ready? = some c ∧ c.sameState (.ready .available now) = true
  /-- The verdict is the one on the resource and the repository at the end. -/
  upToDate_eq : observation.upToDate = p.desired.isMetBy (filling o found).2

/-- After a repository was recorded in a resource, the resource is marked as available. -/
theorem ready_recording (now : String) (o : RepositoryObject) (found : Remote.Repository) :
    ∃ c, (recording now o found).ready? = some c ∧
      c.sameState (.ready .available now) = true :=
  Condition.find?_put (.ready .available now) o.statusOrEmpty.conditions

/-- Looking up writes nothing. -/
theorem LookingUp.writes_eq_nil {owner name recorded : String}
    {answer : Call.FromGitHub Remote.Repository} (h : LookingUp owner name recorded xs answer) :
    writes xs = [] := by
  cases h with
  | found => rfl
  | failed => rfl
  | retried => rfl

/-- Whatever the store does with the resource, the report is about what is left of it. -/
theorem Settling.truthful (h : Settling now o found xs (.ok observation) r') :
    ∃ base p, r' = .repository p ∧ Truthful now o found xs observation base p := by
  cases h with
  | full hfull =>
    refine ⟨o, _, rfl, ?_⟩
    exact
      { filledIn_iff := by simp [hfull]
        writes_eq := by rw [if_pos hfull]; rfl
        base_eq := fun _ => rfl
        metadata_eq := rfl
        spec_eq := rfl
        recorded := rfl
        ready := ready_recording now o _
        upToDate_eq := rfl }
  | @stored base hfilled =>
    refine ⟨base, _, rfl, ?_⟩
    exact
      { filledIn_iff := by simp [hfilled]
        writes_eq := by rw [if_neg hfilled]; rfl
        base_eq := fun hfull => absurd hfull hfilled
        metadata_eq := rfl
        spec_eq := rfl
        recorded := rfl
        ready := ready_recording now base _
        upToDate_eq := rfl }

/-- What is written while looking up does not blur the report. -/
theorem Truthful.of_append {p : RepositoryObject} (h : Truthful now o found ys observation base p)
    (hnone : writes xs = []) : Truthful now o found (xs ++ ys) observation base p :=
  { h with writes_eq := by rw [writes_append, hnone, List.nil_append, h.writes_eq] }

/-- An observation that reports a repository as existing has found it, and tells the truth. -/
theorem Observing.truthful (h : Observing now o xs (.ok observation) r')
    (hexists : observation.resourceExists = true) :
    ∃ found base p, (lookUps xs).getLast? = some (.ok found) ∧ r' = .repository p ∧
      Truthful now o found xs observation base p := by
  cases h with
  | absent => cases hexists
  | @found xs ys found _ _ hlook hsettling =>
    obtain ⟨base, p, hresource, htruthful⟩ := hsettling.truthful
    refine ⟨found, base, p, ?_, hresource, htruthful.of_append hlook.writes_eq_nil⟩
    rw [lookUps_append, hsettling.lookUps_eq_nil, List.append_nil]
    exact hlook.getLast?_lookUps

/-- Every observation of the client that reports a repository as existing tells the truth about
    what it has found, what it has written and what it leaves behind. -/
theorem report_truthful {σ : Type} (world : Dialogue.World Call Call.Answer σ) (w : σ)
    (o : RepositoryObject) (now : String) {observation : Observation} :
    let run := (client.converse .observe now (.repository o)).run world w
    run.value.1 = .ok (.observed observation) → observation.resourceExists = true →
      ∃ found base p, (lookUps run.exchanges).getLast? = some (.ok found) ∧
        run.value.2 = .repository p ∧ Truthful now o found run.exchanges observation base p := by
  intro run hok hexists
  obtain ⟨result, hvalue, hobserving⟩ :=
    observing_of_generates (Dialogue.generates_run world _ w : Dialogue.Generates _ _ run.value)
  have hresult : result = .ok observation := by
    cases result with
    | error failure => cases hvalue.symm.trans hok
    | ok reported =>
      cases hvalue.symm.trans hok
      rfl
  rw [hresult] at hobserving
  exact hobserving.truthful hexists

/-- A declared repository that someone else has changed in the meantime. -/
def changed : RepositoryObject where
  metadata := { name := some "demo", resourceVersion := some "2" }
  spec := { forProvider :=
    { owner := "acme", name := "demo", settings := { hasIssues := some false } } }
  status := some
    { conditions := [.ready .creating "before"]
      atProvider := { (default : Observed) with name := "old" } }

/-- A world in which the store answers every write with the changed resource. -/
def swapping : Dialogue.World Call Call.Answer Unit
  | .getRepository .., w => (Except.ok richer, w)
  | .persist _, w => (Except.ok (.repository changed), w)
  | c, w => (declined c, w)

/-- The store swaps the resource after settings were filled in, and the verdict is the one on what
    it has put there. -/
theorem report_truthful_swapped :
    let run := (client.converse .observe "now" (.repository bare)).run swapping ()
    run.value.1 = .ok (.observed ⟨true, false, true⟩) ∧
      ∃ found base p, (lookUps run.exchanges).getLast? = some (.ok found) ∧
        run.value.2 = .repository p ∧
        Truthful "now" bare found run.exchanges ⟨true, false, true⟩ base p :=
  ⟨rfl, report_truthful swapping () bare "now" rfl rfl⟩

end GitHubReconciler.Repository
