-- SUMMARY: When an observation reports that a repository is absent, and when every look-up bears that out (`absence_borne_out_iff`).
import GitHubReconciler.Proofs.Exchanges
import GitHubReconciler.Proofs.Repository.Observing

/-!
# Absence of repositories

An observation reports that a repository is absent just if its last look-up is answered with 404.
A look-up before that one may have failed for another reason. This is the only way in which
absence is reported without being borne out by every look-up.
-/

namespace GitHubReconciler.Repository

open Operation

variable {now : String} {o : RepositoryObject} {r' : Resource} {xs : List Exchange}

/-- GitHub answered that there is no such repository. -/
def Missing (answer : Call.FromGitHub Remote.Repository) : Prop :=
  ∃ failure, answer = .error failure ∧ failure.status = some 404

/-- The desired name could not be looked up for another reason than that there is no such
    repository, and there is none under the recorded name. -/
def Masked (o : RepositoryObject) (xs : List Exchange) : Prop :=
  ∃ first second : ApiFailure,
    xs = [⟨.getRepository o.desired.owner o.desired.name, .error first⟩,
      ⟨.getRepository o.desired.owner (recordedName o), .error second⟩] ∧
    first.status ≠ some 404 ∧ second.status = some 404

@[simp] theorem missing_error {failure : ApiFailure} :
    Missing (.error failure) ↔ failure.isNotFound = true := by
  simp [Missing, ApiFailure.isNotFound]

@[simp] theorem not_missing_ok {found : Remote.Repository} : ¬ Missing (.ok found) := by
  rintro ⟨failure, h, -⟩
  cases h

/-- Absence is reported just if the last look-up is answered with 404. -/
theorem Observing.eq_absent_iff {result : Except Failure Observation}
    (h : Observing now o xs result r') :
    result = .ok .absent ↔ ∃ answer, (lookUps xs).getLast? = some answer ∧ Missing answer := by
  cases h with
  | absent hlook hmissing => simp [hlook.getLast?_lookUps, hmissing]
  | failed hlook hmissing => simp [hlook.getLast?_lookUps, hmissing]
  | found hlook hsettling =>
    rw [lookUps_append, hsettling.lookUps_eq_nil, List.append_nil, hlook.getLast?_lookUps]
    simp [hsettling.ne_absent]

/-- Absence that is reported is borne out by every look-up, unless the last one masks the first. -/
theorem Observing.forall_missing_iff {result : Except Failure Observation}
    (h : Observing now o xs result r') :
    (result = .ok .absent → ∀ answer ∈ lookUps xs, Missing answer) ↔ ¬ Masked o xs := by
  constructor
  · rintro hsound ⟨first, second, rfl, hfirst, hsecond⟩
    have habsent := h.eq_absent_iff.mpr ⟨.error second, rfl, second, rfl, hsecond⟩
    obtain ⟨failure, heq, hstatus⟩ := hsound habsent (.error first) (List.mem_cons_self)
    cases heq
    exact hfirst hstatus
  · rintro hmasked rfl answer hanswer
    cases h with
    | absent hlook hmissing =>
      cases hlook with
      | failed =>
        cases List.mem_singleton.mp hanswer
        exact missing_error.mpr hmissing
      | @retried first _ hname =>
        cases hanswer with
        | head =>
          cases hfirst : first.isNotFound with
          | true => exact missing_error.mpr hfirst
          | false =>
            refine absurd ⟨first, _, rfl, ?_, ?_⟩ hmasked
            · simpa [ApiFailure.isNotFound] using hfirst
            · simpa [ApiFailure.isNotFound] using hmissing
        | tail _ hlast =>
          cases List.mem_singleton.mp hlast
          exact missing_error.mpr hmissing
    | found _ hsettling => exact absurd rfl hsettling.ne_absent

/-- The two together, for every run of the client. -/
theorem absence_borne_out_iff {σ : Type} (world : Dialogue.World Call Call.Answer σ) (w : σ)
    (o : RepositoryObject) (now : String) :
    let run := (client.converse .observe now (.repository o)).run world w
    (run.value.1 = .ok (.observed .absent) ↔
      ∃ answer, (lookUps run.exchanges).getLast? = some answer ∧ Missing answer) ∧
    ((run.value.1 = .ok (.observed .absent) → ∀ answer ∈ lookUps run.exchanges, Missing answer) ↔
      ¬ Masked o run.exchanges) := by
  intro run
  obtain ⟨result, hvalue, hobserving⟩ :=
    observing_of_generates (Dialogue.generates_run world _ w : Dialogue.Generates _ _ run.value)
  have habsent : run.value.1 = .ok (.observed .absent) ↔ result = .ok .absent := by
    rw [hvalue]
    cases result with
    | error failure => simp [Functor.map, Except.map]
    | ok observation => simp [Functor.map, Except.map]
  rw [habsent]
  exact ⟨hobserving.eq_absent_iff, hobserving.forall_missing_iff⟩

/-- A world in which look-ups are answered with these failures, one after another. -/
def failing : Dialogue.World Call Call.Answer (List ApiFailure)
  | .getRepository .., failure :: rest => (Except.error failure, rest)
  | c, failures => (declined c, failures)

/-- A declared repository whose new name has not been applied yet. -/
def renamed : RepositoryObject where
  metadata := { name := some "demo" }
  spec := { forProvider := { owner := "acme", name := "new" } }
  status := some { atProvider := { (default : Observed) with name := "old" } }

/-- GitHub breaks down over the new name, and nothing is found under the old one. -/
theorem absence_masks_breakdown :
    let run := (client.converse .observe "now" (.repository renamed)).run failing
      [{ status := some 500, message := "Server Error" },
        { status := some 404, message := "Not Found" }]
    run.value.1 = .ok (.observed .absent) ∧ ¬ ∀ answer ∈ lookUps run.exchanges, Missing answer := by
  refine ⟨rfl, ?_⟩
  intro hsound
  have hfirst := hsound (.error { status := some 500, message := "Server Error" }) (.head _)
  rw [missing_error] at hfirst
  exact absurd hfirst (by decide)

end GitHubReconciler.Repository
