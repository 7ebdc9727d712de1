-- SUMMARY: What the cluster has stored during a session of observations (`Ledger`), and when the handle agrees with it (`spec_eq_stored_iff`).
import GitHubReconciler.Proofs.Repository.Drift
import GitHubReconciler.Proofs.Repository.Observing
import GitHubReconciler.Proofs.Session

/-!
# Persistence of filled-in settings

An observation puts what it fills in into the handle before it writes the handle to the cluster,
and leaves it there if the write fails. A ledger of the writes tells what the handle holds after
any number of observations: the specification whose write failed last, if none has succeeded
since, and the stored one otherwise.

What has been filled in is there already when the same repository is observed once more, so a write
that failed need not be repeated (`failed_write_is_lost`).
-/

namespace GitHubReconciler.Repository

open Operation

variable {now : String} {o : RepositoryObject} {r' : Resource} {xs ys : List Exchange}

/-! ## Writes to the cluster -/

/-- What became of the specifications written to the cluster. -/
structure Ledger where
  /-- The specification of the last write that succeeded. -/
  stored : Spec Desired
  /-- The specification of the last write, if it failed. -/
  pending : Option (Spec Desired) := none

namespace Ledger

/-- Enter an exchange. -/
def enter (l : Ledger) : Exchange → Ledger
  | ⟨.persist (.repository p), .ok _⟩ => { stored := p.spec }
  | ⟨.persist (.repository p), .error _⟩ => { l with pending := some p.spec }
  | _ => l

/-- The specification that was written last, whatever came of it. -/
def written (l : Ledger) : Spec Desired :=
  l.pending.getD l.stored

/-- Enter exchanges one after another. -/
def enterAll (l : Ledger) (xs : List Exchange) : Ledger :=
  xs.foldl enter l

variable {l : Ledger}

@[simp] theorem enterAll_append : l.enterAll (xs ++ ys) = (l.enterAll xs).enterAll ys :=
  List.foldl_append

/-- Looking up writes nothing. -/
@[simp] theorem enterAll_of_lookingUp {owner name recorded : String}
    {answer : Call.FromGitHub Remote.Repository} (h : LookingUp owner name recorded xs answer) :
    l.enterAll xs = l := by
  cases h with
  | found => rfl
  | failed => rfl
  | retried => rfl

/-- What was written last is stored just if no write that failed since differs from it. -/
theorem written_eq_stored_iff : l.written = l.stored ↔ ∀ spec ∈ l.pending, spec = l.stored := by
  cases hpending : l.pending with
  | none => simp [written, hpending]
  | some spec => simp [written, hpending]

end Ledger

/-! ## Observations and the ledger -/

/-- The cluster stores a handle as it is, or fails. -/
def StoresOrFails (xs : List Exchange) : Prop :=
  ∀ q answer, (⟨.persist q, answer⟩ : Exchange) ∈ xs →
    (∃ causes, answer = Except.error causes) ∨ answer = Except.ok q

theorem StoresOrFails.left (h : StoresOrFails (xs ++ ys)) : StoresOrFails xs :=
  fun q answer hmem => h q answer (List.mem_append_left ys hmem)

theorem StoresOrFails.right (h : StoresOrFails (xs ++ ys)) : StoresOrFails ys :=
  fun q answer hmem => h q answer (List.mem_append_right xs hmem)

/-- What was filled in is written, and the handle holds it whatever comes of the write. -/
theorem Settling.spec_eq_written {found : Remote.Repository} {result : Except Failure Observation}
    {l : Ledger} (h : Settling now o found xs result r') (hstore : StoresOrFails xs)
    (hspec : o.spec = l.written) : ∃ p, r' = .repository p ∧ p.spec = (l.enterAll xs).written := by
  cases h with
  | full => exact ⟨_, rfl, hspec⟩
  | unstored => exact ⟨_, rfl, rfl⟩
  | stored =>
    rcases hstore _ _ (List.mem_singleton_self _) with ⟨_, heq⟩ | heq
    · cases heq
    · cases heq
      exact ⟨_, rfl, rfl⟩
  | swapped _ hkind =>
    rcases hstore _ _ (List.mem_singleton_self _) with ⟨_, heq⟩ | heq
    · cases heq
    · cases heq
      exact absurd rfl hkind

/-- After an observation the handle holds what was written last, if it did before. -/
theorem Observing.spec_eq_written {result : Except Failure Observation} {l : Ledger}
    (h : Observing now o xs result r') (hstore : StoresOrFails xs) (hspec : o.spec = l.written) :
    ∃ p, r' = .repository p ∧ p.spec = (l.enterAll xs).written := by
  cases h with
  | absent hlook => exact ⟨o, rfl, by rw [Ledger.enterAll_of_lookingUp hlook, hspec]⟩
  | failed hlook => exact ⟨o, rfl, by rw [Ledger.enterAll_of_lookingUp hlook, hspec]⟩
  | found hlook hsettling =>
    rw [Ledger.enterAll_append, Ledger.enterAll_of_lookingUp hlook]
    exact hsettling.spec_eq_written hstore.right hspec

/-! ## Sessions of observations -/

/-- After any number of observations the handle holds the stored specification just if no write
    that has failed since differs from it. -/
theorem spec_eq_stored_iff {σ : Type} {world : Dialogue.World Call Call.Answer σ}
    {others : σ → σ → Prop} {metrics : Metrics.Registry} {w w' : σ} {turns : List Session.Turn}
    {state : Session.State}
    (hrun : Session.Run .repository world others { resource := .repository o, metrics } w turns
      state w')
    (hobserve : ∀ t ∈ turns, t.step = .perform .observe)
    (hstore : StoresOrFails (Session.exchanges turns)) :
    ∃ p, state.resource = .repository p ∧
      let ledger := Ledger.enterAll { stored := o.spec } (Session.exchanges turns)
      p.spec = ledger.written ∧
        (p.spec = ledger.stored ↔ ∀ spec ∈ ledger.pending, spec = ledger.stored) := by
  obtain ⟨p, hresource, hspec⟩ : ∃ p, state.resource = .repository p ∧
      p.spec = (Ledger.enterAll { stored := o.spec } (Session.exchanges turns)).written := by
    induction hrun with
    | start => exact ⟨o, rfl, rfl⟩
    | turn s now seconds hrun hstep ih =>
      rw [Session.exchanges_snoc] at hstore
      obtain ⟨p, hresource, hspec⟩ :=
        ih (fun t ht => hobserve t (List.mem_append_left _ ht)) hstore.left
      cases hobserve _ (List.mem_append_right _ (List.mem_singleton_self _))
      obtain ⟨result, -, hgenerates, -⟩ := Session.generates_of_step hstep
      rw [hresource] at hgenerates
      obtain ⟨observed, -, hobserving⟩ := observing_of_generates hgenerates
      rw [Session.exchanges_snoc, Ledger.enterAll_append]
      exact hobserving.spec_eq_written hstore.right hspec
    | disturbed hrun hothers ih => exact ih hobserve hstore
  refine ⟨p, hresource, hspec, ?_⟩
  rw [hspec, Ledger.written_eq_stored_iff]

/-- A repository that sets more than the desired state does. -/
def richer : Remote.Repository where
  name := some "demo"
  settings := { hasIssues := some true }

/-- A declared repository that sets nothing. -/
def bare : RepositoryObject where
  metadata := { name := some "demo" }
  spec := { forProvider := { owner := "acme", name := "demo" } }

/-- A world with that repository, in which the first write to the cluster fails. -/
def refusingOnce : Dialogue.World Call Call.Answer Bool
  | .getRepository .., refusing => (Except.ok richer, refusing)
  | .persist _, true => (Except.error { outermost := "conflict" }, false)
  | c, refusing => (declined c, refusing)

/-- An observation in that world. -/
def observing (state : Session.State) (refusing : Bool) : Session.Report × Session.State × Bool :=
  Session.step .repository refusingOnce "now" 1 (.perform .observe) state refusing

/-- The first of two observations. -/
def firstly : Session.Report × Session.State × Bool :=
  observing { resource := .repository bare } true

/-- The second of two observations. -/
def secondly : Session.Report × Session.State × Bool :=
  observing firstly.2.1 firstly.2.2

/-- The two observations as turns of a session. -/
def twice : List Session.Turn :=
  [⟨.perform .observe, "now", 1, firstly.1⟩, ⟨.perform .observe, "now", 1, secondly.1⟩]

theorem run_twice :
    Session.Run .repository refusingOnce Eq { resource := .repository bare } true twice
      secondly.2.1 secondly.2.2 :=
  .turn (.perform .observe) "now" 1 (.turn (.perform .observe) "now" 1 .start rfl) rfl

theorem storesOrFails_twice : StoresOrFails (Session.exchanges twice) := by
  intro q answer hmem
  obtain ⟨refusing, rfl⟩ := run_twice.exists_answer hmem
  cases refusing with
  | true => exact .inl ⟨_, rfl⟩
  | false => exact .inr rfl

/-- What the handle holds after both. -/
theorem spec_eq_stored_iff_twice :
    ∃ p, secondly.2.1.resource = .repository p ∧
      p.spec = (Ledger.enterAll { stored := bare.spec } (Session.exchanges twice)).written := by
  obtain ⟨p, hresource, hwritten, -⟩ :=
    spec_eq_stored_iff run_twice (by simp [twice]) storesOrFails_twice
  exact ⟨p, hresource, hwritten⟩

/-- The second observation succeeds and writes nothing, so what was filled in is never stored. -/
theorem failed_write_is_lost :
    secondly.1.result = some (.ok (.observed ⟨true, true, false⟩)) ∧
      ∃ p, secondly.2.1.resource = .repository p ∧
        p.spec ≠ (Ledger.enterAll { stored := bare.spec } (Session.exchanges twice)).stored := by
  refine ⟨rfl, _, rfl, ?_⟩
  intro h
  have hissues : some true = none := congrArg (·.forProvider.settings.hasIssues) h
  cases hissues

end GitHubReconciler.Repository
