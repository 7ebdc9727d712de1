-- SUMMARY: Operations that come to nothing leave the resource as it was, but for one (`unchanged_of_fruitless`), and clients refuse resources of another kind (`Client.Demands`).
import GitHubReconciler.Proofs.Content.Operations
import GitHubReconciler.Proofs.Membership.Operations
import GitHubReconciler.Proofs.Repository.Persistence
import GitHubReconciler.Proofs.Repository.Writing
import GitHubReconciler.Proofs.Secret.Operations

/-!
# Atomicity of operations

An operation that fails, or an observation that finds nothing, leaves the resource as it was: no
client changes the resource before its last call has succeeded. The one exception is an
observation of a repository that cannot store what it has filled in; the specification keeps it
then, and nothing else changes.

A client that is handed a resource of another kind refuses it before it makes a call.
-/

namespace GitHubReconciler

open Operation

variable {α β : Type} {kind : Kind} {verb : Verb} {now : String} {r r' : Resource}
  {xs : List Exchange}

/-! ## Resources of another kind -/

/-- An operation refuses resources that are not of a kind, and makes no call for them. -/
def Operation.Demands (kind : Kind) (op : Operation α) : Prop :=
  ∀ r xs result r', r.kind ≠ kind → Yields op r xs result r' →
    xs = [] ∧ result = .error (.wrongKind kind.name) ∧ r' = r

namespace Operation

theorem demands_getRepositoryObject : Demands .repository getRepositoryObject := by
  intro r xs result r' hkind h
  cases r with
  | repository o => exact absurd rfl hkind
  | secrets o => exact yields_throw.mp h
  | membership o => exact yields_throw.mp h
  | content o => exact yields_throw.mp h

theorem demands_getSecretObject : Demands .secrets getSecretObject := by
  intro r xs result r' hkind h
  cases r with
  | repository o => exact yields_throw.mp h
  | secrets o => exact absurd rfl hkind
  | membership o => exact yields_throw.mp h
  | content o => exact yields_throw.mp h

theorem demands_getMembershipObject : Demands .membership getMembershipObject := by
  intro r xs result r' hkind h
  cases r with
  | repository o => exact yields_throw.mp h
  | secrets o => exact yields_throw.mp h
  | membership o => exact absurd rfl hkind
  | content o => exact yields_throw.mp h

theorem demands_getContentObject : Demands .content getContentObject := by
  intro r xs result r' hkind h
  cases r with
  | repository o => exact yields_throw.mp h
  | secrets o => exact yields_throw.mp h
  | membership o => exact yields_throw.mp h
  | content o => exact absurd rfl hkind

/-- What comes after the refusal does not matter. -/
theorem Demands.bind {op : Operation α} (h : Demands kind op) (f : α → Operation β) :
    Demands kind (op >>= f) := by
  intro r xs result r' hkind hyields
  rcases yields_bind.mp hyields with ⟨failure, rfl, hop⟩ | ⟨ys, zs, x, s, -, hop, -⟩
  · obtain ⟨rfl, heq, rfl⟩ := h _ _ _ _ hkind hop
    cases heq
    exact ⟨rfl, rfl, rfl⟩
  · obtain ⟨-, heq, -⟩ := h _ _ _ _ hkind hop
    cases heq

theorem Demands.map {op : Operation α} (h : Demands kind op) (f : α → β) :
    Demands kind (f <$> op) := by
  rw [map_eq_pure_bind]
  exact h.bind _

theorem Demands.instrumented {op : Operation α} (h : Demands kind op) (verb : Verb) :
    Demands kind (instrumented kind verb op) :=
  fun r xs result r' hkind hyields => h r xs result r' hkind (yields_instrumented.mp hyields)

end Operation

/-- A client refuses resources that are not of a kind. -/
structure Client.Demands (kind : Kind) (c : Client) : Prop where
  observe (now : String) : Operation.Demands kind (c.observe now)
  create (now : String) : Operation.Demands kind (c.create now)
  update : Operation.Demands kind c.update
  delete (now : String) : Operation.Demands kind (c.delete now)

theorem Client.Demands.perform {c : Client} (h : c.Demands kind) :
    Operation.Demands kind (c.perform verb now) := by
  cases verb with
  | observe => exact (h.observe now).map _
  | create => exact (h.create now).map _
  | update => exact h.update.map _
  | delete => exact (h.delete now).map _

theorem Repository.demands_client : Client.Demands .repository client where
  observe _ := (demands_getRepositoryObject.bind _).instrumented _
  create _ := (demands_getRepositoryObject.bind _).instrumented _
  update := (demands_getRepositoryObject.bind _).instrumented _
  delete _ := (demands_getRepositoryObject.bind _).instrumented _

theorem Secret.demands_client : Client.Demands .secrets client where
  observe _ := (demands_getSecretObject.bind _).instrumented _
  create _ := (demands_getSecretObject.bind _).instrumented _
  update := (demands_getSecretObject.bind _).instrumented _
  delete _ := (demands_getSecretObject.bind _).instrumented _

theorem Membership.demands_client : Client.Demands .membership client where
  observe _ := (demands_getMembershipObject.bind _).instrumented _
  create _ := (demands_getMembershipObject.bind _).instrumented _
  update := (demands_getMembershipObject.bind _).instrumented _
  delete _ := (demands_getMembershipObject.bind _).instrumented _

theorem Content.demands_client : Client.Demands .content client where
  observe _ := (demands_getContentObject.bind _).instrumented _
  create _ := (demands_getContentObject.bind _).instrumented _
  update := (demands_getContentObject.bind _).instrumented _
  delete _ := (demands_getContentObject.bind _).instrumented _

/-- The client of a kind refuses all resources but those of the kind. -/
theorem Kind.demands_client (k : Kind) : k.client.Demands k := by
  cases k with
  | repository => exact Repository.demands_client
  | secrets => exact Secret.demands_client
  | membership => exact Membership.demands_client
  | content => exact Content.demands_client

/-! ## Operations that come to nothing -/

/-- An operation failed, or an observation found nothing. -/
def Fruitless : Except Failure Outcome → Prop
  | .error _ => True
  | .ok outcome => outcome = .observed .absent

/-- The cluster hands back resources of the kind that it was given. -/
def KeepsKind (xs : List Exchange) : Prop :=
  ∀ q stored, (⟨.persist q, .ok stored⟩ : Exchange) ∈ xs → stored.kind = q.kind

/-- A write to the cluster failed. -/
def WriteFailed (xs : List Exchange) : Prop :=
  ∃ q causes, (⟨.persist q, .error causes⟩ : Exchange) ∈ xs

theorem not_fruitless_of_exists {upToDate filledIn : Bool} :
    ¬ Fruitless (.observed <$> Except.ok ⟨true, upToDate, filledIn⟩) := by
  simp [Fruitless, Functor.map, Except.map, Observation.absent]

theorem Membership.Performing.unchanged {o : MembershipObject} {outcome : Except Failure Outcome}
    (h : Performing now o verb xs outcome r') (hfruitless : Fruitless outcome) :
    r' = .membership o := by
  cases h with
  | observed hobserving =>
    cases hobserving with
    | absent => rfl
    | failed => rfl
    | found => exact absurd hfruitless not_fruitless_of_exists
  | notInvited => rfl
  | invited => rfl
  | updated => rfl
  | notRemoved => rfl
  | removed => rfl

theorem Content.Performing.unchanged {o : ContentObject} {outcome : Except Failure Outcome}
    (h : Performing now o verb xs outcome r') (hfruitless : Fruitless outcome) :
    r' = .content o := by
  cases h with
  | observed hobserving =>
    cases hobserving with
    | absent => rfl
    | failed => rfl
    | found => exact absurd hfruitless not_fruitless_of_exists
  | notCreated => rfl
  | created => cases hfruitless
  | updated => rfl
  | deleted hdeleting =>
    cases hdeleting with
    | gone => rfl
    | failed => rfl
    | refused => rfl
    | deleted => cases hfruitless

theorem Secret.Performing.unchanged {o : SecretObject} {outcome : Except Failure Outcome}
    (h : Performing now o verb xs outcome r') (hfruitless : Fruitless outcome) :
    r' = .secrets o := by
  cases h with
  | observed hobserving =>
    cases hobserving with
    | absent => rfl
    | unread => rfl
    | valueless => rfl
    | compared => exact absurd hfruitless not_fruitless_of_exists
  | notUploaded => rfl
  | created => cases hfruitless
  | updated => cases hfruitless
  | notDeleted => rfl
  | deleted => cases hfruitless

namespace Repository

/-- An observation failed to store what it had filled in, and only that has changed. -/
def Unstored (o : RepositoryObject) (xs : List Exchange) (outcome : Except Failure Outcome)
    (r' : Resource) : Prop :=
  ∃ found causes, .ok found ∈ lookUps xs ∧ (⟨.persist r', .error causes⟩ : Exchange) ∈ xs ∧
    outcome = .error (.localPersistence Kind.repository.name causes) ∧
    r' = .repository (o.withDesired (o.desired.fill found o.ready?).1)

variable {o : RepositoryObject}

theorem Observing.unchanged {result : Except Failure Observation}
    (h : Observing now o xs result r') (hkind : KeepsKind xs)
    (hfruitless : Fruitless (.observed <$> result)) (hstored : ¬ WriteFailed xs) :
    r' = .repository o := by
  cases h with
  | absent => rfl
  | failed => rfl
  | found hlook hsettling =>
    cases hsettling with
    | full => exact absurd hfruitless not_fruitless_of_exists
    | unstored =>
      exact absurd ⟨_, _, List.mem_append_right _ (List.mem_singleton_self _)⟩ hstored
    | stored => exact absurd hfruitless not_fruitless_of_exists
    | swapped _ hswapped =>
      exact absurd (hkind _ _ (List.mem_append_right _ (List.mem_singleton_self _))) hswapped

theorem Creating.unchanged {result : Except Failure Bool} (h : Creating now o xs result r')
    (hfruitless : Fruitless (.created <$> result)) : r' = .repository o := by
  cases h with
  | refused => rfl
  | created => cases hfruitless
  | malformed => rfl
  | ungenerated => rfl
  | generated => cases hfruitless

theorem LookingUp.not_writeFailed {owner name recorded : String}
    {answer : Call.FromGitHub Remote.Repository} (h : LookingUp owner name recorded xs answer) :
    ¬ WriteFailed xs := by
  rintro ⟨q, causes, hmem⟩
  obtain ⟨asked, heq⟩ := h.question_eq hmem
  cases heq

/-- When its write fails, an observation fails at once. -/
theorem Observing.unstored {result : Except Failure Observation}
    (h : Observing now o xs result r') (hfailed : WriteFailed xs) :
    Unstored o xs (.observed <$> result) r' := by
  cases h with
  | absent hlook => exact absurd hfailed hlook.not_writeFailed
  | failed hlook => exact absurd hfailed hlook.not_writeFailed
  | @found xs ys found _ _ hlook hsettling =>
    have hfound : .ok found ∈ lookUps (xs ++ ys) := by
      rw [lookUps_append]
      exact List.mem_append_left _ hlook.mem_lookUps
    obtain ⟨q, causes, hmem⟩ := hfailed
    rcases List.mem_append.mp hmem with hmem | hmem
    · exact absurd ⟨q, causes, hmem⟩ hlook.not_writeFailed
    · cases hsettling with
      | full => cases hmem
      | @unstored causes =>
        exact ⟨found, causes, hfound, List.mem_append_right _ (List.mem_singleton_self _), rfl, rfl⟩
      | stored => cases List.mem_singleton.mp hmem
      | swapped => cases List.mem_singleton.mp hmem

theorem unchanged_of_generates {outcome : Except Failure Outcome × Resource}
    (h : (client.converse verb now (.repository o)).Generates xs outcome) (hkind : KeepsKind xs)
    (hfruitless : Fruitless outcome.1) (hstored : verb = .observe → ¬ WriteFailed xs) :
    outcome.2 = .repository o := by
  cases verb with
  | observe =>
    obtain ⟨result, heq, hobserving⟩ := observing_of_generates h
    rw [heq] at hfruitless
    exact hobserving.unchanged hkind hfruitless (hstored rfl)
  | create =>
    obtain ⟨result, heq, hcreating⟩ := creating_of_generates h
    rw [heq] at hfruitless
    exact hcreating.unchanged hfruitless
  | update =>
    obtain ⟨result, -, -, hresource⟩ := updating_of_generates h
    exact hresource
  | delete =>
    obtain ⟨answer, -, -, hresource⟩ := deleting_of_generates h
    exact hresource

end Repository

/-! ## For every client -/

theorem Kind.unchanged_of_generates {outcome : Except Failure Outcome × Resource}
    (h : (r.kind.client.converse verb now r).Generates xs outcome) (hkind : KeepsKind xs)
    (hfruitless : Fruitless outcome.1)
    (hstored : ¬ (r.kind = .repository ∧ verb = .observe ∧ WriteFailed xs)) : outcome.2 = r := by
  cases r with
  | repository o =>
    refine Repository.unchanged_of_generates h hkind hfruitless fun hobserve hfailed => ?_
    exact hstored ⟨rfl, hobserve, hfailed⟩
  | secrets o => exact (Secret.performing_of_generates h).unchanged hfruitless
  | membership o => exact (Membership.performing_of_generates h).unchanged hfruitless
  | content o => exact (Content.performing_of_generates h).unchanged hfruitless

/-- What is left of a resource when an operation of a client comes to nothing. -/
theorem unchanged_of_fruitless {σ : Type} (world : Dialogue.World Call Call.Answer σ) (w : σ)
    (k : Kind) (verb : Verb) (now : String) (r : Resource) :
    let run := (k.client.converse verb now r).run world w
    let interrupted := k = .repository ∧ verb = .observe ∧ WriteFailed run.exchanges
    (r.kind ≠ k → run.value = (.error (.wrongKind k.name), r) ∧ run.exchanges = []) ∧
    (KeepsKind run.exchanges → Fruitless run.value.1 → ¬ interrupted → run.value.2 = r) ∧
    (interrupted → ∃ o, r = .repository o ∧
      Repository.Unstored o run.exchanges run.value.1 run.value.2) := by
  intro run interrupted
  have hrun : (k.client.converse verb now r).Generates run.exchanges run.value :=
    Dialogue.generates_run world _ w
  by_cases hkind : r.kind = k
  · subst hkind
    refine ⟨fun hne => absurd rfl hne, Kind.unchanged_of_generates hrun, ?_⟩
    rintro ⟨hrepository, rfl, hfailed⟩
    cases r with
    | repository o =>
      obtain ⟨result, heq, hobserving⟩ := Repository.observing_of_generates hrun
      rw [heq]
      exact ⟨o, rfl, hobserving.unstored hfailed⟩
    | secrets o => cases hrepository
    | membership o => cases hrepository
    | content o => cases hrepository
  · obtain ⟨hexchanges, hresult, hresource⟩ := k.demands_client.perform _ _ _ _ hkind hrun
    refine ⟨fun _ => ⟨Prod.ext hresult hresource, hexchanges⟩, fun _ _ _ => hresource, ?_⟩
    rintro ⟨-, -, q, causes, hmem⟩
    rw [hexchanges] at hmem
    cases hmem

/-- A repository is refused by the client of secrets, a creation is declined, and what was filled
    in cannot be stored. -/
theorem unchanged_of_fruitless_bare :
    let bare := Resource.repository Repository.bare
    let perform (k : Kind) (verb : Verb) :=
      (k.client.converse verb "now" bare).run Repository.refusingOnce true
    ((perform .secrets .observe).value = (.error (.wrongKind Kind.secrets.name), bare) ∧
      (perform .secrets .observe).exchanges = []) ∧
    (perform .repository .create).value.2 = bare ∧
    Repository.Unstored Repository.bare (perform .repository .observe).exchanges
      (perform .repository .observe).value.1 (perform .repository .observe).value.2 := by
  intro bare perform
  have h (k : Kind) (verb : Verb) :=
    unchanged_of_fruitless Repository.refusingOnce true k verb "now" bare
  refine ⟨(h .secrets .observe).1 (by decide), (h .repository .create).2.1 ?_ trivial ?_, ?_⟩
  · intro q stored hmem
    cases List.mem_singleton.mp hmem
  · rintro ⟨-, hverb, -⟩
    cases hverb
  · have hfailed : WriteFailed (perform .repository .observe).exchanges :=
      ⟨_, _, .tail _ (.head _)⟩
    obtain ⟨o, ho, hunstored⟩ := (h .repository .observe).2.2 ⟨rfl, rfl, hfailed⟩
    obtain rfl : Repository.bare = o := Resource.repository.inj ho
    exact hunstored

end GitHubReconciler
