-- SUMMARY: The facts that an operation of a client notes can be told from its outcome (`facts_run`).
import GitHubReconciler.Proofs.Atomicity
import GitHubReconciler.Proofs.Ensures

/-!
# Facts of operations

Which facts an operation notes, whatever answers it gets, is told by its outcome: an observation
notes what it has found, any operation that it has ended and how. A creation, an update and a
deletion note no other facts, so they are put together from silent steps. Only the observation of a
repository needs to know something about the answers. It notes what it has filled in once that is
stored, and would fail after that if the cluster handed back a resource of another kind.
-/

namespace GitHubReconciler

open Operation

variable {kind : Kind} {verb : Verb} {now : String} {allowed : Exchange → Prop} {r : Resource}

/-! ## Outcomes -/

/-- The facts that are noted of something that exists. -/
def driftFacts (kind : Kind) (upToDate : Bool) : List Note :=
  if upToDate then [] else [.drifted kind.name]

/-- The facts that an observation notes. -/
def observationFacts (kind : Kind) : Except Failure Observation → List Note
  | .error _ => []
  | .ok observation =>
      (if observation.filledIn then [.filledIn kind.name] else []) ++
        (if observation.resourceExists then driftFacts kind observation.upToDate else [])

/-- The facts an observation notes are those that its result tells. -/
def Operation.Reports (allowed : Exchange → Prop) (kind : Kind) (op : Operation Observation) :
    Prop :=
  Tells allowed op (observationFacts kind)

theorem Operation.Silent.bind_reports {α : Type} {op : Operation α} {f : α → Operation Observation}
    (h : Silent allowed op) (hf : ∀ x, Reports allowed kind (f x)) :
    Reports allowed kind (op >>= f) :=
  h.bind_tells hf fun _ => rfl

theorem Operation.reports_absent : Reports allowed kind (pure .absent) :=
  fun _ => ensures_pure.mpr rfl

theorem Operation.reports_throw (failure : Failure) : Reports allowed kind (throw failure) :=
  fun _ => ensures_throw.mpr rfl

/-- The cluster hands back a resource of the kind that it was given, if this is an exchange with
    it. -/
def Exchange.KeepsKind : Exchange → Prop
  | ⟨.persist resource, .ok stored⟩ => stored.kind = resource.kind
  | _ => True

/-! ## Memberships -/

namespace Membership

theorem reports_observe : Reports allowed .membership (observe now) := by
  apply silent_getMembershipObject.bind_reports
  intro o
  apply (silent_call _).bind_reports
  intro answer
  cases answer with
  | error failure =>
    dsimp only
    split
    · exact (silent_log _ _ _).bind_reports fun _ => reports_absent
    · exact reports_throw _
  | ok found => exact (silent_set _).bind_reports fun _ _ => rfl

theorem silent_create : Silent allowed create := by
  apply silent_getMembershipObject.bind
  intro o
  apply (silent_call _).bind
  intro answer
  apply (silent_expect _ _).bind
  intro _
  exact (silent_log _ _ _).bind fun _ => silent_pure _

theorem silent_update : Silent allowed update :=
  silent_getMembershipObject.bind fun _ => silent_pure _

theorem silent_delete : Silent allowed delete := by
  apply silent_getMembershipObject.bind
  intro o
  apply (silent_call _).bind
  intro answer
  exact (silent_expect _ _).bind fun _ => silent_log _ _ _

end Membership

/-! ## Files -/

namespace Content

theorem ensures_compare (d : Desired) (found : Remote.File) :
    Ensures allowed (compare d found) r fun ns result _ =>
      result = .ok (d.isMetBy found) ∧ facts ns = driftFacts .content (d.isMetBy found) := by
  unfold compare
  cases d.isMetBy found with
  | _ =>
    split
    · exact ⟨rfl, rfl⟩
    · exact ⟨rfl, rfl⟩

theorem reports_observe : Reports allowed .content (observe now) := by
  apply silent_getContentObject.bind_reports
  intro o
  apply (silent_call _).bind_reports
  intro answer
  cases answer with
  | error failure =>
    dsimp only
    split
    · exact (silent_log _ _ _).bind_reports fun _ => reports_absent
    · exact reports_throw _
  | ok found =>
    intro r
    apply Ensures.bind
    apply (ensures_compare o.desired found).mono
    rintro ns _ s ⟨rfl, hfacts⟩
    change facts (ns ++ []) = _
    rw [List.append_nil, hfacts]
    rfl

theorem silent_create : Silent allowed (create now) := by
  apply silent_getContentObject.bind
  intro o
  apply (silent_call _).bind
  intro answer
  apply (silent_expect _ _).bind
  intro _
  apply (silent_log _ _ _).bind
  intro _
  exact (silent_set _).bind fun _ => silent_pure _

theorem silent_update : Silent allowed update := by
  apply silent_getContentObject.bind
  intro o
  apply (silent_call _).bind
  intro found
  apply (silent_expect _ _).bind
  intro _
  apply (silent_call _).bind
  intro answer
  exact (silent_expect _ _).bind fun _ => silent_log _ _ _

theorem silent_delete : Silent allowed (delete now) := by
  apply silent_getContentObject.bind
  intro o
  apply (silent_call _).bind
  intro found
  cases found with
  | error failure =>
    dsimp only
    split
    · exact silent_log _ _ _
    · exact silent_throw _
  | ok found =>
    apply (silent_call _).bind
    intro answer
    apply (silent_expect _ _).bind
    intro _
    exact (silent_log _ _ _).bind fun _ => silent_set _

end Content

/-! ## Secrets -/

namespace Secret

theorem silent_extract (selector : Selector) : Silent allowed (extract selector) := by
  apply (silent_call _).bind
  intro answer
  cases answer with
  | ok value => exact silent_pure _
  | error failure => exact silent_throw _

theorem silent_fetchRecord (d : Desired) (name : String) : Silent allowed (fetchRecord d name) :=
  (silent_call _).bind fun _ => silent_expect _ _

theorem silent_upload (o : SecretObject) : Silent allowed (upload o) := by
  have hsealed : Silent allowed (uploadSealed o.desired o.metadata.externalName) := by
    apply (silent_call _).bind
    intro answer
    apply (silent_expect _ _).bind
    intro key
    apply (silent_extract _).bind
    intro value
    split
    · exact silent_throw _
    · apply (silent_call _).bind
      intro drawn
      apply (silent_call _).bind
      intro answer
      apply (silent_expect _ _).bind
      intro _
      exact (silent_log _ _ _).bind fun _ => silent_pure _
  apply hsealed.bind
  intro digest
  apply (silent_fetchRecord _ _).bind
  intro record
  apply (silent_set _).bind
  intro _
  exact (silent_log _ _ _).bind fun _ => silent_pure _

theorem reports_observe : Reports allowed .secrets (observe now) := by
  have hcompare (o : SecretObject) :
      Silent allowed (isUpToDate o.desired o.observed o.metadata.externalName) := by
    apply (silent_fetchRecord _ _).bind
    intro record
    exact (silent_extract _).bind fun _ => silent_pure _
  apply silent_getSecretObject.bind_reports
  intro o
  split
  · exact (silent_log _ _ _).bind_reports fun _ => reports_absent
  · apply (hcompare o).bind_reports
    intro upToDate
    cases upToDate with
    | _ => exact fun _ => rfl

theorem silent_create : Silent allowed (create now) := by
  apply silent_getSecretObject.bind
  intro o
  apply (silent_upload o).bind
  intro uploaded
  exact (silent_set _).bind fun _ => silent_pure _

theorem silent_update : Silent allowed update := by
  apply silent_getSecretObject.bind
  intro o
  exact (silent_upload o).bind fun _ => silent_pure _

theorem silent_delete : Silent allowed (delete now) := by
  apply silent_getSecretObject.bind
  intro o
  apply (silent_call _).bind
  intro answer
  apply (silent_expect _ _).bind
  intro _
  exact (silent_set _).bind fun _ => silent_log _ _ _

end Secret

/-! ## Repositories -/

namespace Repository

/-- A look-up leaves the resource alone and notes no facts. -/
theorem ensures_lookUp (owner name recorded : String) :
    Ensures allowed (lookUp owner name recorded) r fun ns _ s => facts ns = [] ∧ s = r := by
  refine ensures_call_bind.mpr fun answer _ => ?_
  cases answer with
  | ok found => exact ensures_pure.mpr ⟨rfl, rfl⟩
  | error failure =>
    dsimp only
    split
    · exact ensures_pure.mpr ⟨rfl, rfl⟩
    · exact ensures_note_bind.mpr fun _ _ => ⟨rfl, rfl⟩

/-- What has been filled in is noted once it is stored. -/
theorem ensures_storeFilled (o : RepositoryObject) (filled : Desired) :
    Ensures Exchange.KeepsKind (storeFilled o filled) r fun ns result s =>
      match result with
      | .ok _ => facts ns = [.filledIn Kind.repository.name] ∧ s.kind = .repository
      | .error _ => facts ns = [] := by
  refine ensures_set_bind.mpr (ensures_call_bind.mpr fun answer hkind => ?_)
  cases answer with
  | ok stored => exact ensures_set_bind.mpr (ensures_note_bind.mpr ⟨rfl, hkind⟩)
  | error causes => exact ensures_throw.mpr rfl

theorem ensures_record (found : Remote.Repository) (hkind : r.kind = .repository) :
    Ensures allowed (record now found) r fun ns result _ =>
      ∃ upToDate, result = .ok upToDate ∧ facts ns = driftFacts .repository upToDate := by
  obtain ⟨o, rfl⟩ : ∃ o, r = .repository o := by
    cases r with
    | repository o => exact ⟨o, rfl⟩
    | secrets o => cases hkind
    | membership o => cases hkind
    | content o => cases hkind
  unfold record
  rw [ensures_getRepositoryObject_bind, ensures_set_bind]
  dsimp only
  cases o.desired.isMetBy found with
  | _ => exact ⟨_, rfl, rfl⟩

/-- What is noted of a repository once its settings have been filled in or not. -/
theorem ensures_map_record (found : Remote.Repository) (filledIn : Bool)
    (hkind : r.kind = .repository) :
    Ensures allowed
      ((fun upToDate => (⟨true, upToDate, filledIn⟩ : Observation)) <$> record now found) r
      fun ns result _ => (if filledIn then [.filledIn Kind.repository.name] else []) ++ facts ns =
        observationFacts .repository result := by
  apply Ensures.map
  apply (ensures_record found hkind).mono
  rintro ns _ s ⟨upToDate, rfl, hfacts⟩
  rw [hfacts]
  rfl

theorem reports_observe : Reports Exchange.KeepsKind .repository (observe now) := by
  intro r
  cases r with
  | repository o =>
    unfold observe
    rw [ensures_getRepositoryObject_bind]
    apply Ensures.bind
    apply (ensures_lookUp _ _ _).mono
    rintro ns result s ⟨hlook, rfl⟩
    cases result with
    | error failure => exact hlook
    | ok answer =>
      simp only [facts_append, hlook, List.nil_append]
      cases answer with
      | error failure =>
        dsimp only
        split
        · rfl
        · rfl
      | ok found =>
        dsimp only
        split
        next hfilled =>
          rw [decide_eq_true hfilled]
          apply Ensures.bind
          apply (ensures_storeFilled _ _).mono
          intro ms stored s hstored
          cases stored with
          | error failure => exact hstored
          | ok _ =>
            apply (ensures_map_record _ true hstored.2).mono
            intro ks observed _ hfacts
            rw [facts_append, hstored.1]
            exact hfacts
        next hfull =>
          rw [decide_eq_false hfull]
          exact ensures_map_record _ false rfl
  | secrets o => rfl
  | membership o => rfl
  | content o => rfl

theorem silent_create : Silent allowed (create now) := by
  have hplain (d : Desired) : Silent allowed (createPlain d) := by
    apply (silent_call _).bind
    intro answer
    exact (silent_expect _ _).bind fun _ => silent_log _ _ _
  have htemplate (d : Desired) (template : Reference) :
      Silent allowed (createFromTemplate d template) := by
    unfold createFromTemplate
    split
    · exact silent_throw _
    · apply (silent_call _).bind
      intro answer
      cases answer with
      | ok generated => exact silent_log _ _ _
      | error failure =>
        dsimp only
        split
        · exact silent_throw _
        · exact silent_throw _
  apply silent_getRepositoryObject.bind
  intro o
  cases o.desired.template with
  | none =>
    apply (hplain _).bind
    intro _
    exact (silent_set _).bind fun _ => silent_pure _
  | some template =>
    apply (htemplate _ _).bind
    intro _
    exact (silent_set _).bind fun _ => silent_pure _

theorem silent_update : Silent allowed update := by
  apply silent_getRepositoryObject.bind
  intro o
  have hlook : Silent allowed (lookUp o.desired.owner o.desired.name (recordedName o)) :=
    fun _ => (ensures_lookUp _ _ _).mono fun _ _ _ h => h.1
  apply hlook.bind
  intro answer
  apply (silent_expect _ _).bind
  intro found
  apply (silent_call _).bind
  intro answer
  exact (silent_expect _ _).bind fun _ => silent_log _ _ _

theorem silent_delete : Silent allowed delete := by
  apply silent_getRepositoryObject.bind
  intro o
  apply (silent_call _).bind
  intro answer
  exact (silent_expect _ _).bind fun _ => silent_log _ _ _

end Repository

/-! ## For every client -/

/-- The facts that an operation of the client of a kind notes, from its outcome. -/
def outcomeFacts (kind : Kind) (verb : Verb) (outcome : Except Failure Outcome) : List Note :=
  (match verb, outcome with
    | .observe, .ok (.observed observation) => observationFacts kind (.ok observation)
    | _, _ => []) ++
  closingFacts kind verb outcome

/-- The observations of a client note what they find, and its other operations only how they
    ended. -/
structure Client.Reports (allowed : Exchange → Prop) (kind : Kind) (c : Client) : Prop where
  observe (now : String) :
    Tells allowed (c.observe now) fun result =>
      observationFacts kind result ++ closingFacts kind .observe result
  create (now : String) : Tells allowed (c.create now) (closingFacts kind .create)
  update : Tells allowed c.update (closingFacts kind .update)
  delete (now : String) : Tells allowed (c.delete now) (closingFacts kind .delete)

theorem Client.Reports.perform {c : Client} (h : c.Reports allowed kind) :
    Tells allowed (c.perform verb now) (outcomeFacts kind verb) := by
  cases verb with
  | observe =>
    apply (h.observe now).map
    intro result
    cases result with
    | _ => rfl
  | create => exact (h.create now).map (closingFacts_map kind .create _)
  | update => exact h.update.map (closingFacts_map kind .update _)
  | delete => exact (h.delete now).map (closingFacts_map kind .delete _)

theorem Repository.reports_client : client.Reports Exchange.KeepsKind .repository where
  observe _ := reports_observe.instrumented
  create _ := silent_create.instrumented
  update := silent_update.instrumented
  delete _ := silent_delete.instrumented

theorem Secret.reports_client : client.Reports allowed .secrets where
  observe _ := reports_observe.instrumented
  create _ := silent_create.instrumented
  update := silent_update.instrumented
  delete _ := silent_delete.instrumented

theorem Membership.reports_client : client.Reports allowed .membership where
  observe _ := reports_observe.instrumented
  create _ := silent_create.instrumented
  update := silent_update.instrumented
  delete _ := silent_delete.instrumented

theorem Content.reports_client : client.Reports allowed .content where
  observe _ := reports_observe.instrumented
  create _ := silent_create.instrumented
  update := silent_update.instrumented
  delete _ := silent_delete.instrumented

theorem Kind.reports_client (k : Kind) : k.client.Reports Exchange.KeepsKind k := by
  cases k with
  | repository => exact Repository.reports_client
  | secrets => exact Secret.reports_client
  | membership => exact Membership.reports_client
  | content => exact Content.reports_client

theorem KeepsKind.of_mem {xs : List Exchange} (h : KeepsKind xs) {x : Exchange} (hmem : x ∈ xs) :
    x.KeepsKind := by
  obtain ⟨c, answer⟩ := x
  cases c with
  | persist q =>
    cases answer with
    | ok stored => exact h q stored hmem
    | error causes => trivial
  | _ => trivial

/-- The facts that an operation notes in a run are those that its outcome tells, if the cluster
    keeps the kind of what it stores. -/
theorem facts_run {σ : Type} (world : Dialogue.World Call Call.Answer σ) (w : σ) (k : Kind)
    (verb : Verb) (now : String) (r : Resource) :
    let run := (k.client.converse verb now r).run world w
    KeepsKind run.exchanges → facts run.notes = outcomeFacts k verb run.value.1 :=
  fun hkind => (k.reports_client.perform r).run world w fun _ => hkind.of_mem

end GitHubReconciler
