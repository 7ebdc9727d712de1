-- SUMMARY: What a session remembers of uploads: exactly the last one that succeeded and was not deleted (`remembered_exactly`).
import GitHubReconciler.Proofs.Secret.Soundness

/-!
# What is remembered of uploads

An upload is current from the creation or update that made it until the next upload or deletion
that succeeds. Through every session the fingerprint in the status is that of the current upload,
and empty if there is none: a failed operation, an observation and a new specification leave it
alone. So an observation reports a secret as absent just if no upload is current, and compares what
it reads with the current upload and nothing else.
-/

namespace GitHubReconciler.Secret

open Operation

variable {o : SecretObject} {now : String} {r' : Resource} {xs : List Exchange}

/-! ## The current upload -/

/-- A value that was sent to GitHub, and the record of it that was read back. -/
abbrev Upload := Bytes × Remote.SecretRecord

/-- The value read last and the record read last. -/
def uploadIn (xs : List Exchange) : Option Upload :=
  (values xs).getLast?.bind fun value => (records xs).getLast?.map fun record => (value, record)

/-- The current upload after a step, from the one before it. -/
def currentAfter (current : Option Upload) (s : Session.Step) (report : Session.Report) :
    Option Upload :=
  match s, report.result with
  | .perform .create, some (.ok _) => uploadIn report.exchanges
  | .perform .update, some (.ok _) => uploadIn report.exchanges
  | .perform .delete, some (.ok _) => none
  | _, _ => current

/-- The current upload after the turns of a session; there is none before the first. -/
def current (turns : List Session.Turn) : Option Upload :=
  turns.foldl (fun upload t => currentAfter upload t.step t.report) none

/-- The fingerprint of an upload, empty if there is none. -/
def Fingerprint.ofCurrent : Option Upload → Fingerprint
  | none => {}
  | some upload => .ofUpload (Secret.digest upload.1) upload.2

@[simp] theorem current_snoc (turns : List Session.Turn) (t : Session.Turn) :
    current (turns ++ [t]) = currentAfter (current turns) t.step t.report := by
  simp [current]

namespace Fingerprint

/-- A digest is remembered just if an upload is current. -/
theorem digest_ofCurrent_eq_none_iff {upload : Option Upload} :
    (ofCurrent upload).digest = none ↔ upload = none := by
  cases upload with
  | none => simp [ofCurrent]
  | some upload => simp [ofCurrent, ofUpload]

/-- What is read is compared with the current upload. -/
theorem isOf_ofCurrent {upload : Upload} {value : Bytes} {record : Remote.SecretRecord} :
    (ofCurrent (some upload)).isOf value record = true ↔
      Secret.digest value = Secret.digest upload.1 ∧
        record.updatedAt.format = upload.2.updatedAt.format := by
  simp only [isOf, ofCurrent, ofUpload, Bool.and_eq_true, beq_iff_eq, Option.some.injEq]
  exact and_congr eq_comm eq_comm

end Fingerprint

/-! ## Operations and the current upload -/

theorem Uploading.uploadIn_eq {d : Desired} {name : String} {upload : Upload}
    (h : Uploading d name xs (.ok upload)) : uploadIn xs = some upload := by
  rw [uploadIn, h.values_eq, h.records_eq]
  rfl

/-- An operation leaves the fingerprint of what is current after it. -/
theorem Performing.observed_eq {verb : Verb} {outcome : Except Failure Outcome} {notes : List Note}
    {upload : Option Upload} (h : Performing now o verb xs outcome r')
    (hcurrent : o.observed = .ofCurrent upload) :
    ∃ p, r' = .secrets p ∧
      p.observed = .ofCurrent (currentAfter upload (.perform verb) ⟨some outcome, xs, notes⟩) := by
  cases h with
  | observed hobserving =>
    cases hobserving with
    | absent => exact ⟨o, rfl, hcurrent⟩
    | unread => exact ⟨o, rfl, hcurrent⟩
    | valueless => exact ⟨o, rfl, hcurrent⟩
    | compared => exact ⟨_, rfl, hcurrent⟩
  | notUploaded hverb =>
    rcases hverb with rfl | rfl
    · exact ⟨o, rfl, hcurrent⟩
    · exact ⟨o, rfl, hcurrent⟩
  | created huploading =>
    exact ⟨_, rfl, congrArg Fingerprint.ofCurrent huploading.uploadIn_eq.symm⟩
  | updated huploading =>
    exact ⟨_, rfl, congrArg Fingerprint.ofCurrent huploading.uploadIn_eq.symm⟩
  | notDeleted => exact ⟨o, rfl, hcurrent⟩
  | deleted => exact ⟨_, rfl, rfl⟩

/-- An observation finds nothing just if no upload is current, and compares what it reads with the
    current one. -/
theorem Observing.compares_current {result : Except Failure Observation} {upload : Option Upload}
    (h : Observing now o xs result r') (hcurrent : o.observed = .ofCurrent upload) :
    (result = .ok .absent ↔ upload = none) ∧ (upload = none → xs = []) ∧
      ∀ observation, result = .ok observation → observation.resourceExists = true →
        ∃ u value record, upload = some u ∧ values xs = [value] ∧ records xs = [record] ∧
          (observation.upToDate = true ↔
            digest value = digest u.1 ∧ record.updatedAt.format = u.2.updatedAt.format) := by
  have hnone : o.observed.digest = none ↔ upload = none := by
    rw [hcurrent]
    exact Fingerprint.digest_ofCurrent_eq_none_iff
  have hsome (h : o.observed.digest ≠ none) : upload ≠ none := fun heq => h (hnone.mpr heq)
  cases h with
  | absent hempty =>
    refine ⟨by simp [hnone.mp hempty], fun _ => rfl, ?_⟩
    rintro observation heq hexists
    cases heq
    cases hexists
  | unread hdigest => exact ⟨by simp [hsome hdigest], by simp [hsome hdigest], by simp⟩
  | valueless hdigest => exact ⟨by simp [hsome hdigest], by simp [hsome hdigest], by simp⟩
  | @compared record value hdigest =>
    obtain ⟨u, rfl⟩ := Option.ne_none_iff_exists'.mp (hsome hdigest)
    refine ⟨by simp [Observation.absent], by simp, ?_⟩
    rintro observation heq -
    cases heq
    refine ⟨u, value, record, rfl, rfl, rfl, ?_⟩
    rw [hcurrent]
    exact Fingerprint.isOf_ofCurrent

/-- A new specification leaves the fingerprint alone. -/
theorem observed_withSpec (o : SecretObject) (spec : Resource.AnySpec) :
    ∃ p, (Resource.secrets o).withSpec spec = .secrets p ∧ p.observed = o.observed := by
  cases spec with
  | repository => exact ⟨o, rfl, rfl⟩
  | secrets => exact ⟨_, rfl, rfl⟩
  | membership => exact ⟨o, rfl, rfl⟩
  | content => exact ⟨o, rfl, rfl⟩

/-! ## Sessions -/

section

variable {σ : Type} {world : Dialogue.World Call Call.Answer σ} {others : σ → σ → Prop}
  {metrics : Metrics.Registry} {w w' : σ} {turns : List Session.Turn} {state : Session.State}

/-- After every session the status holds the fingerprint of the current upload. -/
theorem observed_eq_of_run (hempty : o.observed = {})
    (hrun : Session.Run .secrets world others { resource := .secrets o, metrics } w turns state w')
    (hsteps : ∀ t ∈ turns, ∀ resource, t.step ≠ .setResource resource) :
    ∃ p, state.resource = .secrets p ∧ p.observed = .ofCurrent (current turns) := by
  induction hrun with
  | start => exact ⟨o, rfl, hempty⟩
  | @turn turns state' _ _ _ report s now seconds hrun hstep ih =>
    obtain ⟨p, hresource, hcurrent⟩ := ih fun t ht => hsteps t (List.mem_append_left _ ht)
    rw [current_snoc]
    cases s with
    | perform verb =>
      obtain ⟨result, hresult, hgenerates, -⟩ := Session.generates_of_step hstep
      rw [hresource] at hgenerates
      obtain ⟨_, exchanges, notes⟩ := report
      cases hresult
      exact (performing_of_generates hgenerates).observed_eq hcurrent
    | setSpec spec =>
      cases hstep
      obtain ⟨q, heq, hsame⟩ := observed_withSpec p spec
      exact ⟨q, by simp [hresource, heq], hsame.trans hcurrent⟩
    | setResource resource =>
      exact absurd rfl (hsteps _ (List.mem_append_right _ (List.mem_singleton_self _)) resource)
    | configureMetrics config =>
      cases hstep
      exact ⟨p, hresource, hcurrent⟩
  | disturbed hrun hothers ih => exact ih hsteps

/-- After every session of operations and new specifications the status holds the fingerprint of
    the current upload. The next observation reports the secret as absent, without a call, just if
    there is none, and else goes by this upload alone. -/
theorem remembered_exactly (hempty : o.observed = {})
    (hrun : Session.Run .secrets world others { resource := .secrets o, metrics } w turns state w')
    (hsteps : ∀ t ∈ turns, ∀ resource, t.step ≠ .setResource resource) :
    (∃ p, state.resource = .secrets p ∧ p.observed = .ofCurrent (current turns)) ∧
    ∀ now seconds report state' w'',
      Session.step .secrets world now seconds (.perform .observe) state w' = (report, state', w'') →
      (report.result = some (.ok (.observed .absent)) ↔ current turns = none) ∧
      (current turns = none → report.exchanges = []) ∧
      ∀ observation, report.result = some (.ok (.observed observation)) →
        observation.resourceExists = true →
        ∃ upload value record, current turns = some upload ∧ values report.exchanges = [value] ∧
          records report.exchanges = [record] ∧
          (observation.upToDate = true ↔
            digest value = digest upload.1 ∧
              record.updatedAt.format = upload.2.updatedAt.format) := by
  obtain ⟨p, hresource, hcurrent⟩ := observed_eq_of_run hempty hrun hsteps
  refine ⟨⟨p, hresource, hcurrent⟩, ?_⟩
  intro now seconds report state' w'' hstep
  obtain ⟨result, hresult, hgenerates, -⟩ := Session.generates_of_step hstep
  rw [hresource] at hgenerates
  obtain ⟨first, rfl, hobserving⟩ := observing_of_generates hgenerates
  have hreport (observation : Observation) :
      report.result = some (.ok (.observed observation)) ↔ first = .ok observation := by
    rw [hresult]
    cases first with
    | error failure => simp [Functor.map, Except.map]
    | ok reported => simp [Functor.map, Except.map]
  simp only [hreport]
  exact hobserving.compares_current hcurrent

end

/-- After the creation of a secret its value is to be taken from elsewhere. -/
def redirected : Session.Report × Session.State × Vault :=
  Session.step .secrets hosting "later" 1
    (.setSpec (.secrets { forProvider := { declared.desired with value := default } }))
    created.2.1 created.2.2

/-- The creation and the new specification as turns of a session. -/
def redirecting : List Session.Turn :=
  [⟨.perform .create, "now", 1, created.1⟩,
    ⟨.setSpec (.secrets { forProvider := { declared.desired with value := default } }), "later", 1,
      redirected.1⟩]

/-- The observation after them. -/
def revisited : Session.Report × Session.State × Vault :=
  Session.step .secrets hosting "later still" 1 (.perform .observe) redirected.2.1 redirected.2.2

/-- The upload is still remembered, and the observation goes by it. -/
theorem remembered_exactly_redirected :
    declared.observed = {} ∧
    (∃ p, redirected.2.1.resource = .secrets p ∧ p.observed = .ofCurrent (current redirecting)) ∧
    (revisited.1.result = some (.ok (.observed .absent)) ↔ current redirecting = none) := by
  have hrun : Session.Run .secrets hosting Eq { resource := .secrets declared } Vault.empty
      redirecting redirected.2.1 redirected.2.2 :=
    .turn (.setSpec _) "later" 1 run_created rfl
  obtain ⟨hstatus, hobserve⟩ := remembered_exactly rfl hrun (by simp [redirecting])
  exact ⟨rfl, hstatus, (hobserve "later still" 1 revisited.1 revisited.2.1 revisited.2.2 rfl).1⟩

end GitHubReconciler.Secret
