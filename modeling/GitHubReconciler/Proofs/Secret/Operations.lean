-- SUMMARY: All that the operations on a secret can do: uploading (`Sending`, `Uploading`), observing (`Observing`) and deleting.
import GitHubReconciler.Operation.Session
import GitHubReconciler.Proofs.Exchanges

/-!
# Operations on secrets

`Sending` and `Uploading` say what an upload can do, with one case for each point at which it may
fail, and `Observing` what an observation can do. All that is proved about the operations is a
case distinction over them. They list neither too little (`performing_of_generates`) nor too much
(`Performing.generates`).
-/

namespace GitHubReconciler.Secret

open Operation

variable {d : Desired} {name now : String} {o : SecretObject} {r r' : Resource}
  {xs : List Exchange}

/-! ## Uploading -/

/-- The exchanges that send a value to GitHub, and the value. -/
inductive Sending (d : Desired) (name : String) : List Exchange → Except Failure Bytes → Prop where
  | keyless {failure : ApiFailure} :
      Sending d name [⟨.getPublicKey d.owner d.repository, .error failure⟩]
        (.error (.remote keyContext failure))
  | valueless {key : Remote.PublicKey} {failure : Failure} :
      Sending d name
        [⟨.getPublicKey d.owner d.repository, .ok key⟩, ⟨.extract d.value, .error failure⟩]
        (.error failure)
  /-- The public key cannot be used. -/
  | unusable {key : Remote.PublicKey} {value : Bytes} {fault : KeyFault} :
      recipient key = .error fault →
      Sending d name
        [⟨.getPublicKey d.owner d.repository, .ok key⟩, ⟨.extract d.value, .ok value⟩]
        (.error (.encryption fault.message))
  | refused {key : Remote.PublicKey} {value box drawn : Bytes} {failure : ApiFailure} :
      recipient key = .ok box →
      Sending d name
        [⟨.getPublicKey d.owner d.repository, .ok key⟩, ⟨.extract d.value, .ok value⟩,
          ⟨.drawKey, drawn⟩,
          ⟨.putSecret d.owner d.repository (sealValue key box drawn name value), .error failure⟩]
        (.error (.remote uploadContext failure))
  | sent {key : Remote.PublicKey} {value box drawn : Bytes} :
      recipient key = .ok box →
      Sending d name
        [⟨.getPublicKey d.owner d.repository, .ok key⟩, ⟨.extract d.value, .ok value⟩,
          ⟨.drawKey, drawn⟩,
          ⟨.putSecret d.owner d.repository (sealValue key box drawn name value), .ok ()⟩]
        (.ok value)

/-- Reading a value is a single call, whose answer is the result. -/
theorem yields_extract {selector : Selector} {result : Except Failure Bytes} :
    Yields (extract selector) r xs result r' ↔ xs = [⟨.extract selector, result⟩] ∧ r' = r := by
  refine (yields_call_bind (c := .extract selector)).trans ?_
  constructor
  · rintro ⟨answer, ys, rfl, h⟩
    cases answer with
    | error failure =>
      obtain ⟨rfl, rfl, rfl⟩ := yields_throw.mp h
      exact ⟨rfl, rfl⟩
    | ok value =>
      obtain ⟨rfl, rfl, rfl⟩ := yields_pure.mp h
      exact ⟨rfl, rfl⟩
  · rintro ⟨rfl, rfl⟩
    refine ⟨result, [], rfl, ?_⟩
    cases result with
    | error failure => exact yields_throw.mpr ⟨rfl, rfl, rfl⟩
    | ok value => exact yields_pure.mpr ⟨rfl, rfl, rfl⟩

theorem yields_extract_bind {α : Type} {selector : Selector} {f : Bytes → Operation α}
    {result : Except Failure α} :
    Yields (extract selector >>= f) r xs result r' ↔
      (∃ failure, xs = [⟨.extract selector, .error failure⟩] ∧ result = .error failure ∧ r' = r) ∨
      ∃ value ys, xs = ⟨.extract selector, .ok value⟩ :: ys ∧ Yields (f value) r ys result r' := by
  rw [yields_bind]
  constructor
  · rintro (⟨failure, rfl, h⟩ | ⟨ys, zs, value, s, rfl, h, hf⟩)
    · obtain ⟨rfl, rfl⟩ := yields_extract.mp h
      exact .inl ⟨failure, rfl, rfl, rfl⟩
    · obtain ⟨rfl, rfl⟩ := yields_extract.mp h
      exact .inr ⟨value, zs, rfl, hf⟩
  · rintro (⟨failure, rfl, rfl, rfl⟩ | ⟨value, ys, rfl, hf⟩)
    · exact .inl ⟨failure, rfl, yields_extract.mpr ⟨rfl, rfl⟩⟩
    · exact .inr ⟨_, ys, value, r, rfl, yields_extract.mpr ⟨rfl, rfl⟩, hf⟩

theorem sending_of_yields {result : Except Failure String}
    (h : Yields (uploadSealed d name) r xs result r') :
    ∃ value, Sending d name xs value ∧ result = value.map digest ∧ r' = r := by
  obtain ⟨keyAnswer, ys, rfl, hkey⟩ := yields_call_bind.mp h
  cases keyAnswer with
  | error failure =>
    rw [yields_expect_error_bind] at hkey
    obtain ⟨rfl, rfl, rfl⟩ := hkey
    exact ⟨_, .keyless, rfl, rfl⟩
  | ok key =>
    rw [yields_expect_ok_bind, yields_extract_bind] at hkey
    rcases hkey with ⟨failure, rfl, rfl, rfl⟩ | ⟨value, zs, rfl, hvalue⟩
    · exact ⟨_, .valueless, rfl, rfl⟩
    · cases hbox : recipient key with
      | error fault =>
        rw [hbox, yields_throw] at hvalue
        obtain ⟨rfl, rfl, rfl⟩ := hvalue
        exact ⟨_, .unusable hbox, rfl, rfl⟩
      | ok box =>
        rw [hbox] at hvalue
        obtain ⟨drawn, ws, rfl, hdrawn⟩ := yields_call_bind.mp hvalue
        obtain ⟨answer, vs, rfl, hput⟩ := yields_call_bind.mp hdrawn
        cases answer with
        | error failure =>
          rw [yields_expect_error_bind] at hput
          obtain ⟨rfl, rfl, rfl⟩ := hput
          exact ⟨_, .refused hbox, rfl, rfl⟩
        | ok _ =>
          rw [yields_expect_ok_bind, yields_log_bind, yields_pure] at hput
          obtain ⟨rfl, rfl, rfl⟩ := hput
          exact ⟨_, .sent hbox, rfl, rfl⟩

/-- The exchanges of an upload; if it succeeds, the value and what GitHub reports of it. -/
inductive Uploading (d : Desired) (name : String) :
    List Exchange → Except Failure (Bytes × Remote.SecretRecord) → Prop where
  | unsent {xs : List Exchange} {failure : Failure} :
      Sending d name xs (.error failure) →
      Uploading d name xs (.error failure)
  /-- The value was sent, but what GitHub has of it could not be read. -/
  | unread {xs : List Exchange} {value : Bytes} {failure : ApiFailure} :
      Sending d name xs (.ok value) →
      Uploading d name (xs ++ [⟨.getSecret d.owner d.repository name, .error failure⟩])
        (.error (.remote getContext failure))
  | uploaded {xs : List Exchange} {value : Bytes} {record : Remote.SecretRecord} :
      Sending d name xs (.ok value) →
      Uploading d name (xs ++ [⟨.getSecret d.owner d.repository name, .ok record⟩])
        (.ok (value, record))

/-- An object that remembers an upload. -/
def remembering (o : SecretObject) (upload : Bytes × Remote.SecretRecord) : SecretObject :=
  o.withObserved (.ofUpload (digest upload.1) upload.2)

theorem uploading_of_yields {result : Except Failure SecretObject}
    (h : Yields (upload o) r xs result r') :
    ∃ outcome, Uploading o.desired o.metadata.externalName xs outcome ∧
      result = outcome.map (remembering o) ∧
      r' = match outcome with
        | .ok upload => .secrets (remembering o upload)
        | .error _ => r := by
  unfold upload at h
  rcases yields_bind.mp h with ⟨failure, rfl, hsend⟩ | ⟨ys, zs, text, s, rfl, hsend, hread⟩
  · obtain ⟨value, hsending, heq, rfl⟩ := sending_of_yields hsend
    cases value with
    | error failure =>
      cases heq
      exact ⟨_, .unsent hsending, rfl, rfl⟩
    | ok value => cases heq
  · obtain ⟨value, hsending, heq, rfl⟩ := sending_of_yields hsend
    cases value with
    | error failure => cases heq
    | ok value =>
      cases heq
      unfold fetchRecord at hread
      rw [bind_assoc] at hread
      obtain ⟨answer, ws, rfl, hanswer⟩ := yields_call_bind.mp hread
      cases answer with
      | error failure =>
        rw [yields_expect_error_bind] at hanswer
        obtain ⟨rfl, rfl, rfl⟩ := hanswer
        exact ⟨_, .unread hsending, rfl, rfl⟩
      | ok record =>
        rw [yields_expect_ok_bind, yields_set_bind, yields_log_bind, yields_pure] at hanswer
        obtain ⟨rfl, rfl, rfl⟩ := hanswer
        exact ⟨_, .uploaded hsending, rfl, rfl⟩

/-- An operation that begins with an upload fails with it, or goes on with what is remembered. -/
theorem yields_upload_bind {α : Type} {f : SecretObject → Operation α} {result : Except Failure α}
    (h : Yields (upload o >>= f) r xs result r') :
    (∃ failure, Uploading o.desired o.metadata.externalName xs (.error failure) ∧
      result = .error failure ∧ r' = r) ∨
    ∃ ys zs upload, xs = ys ++ zs ∧
      Uploading o.desired o.metadata.externalName ys (.ok upload) ∧
      Yields (f (remembering o upload)) (.secrets (remembering o upload)) zs result r' := by
  rcases yields_bind.mp h with ⟨failure, rfl, hupload⟩ | ⟨ys, zs, p, s, rfl, hupload, hrest⟩
  · obtain ⟨outcome, huploading, heq, rfl⟩ := uploading_of_yields hupload
    cases outcome with
    | error failure =>
      cases heq
      exact .inl ⟨_, huploading, rfl, rfl⟩
    | ok upload => cases heq
  · obtain ⟨outcome, huploading, heq, rfl⟩ := uploading_of_yields hupload
    cases outcome with
    | error failure => cases heq
    | ok upload =>
      cases heq
      exact .inr ⟨ys, zs, upload, rfl, huploading, hrest⟩

/-! ## What is read for an upload -/

theorem Sending.values_eq {value : Bytes}
    (h : Sending d name xs (.ok value)) : values xs = [value] := by
  cases h with
  | sent => rfl

theorem Sending.records_eq_nil {result : Except Failure Bytes}
    (h : Sending d name xs result) : records xs = [] := by
  cases h with
  | keyless => rfl
  | valueless => rfl
  | unusable => rfl
  | refused => rfl
  | sent => rfl

theorem Uploading.values_eq {upload : Bytes × Remote.SecretRecord}
    (h : Uploading d name xs (.ok upload)) : values xs = [upload.1] := by
  cases h with
  | uploaded hsending =>
    rw [values_append, hsending.values_eq]
    rfl

theorem Uploading.records_eq {upload : Bytes × Remote.SecretRecord}
    (h : Uploading d name xs (.ok upload)) : records xs = [upload.2] := by
  cases h with
  | uploaded hsending =>
    rw [records_append, hsending.records_eq_nil]
    rfl

/-! ## Creating and updating -/

/-- A creation is an upload, which marks the resource if it succeeds. -/
theorem uploading_of_yields_create {result : Except Failure Bool}
    (h : Yields (create now) (.secrets o) xs result r') :
    ∃ outcome, Uploading o.desired o.metadata.externalName xs outcome ∧
      result = outcome.map (fun _ => false) ∧
      r' = match outcome with
        | .ok upload => .secrets ((remembering o upload).withCondition (.ready .creating now))
        | .error _ => .secrets o := by
  unfold create at h
  rw [yields_getSecretObject_bind] at h
  rcases yields_upload_bind h with
    ⟨failure, huploading, rfl, rfl⟩ | ⟨ys, zs, upload, rfl, huploading, hmark⟩
  · exact ⟨_, huploading, rfl, rfl⟩
  · rw [yields_set_bind, yields_pure] at hmark
    obtain ⟨rfl, rfl, rfl⟩ := hmark
    rw [List.append_nil]
    exact ⟨_, huploading, rfl, rfl⟩

/-- An update is an upload. -/
theorem uploading_of_yields_update {result : Except Failure Unit}
    (h : Yields update (.secrets o) xs result r') :
    ∃ outcome, Uploading o.desired o.metadata.externalName xs outcome ∧
      result = outcome.map (fun _ => ()) ∧
      r' = match outcome with
        | .ok upload => .secrets (remembering o upload)
        | .error _ => .secrets o := by
  unfold update at h
  rw [yields_getSecretObject_bind] at h
  rcases yields_upload_bind h with
    ⟨failure, huploading, rfl, rfl⟩ | ⟨ys, zs, upload, rfl, huploading, hdone⟩
  · exact ⟨_, huploading, rfl, rfl⟩
  · obtain ⟨rfl, rfl, rfl⟩ := yields_pure.mp hdone
    rw [List.append_nil]
    exact ⟨_, huploading, rfl, rfl⟩

/-! ## Deleting -/

/-- A deletion is a single call, and forgets the upload if it succeeds. -/
theorem deleting_of_yields {result : Except Failure Unit}
    (h : Yields (delete now) (.secrets o) xs result r') :
    ∃ answer : Call.FromGitHub Unit,
      xs = [⟨.deleteSecret o.desired.owner o.desired.repository o.metadata.externalName, answer⟩] ∧
      result = answer.mapError (.remote deleteContext) ∧
      r' = match answer with
        | .ok _ => .secrets ((o.withObserved {}).withCondition (.ready .deleting now))
        | .error _ => .secrets o := by
  unfold delete at h
  rw [yields_getSecretObject_bind] at h
  obtain ⟨answer, ys, rfl, hanswer⟩ := yields_call_bind.mp h
  cases answer with
  | error failure =>
    rw [yields_expect_error_bind] at hanswer
    obtain ⟨rfl, rfl, rfl⟩ := hanswer
    exact ⟨.error failure, rfl, rfl, rfl⟩
  | ok _ =>
    rw [yields_expect_ok_bind, yields_set_bind, yields_log] at hanswer
    obtain ⟨rfl, rfl, rfl⟩ := hanswer
    exact ⟨.ok (), rfl, rfl, rfl⟩

/-! ## Observing -/

/-- The exchanges of an observation, what it finds out and the resource after it. -/
inductive Observing (now : String) (o : SecretObject) :
    List Exchange → Except Failure Observation → Resource → Prop where
  | absent :
      o.observed.digest = none →
      Observing now o [] (.ok .absent) (.secrets o)
  | unread {failure : ApiFailure} :
      o.observed.digest ≠ none →
      Observing now o
        [⟨.getSecret o.desired.owner o.desired.repository o.metadata.externalName,
          .error failure⟩]
        (.error (.remote getContext failure)) (.secrets o)
  | valueless {record : Remote.SecretRecord} {failure : Failure} :
      o.observed.digest ≠ none →
      Observing now o
        [⟨.getSecret o.desired.owner o.desired.repository o.metadata.externalName, .ok record⟩,
          ⟨.extract o.desired.value, .error failure⟩]
        (.error failure) (.secrets o)
  | compared {record : Remote.SecretRecord} {value : Bytes} :
      o.observed.digest ≠ none →
      Observing now o
        [⟨.getSecret o.desired.owner o.desired.repository o.metadata.externalName, .ok record⟩,
          ⟨.extract o.desired.value, .ok value⟩]
        (.ok ⟨true, o.observed.isOf value record, false⟩)
        (.secrets (o.withCondition (.ready .available now)))

theorem observing_of_yields {result : Except Failure Observation}
    (h : Yields (observe now) (.secrets o) xs result r') : Observing now o xs result r' := by
  unfold observe at h
  rw [yields_getSecretObject_bind] at h
  by_cases hnone : o.observed.digest.isNone = true
  · rw [if_pos hnone, yields_log_bind, yields_pure] at h
    obtain ⟨rfl, rfl, rfl⟩ := h
    exact .absent (Option.isNone_iff_eq_none.mp hnone)
  · have hsome : o.observed.digest ≠ none := fun heq => hnone (by rw [heq]; rfl)
    rw [if_neg hnone] at h
    unfold isUpToDate fetchRecord at h
    rw [bind_assoc, bind_assoc] at h
    obtain ⟨answer, ys, rfl, hanswer⟩ := yields_call_bind.mp h
    cases answer with
    | error failure =>
      rw [yields_expect_error_bind] at hanswer
      obtain ⟨rfl, rfl, rfl⟩ := hanswer
      exact .unread hsome
    | ok record =>
      rw [yields_expect_ok_bind, bind_assoc, yields_extract_bind] at hanswer
      rcases hanswer with ⟨failure, rfl, rfl, rfl⟩ | ⟨value, zs, rfl, hvalue⟩
      · exact .valueless hsome
      · rw [pure_bind] at hvalue
        split at hvalue
        · rw [yields_note_bind, yields_log_bind, yields_set_bind, yields_pure] at hvalue
          obtain ⟨rfl, rfl, rfl⟩ := hvalue
          exact .compared hsome
        · rw [yields_set_bind, yields_pure] at hvalue
          obtain ⟨rfl, rfl, rfl⟩ := hvalue
          exact .compared hsome

/-! ## Through the client -/

theorem observing_of_generates {outcome : Except Failure Outcome × Resource}
    (h : (client.converse .observe now (.secrets o)).Generates xs outcome) :
    ∃ result, outcome.1 = .observed <$> result ∧ Observing now o xs result outcome.2 := by
  obtain ⟨result, heq, hyields⟩ := yields_map.mp h
  exact ⟨result, heq, observing_of_yields (yields_instrumented.mp hyields)⟩

/-- The exchanges of an operation of the client, its outcome and the resource after it. -/
inductive Performing (now : String) (o : SecretObject) :
    Verb → List Exchange → Except Failure Outcome → Resource → Prop where
  | observed {xs : List Exchange} {result : Except Failure Observation} {r' : Resource} :
      Observing now o xs result r' →
      Performing now o .observe xs (.observed <$> result) r'
  | notUploaded {verb : Verb} {xs : List Exchange} {failure : Failure} :
      verb = .create ∨ verb = .update →
      Uploading o.desired o.metadata.externalName xs (.error failure) →
      Performing now o verb xs (.error failure) (.secrets o)
  | created {xs : List Exchange} {upload : Bytes × Remote.SecretRecord} :
      Uploading o.desired o.metadata.externalName xs (.ok upload) →
      Performing now o .create xs (.ok (.created false))
        (.secrets ((remembering o upload).withCondition (.ready .creating now)))
  | updated {xs : List Exchange} {upload : Bytes × Remote.SecretRecord} :
      Uploading o.desired o.metadata.externalName xs (.ok upload) →
      Performing now o .update xs (.ok .updated) (.secrets (remembering o upload))
  | notDeleted {failure : ApiFailure} :
      Performing now o .delete
        [⟨.deleteSecret o.desired.owner o.desired.repository o.metadata.externalName,
          .error failure⟩]
        (.error (.remote deleteContext failure)) (.secrets o)
  | deleted :
      Performing now o .delete
        [⟨.deleteSecret o.desired.owner o.desired.repository o.metadata.externalName, .ok ()⟩]
        (.ok .deleted) (.secrets ((o.withObserved {}).withCondition (.ready .deleting now)))

/-- The client does nothing but what `Performing` lists. -/
theorem performing_of_generates {verb : Verb} {outcome : Except Failure Outcome × Resource}
    (h : (client.converse verb now (.secrets o)).Generates xs outcome) :
    Performing now o verb xs outcome.1 outcome.2 := by
  obtain ⟨result, resource⟩ := outcome
  cases verb with
  | observe =>
    obtain ⟨first, rfl, hobserving⟩ := observing_of_generates h
    exact .observed hobserving
  | create =>
    obtain ⟨first, rfl, hyields⟩ := yields_map.mp h
    obtain ⟨outcome, huploading, rfl, rfl⟩ :=
      uploading_of_yields_create (yields_instrumented.mp hyields)
    cases outcome with
    | error failure => exact .notUploaded (.inl rfl) huploading
    | ok upload => exact .created huploading
  | update =>
    obtain ⟨first, rfl, hyields⟩ := yields_map.mp h
    obtain ⟨outcome, huploading, rfl, rfl⟩ :=
      uploading_of_yields_update (yields_instrumented.mp hyields)
    cases outcome with
    | error failure => exact .notUploaded (.inr rfl) huploading
    | ok upload => exact .updated huploading
  | delete =>
    obtain ⟨first, rfl, hyields⟩ := yields_map.mp h
    obtain ⟨answer, rfl, rfl, rfl⟩ := deleting_of_yields (yields_instrumented.mp hyields)
    cases answer with
    | error failure => exact .notDeleted
    | ok _ => exact .deleted

/-! ## All of it occurs

Every case that the relations list is one that the operations can come to, so they say no more than
they have to. -/

theorem Sending.yields {result : Except Failure Bytes} (h : Sending d name xs result) :
    Yields (uploadSealed d name) r xs (result.map digest) r := by
  cases h with
  | keyless =>
    exact yields_call_bind.mpr ⟨.error _, [], rfl, yields_expect_error_bind.mpr ⟨rfl, rfl, rfl⟩⟩
  | valueless =>
    refine yields_call_bind.mpr ⟨.ok _, _, rfl, yields_expect_ok_bind.mpr ?_⟩
    exact yields_extract_bind.mpr (.inl ⟨_, rfl, rfl, rfl⟩)
  | unusable hbox =>
    refine yields_call_bind.mpr ⟨.ok _, _, rfl, yields_expect_ok_bind.mpr ?_⟩
    refine yields_extract_bind.mpr (.inr ⟨_, [], rfl, ?_⟩)
    rw [hbox]
    exact yields_throw.mpr ⟨rfl, rfl, rfl⟩
  | refused hbox =>
    refine yields_call_bind.mpr ⟨.ok _, _, rfl, yields_expect_ok_bind.mpr ?_⟩
    refine yields_extract_bind.mpr (.inr ⟨_, _, rfl, ?_⟩)
    rw [hbox]
    refine yields_call_bind.mpr ⟨_, _, rfl, yields_call_bind.mpr ⟨.error _, [], rfl, ?_⟩⟩
    exact yields_expect_error_bind.mpr ⟨rfl, rfl, rfl⟩
  | sent hbox =>
    refine yields_call_bind.mpr ⟨.ok _, _, rfl, yields_expect_ok_bind.mpr ?_⟩
    refine yields_extract_bind.mpr (.inr ⟨_, _, rfl, ?_⟩)
    rw [hbox]
    refine yields_call_bind.mpr ⟨_, _, rfl, yields_call_bind.mpr ⟨.ok (), [], rfl, ?_⟩⟩
    exact yields_expect_ok_bind.mpr (yields_log_bind.mpr (yields_pure.mpr ⟨rfl, rfl, rfl⟩))

/-- What an upload makes of a resource that declares `o`. -/
def afterUpload (o : SecretObject) (r : Resource) :
    Except Failure (Bytes × Remote.SecretRecord) → Resource
  | .ok upload => .secrets (remembering o upload)
  | .error _ => r

theorem Uploading.yields {outcome : Except Failure (Bytes × Remote.SecretRecord)}
    (h : Uploading o.desired o.metadata.externalName xs outcome) :
    Yields (upload o) r xs (outcome.map (remembering o)) (afterUpload o r outcome) := by
  cases h with
  | unsent hsending => exact yields_bind.mpr (.inl ⟨_, rfl, hsending.yields⟩)
  | unread hsending =>
    refine yields_bind.mpr (.inr ⟨_, _, _, r, rfl, hsending.yields, ?_⟩)
    unfold fetchRecord
    rw [bind_assoc]
    exact yields_call_bind.mpr ⟨.error _, [], rfl, yields_expect_error_bind.mpr ⟨rfl, rfl, rfl⟩⟩
  | uploaded hsending =>
    refine yields_bind.mpr (.inr ⟨_, _, _, r, rfl, hsending.yields, ?_⟩)
    unfold fetchRecord
    rw [bind_assoc]
    refine yields_call_bind.mpr ⟨.ok _, [], rfl, yields_expect_ok_bind.mpr ?_⟩
    exact yields_set_bind.mpr (yields_log_bind.mpr (yields_pure.mpr ⟨rfl, rfl, rfl⟩))

/-- An operation that begins with an upload that succeeds goes on with what is remembered. -/
theorem Uploading.yields_bind {α : Type} {f : SecretObject → Operation α}
    {result : Except Failure α} {upload' : Bytes × Remote.SecretRecord}
    (h : Uploading o.desired o.metadata.externalName xs (.ok upload'))
    (hf : Yields (f (remembering o upload')) (.secrets (remembering o upload')) [] result r') :
    Yields (upload o >>= f) r xs result r' := by
  refine Operation.yields_bind.mpr (.inr ⟨xs, [], _, _, ?_, h.yields, hf⟩)
  rw [List.append_nil]

theorem Observing.yields {result : Except Failure Observation} (h : Observing now o xs result r') :
    Yields (observe now) (.secrets o) xs result r' := by
  unfold observe
  rw [yields_getSecretObject_bind]
  cases h with
  | absent hnone =>
    rw [if_pos (Option.isNone_iff_eq_none.mpr hnone), yields_log_bind, yields_pure]
    exact ⟨rfl, rfl, rfl⟩
  | unread hsome =>
    rw [if_neg (by simpa using hsome), isUpToDate, fetchRecord, bind_assoc, bind_assoc]
    exact yields_call_bind.mpr ⟨.error _, [], rfl, yields_expect_error_bind.mpr ⟨rfl, rfl, rfl⟩⟩
  | valueless hsome =>
    rw [if_neg (by simpa using hsome), isUpToDate, fetchRecord, bind_assoc, bind_assoc]
    refine yields_call_bind.mpr ⟨.ok _, _, rfl, yields_expect_ok_bind.mpr ?_⟩
    rw [bind_assoc]
    exact yields_extract_bind.mpr (.inl ⟨_, rfl, rfl, rfl⟩)
  | compared hsome =>
    rw [if_neg (by simpa using hsome), isUpToDate, fetchRecord, bind_assoc, bind_assoc]
    refine yields_call_bind.mpr ⟨.ok _, _, rfl, yields_expect_ok_bind.mpr ?_⟩
    rw [bind_assoc]
    refine yields_extract_bind.mpr (.inr ⟨_, [], rfl, ?_⟩)
    rw [pure_bind]
    split
    · rw [yields_note_bind, yields_log_bind, yields_set_bind, yields_pure]
      exact ⟨rfl, rfl, rfl⟩
    · rw [yields_set_bind, yields_pure]
      exact ⟨rfl, rfl, rfl⟩

/-- The client can do all that `Performing` lists. -/
theorem Performing.generates {verb : Verb} {outcome : Except Failure Outcome}
    (h : Performing now o verb xs outcome r') :
    (client.converse verb now (.secrets o)).Generates xs (outcome, r') := by
  cases h with
  | observed hobserving =>
    exact yields_map.mpr ⟨_, rfl, yields_instrumented.mpr hobserving.yields⟩
  | notUploaded hverb huploading =>
    rcases hverb with rfl | rfl
    · refine yields_map.mpr ⟨.error _, rfl, yields_instrumented.mpr ?_⟩
      exact yields_getSecretObject_bind.mpr (yields_bind.mpr (.inl ⟨_, rfl, huploading.yields⟩))
    · refine yields_map.mpr ⟨.error _, rfl, yields_instrumented.mpr ?_⟩
      exact yields_getSecretObject_bind.mpr (yields_bind.mpr (.inl ⟨_, rfl, huploading.yields⟩))
  | created huploading =>
    refine yields_map.mpr ⟨.ok false, rfl, yields_instrumented.mpr ?_⟩
    exact huploading.yields_bind (yields_set_bind.mpr (yields_pure.mpr ⟨rfl, rfl, rfl⟩))
  | updated huploading =>
    refine yields_map.mpr ⟨.ok (), rfl, yields_instrumented.mpr ?_⟩
    exact huploading.yields_bind (yields_pure.mpr ⟨rfl, rfl, rfl⟩)
  | notDeleted =>
    refine yields_map.mpr ⟨.error _, rfl, yields_instrumented.mpr ?_⟩
    exact yields_call_bind.mpr ⟨.error _, [], rfl, yields_expect_error_bind.mpr ⟨rfl, rfl, rfl⟩⟩
  | deleted =>
    refine yields_map.mpr ⟨.ok (), rfl, yields_instrumented.mpr ?_⟩
    refine yields_call_bind.mpr ⟨.ok (), [], rfl, yields_expect_ok_bind.mpr ?_⟩
    exact yields_set_bind.mpr (yields_log.mpr ⟨rfl, rfl, rfl⟩)

end GitHubReconciler.Secret
