-- SUMMARY: What sessions show of the value of a secret: its length, and whether its digest is the remembered one (`indistinct_scenes`).
import GitHubReconciler.Proofs.Metrics.Registry
import GitHubReconciler.Proofs.Pairing
import GitHubReconciler.Proofs.Secret.Soundness

/-!
# Confidentiality of values

Two sessions that differ in nothing but the bytes of the values that are read, with values of equal
length in each place, show the same: results, calls, log events, metrics and the resource. A sealed
value is seen by its length only, and the remembered digest is left out of the resource. An
observation compares the digest of the value with the remembered one, and what it shows may depend
on this one bit.

Each operation is a pair with itself in two worlds, taken apart by the rules for pairs.
-/

namespace GitHubReconciler.Secret

open Operation

variable {σ τ : Type} {o o' : SecretObject} {r r' : Resource} {d : Desired} {name now : String}

/-! ## What is left of a resource without the digest -/

/-- A fingerprint that still says whether there is a digest, but not which. -/
def Fingerprint.redacted (f : Fingerprint) : Fingerprint :=
  { f with digest := f.digest.map fun _ => "" }

def redactObject (o : SecretObject) : SecretObject :=
  { o with
    status := o.status.map fun status => { status with atProvider := status.atProvider.redacted } }

/-- A resource without the remembered digest. -/
def redact : Resource → Resource
  | .secrets o => .secrets (redactObject o)
  | r => r

/-- The remembered digest. -/
def digest? : Resource → Option String
  | .secrets o => o.observed.digest
  | _ => none

theorem redactObject_withCondition (c : Condition) :
    redactObject (o.withCondition c) = (redactObject o).withCondition c := by
  obtain ⟨metadata, spec, status⟩ := o
  cases status with
  | none => rfl
  | some status => rfl

theorem redactObject_withObserved (f : Fingerprint) :
    redactObject (o.withObserved f) = (redactObject o).withObserved f.redacted := by
  obtain ⟨metadata, spec, status⟩ := o
  cases status with
  | none => rfl
  | some status => rfl

theorem observed_redactObject : (redactObject o).observed = o.observed.redacted := by
  obtain ⟨metadata, spec, status⟩ := o
  cases status with
  | none => rfl
  | some status => rfl

theorem desired_eq (h : redactObject o = redactObject o') : o'.desired = o.desired := by
  have hdesired : (redactObject o').desired = (redactObject o).desired := by rw [h]
  exact hdesired

theorem metadata_eq (h : redactObject o = redactObject o') : o'.metadata = o.metadata := by
  have hmetadata : (redactObject o').metadata = (redactObject o).metadata := by rw [h]
  exact hmetadata

theorem isNone_eq (h : redactObject o = redactObject o') :
    o'.observed.digest.isNone = o.observed.digest.isNone := by
  have hdigest : (redactObject o').observed.digest.isNone =
      (redactObject o).observed.digest.isNone := by rw [h]
  simpa [observed_redactObject, Fingerprint.redacted] using hdigest

theorem updatedAt_eq (h : redactObject o = redactObject o') :
    o'.observed.updatedAt = o.observed.updatedAt := by
  have hupdated : (redactObject o').observed.updatedAt = (redactObject o).observed.updatedAt := by
    rw [h]
  simpa [observed_redactObject, Fingerprint.redacted] using hupdated

theorem redact_withSpec (spec : Resource.AnySpec) :
    redact (r.withSpec spec) = (redact r).withSpec spec := by
  cases r with
  | secrets o =>
    cases spec with
    | secrets => rfl
    | _ => rfl
  | _ =>
    cases spec with
    | _ => rfl

theorem displayName_eq (h : redact r = redact r') : r.displayName = r'.displayName := by
  have hname (r : Resource) : (redact r).displayName = r.displayName := by
    cases r with
    | _ => rfl
  rw [← hname r, h, hname r']

/-! ## What is seen of calls -/

/-- Sealed secrets that differ in nothing but the bytes of the value. -/
structure SealedAlike (s t : Remote.SealedSecret) : Prop where
  name : s.name = t.name
  keyId : s.keyId = t.keyId
  length : s.value.length = t.value.length

/-- Calls that differ in nothing but the bytes of a sealed value. -/
inductive AskAlike : Call → Call → Prop where
  | same {q : Call} : AskAlike q q
  | put {owner repository : String} {s t : Remote.SealedSecret} :
      SealedAlike s t → AskAlike (.putSecret owner repository s) (.putSecret owner repository t)

/-- Exchanges that differ in nothing but the bytes of a value, of a sealed value or of a key that
    is used once. -/
inductive Alike : Exchange → Exchange → Prop where
  | same {x : Exchange} : Alike x x
  | extracted {selector : Selector} {v w : Bytes} :
      v.length = w.length → Alike ⟨.extract selector, .ok v⟩ ⟨.extract selector, .ok w⟩
  | drawn {k l : Bytes} : Alike ⟨.drawKey, k⟩ ⟨.drawKey, l⟩
  | put {owner repository : String} {s t : Remote.SealedSecret} {answer : Call.FromGitHub Unit} :
      SealedAlike s t →
      Alike ⟨.putSecret owner repository s, answer⟩ ⟨.putSecret owner repository t, answer⟩

/-- Two worlds that differ in nothing but the bytes of the values that are read and of the keys that
    are drawn. -/
abbrev Twins (σ τ : Type) := Dialogue.Pairing AskAlike Alike σ τ

variable {p : Twins σ τ}

theorem sealedAlike_sealValue {key : Remote.PublicKey} {box drawn drawn' value value' : Bytes}
    (h : value.length = value'.length) :
    SealedAlike (sealValue key box drawn name value) (sealValue key box drawn' name value') where
  name := rfl
  keyId := rfl
  length := by simp [sealValue, h]

/-- A call that reads no value and draws no key has the same answer in both. -/
theorem Alike.answer_eq {q : Call} {a a' : q.Answer} (h : Alike ⟨q, a⟩ ⟨q, a'⟩)
    (hvalue : ∀ selector, q ≠ .extract selector) (hkey : q ≠ .drawKey) : a = a' := by
  cases q with
  | extract selector => exact absurd rfl (hvalue selector)
  | drawKey => exact absurd rfl hkey
  | putSecret owner repository s =>
    cases h with
    | same => rfl
    | put => rfl
  | _ =>
    cases h with
    | same => rfl

theorem Alike.eq_of_getSecret {owner owner' repository repository' name' : String}
    {a a' : Call.FromGitHub Remote.SecretRecord}
    (h : Alike ⟨.getSecret owner repository name, a⟩ ⟨.getSecret owner' repository' name', a'⟩) :
    a = a' := by
  cases h with
  | same => rfl

/-- The values that are read have the same length, or cannot be read for the same reason. -/
theorem Alike.agree_of_extract {selector selector' : Selector} {a a' : Except Failure Bytes}
    (h : Alike ⟨.extract selector, a⟩ ⟨.extract selector', a'⟩) :
    Agree (fun v w : Bytes => v.length = w.length) a a' := by
  cases h with
  | same =>
    cases a with
    | error failure => exact .error
    | ok value => exact .ok rfl
  | extracted hlength => exact .ok hlength

/-! ## Calls in two worlds -/

theorem lockstep_call (q : Call) (hvalue : ∀ selector, q ≠ .extract selector)
    (hkey : q ≠ .drawKey) : Lockstep p redact Eq (call q) (call q) :=
  .call .same fun _ _ halike => halike.answer_eq hvalue hkey

theorem lockstep_putSecret {owner repository : String} {s t : Remote.SealedSecret}
    (h : SealedAlike s t) :
    Lockstep p redact Eq (putSecret owner repository s) (putSecret owner repository t) := by
  refine .call (.put h) fun a a' halike => ?_
  cases halike with
  | same => rfl
  | put => rfl

theorem lockstep_drawKey : Lockstep p redact (fun _ _ => True) drawKey drawKey :=
  .call .same fun _ _ _ => trivial

theorem lockstep_extract {selector : Selector} :
    Lockstep p redact (fun v w => v.length = w.length) (extract selector) (extract selector) := by
  refine .bind (.call .same fun _ _ => Alike.agree_of_extract) ?_
  intro a a' hagree
  cases hagree with
  | error => exact .throw
  | ok hlength => exact .pure hlength

theorem lockstep_getSecretObject :
    Lockstep p redact (fun o o' => redactObject o = redactObject o') getSecretObject
      getSecretObject := by
  intro r r' hview
  cases r with
  | secrets o =>
    cases r' with
    | secrets o' => exact .done ⟨rfl, .ok (Resource.secrets.inj hview), hview⟩
    | _ => cases hview
  | _ =>
    cases r' with
    | secrets o' => cases hview
    | _ => exact .done ⟨rfl, .error, hview⟩

/-! ## Operations in two worlds -/

theorem lockstep_uploadSealed :
    Lockstep p redact (fun _ _ => True) (uploadSealed d name) (uploadSealed d name) := by
  refine .bind (lockstep_call (.getPublicKey _ _) (by simp) (by simp)) ?_
  rintro answer _ rfl
  refine .bind .expect ?_
  rintro key _ rfl
  refine .bind lockstep_extract ?_
  intro value value' hlength
  cases recipient key with
  | error fault => exact .throw
  | ok box =>
    refine .bind lockstep_drawKey ?_
    intro drawn drawn' _
    refine .bind (lockstep_putSecret (sealedAlike_sealValue hlength)) ?_
    rintro answer _ rfl
    refine .bind .expect ?_
    rintro _ _ -
    refine .bind (.log _ _ _) ?_
    rintro _ _ -
    exact .pure trivial

theorem lockstep_fetchRecord :
    Lockstep p redact Eq (fetchRecord d name) (fetchRecord d name) := by
  refine .bind (lockstep_call (.getSecret _ _ _) (by simp) (by simp)) ?_
  rintro answer _ rfl
  exact .expect

theorem lockstep_isUpToDate {f f' : Fingerprint} :
    Lockstep p redact (fun _ _ => True) (isUpToDate d f name) (isUpToDate d f' name) := by
  refine .bind lockstep_fetchRecord ?_
  rintro record _ rfl
  refine .bind lockstep_extract ?_
  intro value value' _
  exact .pure trivial

/-- The digests of the values are all that an upload leaves different. -/
theorem lockstep_upload (h : redactObject o = redactObject o') :
    Lockstep p redact (fun o o' => redactObject o = redactObject o') (upload o) (upload o') := by
  unfold upload
  rw [desired_eq h, metadata_eq h]
  refine .bind lockstep_uploadSealed ?_
  intro digest digest' _
  refine .bind lockstep_fetchRecord ?_
  rintro record _ rfl
  have hlook : redactObject (o.withObserved (.ofUpload digest record)) =
      redactObject (o'.withObserved (.ofUpload digest' record)) := by
    rw [redactObject_withObserved, redactObject_withObserved, h]
    rfl
  refine .bind (.set (congrArg Resource.secrets hlook)) ?_
  rintro _ _ -
  refine .bind (.log _ _ _) ?_
  rintro _ _ -
  exact .pure hlook

theorem redact_withCondition (h : redactObject o = redactObject o') (c : Condition) :
    redact (.secrets (o.withCondition c)) = redact (.secrets (o'.withCondition c)) := by
  simp only [redact, redactObject_withCondition, h]

theorem lockstep_create : Lockstep p redact Eq (create now) (create now) := by
  refine .bind lockstep_getSecretObject fun o o' h => ?_
  refine .bind (lockstep_upload h) fun o o' h => ?_
  refine .bind (.set (redact_withCondition h _)) ?_
  rintro _ _ -
  exact .pure rfl

theorem lockstep_update : Lockstep p redact Eq update update := by
  refine .bind lockstep_getSecretObject fun o o' h => ?_
  refine .bind (lockstep_upload h) fun o o' h => ?_
  exact .pure rfl

theorem lockstep_delete : Lockstep p redact Eq (delete now) (delete now) := by
  refine .bind lockstep_getSecretObject fun o o' h => ?_
  rw [desired_eq h, metadata_eq h]
  refine .bind (lockstep_call (.deleteSecret _ _ _) (by simp) (by simp)) ?_
  rintro answer _ rfl
  refine .bind .expect ?_
  rintro _ _ -
  have hlook : redactObject (o.withObserved {}) = redactObject (o'.withObserved {}) := by
    rw [redactObject_withObserved, redactObject_withObserved, h]
  refine .bind (.set (redact_withCondition hlook _)) ?_
  rintro _ _ -
  exact .log _ _ _

/-- What an observation finds out is all that makes its notes different. -/
theorem discreet_observe {certain : Prop} (hcertain : ¬ certain) :
    Discreet p redact certain (observe now) (observe now) := by
  refine .bind lockstep_getSecretObject fun o o' h => ?_
  rw [desired_eq h, metadata_eq h, isNone_eq h]
  split
  · refine .of_lockstep (.bind (.log _ _ _) ?_)
    rintro _ _ -
    exact .pure rfl
  · refine .bind lockstep_isUpToDate fun upToDate upToDate' _ => ?_
    intro r r' hview s t hrelated
    have hlook := redact_withCondition h (.ready .available now)
    cases upToDate with
    | true =>
      cases upToDate' with
      | true => exact ⟨.nil, hrelated, fun _ => rfl, fun _ => rfl, hlook⟩
      | false =>
        exact ⟨.nil, hrelated, fun hc => absurd hc hcertain, fun heq => (by cases heq), hlook⟩
    | false =>
      cases upToDate' with
      | true =>
        exact ⟨.nil, hrelated, fun hc => absurd hc hcertain, fun heq => (by cases heq), hlook⟩
      | false => exact ⟨.nil, hrelated, fun _ => rfl, fun _ => rfl, hlook⟩

theorem discreet_perform {verb : Verb} :
    Discreet p redact (verb ≠ .observe) (client.perform verb now) (client.perform verb now) := by
  have hname (r r' : Resource) (h : redact r = redact r') : r.displayName = r'.displayName :=
    displayName_eq h
  cases verb with
  | observe =>
    refine .map (fun _ _ h => Outcome.observed.inj h) (.instrumented hname ?_)
    exact discreet_observe fun h => h rfl
  | create =>
    refine .map (fun _ _ h => Outcome.created.inj h) (.instrumented hname ?_)
    exact .of_lockstep lockstep_create
  | update =>
    refine .map (fun _ _ _ => rfl) (.instrumented hname ?_)
    exact .of_lockstep lockstep_update
  | delete =>
    refine .map (fun _ _ _ => rfl) (.instrumented hname ?_)
    exact .of_lockstep lockstep_delete

/-! ## The verdict of an observation -/

/-- An observation leaves the remembered digest alone. -/
theorem Observing.digest?_eq {xs : List Exchange} {result : Except Failure Observation}
    (h : Observing now o xs result r) : digest? r = o.observed.digest := by
  cases h with
  | _ => rfl

theorem digest?_observe (world : Dialogue.World Call Call.Answer σ) (r : Resource) (w : σ) :
    digest? ((client.converse .observe now r).run world w).value.2 = digest? r := by
  cases r with
  | secrets o =>
    obtain ⟨result, -, hobserving⟩ :=
      observing_of_generates (Dialogue.generates_run world (client.converse .observe now _) w)
    exact hobserving.digest?_eq
  | _ => rfl

/-- Two observations find out the same if the digests of the values they read are the remembered
    ones in both or in neither. -/
theorem Observing.result_eq {xs ys : List Exchange} {x y : Except Failure Observation}
    (h : Observing now o xs x r) (h' : Observing now o' ys y r')
    (hlook : redactObject o = redactObject o') (halike : List.Forall₂ Alike xs ys)
    (hverdict : ∀ v ∈ values xs, ∀ v' ∈ values ys,
      (o.observed.digest = some (digest v) ↔ o'.observed.digest = some (digest v'))) :
    x = y := by
  cases h with
  | absent =>
    cases h' with
    | absent => rfl
    | _ => cases halike
  | unread =>
    cases h' with
    | absent => cases halike
    | unread =>
      cases (List.forall₂_cons.mp halike).1.eq_of_getSecret
      rfl
    | _ => cases (List.forall₂_cons.mp halike).2
  | valueless =>
    cases h' with
    | absent => cases halike
    | unread => cases (List.forall₂_cons.mp halike).2
    | valueless =>
      obtain ⟨-, hrest⟩ := List.forall₂_cons.mp halike
      cases (List.forall₂_cons.mp hrest).1.agree_of_extract
      rfl
    | compared =>
      obtain ⟨-, hrest⟩ := List.forall₂_cons.mp halike
      cases (List.forall₂_cons.mp hrest).1.agree_of_extract
  | @compared record value =>
    cases h' with
    | absent => cases halike
    | unread => cases (List.forall₂_cons.mp halike).2
    | valueless =>
      obtain ⟨-, hrest⟩ := List.forall₂_cons.mp halike
      cases (List.forall₂_cons.mp hrest).1.agree_of_extract
    | @compared record' value' =>
      cases (List.forall₂_cons.mp halike).1.eq_of_getSecret
      have hdigest : (o.observed.digest == some (digest value)) =
          (o'.observed.digest == some (digest value')) := by
        rw [Bool.eq_iff_iff, beq_iff_eq, beq_iff_eq]
        exact hverdict value (List.mem_singleton_self _) value' (List.mem_singleton_self _)
      simp only [Fingerprint.isOf, hdigest, updatedAt_eq hlook]

/-- The verdict is all that the results of two observations can differ in. -/
theorem result_observe_eq {world : Dialogue.World Call Call.Answer σ}
    {world' : Dialogue.World Call Call.Answer τ} {w : σ} {w' : τ}
    (hlook : redact r = redact r')
    (halike : List.Forall₂ Alike ((client.converse .observe now r).run world w).exchanges
      ((client.converse .observe now r').run world' w').exchanges)
    (hverdict : ∀ v ∈ values ((client.converse .observe now r).run world w).exchanges,
      ∀ v' ∈ values ((client.converse .observe now r').run world' w').exchanges,
        (digest? r = some (digest v) ↔ digest? r' = some (digest v'))) :
    ((client.converse .observe now r).run world w).value.1 =
      ((client.converse .observe now r').run world' w').value.1 := by
  cases r with
  | secrets o =>
    cases r' with
    | secrets o' =>
      obtain ⟨x, hx, hobserving⟩ :=
        observing_of_generates (Dialogue.generates_run world (client.converse .observe now _) w)
      obtain ⟨y, hy, hobserving'⟩ :=
        observing_of_generates (Dialogue.generates_run world' (client.converse .observe now _) w')
      rw [hx, hy,
        hobserving.result_eq hobserving' (Resource.secrets.inj hlook) halike hverdict]
    | _ => cases hlook
  | _ =>
    cases r' with
    | secrets o' => cases hlook
    | _ => rfl

/-! ## Sessions -/

/-- The values that two steps read have the remembered digests in both or in neither. -/
def SameVerdict (s t : Session.Scene) : Prop :=
  ∀ v ∈ values s.report.exchanges, ∀ v' ∈ values t.report.exchanges,
    (digest? s.before.resource = some (digest v) ↔ digest? t.before.resource = some (digest v'))

/-- Two steps that cannot be told apart by what they show of a value, up to the verdict of an
    observation. -/
structure Indistinct (s t : Session.Scene) : Prop where
  cue : s.cue = t.cue
  exchanges : List.Forall₂ Alike s.report.exchanges t.report.exchanges
  resource : redact s.after.resource = redact t.after.resource
  observed : s.cue.step = .perform .observe →
    digest? s.after.resource = digest? s.before.resource ∧
      digest? t.after.resource = digest? t.before.resource
  shown : (s.cue.step = .perform .observe → SameVerdict s t) →
    s.report.result = t.report.result ∧ s.report.notes = t.report.notes ∧
      ∃ samples : Metrics.Series → Nat, ∀ series,
        s.after.metrics.count series = s.before.metrics.count series + samples series ∧
          t.after.metrics.count series = t.before.metrics.count series + samples series

/-- States of two sessions that have shown the same, but for the verdicts of observations. -/
structure StateAlike (s t : Session.State) : Prop where
  resource : redact s.resource = redact t.resource
  enabled : s.metrics.enabled = t.metrics.enabled

variable {before before' after after' : Session.State} {report report' : Session.Report}
  {w v : σ} {w' v' : τ} {cue : Session.Cue}

/-- A step that makes no calls. -/
theorem indistinct_of_silent (hresource : redact after.resource = redact after'.resource)
    (hstep : cue.step ≠ .perform .observe) (hcounts : after.metrics.counts = before.metrics.counts)
    (hcounts' : after'.metrics.counts = before'.metrics.counts) :
    Indistinct ⟨cue, before, {}, after⟩ ⟨cue, before', {}, after'⟩ where
  cue := rfl
  exchanges := .nil
  resource := hresource
  observed h := absurd h hstep
  shown _ := by
    refine ⟨rfl, rfl, fun _ => 0, fun series => ?_⟩
    simp only [Metrics.Registry.count, hcounts, hcounts', Nat.add_zero, and_self]

theorem indistinct_step (hstate : StateAlike before before') (hworld : p.related w w')
    (hstep : Session.step .secrets p.left cue.now cue.seconds cue.step before w =
      (report, after, v))
    (hstep' : Session.step .secrets p.right cue.now cue.seconds cue.step before' w' =
      (report', after', v')) :
    Indistinct ⟨cue, before, report, after⟩ ⟨cue, before', report', after'⟩ ∧
      StateAlike after after' ∧ p.related v v' := by
  obtain ⟨step, now, seconds⟩ := cue
  cases step with
  | perform verb =>
    obtain ⟨halike, hleft, hcertain, hnotes, hlook⟩ :
        p.Coupled _ ((client.converse verb now before.resource).run p.left w)
          ((client.converse verb now before'.resource).run p.right w') :=
      discreet_perform _ _ hstate.resource w w' hworld
    cases hstep
    cases hstep'
    refine ⟨⟨rfl, halike, hlook, ?_, ?_⟩, ⟨hlook, ?_⟩, hleft⟩
    · intro hobserve
      cases hobserve
      exact ⟨digest?_observe _ _ _, digest?_observe _ _ _⟩
    · intro hverdict
      have hresult : ((client.converse verb now before.resource).run p.left w).value.1 =
          ((client.converse verb now before'.resource).run p.right w').value.1 := by
        by_cases hobserve : verb = .observe
        · subst hobserve
          exact result_observe_eq hstate.resource halike (hverdict rfl)
        · exact hcertain hobserve
      exact ⟨congrArg some hresult, hnotes hresult,
        Metrics.Registry.exists_samples hstate.enabled (hnotes hresult)⟩
    · simp only [Metrics.Registry.enabled_addNotes, hstate.enabled]
  | setSpec spec =>
    cases hstep
    cases hstep'
    have hlook : redact (before.resource.withSpec spec) =
        redact (before'.resource.withSpec spec) := by
      rw [redact_withSpec, redact_withSpec, hstate.resource]
    exact ⟨indistinct_of_silent hlook (by simp) rfl rfl, ⟨hlook, hstate.enabled⟩, hworld⟩
  | setResource resource =>
    cases hstep
    cases hstep'
    exact ⟨indistinct_of_silent rfl (by simp) rfl rfl, ⟨rfl, hstate.enabled⟩, hworld⟩
  | configureMetrics config =>
    cases hstep
    cases hstep'
    exact ⟨indistinct_of_silent hstate.resource (by simp) rfl rfl, ⟨hstate.resource, rfl⟩, hworld⟩

/-- Two sessions from the same state, with the same steps, in worlds that differ in nothing but the
    bytes of values of equal length: step by step they cannot be told apart, up to the verdicts of
    observations. -/
theorem indistinct_scenes (p : Twins σ τ) (cues : List Session.Cue) (state : Session.State)
    (hworld : p.related w w') :
    List.Forall₂ Indistinct (Session.scenes .secrets p.left cues state w)
      (Session.scenes .secrets p.right cues state w') := by
  have hscenes (cues : List Session.Cue) (before before' : Session.State) (w : σ) (w' : τ)
      (hstate : StateAlike before before') (hworld : p.related w w') :
      List.Forall₂ Indistinct (Session.scenes .secrets p.left cues before w)
        (Session.scenes .secrets p.right cues before' w') := by
    induction cues generalizing before before' w w' with
    | nil => exact .nil
    | cons cue rest ih =>
      obtain ⟨hscene, hafter, hleft⟩ := indistinct_step hstate hworld rfl rfl
      exact .cons hscene (ih _ _ _ _ hafter hleft)
  exact hscenes cues state state w w' ⟨rfl, rfl⟩ hworld

/-! ## A value that changes -/

/-- A world in which all calls for a secret succeed. It counts how often the value has been read,
    since the value may change. -/
def serving (value : Nat → Bytes) : Dialogue.World Call Call.Answer Nat
  | .getPublicKey .., n => (Except.ok zeroKey, n)
  | .extract _, n => (Except.ok (value n), n + 1)
  | .putSecret .., n => (Except.ok (), n)
  | .getSecret _ _ name, n => (Except.ok { name, createdAt := default, updatedAt := default }, n)
  | c, n => (declined c, n)

/-- A value of one byte that stays the same, beside one that is another one each time. -/
def changing : Twins Nat Nat where
  left := serving fun _ => [0]
  right := serving fun n => [UInt8.ofNat n]
  related := Eq
  answers := by
    rintro q q' n _ hasks rfl
    cases hasks with
    | same =>
      cases q with
      | extract selector => exact ⟨.extracted rfl, rfl⟩
      | _ => exact ⟨.same, rfl⟩
    | put hsealed => exact ⟨.put hsealed, rfl⟩

/-- A secret is created, observed and updated. -/
def tending : List Session.Cue :=
  [⟨.perform .create, "now", 1⟩, ⟨.perform .observe, "later", 1⟩, ⟨.perform .update, "last", 1⟩]

/-- The second value is uploaded, then another one is observed in its place and uploaded too. -/
theorem indistinct_scenes_changing :
    changing.related 0 0 ∧
      List.Forall₂ Indistinct
        (Session.scenes .secrets changing.left tending { resource := .secrets declared } 0)
        (Session.scenes .secrets changing.right tending { resource := .secrets declared } 0) :=
  ⟨rfl, indistinct_scenes changing tending { resource := .secrets declared } rfl⟩

end GitHubReconciler.Secret
