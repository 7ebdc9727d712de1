-- SUMMARY: A secret that is reported up to date is the one in GitHub (`upToDate_sound`), by an invariant of the remembered upload (`Faithful`).
import GitHubReconciler.Proofs.Secret.Operations
import GitHubReconciler.Proofs.Secret.Vault
import GitHubReconciler.Proofs.Session

/-!
# Soundness of the comparison of secrets

GitHub never gives a value back, so an observation compares what it has: the digest of the current
value and the second of GitHub's last write, each with those of the upload that is remembered.
Through every session the remembered upload stays `Faithful`: if GitHub holds anything that was
written in that second, it is the value of that upload. Later writes do not disturb this, since
they get later seconds, and neither do deletions. Only an upload that is written and read back
in full replaces what is remembered.
-/

namespace GitHubReconciler.Secret

open Vault

variable {opens : Remote.SealedSecret → Option Bytes} {a : Address} {v w : Vault}
  {used : List Bytes} {f : Fingerprint} {xs ys : List Exchange} {now : String} {o : SecretObject}

/-! ## The invariant -/

/-- What is remembered is an upload of one of the used values, and whatever GitHub holds from the
    second of that upload is its value. -/
def Faithful (used : List Bytes) (f : Fingerprint) (v : Vault) : Prop :=
  ∀ text ∈ f.digest, ∃ value ∈ used, ∃ updatedAt : Timestamp,
    text = digest value ∧ f.updatedAt = some updatedAt.format ∧ updatedAt.tick ≤ v.latest ∧
    ∀ h ∈ v.held, h.updatedAt.tick = updatedAt.tick → h.value = value

/-- Nothing is remembered. -/
theorem faithful_empty : Faithful used {} v := by
  intro text hmem
  cases hmem

/-- Whatever is written later gets a later second. -/
theorem Faithful.later (h : Faithful used f v) (hlater : v.Later w) : Faithful used f w := by
  intro text htext
  obtain ⟨value, hused, updatedAt, hdigest, htime, hle, hheld⟩ := h text htext
  refine ⟨value, hused, updatedAt, hdigest, htime, Int.le_trans hle hlater.latest_le, ?_⟩
  intro h hmem htick
  rcases hlater.held_or_newer h hmem with hmem | hnewer
  · exact hheld h hmem htick
  · omega

theorem Faithful.mono {used' : List Bytes} (h : Faithful used f v)
    (hsub : ∀ value ∈ used, value ∈ used') : Faithful used' f v := by
  intro text htext
  obtain ⟨value, hused, hrest⟩ := h text htext
  exact ⟨value, hsub value hused, hrest⟩

/-- What an observation compares decides it: if the value and the second are those that are
    remembered, GitHub holds the value. -/
theorem Faithful.value_eq {record : Remote.SecretRecord} {value : Bytes} {held : Held}
    (h : Faithful used f v) (hsame : f.isOf value record = true) (hheld : v.held = some held)
    (hrecord : record.updatedAt = held.updatedAt) (hvalue : value ∈ used)
    (hdigest : ∀ x ∈ used, ∀ y ∈ used, digest x = digest y → x = y) : held.value = value := by
  simp only [Fingerprint.isOf, Bool.and_eq_true, beq_iff_eq] at hsame
  obtain ⟨uploaded, hused, updatedAt, htext, htime, -, hfaithful⟩ := h _ hsame.1
  have hformat : record.updatedAt.format = updatedAt.format := by
    rw [hsame.2] at htime
    exact Option.some.inj htime
  have htick : held.updatedAt.tick = updatedAt.tick := by
    rw [← hrecord]
    exact Timestamp.format_eq_iff.mp hformat
  rw [hfaithful held hheld htick, hdigest value hvalue uploaded hused htext]

/-! ## Uploads -/

/-- What was sealed under a name opens to the value. -/
def Opens (opens : Remote.SealedSecret → Option Bytes) (name : String) (xs : List Exchange) :
    Prop :=
  ∀ key ∈ publicKeys xs, ∀ box, recipient key = .ok box → ∀ drawn ∈ drawnKeys xs,
    ∀ value ∈ values xs, opens (sealValue key box drawn name value) = some value

theorem Opens.left {name : String} (h : Opens opens name (xs ++ ys)) : Opens opens name xs := by
  intro key hkey box hbox drawn hdrawn value hvalue
  exact h key (by simp [hkey]) box hbox drawn (by simp [hdrawn]) value (by simp [hvalue])

theorem Opens.right {name : String} (h : Opens opens name (xs ++ ys)) : Opens opens name ys := by
  intro key hkey box hbox drawn hdrawn value hvalue
  exact h key (by simp [hkey]) box hbox drawn (by simp [hdrawn]) value (by simp [hvalue])

theorem Sending.value_mem {d : Desired} {name : String} {value : Bytes}
    (h : Sending d name xs (.ok value)) : value ∈ values xs := by
  cases h with
  | sent => exact List.mem_singleton_self _

/-- After a value was sent GitHub holds it. -/
theorem Sending.held {d : Desired} {name : String} {value : Bytes}
    (h : Sending d name xs (.ok value)) (hopens : Opens opens name xs)
    (hevolves : Evolves opens ⟨d.owner, d.repository, name⟩ v xs w) :
    ∃ updatedAt, w.held = some ⟨value, updatedAt⟩ ∧ w.latest = updatedAt.tick := by
  cases h with
  | @sent key value box drawn hbox =>
    have hopened : opens (sealValue key box drawn name value) = some value :=
      hopens key (List.mem_singleton_self _) box hbox drawn (List.mem_singleton_self _) value
        (List.mem_singleton_self _)
    have hparts : Evolves opens _ v ([_, _, _] ++ [_]) w := hevolves
    obtain ⟨u, -, hput⟩ := hparts.split
    obtain ⟨updatedAt, -, hheld, hlatest⟩ := hput.written_of_put rfl hopened
    exact ⟨updatedAt, hheld, hlatest⟩

/-- An upload that succeeds is remembered faithfully. -/
theorem Uploading.faithful {d : Desired} {name : String} {upload : Bytes × Remote.SecretRecord}
    (h : Uploading d name xs (.ok upload)) (hopens : Opens opens name xs)
    (hevolves : Evolves opens ⟨d.owner, d.repository, name⟩ v xs w) :
    Faithful (values xs) (.ofUpload (digest upload.1) upload.2) w := by
  cases h with
  | @uploaded xs value record hsending =>
    obtain ⟨u, hsent, hget⟩ := hevolves.split
    obtain ⟨updatedAt, hheld, hlatest⟩ := hsending.held hopens.left hsent
    obtain ⟨rfl, held, hheld', hrecord⟩ := hget.held_of_get
    cases hheld.symm.trans hheld'
    intro text htext
    cases htext
    refine ⟨value, by simp [hsending.value_mem], updatedAt, rfl, ?_, by omega, ?_⟩
    · rw [Fingerprint.ofUpload, hrecord]
    · intro h hmem _
      cases hheld.symm.trans hmem
      rfl

/-! ## Sessions -/

/-- Where a declared secret is in GitHub. -/
def address (o : SecretObject) : Address where
  owner := o.desired.owner
  repository := o.desired.repository
  name := o.metadata.externalName

/-- What lasts through a session: the resource declares the same secret, and what it remembers is
    faithful. -/
def Invariant (o : SecretObject) (used : List Bytes) (r : Resource) (v : Vault) : Prop :=
  ∃ p, r = .secrets p ∧ p.desired = o.desired ∧ p.metadata = o.metadata ∧
    Faithful used p.observed v

theorem Invariant.later {r : Resource} (h : Invariant o used r v) (hlater : v.Later w) :
    Invariant o used r w := by
  obtain ⟨p, hresource, hdesired, hmetadata, hfaithful⟩ := h
  exact ⟨p, hresource, hdesired, hmetadata, hfaithful.later hlater⟩

/-- An operation of the client keeps the invariant. -/
theorem Performing.invariant {verb : Verb} {outcome : Except Failure Outcome} {r' : Resource}
    (h : Performing now o verb xs outcome r') (hfaithful : Faithful used o.observed v)
    (hopens : Opens opens (address o).name xs) (hevolves : Evolves opens (address o) v xs w) :
    Invariant o (used ++ values xs) r' w := by
  have hsame : Faithful (used ++ values xs) o.observed w :=
    (hfaithful.later hevolves.later).mono fun value hmem => List.mem_append_left _ hmem
  cases h with
  | observed hobserving =>
    cases hobserving with
    | absent => exact ⟨o, rfl, rfl, rfl, hsame⟩
    | unread => exact ⟨o, rfl, rfl, rfl, hsame⟩
    | valueless => exact ⟨o, rfl, rfl, rfl, hsame⟩
    | compared => exact ⟨_, rfl, rfl, rfl, hsame⟩
  | notUploaded => exact ⟨o, rfl, rfl, rfl, hsame⟩
  | created huploading =>
    refine ⟨_, rfl, rfl, rfl, ?_⟩
    exact (huploading.faithful hopens hevolves).mono fun value hmem => List.mem_append_right _ hmem
  | updated huploading =>
    refine ⟨_, rfl, rfl, rfl, ?_⟩
    exact (huploading.faithful hopens hevolves).mono fun value hmem => List.mem_append_right _ hmem
  | notDeleted => exact ⟨o, rfl, rfl, rfl, hsame⟩
  | deleted => exact ⟨_, rfl, rfl, rfl, faithful_empty⟩

/-- An observation that reports a secret as up to date has compared it with what GitHub holds. -/
theorem Observing.held_of_upToDate {result : Except Failure Observation} {r' : Resource}
    {resourceExists filledIn : Bool} (h : Observing now o xs result r')
    (hupToDate : result = .ok ⟨resourceExists, true, filledIn⟩)
    (hfaithful : Faithful used o.observed v) (hevolves : Evolves opens (address o) v xs w)
    (hdigest : ∀ x ∈ used ++ values xs, ∀ y ∈ used ++ values xs, digest x = digest y → x = y) :
    ∃ value updatedAt, values xs = [value] ∧ w.held = some ⟨value, updatedAt⟩ := by
  cases h with
  | absent => cases hupToDate
  | unread => cases hupToDate
  | valueless => cases hupToDate
  | @compared record value hsome =>
    have hsame : o.observed.isOf value record = true :=
      congrArg (fun result => match result with
        | .ok observation => observation.upToDate
        | .error _ => true) hupToDate
    have hparts : Evolves opens (address o) v ([_] ++ [_]) w := hevolves
    obtain ⟨u, hget, hextract⟩ := hparts.split
    obtain ⟨rfl, held, hheld, hrecord⟩ := hget.held_of_get
    have hvalue : held.value = value :=
      (hfaithful.mono fun x hmem => List.mem_append_left _ hmem).value_eq hsame hheld hrecord
        (List.mem_append_right _ (List.mem_singleton_self _)) hdigest
    subst hvalue
    refine ⟨_, held.updatedAt, rfl, ?_⟩
    cases hextract with
    | cons hanswers hrest =>
      cases hrest
      cases hanswers
      exact hheld

section

variable {σ : Type} {world : Dialogue.World Call Call.Answer σ} {others : σ → σ → Prop}
  {vault : σ → Vault} {s s' s'' : σ} {metrics : Metrics.Registry} {turns : List Session.Turn}
  {state state' : Session.State}

/-- The same address, whatever the status has become. -/
theorem address_eq {p : SecretObject} (hdesired : p.desired = o.desired)
    (hmetadata : p.metadata = o.metadata) : address p = address o := by
  rw [address, address, hdesired, hmetadata]

/-- The invariant holds in every state that a session comes to. -/
theorem invariant_of_run (hempty : o.observed = {})
    (hworld : ∀ q t, (vault t).Answers opens (address o) ⟨q, (world q t).1⟩ (vault (world q t).2))
    (hothers : ∀ t t', others t t' → (vault t).Foreign (vault t'))
    (hrun : Session.Run .secrets world others { resource := .secrets o, metrics } s turns state s')
    (hsteps : ∀ t ∈ turns, ∃ verb, t.step = .perform verb)
    (hopens : Opens opens (address o).name (Session.exchanges turns)) :
    Invariant o (values (Session.exchanges turns)) state.resource (vault s') := by
  induction hrun with
  | start => exact ⟨o, rfl, rfl, rfl, by rw [hempty]; exact faithful_empty⟩
  | turn step now seconds hrun hstep ih =>
    rw [Session.exchanges_snoc] at hopens
    obtain ⟨p, hresource, hdesired, hmetadata, hfaithful⟩ :=
      ih (fun t ht => hsteps t (List.mem_append_left _ ht)) hopens.left
    obtain ⟨verb, rfl⟩ := hsteps _ (List.mem_append_right _ (List.mem_singleton_self _))
    obtain ⟨result, -, hgenerates, hwalk⟩ := Session.generates_of_step hstep
    rw [hresource] at hgenerates
    have haddress := address_eq hdesired hmetadata
    have hevolves := evolves_of_walk hworld hwalk
    rw [← haddress] at hopens hevolves
    obtain ⟨q, hresource', hdesired', hmetadata', hfaithful'⟩ :=
      (performing_of_generates hgenerates).invariant hfaithful hopens.right hevolves
    rw [Session.exchanges_snoc, values_append]
    exact ⟨q, hresource', hdesired'.trans hdesired, hmetadata'.trans hmetadata, hfaithful'⟩
  | disturbed hrun hother ih => exact (ih hsteps hopens).later (hothers _ _ hother).later

/-- Whenever an observation in a session reports that a secret is up to date, GitHub holds the
    value that was read in this observation. -/
theorem upToDate_sound {now : String} {seconds : Float} {report : Session.Report}
    {resourceExists filledIn : Bool} (hempty : o.observed = {})
    (hworld : ∀ q t, (vault t).Answers opens (address o) ⟨q, (world q t).1⟩ (vault (world q t).2))
    (hothers : ∀ t t', others t t' → (vault t).Foreign (vault t'))
    (hrun : Session.Run .secrets world others { resource := .secrets o, metrics } s turns state s')
    (hsteps : ∀ t ∈ turns, ∃ verb, t.step = .perform verb)
    (hobserve : Session.step .secrets world now seconds (.perform .observe) state s' =
      (report, state', s''))
    (hopens : Opens opens (address o).name (Session.exchanges turns))
    (hdigest : ∀ x ∈ values (Session.exchanges turns ++ report.exchanges),
      ∀ y ∈ values (Session.exchanges turns ++ report.exchanges), digest x = digest y → x = y)
    (hupToDate : report.result = some (.ok (.observed ⟨resourceExists, true, filledIn⟩))) :
    ∃ value updatedAt, values report.exchanges = [value] ∧
      (vault s'').held = some ⟨value, updatedAt⟩ := by
  obtain ⟨p, hresource, hdesired, hmetadata, hfaithful⟩ :=
    invariant_of_run hempty hworld hothers hrun hsteps hopens
  obtain ⟨result, hresult, hgenerates, hwalk⟩ := Session.generates_of_step hobserve
  rw [hresource] at hgenerates
  have hevolves := evolves_of_walk hworld hwalk
  rw [← address_eq hdesired hmetadata] at hevolves
  obtain ⟨first, hfirst, hobserving⟩ := observing_of_generates hgenerates
  have hreport : first = .ok ⟨resourceExists, true, filledIn⟩ := by
    cases first with
    | error failure => cases hfirst.symm.trans (Option.some.inj (hresult.symm.trans hupToDate))
    | ok observation =>
      cases hfirst.symm.trans (Option.some.inj (hresult.symm.trans hupToDate))
      rfl
  rw [values_append] at hdigest
  exact hobserving.held_of_upToDate hreport hfaithful hevolves hdigest

end

/-! ## A session -/

/-- A declared secret that has not been uploaded yet. -/
def declared : SecretObject where
  metadata := { name := some "token" }
  spec := { forProvider :=
    { owner := "acme", repository := "demo"
      value := { name := "source", space := "default", key := "token" } } }

/-- A public key of 32 zeros. -/
def zeroKey : Remote.PublicKey where
  key := some "AAAAAAAAAAAAAAAAAAAAAAAAAAAAAAAAAAAAAAAAAAA="

/-- The first second after another one. -/
def secondAfter (latest : Int) : Timestamp :=
  { (default : Timestamp) with
    seconds := latest.natAbs + 1
    leap_ends_minute := fun h => absurd h (by decide) }

/-- A vault in which nothing was ever written. -/
def Vault.empty : Vault where
  held := none
  latest := 0
  held_le := by
    intro h hmem
    cases hmem

/-- Write a value in the next second. -/
def Vault.write (v : Vault) (value : Bytes) : Vault where
  held := some ⟨value, secondAfter v.latest⟩
  latest := (secondAfter v.latest).tick
  held_le := by
    intro h hmem
    cases hmem
    exact Int.le_refl _

theorem Vault.written_write {value : Bytes} : v.Written value (v.write value) := by
  refine ⟨secondAfter v.latest, ?_, rfl, rfl⟩
  have htick : (secondAfter v.latest).tick = 2 * (v.latest.natAbs + 1) + 0 := rfl
  omega

/-- A world in which the value is always the same and all calls for the secret succeed. -/
def hosting : Dialogue.World Call Call.Answer Vault
  | .getPublicKey .., v => (Except.ok zeroKey, v)
  | .extract _, v => (Except.ok [1], v)
  | .putSecret owner repository s, v =>
      if address declared = ⟨owner, repository, s.name⟩ then (Except.ok (), v.write [1])
      else (declined.noAnswer, v)
  | .getSecret _ _ name, v =>
      match v.held with
      | some h => (Except.ok { name, createdAt := h.updatedAt, updatedAt := h.updatedAt }, v)
      | none => (declined.noAnswer, v)
  | c, v => (declined c, v)

theorem answers_hosting (q : Call) (v : Vault) :
    v.Answers (fun _ => some [1]) (address declared) ⟨q, (hosting q v).1⟩ (hosting q v).2 := by
  cases q with
  | putSecret owner repository s =>
    simp only [Answers, hosting]
    by_cases haddress : address declared = ⟨owner, repository, s.name⟩
    · rw [if_pos haddress, if_pos haddress]
      exact .inl ⟨[1], rfl, written_write⟩
    · rw [if_neg haddress, if_neg haddress]
  | getSecret owner repository name =>
    cases hheld : v.held with
    | none => simp [Answers, hosting, hheld, declined.noAnswer]
    | some h =>
      simp only [Answers, hosting, hheld]
      refine ⟨trivial, ?_⟩
      rintro - record heq
      cases heq
      exact ⟨h, rfl, rfl⟩
  | deleteSecret owner repository name =>
    simp only [Answers, hosting]
    split
    · exact .inr ⟨⟨_, rfl⟩, trivial⟩
    · trivial
  | _ => rfl

theorem recipient_zeroKey : (recipient zeroKey).toOption = some (List.replicate 32 0) := by
  decide +kernel

theorem hosting_put {s : Remote.SealedSecret} (hname : s.name = declared.metadata.externalName) :
    hosting (.putSecret declared.desired.owner declared.desired.repository s) v =
      (Except.ok (), v.write [1]) :=
  if_pos (by rw [hname]; rfl)

/-- In that world every value that is sent arrives. -/
theorem Sending.of_hosting {result : Except Failure Bytes}
    (h : Sending declared.desired declared.metadata.externalName xs result)
    (hwalk : Dialogue.Walk hosting v xs w) : result = .ok [1] ∧ w = v.write [1] := by
  cases h with
  | keyless => cases hwalk.answer_eq.1
  | valueless => cases hwalk.answer_eq.2.answer_eq.1
  | unusable hbox =>
    cases hwalk.answer_eq.1
    have hnone := recipient_zeroKey
    rw [hbox] at hnone
    cases hnone
  | refused hbox =>
    have hput := hwalk.answer_eq.2.answer_eq.2.answer_eq.2.answer_eq.1
    rw [hosting_put rfl] at hput
    cases hput
  | sent hbox =>
    cases hwalk.answer_eq.2.answer_eq.1
    have hrest := hwalk.answer_eq.2.answer_eq.2.answer_eq.2.answer_eq.2
    rw [hosting_put rfl] at hrest
    cases hrest
    exact ⟨rfl, rfl⟩

theorem hosting_get {h : Held} {owner repository name : String} (hheld : v.held = some h) :
    hosting (.getSecret owner repository name) v =
      (Except.ok { name, createdAt := h.updatedAt, updatedAt := h.updatedAt }, v) := by
  obtain ⟨held, latest, hle⟩ := v
  cases hheld
  rfl

/-- And a value that is held is read back. -/
theorem Uploading.of_hosting {outcome : Except Failure (Bytes × Remote.SecretRecord)}
    (h : Uploading declared.desired declared.metadata.externalName xs outcome)
    (hwalk : Dialogue.Walk hosting v xs w) :
    ∃ record, outcome = .ok ([1], record) ∧ record.updatedAt = secondAfter v.latest ∧
      w = v.write [1] := by
  cases h with
  | unsent hsending => cases (hsending.of_hosting hwalk).1
  | unread hsending =>
    obtain ⟨u, hsent, hread⟩ := hwalk.split
    obtain ⟨heq, rfl⟩ := hsending.of_hosting hsent
    have hget := hread.answer_eq.1
    rw [hosting_get rfl] at hget
    cases hget
  | uploaded hsending =>
    obtain ⟨u, hsent, hread⟩ := hwalk.split
    obtain ⟨heq, rfl⟩ := hsending.of_hosting hsent
    obtain ⟨hget, hdone⟩ := hread.answer_eq
    rw [hosting_get rfl] at hget hdone
    cases heq
    cases hget
    cases hdone
    exact ⟨_, rfl, rfl, rfl⟩

/-- The creation of the secret. -/
def created : Session.Report × Session.State × Vault :=
  Session.step .secrets hosting "now" 1 (.perform .create) { resource := .secrets declared }
    Vault.empty

/-- The observation after it. -/
def observed : Session.Report × Session.State × Vault :=
  Session.step .secrets hosting "later" 1 (.perform .observe) created.2.1 created.2.2

theorem step_created :
    Session.step .secrets hosting "now" 1 (.perform .create) { resource := .secrets declared }
      Vault.empty =
      (created.1, created.2.1, created.2.2) :=
  rfl

theorem step_observed :
    Session.step .secrets hosting "later" 1 (.perform .observe) created.2.1 created.2.2 =
      (observed.1, observed.2.1, observed.2.2) :=
  rfl

theorem run_created :
    Session.Run .secrets hosting Eq { resource := .secrets declared }
      Vault.empty
      [⟨.perform .create, "now", 1, created.1⟩] created.2.1 created.2.2 :=
  .turn (.perform .create) "now" 1 .start step_created

/-- After the creation the upload is remembered. -/
theorem exists_of_created : ∃ record p, created.2.1.resource = .secrets p ∧
    p.desired = declared.desired ∧ p.metadata = declared.metadata ∧
    p.observed = .ofUpload (digest [1]) record ∧
    created.2.2.held = some ⟨[1], record.updatedAt⟩ := by
  obtain ⟨result, -, hgenerates, hwalk⟩ := Session.generates_of_step step_created
  have hperforming := performing_of_generates hgenerates
  revert hperforming hwalk
  generalize created.2.1.resource = r
  generalize created.1.exchanges = xs
  generalize created.2.2 = w
  intro hwalk hperforming
  cases hperforming with
  | notUploaded _ huploading =>
    obtain ⟨record, heq, -, -⟩ := huploading.of_hosting hwalk
    cases heq
  | created huploading =>
    obtain ⟨record, heq, htime, rfl⟩ := huploading.of_hosting hwalk
    cases heq
    exact ⟨record, _, rfl, rfl, rfl, rfl, by rw [htime]; rfl⟩

/-- The observation finds the secret up to date. -/
theorem upToDate_of_observed : observed.1.result = some (.ok (.observed ⟨true, true, false⟩)) := by
  obtain ⟨record, p, hresource, hdesired, hmetadata, hobserved, hheld⟩ := exists_of_created
  obtain ⟨result, hresult, hgenerates, hwalk⟩ := Session.generates_of_step step_observed
  rw [hresource] at hgenerates
  obtain ⟨first, hfirst, hobserving⟩ := observing_of_generates hgenerates
  rw [hresult]
  revert hobserving hwalk
  generalize observed.2.1.resource = r
  generalize observed.1.exchanges = xs
  generalize observed.2.2 = w
  intro hwalk hobserving
  cases hobserving with
  | absent hnone =>
    rw [hobserved] at hnone
    cases hnone
  | unread =>
    have hget := hwalk.answer_eq.1
    rw [hosting_get hheld] at hget
    cases hget
  | valueless => cases hwalk.answer_eq.2.answer_eq.1
  | compared =>
    obtain ⟨hget, hextract⟩ := hwalk.answer_eq
    rw [hosting_get hheld] at hget
    cases hget
    cases hextract.answer_eq.1
    rw [hobserved] at hfirst
    simp only [Fingerprint.isOf, Fingerprint.ofUpload, beq_self_eq_true, Bool.and_self] at hfirst
    exact congrArg some hfirst

/-- All that is ever read in that world is the one value. -/
theorem eq_of_mem_values {state state' : Session.State} {turns : List Session.Turn} {value : Bytes}
    (hrun : Session.Run .secrets hosting Eq state v turns state' w)
    (h : value ∈ values (Session.exchanges turns)) : value = [1] := by
  obtain ⟨selector, hmem⟩ := exists_extract_of_mem_values h
  obtain ⟨u, heq⟩ := hrun.exists_answer hmem
  cases heq
  rfl

/-- What the observation reports is so. -/
theorem upToDate_sound_declared : ∃ value updatedAt, values observed.1.exchanges = [value] ∧
    observed.2.2.held = some ⟨value, updatedAt⟩ := by
  have hcreated : ∀ value ∈ values (Session.exchanges
      [⟨.perform .create, "now", 1, created.1⟩]), value = [1] :=
    fun value h => eq_of_mem_values run_created h
  have hboth : ∀ value ∈ values (Session.exchanges
      [⟨.perform .create, "now", 1, created.1⟩] ++ observed.1.exchanges), value = [1] := by
    intro value h
    rw [← Session.exchanges_snoc _ ⟨.perform .observe, "later", 1, observed.1⟩] at h
    exact eq_of_mem_values (.turn (.perform .observe) "later" 1 run_created step_observed) h
  refine upToDate_sound (σ := Vault) rfl answers_hosting ?_ run_created ?_ step_observed ?_ ?_
    upToDate_of_observed
  · rintro v w rfl
    exact .untouched rfl
  · simp
  · intro key _ box _ drawn _ value hvalue
    rw [hcreated value hvalue]
  · intro x hx y hy _
    rw [hboth x hx, hboth y hy]

end GitHubReconciler.Secret
