-- SUMMARY: When the time that an upload remembers is that of its own write (`recorded_own_iff`), with others writing between the calls.
import GitHubReconciler.Proofs.History
import GitHubReconciler.Proofs.Secret.Soundness

/-!
# Writes of others during an upload

GitHub does not say at which time it has written a value. So an upload reads the record of the
secret back in a call of its own, and someone else may write the secret between the two calls. What
is remembered is then the time of the last write before the reading: it is that of the upload itself
just if nothing has happened to the secret in between. Whatever is written after the reading is
reported as drift by the next observation.

A `Timeline` cuts a history in which an upload succeeds into its parts.
-/

namespace GitHubReconciler.Secret

open Vault

variable {opens : Remote.SealedSecret → Option Bytes} {a : Address} {u v w : Vault}
  {now : String} {o p : SecretObject} {r' : Resource} {xs : List Exchange}

/-! ## Histories of a secret -/

/-- What someone else does to a secret. -/
inductive Deed where
  | write (value : Bytes)
  | deletion

/-- What an incident makes of a vault. -/
def Vault.Leads (opens : Remote.SealedSecret → Option Bytes) (a : Address) (v : Vault) :
    Incident Deed → Vault → Prop
  | .answered x, w => v.Answers opens a x w
  | .foreign (.write value), w => v.Written value w
  | .foreign .deletion, w => v.Deleted w

variable {history gap : History Deed Vault} {x y : Held}

theorem Vault.Leads.later {i : Incident Deed} (h : v.Leads opens a i w) : v.Later w := by
  cases i with
  | answered x => exact Answers.later h
  | foreign deed =>
    cases deed with
    | write value => exact Written.later h
    | deletion => exact Deleted.later h

/-- What is held after others have done something was written by them. -/
theorem newer_of_foreign (h : gap.Follows (Leads opens a) v) (hforeign : gap.exchanges = [])
    (hsome : gap ≠ []) (hheld : x ∈ (gap.last v).held) : v.latest < x.updatedAt.tick := by
  induction gap generalizing v with
  | nil => exact absurd rfl hsome
  | cons m rest ih =>
    obtain ⟨hleads, hrest⟩ := h
    obtain ⟨incident, after⟩ := m
    cases incident with
    | answered y => cases hforeign
    | foreign deed =>
      cases rest with
      | cons n rest =>
        exact Int.lt_of_le_of_lt hleads.later.latest_le (ih hrest hforeign (by simp) hheld)
      | nil =>
        cases deed with
        | write value =>
          obtain ⟨updatedAt, hnewer, hwritten, -⟩ := hleads
          cases hwritten.symm.trans hheld
          exact hnewer
        | deletion => cases hleads.1.symm.trans hheld

/-- Two readings show the same time just if nobody has done anything between them. -/
theorem format_eq_iff_undisturbed (h : gap.Follows (Leads opens a) v)
    (hforeign : gap.exchanges = []) (hbefore : x ∈ v.held) (hafter : y ∈ (gap.last v).held) :
    x.updatedAt.format = y.updatedAt.format ↔ gap = [] := by
  rw [Timestamp.format_eq_iff]
  constructor
  · intro htick
    refine Decidable.byContradiction fun hsome => ?_
    have hnewer := newer_of_foreign h hforeign hsome hafter
    have hle := v.held_le x hbefore
    omega
  · rintro rfl
    cases hbefore.symm.trans hafter
    rfl

/-! ## The parts of an upload -/

/-- An upload of a secret is accepted. -/
def Uploads (a : Address) (i : Incident Deed) : Prop :=
  ∃ s, s.name = a.name ∧ i = .answered ⟨.putSecret a.owner a.repository s, .ok ()⟩

/-- The record of a secret is read. -/
def Reads (a : Address) (i : Incident Deed) : Prop :=
  ∃ record, i = .answered ⟨.getSecret a.owner a.repository a.name, .ok record⟩

/-- The parts of a history in which a value is uploaded and its record is read back. -/
structure Timeline (a : Address) (history : History Deed Vault) where
  before : History Deed Vault
  upload : Moment Deed Vault
  /-- What others do between the upload and the reading. -/
  window : History Deed Vault
  reading : Moment Deed Vault
  /-- What others do after the reading. -/
  after : History Deed Vault
  history_eq : history = before ++ upload :: (window ++ reading :: after)
  uploads : Uploads a upload.incident
  reads : Reads a reading.incident
  window_foreign : window.exchanges = []
  after_foreign : after.exchanges = []
  /-- What the upload has written. -/
  own : Held
  own_mem : own ∈ upload.after.held
  /-- What the reading was about. -/
  seen : Held
  seen_mem : seen ∈ reading.after.held
  reading_after : reading.after = window.last upload.after

/-- An upload that succeeds passes through the parts of a timeline. -/
theorem exists_timeline {upload : Bytes × Remote.SecretRecord}
    (h : Uploading o.desired o.metadata.externalName history.exchanges (.ok upload))
    (hfollows : history.Follows (Leads opens (address o)) v) :
    ∃ t : Timeline (address o) history, t.seen.updatedAt = upload.2.updatedAt ∧
      t.window.Follows (Leads opens (address o)) t.upload.after ∧
      t.after.Follows (Leads opens (address o)) t.reading.after := by
  generalize hxs : history.exchanges = xs at h
  cases h with
  | @uploaded xs value record hsending =>
    cases hsending with
    | @sent key value box drawn hbox =>
      obtain ⟨before, put, rest, rfl, -, hput, hrest⟩ :=
        History.exists_of_exchanges_eq [_, _, _] hxs
      obtain ⟨window, reading, after, rfl, hwindow, hreading, hafter⟩ :=
        History.exists_of_exchanges_eq [] hrest
      simp only [History.follows_append, History.Follows] at hfollows
      obtain ⟨-, hputs, hbetween, hreads, hlater⟩ := hfollows
      rw [hput] at hputs
      rw [hreading] at hreads
      obtain ⟨written, -, updatedAt, -, hheld, -⟩ := (answers_put_iff (by rfl)).mp hputs
      obtain ⟨hsame, hrecord⟩ := hreads
      obtain ⟨seen, hseen, htime⟩ := hrecord rfl record rfl
      refine ⟨{ before, upload := put, window, reading, after, history_eq := rfl,
                uploads := ⟨_, rfl, hput⟩, reads := ⟨_, hreading⟩, window_foreign := hwindow,
                after_foreign := hafter, own := ⟨written, updatedAt⟩, own_mem := hheld,
                seen, seen_mem := ?_, reading_after := hsame }, htime.symm, hbetween, hlater⟩
      rw [hsame]
      exact hseen

/-- A creation or an update that succeeds remembers an upload. -/
theorem Performing.exists_uploading {verb : Verb} {outcome : Outcome}
    (h : Performing now o verb xs (.ok outcome) r') (hverb : verb = .create ∨ verb = .update) :
    ∃ upload p, Uploading o.desired o.metadata.externalName xs (.ok upload) ∧ r' = .secrets p ∧
      p.desired = o.desired ∧ p.metadata = o.metadata ∧
      p.observed = .ofUpload (digest upload.1) upload.2 := by
  rcases hverb with rfl | rfl
  · cases h with
    | created huploading => exact ⟨_, _, huploading, rfl, rfl, rfl, rfl⟩
  · cases h with
    | updated huploading => exact ⟨_, _, huploading, rfl, rfl, rfl, rfl⟩

/-! ## What is remembered -/

/-- The parts of a history in which the record of a secret is read. -/
structure Checking (a : Address) (history : History Deed Vault) where
  /-- What others do before the reading. -/
  before : History Deed Vault
  reading : Moment Deed Vault
  after : History Deed Vault
  history_eq : history = before ++ reading :: after
  reads : Reads a reading.incident
  before_foreign : before.exchanges = []

/-- An observation of a secret whose upload was read back in the state `v` finds it up to date just
    if its value is the uploaded one and nobody else has done anything since. -/
theorem Observing.upToDate_iff {upload : Bytes × Remote.SecretRecord} {observation : Observation}
    {since later : History Deed Vault} {seen : Held}
    (h : Observing now p later.exchanges (.ok observation) r') (haddress : address p = a)
    (hremembered : p.observed = .ofUpload (digest upload.1) upload.2)
    (hseen : seen ∈ v.held) (htime : seen.updatedAt = upload.2.updatedAt)
    (hsince : since.Follows (Leads opens a) v) (hforeign : since.exchanges = [])
    (hlater : later.Follows (Leads opens a) (since.last v)) :
    observation.resourceExists = true ∧
      ∃ (c : Checking a later) (value : Bytes), values later.exchanges = [value] ∧
        (observation.upToDate = true ↔
          digest value = digest upload.1 ∧ since ++ c.before = []) := by
  subst haddress
  generalize hxs : later.exchanges = xs at h
  cases h with
  | absent hnone =>
    rw [hremembered] at hnone
    cases hnone
  | @compared record value hsome =>
    obtain ⟨before, reading, after, rfl, hbefore, hreading, -⟩ :=
      History.exists_of_exchanges_eq [] hxs
    refine ⟨rfl, ⟨before, reading, after, rfl, ⟨_, hreading⟩, hbefore⟩, value, rfl, ?_⟩
    obtain ⟨hbetween, hreads, -⟩ := History.follows_append.mp hlater
    rw [hreading] at hreads
    obtain ⟨-, hrecord⟩ := hreads
    obtain ⟨held, hheld, hsame⟩ := hrecord rfl record rfl
    have hgap : (since ++ before).Follows (Leads opens _) v :=
      History.follows_append.mpr ⟨hsince, hbetween⟩
    have hquiet : (since ++ before).exchanges = [] := by
      rw [History.exchanges_append, hforeign, hbefore, List.append_nil]
    have hlast : held ∈ ((since ++ before).last v).held := by
      rw [History.last_append]
      exact hheld
    rw [← format_eq_iff_undisturbed hgap hquiet hseen hlast, ← hsame, htime, hremembered]
    simp only [Fingerprint.isOf, Fingerprint.ofUpload, Bool.and_eq_true, beq_iff_eq,
      Option.some.injEq]
    exact and_congr eq_comm Iff.rfl

/-- A creation or update that succeeds, while others act on the secret between its calls, remembers
    the time of what its reading was about. This is the time of its own upload just if nobody else
    has done anything between the two. The next observation that succeeds finds the secret up to
    date just if its value is the one that was uploaded and nobody else has done anything between
    the two readings. -/
theorem recorded_own_iff {verb : Verb} {outcome : Outcome} {history : History Deed Vault}
    (hverb : verb = .create ∨ verb = .update)
    (hfollows : history.Follows (Leads opens (address o)) v)
    (hdone : (client.converse verb now (.secrets o)).Generates history.exchanges
      (.ok outcome, r')) :
    ∃ (t : Timeline (address o) history) (p : SecretObject) (uploaded : Bytes),
      r' = .secrets p ∧ values history.exchanges = [uploaded] ∧
      p.observed.updatedAt = some t.seen.updatedAt.format ∧
      (p.observed.updatedAt = some t.own.updatedAt.format ↔ t.window = []) ∧
      ∀ (later : History Deed Vault) (time : String) (observation : Observation) (r'' : Resource),
        later.Follows (Leads opens (address o)) (history.last v) →
        (client.converse .observe time r').Generates later.exchanges
          (.ok (.observed observation), r'') →
        observation.resourceExists = true ∧
          ∃ (c : Checking (address o) later) (value : Bytes), values later.exchanges = [value] ∧
            (observation.upToDate = true ↔
              digest value = digest uploaded ∧ t.after ++ c.before = []) := by
  obtain ⟨upload, p, huploading, rfl, hdesired, hmetadata, hremembered⟩ :=
    (performing_of_generates hdone).exists_uploading hverb
  obtain ⟨t, htime, hwindow, hafter⟩ := exists_timeline huploading hfollows
  refine ⟨t, p, upload.1, rfl, huploading.values_eq, ?_, ?_, ?_⟩
  · rw [hremembered, htime]
    rfl
  · rw [← format_eq_iff_undisturbed hwindow t.window_foreign t.own_mem
      (by rw [← t.reading_after]; exact t.seen_mem), hremembered, htime]
    simp only [Fingerprint.ofUpload, Option.some.injEq]
    exact eq_comm
  · intro later time observation r'' hlater hobserve
    obtain ⟨result, hresult, hobserving⟩ := observing_of_generates hobserve
    have hlast : history.last v = t.after.last t.reading.after := by
      simp [t.history_eq]
    cases result with
    | error failure => cases hresult
    | ok reported =>
      cases hresult
      rw [hlast] at hlater
      exact hobserving.upToDate_iff (address_eq hdesired hmetadata) hremembered t.seen_mem htime
        hafter t.after_foreign hlater

/-! ## A contested secret -/

/-- GitHub after the upload of a value, and after someone else has written another one. -/
def overwritten : Vault :=
  (Vault.empty.write [1]).write [2]

/-- GitHub's record of the secret then. -/
def overwrittenRecord : Remote.SecretRecord where
  name := declared.metadata.externalName
  createdAt := secondAfter Vault.empty.latest
  updatedAt := secondAfter (Vault.empty.write [1]).latest

/-- Thirty-two zeros, as a public key and as the secret half of a key pair. -/
def zeros : Bytes :=
  List.replicate 32 0

/-- The creation of a secret that someone else writes between the upload and the reading. -/
def contested : History Deed Vault :=
  [⟨.answered ⟨.getPublicKey declared.desired.owner declared.desired.repository, .ok zeroKey⟩,
      .empty⟩,
    ⟨.answered ⟨.extract declared.desired.value, .ok [1]⟩, .empty⟩,
    ⟨.answered ⟨.drawKey, zeros⟩, .empty⟩,
    ⟨.answered ⟨.putSecret declared.desired.owner declared.desired.repository
      (sealValue zeroKey zeros zeros declared.metadata.externalName [1]), .ok ()⟩,
      Vault.empty.write [1]⟩,
    ⟨.foreign (.write [2]), overwritten⟩,
    ⟨.answered ⟨.getSecret declared.desired.owner declared.desired.repository
      declared.metadata.externalName, .ok overwrittenRecord⟩, overwritten⟩]

/-- The observation after it. -/
def revisiting : History Deed Vault :=
  [⟨.answered ⟨.getSecret declared.desired.owner declared.desired.repository
      declared.metadata.externalName, .ok overwrittenRecord⟩, overwritten⟩,
    ⟨.answered ⟨.extract declared.desired.value, .ok [1]⟩, overwritten⟩]

/-- What the creation makes of the resource. -/
def taken : SecretObject :=
  (remembering declared ([1], overwrittenRecord)).withCondition (.ready .creating "now")

theorem puts_contested :
    Vault.empty.Answers (fun _ => some [1]) (address declared)
      ⟨.putSecret declared.desired.owner declared.desired.repository
        (sealValue zeroKey zeros zeros declared.metadata.externalName [1]), .ok ()⟩
      (Vault.empty.write [1]) :=
  (answers_put_iff (by rfl)).mpr ⟨[1], rfl, written_write⟩

theorem follows_contested :
    contested.Follows (Leads (fun _ => some [1]) (address declared)) .empty := by
  refine ⟨rfl, rfl, rfl, puts_contested, written_write, ⟨rfl, ?_⟩, trivial⟩
  rintro - record heq
  cases heq
  exact ⟨_, rfl, rfl⟩

theorem follows_revisiting :
    revisiting.Follows (Leads (fun _ => some [1]) (address declared))
      (contested.last .empty) := by
  refine ⟨⟨rfl, ?_⟩, rfl, trivial⟩
  rintro - record heq
  cases heq
  exact ⟨_, rfl, rfl⟩

theorem recipient_zeroKey_eq : recipient zeroKey = .ok zeros := by
  have h := recipient_zeroKey
  cases hbox : recipient zeroKey with
  | error fault =>
    rw [hbox] at h
    cases h
  | ok box =>
    rw [hbox] at h
    cases h
    rfl

theorem generates_contested :
    (client.converse .create "now" (.secrets declared)).Generates contested.exchanges
      (.ok (.created false), .secrets taken) :=
  (Performing.created (.uploaded (.sent recipient_zeroKey_eq))).generates

theorem generates_revisiting :
    (client.converse .observe "later" (.secrets taken)).Generates revisiting.exchanges
      (.ok (.observed ⟨true, true, false⟩),
        .secrets (taken.withCondition (.ready .available "later"))) := by
  have hsame : taken.observed.isOf [1] overwrittenRecord = true := by
    change (Fingerprint.ofUpload (digest [1]) overwrittenRecord).isOf [1] overwrittenRecord = true
    simp [Fingerprint.isOf, Fingerprint.ofUpload]
  have hobserving : Observing "later" taken revisiting.exchanges
      (.ok ⟨true, taken.observed.isOf [1] overwrittenRecord, false⟩)
      (.secrets (taken.withCondition (.ready .available "later"))) :=
    .compared (fun hnone => by cases hnone)
  rw [hsame] at hobserving
  exact (Performing.observed hobserving).generates

/-- The creation remembers the time of the foreign write, and the observation goes by it. -/
theorem recorded_own_iff_contested :
    ∃ (t : Timeline (address declared) contested) (uploaded : Bytes),
      values contested.exchanges = [uploaded] ∧
      taken.observed.updatedAt = some t.seen.updatedAt.format ∧
      (taken.observed.updatedAt = some t.own.updatedAt.format ↔ t.window = []) ∧
      ∃ (c : Checking (address declared) revisiting) (value : Bytes),
        values revisiting.exchanges = [value] ∧
        (true = true ↔ digest value = digest uploaded ∧ t.after ++ c.before = []) := by
  obtain ⟨t, p, uploaded, hresource, huploaded, hseen, hown, hnext⟩ :=
    recorded_own_iff (.inl rfl) follows_contested generates_contested
  cases hresource
  exact ⟨t, uploaded, huploaded, hseen, hown,
    (hnext revisiting "later" _ _ follows_revisiting generates_revisiting).2⟩

/-- Someone else writes the secret between the upload and the reading. The creation succeeds and
    does not remember the time of its own write, and the next observation reports the secret as up
    to date while GitHub holds the other value. -/
theorem foreign_write_taken_for_own :
    contested.Follows (Leads (fun _ => some [1]) (address declared)) .empty ∧
    (client.converse .create "now" (.secrets declared)).Generates contested.exchanges
      (.ok (.created false), .secrets taken) ∧
    (∃ own ∈ (Vault.empty.write [1]).held,
      taken.observed.updatedAt ≠ some own.updatedAt.format) ∧
    revisiting.Follows (Leads (fun _ => some [1]) (address declared)) (contested.last .empty) ∧
    (client.converse .observe "later" (.secrets taken)).Generates revisiting.exchanges
      (.ok (.observed ⟨true, true, false⟩),
        .secrets (taken.withCondition (.ready .available "later"))) ∧
    ((revisiting.last (contested.last .empty)).held.map (·.value)) = some [2] := by
  refine ⟨follows_contested, generates_contested, ⟨_, rfl, ?_⟩, follows_revisiting,
    generates_revisiting, rfl⟩
  intro hsame
  have hformat := Timestamp.format_eq_iff.mp (Option.some.inj hsame)
  exact absurd hformat (by decide)

end GitHubReconciler.Secret
