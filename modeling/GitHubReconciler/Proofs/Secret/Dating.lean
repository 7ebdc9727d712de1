-- SUMMARY: Texts of timestamps are faithful to the second, and so is what the fingerprint of an upload tells of a later write (`times_exact`).
import GitHubReconciler.Proofs.Secret.Soundness

/-!
# Times in fingerprints

The fingerprint of an upload keeps GitHub's time of the write as a text. Nothing is lost by that but
the fraction of a second: the text spells the date and the time of day of the second, in every year,
and a leap second is told from the second before it. So a later observation finds another time just
if GitHub's time lies in another second.
-/

namespace GitHubReconciler.Secret

open Operation

variable {now : String} {o : SecretObject} {r' : Resource} {xs : List Exchange}
  {record : Remote.SecretRecord} {uploaded value : Bytes}

/-- A value and a record are those of an upload just if the digests are the same and the times lie
    in the same second. -/
theorem isOf_ofUpload_iff {found : Remote.SecretRecord} :
    (Fingerprint.ofUpload (digest uploaded) record).isOf value found = true ↔
      digest uploaded = digest value ∧ record.updatedAt.seconds = found.updatedAt.seconds ∧
        record.updatedAt.isLeap = found.updatedAt.isLeap := by
  simp [Fingerprint.isOf, Fingerprint.ofUpload, Timestamp.format_eq_iff, Timestamp.tick_eq_iff]

/-- An observation that reads a record and a value compares them with what is remembered. -/
theorem Observing.eq_of_read {result : Except Failure Observation}
    (h : Observing now o xs result r') (hdigest : o.observed.digest ≠ none)
    (hrecord : records xs = [record]) (hvalue : values xs = [value]) :
    result = .ok ⟨true, o.observed.isOf value record, false⟩ := by
  cases h with
  | absent hnone => exact absurd hnone hdigest
  | unread => cases hrecord
  | valueless => cases hvalue
  | compared =>
    cases hrecord
    cases hvalue
    rfl

/-- Dates are counted as the calendar has them one after another. The text of a timestamp spells the
    date and the time of day of its second and nothing else, so that timestamps are written alike
    just if they lie in the same second. An observation that reads the record and the value after an
    upload finds the secret up to date just if the value has the digest of the uploaded one and
    GitHub's time of the write lies in the second that it was in then. -/
theorem times_exact :
    (Date.epoch.toDays = 0 ∧
      ∀ d : Date, d.InCalendar → d.next.InCalendar ∧ d.next.toDays = d.toDays + 1) ∧
    (∀ t : Timestamp, ∃ c, t.IsShownBy c ∧ ∀ d, CivilTime.Spells t.format d ↔ d = c) ∧
    (∀ t u : Timestamp, t.format = u.format ↔ t.seconds = u.seconds ∧ t.isLeap = u.isLeap) ∧
    ∀ (o : SecretObject) (uploaded value : Bytes) (record found : Remote.SecretRecord)
      (now : String) (xs : List Exchange) (outcome : Except Failure Outcome) (r' : Resource),
      o.observed = .ofUpload (digest uploaded) record →
      (client.converse .observe now (.secrets o)).Generates xs (outcome, r') →
      records xs = [found] → values xs = [value] →
      ∃ upToDate, outcome = .ok (.observed ⟨true, upToDate, false⟩) ∧
        (upToDate = true ↔ digest uploaded = digest value ∧
          record.updatedAt.seconds = found.updatedAt.seconds ∧
          record.updatedAt.isLeap = found.updatedAt.isLeap) := by
  refine ⟨⟨rfl, fun d hd => ⟨hd.next, Date.toDays_next hd⟩⟩, fun t => ?_, fun t u => ?_, ?_⟩
  · exact ⟨t.civil, t.isShownBy_civil, fun _ => Timestamp.spells_format_iff⟩
  · rw [Timestamp.format_eq_iff, Timestamp.tick_eq_iff]
  · intro o uploaded value record found now xs outcome r' hobserved hgenerates hrecord hvalue
    obtain ⟨result, rfl, hobserving⟩ := observing_of_generates hgenerates
    have hdigest : o.observed.digest ≠ none := by
      rw [hobserved]
      exact Option.some_ne_none _
    rw [hobserving.eq_of_read hdigest hrecord hvalue, hobserved]
    exact ⟨_, rfl, isOf_ofUpload_iff⟩

/-- The last second of 2016, half of it gone. -/
def beforeLeap : Timestamp :=
  ⟨1483228799, 500000000, by decide, by decide⟩

/-- The leap second after it. -/
def inLeap : Timestamp :=
  ⟨1483228799, 1000000000, by decide, by decide⟩

/-- GitHub's record of a secret that was written at a time. -/
def writtenAt (t : Timestamp) : Remote.SecretRecord where
  name := declared.metadata.externalName
  createdAt := t
  updatedAt := t

/-- A declared secret whose upload is remembered. -/
def uploadedAt (t : Timestamp) : SecretObject :=
  declared.withObserved (.ofUpload (digest [1]) (writtenAt t))

/-- What an observation reads that finds the secret written in the leap second. -/
def readings : List Exchange :=
  [⟨.getSecret declared.desired.owner declared.desired.repository declared.metadata.externalName,
      .ok (writtenAt inLeap)⟩,
    ⟨.extract declared.desired.value, .ok [1]⟩]

/-- The day after the 28th of February is the first of March in 1900. An upload in the last second
    of 2016 is not taken for one in the leap second after it, although both have the same count. -/
theorem times_exact_leap :
    (Date.next ⟨1900, 2, 28⟩ = ⟨1900, 3, 1⟩ ∧
      Date.toDays ⟨1900, 3, 1⟩ = Date.toDays ⟨1900, 2, 28⟩ + 1) ∧
    ∃ upToDate r', (client.converse .observe "later" (.secrets (uploadedAt beforeLeap))).Generates
        readings (.ok (.observed ⟨true, upToDate, false⟩), r') ∧ upToDate = false := by
  have hdate : Date.InCalendar ⟨1900, 2, 28⟩ := ⟨by decide, by decide, by decide, by decide⟩
  refine ⟨⟨rfl, (times_exact.1.2 _ hdate).2⟩, ?_⟩
  have hgenerates : (client.converse .observe "later" (.secrets (uploadedAt beforeLeap))).Generates
      readings _ := (Performing.observed (.compared (fun hnone => by cases hnone))).generates
  obtain ⟨upToDate, houtcome, hiff⟩ := times_exact.2.2.2 (uploadedAt beforeLeap) [1] [1]
    (writtenAt beforeLeap) (writtenAt inLeap) "later" readings _ _ rfl hgenerates rfl rfl
  rw [houtcome] at hgenerates
  refine ⟨upToDate, _, hgenerates, Bool.eq_false_iff.mpr fun htrue => ?_⟩
  obtain ⟨-, -, hleap⟩ := hiff.mp htrue
  exact absurd hleap (by decide)

end GitHubReconciler.Secret
