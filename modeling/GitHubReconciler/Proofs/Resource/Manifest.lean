-- SUMMARY: Manifests lose nothing: a resource is read back from its manifest, and manifests are normal forms of the documents that can be read (`manifest_round_trip`).
import GitHubReconciler.Proofs.Json.Codec
import GitHubReconciler.Proofs.Time.Reading
import GitHubReconciler.Resource.Basic

/-!
# Manifests

Every record in the manifest of a resource is lawful, because its fields are and have different
names. So reading a manifest gives back the resource that was written, different resources have
different manifests, and writing what was read from any document gives a normal form of it: a point
in time is moved to UTC, say, and what an owner does not say is written as empty.
-/

namespace GitHubReconciler

open Record

/-! ## Parts of every object -/

theorem Reference.lawful_record : Reference.record.Lawful id := by
  apply Lawful.of_eq
  · apply_rules [Lawful.seq, lawful_nothing, lawful_required, Codec.lawful_text]
  · intro x
    rfl

theorem Reference.lawful_codec : Reference.record.codec.Lawful :=
  lawful_record.codec (by decide)

theorem Instant.lawful_codec : Instant.codec.Lawful :=
  Codec.lawful_textOf parse_formatExact

theorem Owner.lawful_record : Owner.record.Lawful id := by
  have hempty := Codec.lawful_text.orDefault ""
  apply Lawful.of_eq
  · apply_rules [Lawful.seq, lawful_nothing, lawful_optional, lawful_defaulted, Codec.lawful_flag,
      Codec.Lawful.decode_encode]
  · intro x
    rfl

theorem Owner.lawful_codec : (Owner.record.objectCodec "OwnerReference").Lawful :=
  lawful_record.objectCodec (by decide) _

theorem Manager.lawful_record : Manager.record.Lawful id := by
  apply Lawful.of_eq
  · apply_rules [Lawful.seq, lawful_nothing, lawful_optional, Codec.lawful_text,
      Codec.lawful_given, Instant.lawful_codec]
  · intro x
    rfl

theorem Manager.lawful_codec : (Manager.record.objectCodec "ManagedFieldsEntry").Lawful :=
  lawful_record.objectCodec (by decide) _

theorem Metadata.lawful_record : Metadata.record.Lawful id := by
  apply Lawful.of_eq
  · apply_rules [Lawful.seq, lawful_nothing]
    all_goals apply_rules [lawful_optional, Codec.lawful_text, Codec.lawful_integer,
      Codec.Lawful.map, Codec.Lawful.list, Instant.lawful_codec, Owner.lawful_codec,
      Manager.lawful_codec]
  · intro x
    rfl

theorem Metadata.lawful_codec : Metadata.codec.Lawful :=
  lawful_record.objectCodec (by decide) _

theorem Condition.lawful_record : Condition.record.Lawful id := by
  apply Lawful.of_eq
  · apply_rules [Lawful.seq, lawful_nothing, lawful_required, lawful_explicit, Codec.lawful_text]
  · intro x
    rfl

section Object

variable {Desired Observed : Type} {desired : Codec Desired} {observed : Codec Observed}

theorem Spec.lawful_record (h : desired.Lawful) : (Spec.record desired).Lawful id := by
  apply Lawful.of_eq
  · apply_rules [Lawful.seq, lawful_nothing, lawful_required, lawful_optional,
      Reference.lawful_codec]
  · intro x
    rfl

variable [Inhabited Observed]

theorem Status.lawful_record (h : observed.Lawful) : (Status.record observed).Lawful id := by
  have hconditions : Condition.record.codec.list.Lawful :=
    (Condition.lawful_record.codec (by decide)).list
  apply Lawful.of_eq
  · apply_rules [Lawful.seq, lawful_nothing, lawful_defaulted, Codec.Lawful.decode_encode]
  · intro x
    rfl

/-- Manifests are lawful if the desired and the observed states are. -/
theorem Object.lawful_codec (apiVersion kind : String) (hdesired : desired.Lawful)
    (hobserved : observed.Lawful) : (Object.codec apiVersion kind desired observed).Lawful := by
  have hspec : (Spec.record desired).codec.Lawful := by
    apply (Spec.lawful_record hdesired).codec
    change ["forProvider", "providerConfigRef"].Nodup
    decide
  have hstatus : (Status.record observed).codec.Lawful := by
    apply (Status.lawful_record hobserved).codec
    change ["conditions", "atProvider"].Nodup
    decide
  apply Lawful.codec_stamped
  · apply Lawful.of_eq
    · apply_rules [Lawful.seq, lawful_nothing, lawful_required, lawful_placed,
        Metadata.lawful_codec]
    · intro x
      rfl
  · change ["apiVersion", "kind", "metadata", "spec", "status"].Nodup
    decide

end Object

/-! ## Desired and observed states -/

namespace Repository

theorem Settings.lawful_record : Settings.record.Lawful id := by
  apply Lawful.of_eq
  · apply_rules [Lawful.seq, lawful_nothing]
    all_goals apply_rules [lawful_optional, Codec.lawful_text, Codec.lawful_flag,
      Codec.lawful_integer]
  · intro x
    rfl

theorem Desired.lawful_record : Desired.record.Lawful id := by
  apply Lawful.of_eq
  · apply_rules [Settings.lawful_record, Lawful.seq, lawful_nothing, Lawful.within,
      lawful_required, lawful_optional, Codec.lawful_text, Reference.lawful_codec]
  · intro x
    rfl

theorem Links.lawful_recordOf {α : Type} {field : String → (Links α → α) → Record (Links α) α}
    (h : ∀ name get, (field name get).Lawful get) : (Links.recordOf field).Lawful id := by
  apply Lawful.of_eq
  · apply_rules [Lawful.seq, lawful_nothing]
    all_goals apply h
  · intro x
    rfl

theorem Counts.lawful_recordOf {α : Type} {field : String → (Counts α → α) → Record (Counts α) α}
    (h : ∀ name get, (field name get).Lawful get) : (Counts.recordOf field).Lawful id := by
  apply Lawful.of_eq
  · apply_rules [Lawful.seq, lawful_nothing, h]
  · intro x
    rfl

theorem Observed.lawful_record : Observed.record.Lawful fun x => x := by
  have hlinks := Links.lawful_recordOf fun name get =>
    lawful_defaulted Codec.lawful_text.decode_encode name "" get
  have hcounts := Counts.lawful_recordOf fun name get =>
    lawful_defaulted Codec.lawful_integer.decode_encode name 0 get
  apply Lawful.of_eq
  · apply_rules [Lawful.seq, lawful_nothing]
    all_goals apply_rules [Lawful.within, lawful_defaulted, lawful_optional, lawful_elements,
      Codec.lawful_text, Codec.lawful_flag, Codec.lawful_integer, Codec.Lawful.map,
      Codec.Lawful.decode_encode]
  · intro x
    rfl

end Repository

theorem Secret.Selector.lawful_record : Selector.record.Lawful id := by
  apply Lawful.of_eq
  · apply_rules [Lawful.seq, lawful_nothing, lawful_required, Codec.lawful_text]
  · intro x
    rfl

theorem Secret.Desired.lawful_record : Desired.record.Lawful id := by
  have hselector : Selector.record.codec.Lawful := Selector.lawful_record.codec (by decide)
  apply Lawful.of_eq
  · apply_rules [Lawful.seq, lawful_nothing, lawful_required, Codec.lawful_text]
  · intro x
    rfl

theorem Secret.Fingerprint.lawful_record : Fingerprint.record.Lawful id := by
  apply Lawful.of_eq
  · apply_rules [Lawful.seq, lawful_nothing, lawful_optional, Codec.lawful_text]
  · intro x
    rfl

theorem Membership.Desired.lawful_record : Desired.record.Lawful id := by
  apply Lawful.of_eq
  · apply_rules [Lawful.seq, lawful_nothing, lawful_required, lawful_optional, lawful_defaulted,
      Codec.lawful_text, Codec.lawful_integer, Codec.Lawful.decode_encode]
  · intro x
    rfl

theorem Membership.Observed.lawful_record : Observed.record.Lawful id := by
  apply Lawful.of_eq
  · apply_rules [Lawful.seq, lawful_nothing, lawful_optional, Codec.lawful_text]
  · intro x
    rfl

theorem Content.Desired.lawful_record : Desired.record.Lawful id := by
  apply Lawful.of_eq
  · apply_rules [Lawful.seq, lawful_nothing, lawful_required, lawful_optional, Codec.lawful_text]
  · intro x
    rfl

theorem Content.Observed.lawful_record : Observed.record.Lawful id := by
  apply Lawful.of_eq
  · apply_rules [Lawful.seq, lawful_nothing, lawful_defaulted, Codec.lawful_text,
      Codec.Lawful.decode_encode]
  · intro x
    rfl

/-! ## Resources of every kind -/

namespace Resource

variable {k : Kind} {r : Resource}

theorem lawful_repositoryCodec : repositoryCodec.Lawful :=
  Object.lawful_codec _ _ (Repository.Desired.lawful_record.codec (by decide))
    (Repository.Observed.lawful_record.codec (by decide))

theorem lawful_secretsCodec : secretsCodec.Lawful :=
  Object.lawful_codec _ _ (Secret.Desired.lawful_record.codec (by decide))
    (Secret.Fingerprint.lawful_record.codec (by decide))

theorem lawful_membershipCodec : membershipCodec.Lawful :=
  Object.lawful_codec _ _ (Membership.Desired.lawful_record.codec (by decide))
    (Membership.Observed.lawful_record.codec (by decide))

theorem lawful_contentCodec : contentCodec.Lawful :=
  Object.lawful_codec _ _ (Content.Desired.lawful_record.codec (by decide))
    (Content.Observed.lawful_record.codec (by decide))

theorem ofManifest_manifest (r : Resource) : ofManifest r.kind r.manifest = .ok r := by
  cases r with
  | repository o => exact congrArg (repository <$> ·) (lawful_repositoryCodec.decode_encode o)
  | secrets o => exact congrArg (secrets <$> ·) (lawful_secretsCodec.decode_encode o)
  | membership o => exact congrArg (membership <$> ·) (lawful_membershipCodec.decode_encode o)
  | content o => exact congrArg (content <$> ·) (lawful_contentCodec.decode_encode o)

theorem kind_of_ofManifest {document : Json} (h : ofManifest k document = .ok r) : r.kind = k := by
  have hmap {α : Type} {wrap : α → Resource} {read : Decoded α} (hwrap : ∀ o, (wrap o).kind = k)
      (hread : wrap <$> read = .ok r) : r.kind = k := by
    cases read with
    | error fault => cases hread
    | ok o =>
      cases hread
      exact hwrap o
  cases k with
  | _ => exact hmap (fun _ => rfl) h

theorem field?_kind_manifest (r : Resource) :
    r.manifest.field? "kind" = some (.string r.kind.name) := by
  cases r with
  | _ => rfl

/-- Resources that differ in anything have different manifests. -/
theorem manifest_injective : Function.Injective manifest := by
  intro r r' heq
  have hkind : r.kind = r'.kind := by
    have hname := field?_kind_manifest r
    rw [heq, field?_kind_manifest] at hname
    apply Option.some.inj
    rw [← Kind.ofName?_name r.kind, ← Kind.ofName?_name r'.kind,
      Json.string.inj (Option.some.inj hname)]
  have hread := ofManifest_manifest r
  rw [hkind, heq, ofManifest_manifest] at hread
  exact (Except.ok.inj hread).symm

/-- A resource is read back from its manifest, so that no two resources share one. The manifest of
    what was read from any document is a normal form of it: it reads as the same resource and is
    what reading and writing it again gives. -/
theorem manifest_round_trip :
    (∀ r : Resource, ofManifest r.kind r.manifest = .ok r) ∧
      (∀ r r' : Resource, r.manifest = r'.manifest → r = r') ∧
      ∀ (k : Kind) (document : Json) (r : Resource), ofManifest k document = .ok r →
        r.kind = k ∧ ofManifest k r.manifest = .ok r ∧
          manifest <$> ofManifest k r.manifest = .ok r.manifest := by
  refine ⟨ofManifest_manifest, fun _ _ heq => manifest_injective heq, ?_⟩
  intro k document r hread
  have hkind : r.kind = k := kind_of_ofManifest hread
  have hagain : ofManifest k r.manifest = .ok r := hkind ▸ ofManifest_manifest r
  rw [hagain]
  exact ⟨hkind, rfl, rfl⟩

/-- A membership as a list of its fields, with `null` for some that have no value, in a document
    that says nothing about its kind. Its metadata name a point in time by the hour of a place, an
    owner of whom little is known, and a manager of fields. -/
theorem manifest_round_trip_membership :
    let document : Json := .object
      [("spec", .object
          [("forProvider", .array
            [.null, .string "", .string "octocat", .null, .string "acme"])]),
        ("metadata", .object
          [("name", .null), ("labels", .object []), ("selfLink", .string "/memberships/octocat"),
            ("creationTimestamp", .string "2024-02-29 23:30:00.5+01:00"),
            ("ownerReferences", .array
              [.object [("kind", .string "Team"), ("name", .null), ("controller", .bool true)]]),
            ("managedFields", .array
              [.object [("fieldsV1", .object [("f:spec", .object [])]), ("time", .null)]])]),
        ("status", .null)]
    let r : Resource := .membership
      { metadata :=
          { labels := some []
            selfLink := some "/memberships/octocat"
            creationTimestamp := some
              { seconds := 1709245800, nanos := 500000000, nanos_lt := by decide
                leap_ends_minute := by decide, first_le := by decide, lt_last := by decide }
            owners := some [{ kind := "Team", controller := some true }]
            managers := some
              [{ fields := some ⟨.object [("f:spec", .object [])], rfl⟩ }] }
        spec.forProvider := { email := some "", user := "octocat", organization := "acme" } }
    ofManifest .membership document = .ok r ∧ ofManifest .membership r.manifest = .ok r := by
  intro document r
  have hread : ofManifest .membership document = .ok r := by decide +kernel
  exact ⟨hread, (manifest_round_trip.2.2 .membership document r hread).2.1⟩

end Resource

end GitHubReconciler
