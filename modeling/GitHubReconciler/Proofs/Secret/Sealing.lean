-- SUMMARY: Which keys a value is sealed for (`HoldsKey`), what is sealed (`Sealed`), and that an upload sends and digests the value it has read (`sealing_binds`).
import GitHubReconciler.Proofs.Crypto.SealedBox
import GitHubReconciler.Proofs.Secret.Operations
import GitHubReconciler.Proofs.Text.Canonical

/-!
# What an upload seals

An upload reads the value once. What it sends is sealed from that value (`Sealed`) and what it gives
is the digest of that value, wherever the run may fail. The key that GitHub gives out can be used
for it just if it is the canonical base64 of 32 bytes (`HoldsKey`).

Sealing is one step of an upload. It stands here on its own (`sealFor`), and an upload is composed
of it and of the calls around it (`uploadSealed_eq`).
-/

namespace GitHubReconciler.Secret

open Operation

variable {d : Desired} {name : String} {key : Remote.PublicKey} {value box drawn : Bytes}
  {r r' : Resource} {xs : List Exchange}

/-! ## Keys -/

/-- The key is the canonical base64 of the 32 bytes of `box`. -/
def HoldsKey (key : Remote.PublicKey) (box : Bytes) : Prop :=
  box.length = 32 ∧ ∃ text, key.key = some text ∧ Text.Base64.Encodes box text.toList

theorem recipient_eq_ok_iff : recipient key = .ok box ↔ HoldsKey key box := by
  unfold recipient HoldsKey
  cases key.key with
  | none => simp
  | some text =>
    simp only [Option.some.injEq, exists_eq_left', Text.Base64.encodes_toList_iff]
    cases hdecode : Text.Base64.decode text with
    | error fault =>
      have hother : text ≠ Text.Base64.encode box := fun h => by
        cases hdecode.symm.trans (Text.Base64.decode_eq_ok_iff.mpr h)
      simp [hother]
    | ok bytes =>
      obtain rfl := Text.Base64.decode_eq_ok_iff.mp hdecode
      rw [Text.Base64.encode_inj, eq_comm (a := bytes)]
      by_cases hsize : bytes.length = keySize
      · simp only [if_pos hsize, Except.ok.injEq]
        constructor
        · rintro rfl
          exact ⟨hsize, rfl⟩
        · exact fun h => h.2.symm
      · simp only [if_neg hsize, reduceCtorEq, false_iff]
        rintro ⟨hlength, rfl⟩
        exact hsize hlength

/-- A record holds at most one key. -/
theorem HoldsKey.unique {box' : Bytes} (h : HoldsKey key box) (h' : HoldsKey key box') :
    box = box' :=
  Except.ok.inj ((recipient_eq_ok_iff.mpr h).symm.trans (recipient_eq_ok_iff.mpr h'))

theorem not_holdsKey {fault : KeyFault} (h : recipient key = .error fault) : ¬HoldsKey key box := by
  intro hholds
  cases h.symm.trans (recipient_eq_ok_iff.mpr hholds)

/-! ## Sealing -/

/-- Seal a value under a name for the holder of a key. -/
def sealFor (name : String) (key : Remote.PublicKey) (value : Bytes) :
    Operation Remote.SealedSecret :=
  match recipient key with
  | .error fault => throw (.encryption fault.message)
  | .ok box => do
      let drawn ← drawKey
      return sealValue key box drawn name value

/-- `s` is the value, sealed under the name for whoever holds the key, with a key pair used once
    whose secret half is `drawn`. -/
structure Sealed (key : Remote.PublicKey) (name : String) (value drawn : Bytes)
    (s : Remote.SealedSecret) : Prop where
  name_eq : s.name = name
  keyId_eq : s.keyId = key.keyId.getD ""
  /-- The two key pairs have to agree on a point for the box to be opened. -/
  opens : ∃ box, Text.Base64.Encodes box s.value.toList ∧ Text.Base64.decode s.value = .ok box ∧
    box.length = 48 + value.length ∧
    ∀ secret, HoldsKey key (Curve25519.publicKey secret) → SealedBox.KeysAgree secret drawn →
      SealedBox.opened? secret box = some value

theorem sealed_sealValue (h : HoldsKey key box) :
    Sealed key name value drawn (sealValue key box drawn name value) where
  name_eq := rfl
  keyId_eq := rfl
  opens := by
    refine ⟨SealedBox.sealed drawn box value, Text.Base64.encodes_toList_iff.mpr rfl,
      Text.Base64.decode_encode _, SealedBox.length_sealed _ _ _, ?_⟩
    intro secret hsecret hagree
    rw [h.unique hsecret]
    exact SealedBox.opened?_sealed hagree

/-- The exchanges of sealing, and what it comes to. -/
inductive Sealing (key : Remote.PublicKey) (name : String) (value : Bytes) :
    List Exchange → Except Failure Remote.SealedSecret → Prop where
  | unusable {fault : KeyFault} :
      recipient key = .error fault →
      Sealing key name value [] (.error (.encryption fault.message))
  | made {box drawn : Bytes} :
      recipient key = .ok box →
      Sealing key name value [⟨.drawKey, drawn⟩] (.ok (sealValue key box drawn name value))

theorem yields_sealFor {result : Except Failure Remote.SealedSecret} :
    Yields (sealFor name key value) r xs result r' ↔ Sealing key name value xs result ∧ r' = r := by
  unfold sealFor
  constructor
  · intro h
    cases hbox : recipient key with
    | error fault =>
      rw [hbox, yields_throw] at h
      obtain ⟨rfl, rfl, rfl⟩ := h
      exact ⟨.unusable hbox, rfl⟩
    | ok box =>
      rw [hbox] at h
      obtain ⟨drawn, ys, rfl, hmade⟩ := yields_call_bind.mp h
      obtain ⟨rfl, rfl, rfl⟩ := yields_pure.mp hmade
      exact ⟨.made hbox, rfl⟩
  · rintro ⟨hsealing, rfl⟩
    cases hsealing with
    | unusable hbox =>
      rw [hbox]
      exact yields_throw.mpr ⟨rfl, rfl, rfl⟩
    | made hbox =>
      rw [hbox]
      exact yields_call_bind.mpr ⟨_, [], rfl, yields_pure.mpr ⟨rfl, rfl, rfl⟩⟩

/-- Sealing goes as the key says, and what it makes is the value, sealed. -/
theorem Sealing.accepts {result : Except Failure Remote.SealedSecret}
    (h : Sealing key name value xs result) :
    ((∃ s, result = .ok s) ↔ ∃ box, HoldsKey key box) ∧
      (∀ failure, result = .error failure → ∃ detail, failure = .encryption detail) ∧
      ∀ s, result = .ok s → ∃ drawn, drawnKeys xs = [drawn] ∧ Sealed key name value drawn s := by
  cases h with
  | unusable hbox =>
    refine ⟨⟨?_, ?_⟩, ?_, ?_⟩
    · rintro ⟨s, h⟩
      cases h
    · rintro ⟨box, hholds⟩
      exact absurd hholds (not_holdsKey hbox)
    · intro failure h
      cases h
      exact ⟨_, rfl⟩
    · intro s h
      cases h
  | made hbox =>
    have hholds := recipient_eq_ok_iff.mp hbox
    refine ⟨⟨fun _ => ⟨_, hholds⟩, fun _ => ⟨_, rfl⟩⟩, ?_, ?_⟩
    · intro failure h
      cases h
    · intro s h
      cases h
      exact ⟨_, rfl, sealed_sealValue hholds⟩

/-- Whatever is drawn, sealing comes to a result. -/
theorem exists_yields_sealFor (name : String) (key : Remote.PublicKey) (value drawn : Bytes)
    (r : Resource) :
    ∃ xs result, (∀ k ∈ drawnKeys xs, k = drawn) ∧
      Yields (sealFor name key value) r xs result r := by
  cases hbox : recipient key with
  | error fault =>
    exact ⟨[], _, by simp [drawnKeys], yields_sealFor.mpr ⟨.unusable hbox, rfl⟩⟩
  | ok box =>
    refine ⟨[⟨.drawKey, drawn⟩], _, ?_, yields_sealFor.mpr ⟨.made hbox, rfl⟩⟩
    simp [drawnKeys, Exchange.drawnKey?]

/-! ## Uploads -/

/-- The steps of an upload around the sealing. -/
def uploadWith (d : Desired)
    (sealing : Remote.PublicKey → Bytes → Operation Remote.SealedSecret) : Operation String := do
  let key ← expect keyContext (← getPublicKey d.owner d.repository)
  let value ← extract d.value
  let s ← sealing key value
  expect uploadContext (← putSecret d.owner d.repository s)
  log .debug "Uploaded sealed secret" [("key_id", .text s.keyId)]
  return digest value

theorem uploadSealed_eq (d : Desired) (name : String) :
    uploadSealed d name = uploadWith d (sealFor name) := by
  unfold uploadSealed uploadWith
  refine bind_congr fun answer => bind_congr fun key => bind_congr fun value => ?_
  unfold sealFor
  cases recipient key with
  | error fault => rfl
  | ok box => rw [bind_assoc]; rfl

/-- The exchanges of an upload that gets as far as sending `s`. -/
def attempt (d : Desired) (key : Remote.PublicKey) (value drawn : Bytes) (s : Remote.SealedSecret)
    (answer : Call.FromGitHub Unit) : List Exchange :=
  [⟨.getPublicKey d.owner d.repository, .ok key⟩, ⟨.extract d.value, .ok value⟩, ⟨.drawKey, drawn⟩,
    ⟨.putSecret d.owner d.repository s, answer⟩]

/-- An upload that succeeds has sent the value, sealed, and given its digest. -/
theorem Sending.sealed_of_ok (h : Sending d name xs (.ok value)) :
    ∃ key drawn s, xs = attempt d key value drawn s (.ok ()) ∧ Sealed key name value drawn s := by
  cases h with
  | sent hbox => exact ⟨_, _, _, rfl, sealed_sealValue (recipient_eq_ok_iff.mp hbox)⟩

/-- An upload that fails has sent nothing, or GitHub has refused what it sent. -/
theorem Sending.unsent_or_refused {failure : Failure} (h : Sending d name xs (.error failure)) :
    (∀ x ∈ xs, x.1.isMutation = false) ∨
      ∃ key value drawn s refusal, xs = attempt d key value drawn s (.error refusal) ∧
        Sealed key name value drawn s ∧ failure = .remote uploadContext refusal := by
  cases h with
  | keyless => exact .inl (by simp [Call.isMutation])
  | valueless => exact .inl (by simp [Call.isMutation])
  | unusable => exact .inl (by simp [Call.isMutation])
  | refused hbox =>
    exact .inr ⟨_, _, _, _, _, rfl, sealed_sealValue (recipient_eq_ok_iff.mp hbox), rfl⟩

/-- An upload sends something just if it has got a key that can be used and the value. -/
theorem Sending.sends_iff {outcome : Except Failure Bytes} (h : Sending d name xs outcome) :
    (∃ x ∈ xs, x.1.isMutation = true) ↔
      ∃ key box value, publicKeys xs = [key] ∧ HoldsKey key box ∧ values xs = [value] := by
  cases h with
  | keyless =>
    refine iff_of_false (by simp [Call.isMutation]) ?_
    rintro ⟨key, box, value, hkey, -⟩
    cases hkey
  | valueless =>
    refine iff_of_false (by simp [Call.isMutation]) ?_
    rintro ⟨key, box, value, -, -, hvalue⟩
    cases hvalue
  | unusable hbox =>
    refine iff_of_false (by simp [Call.isMutation]) ?_
    rintro ⟨key, box, value, hkey, hholds, -⟩
    cases hkey
    exact not_holdsKey hbox hholds
  | refused hbox =>
    have hholds := recipient_eq_ok_iff.mp hbox
    exact iff_of_true (by simp [Call.isMutation]) ⟨_, _, _, rfl, hholds, rfl⟩
  | sent hbox =>
    have hholds := recipient_eq_ok_iff.mp hbox
    exact iff_of_true (by simp [Call.isMutation]) ⟨_, _, _, rfl, hholds, rfl⟩

/-- Sealing succeeds just if the record holds the canonical base64 of 32 bytes, and what it makes
    opens to the value. An upload that succeeds has read the value once, has sent it sealed under
    the given name to the declared repository, and gives its digest. One that fails before that has
    sent nothing. -/
theorem sealing_binds (d : Desired) (name : String) (r : Resource) :
    (∀ key value drawn, ∃ xs result, (∀ k ∈ drawnKeys xs, k = drawn) ∧
      Yields (sealFor name key value) r xs result r) ∧
    (∀ key value xs result r', Yields (sealFor name key value) r xs result r' →
      ((∃ s, result = .ok s) ↔ ∃ box, HoldsKey key box) ∧
      (∀ failure, result = .error failure → ∃ detail, failure = .encryption detail) ∧
      ∀ s, result = .ok s → ∃ drawn, drawnKeys xs = [drawn] ∧ Sealed key name value drawn s) ∧
    uploadSealed d name = uploadWith d (sealFor name) ∧
    ∀ xs result r', Yields (uploadSealed d name) r xs result r' →
      (∀ h, result = .ok h → ∃ key value drawn s, xs = attempt d key value drawn s (.ok ()) ∧
        Sealed key name value drawn s ∧ h = Text.Hex.encode (Sha256.digest value)) ∧
      (∀ failure, result = .error failure → (∀ x ∈ xs, x.1.isMutation = false) ∨
        ∃ key value drawn s refusal, xs = attempt d key value drawn s (.error refusal) ∧
          Sealed key name value drawn s ∧ failure = .remote uploadContext refusal) ∧
      ((∃ x ∈ xs, x.1.isMutation = true) ↔
        ∃ key box value, publicKeys xs = [key] ∧ HoldsKey key box ∧ values xs = [value]) := by
  refine ⟨?_, ?_, uploadSealed_eq d name, ?_⟩
  · exact fun key value drawn => exists_yields_sealFor name key value drawn r
  · intro key value xs result r' h
    exact (yields_sealFor.mp h).1.accepts
  · intro xs result r' h
    obtain ⟨outcome, hsending, rfl, -⟩ := sending_of_yields h
    refine ⟨?_, ?_, hsending.sends_iff⟩
    · intro text htext
      cases outcome with
      | error failure => cases htext
      | ok value =>
        cases htext
        obtain ⟨key, drawn, s, hxs, hsealed⟩ := hsending.sealed_of_ok
        exact ⟨key, value, drawn, s, hxs, hsealed, rfl⟩
    · intro failure hfailure
      cases outcome with
      | error failure =>
        cases hfailure
        exact hsending.unsent_or_refused
      | ok value => cases hfailure

/-- A declared secret. -/
def token : SecretObject where
  metadata := { name := some "token" }
  spec := { forProvider :=
    { owner := "acme", repository := "demo"
      value := { name := "source", space := "default", key := "token" } } }

/-- A value that is sealed for the public half of a key pair is opened with the secret half. -/
theorem sealing_binds_token :
    let secret := List.replicate 32 1
    let drawn := List.replicate 32 0
    let key : Remote.PublicKey :=
      { keyId := some "7", key := some (Text.Base64.encode (Curve25519.publicKey secret)) }
    ∃ s box, Yields (uploadSealed token.desired "TOKEN") (.secrets token)
        (attempt token.desired key [115, 51] drawn s (.ok ())) (.ok (digest [115, 51]))
        (.secrets token) ∧
      s.name = "TOKEN" ∧ s.keyId = "7" ∧ Text.Base64.decode s.value = .ok box ∧ box.length = 50 ∧
      SealedBox.opened? secret box = some [115, 51] := by
  intro secret drawn key
  have hagree : SealedBox.KeysAgree secret drawn := by
    unfold SealedBox.KeysAgree
    decide +kernel
  have hholds : HoldsKey key (Curve25519.publicKey secret) :=
    ⟨Curve25519.length_multiply _ _, _, rfl, Text.Base64.encodes_toList_iff.mpr rfl⟩
  have hsending : Sending token.desired "TOKEN" (attempt token.desired key [115, 51] drawn
      (sealValue key (Curve25519.publicKey secret) drawn "TOKEN" [115, 51]) (.ok ()))
      (.ok [115, 51]) :=
    .sent (recipient_eq_ok_iff.mpr hholds)
  have hyields := hsending.yields (r := .secrets token)
  obtain ⟨hok, -, -⟩ := (sealing_binds token.desired "TOKEN" (.secrets token)).2.2.2 _ _ _ hyields
  obtain ⟨key', value, drawn', s, hxs, hsealed, -⟩ := hok _ rfl
  cases hxs
  obtain ⟨box, -, hdecode, hlength, hopens⟩ := hsealed.opens
  exact ⟨_, box, hyields, hsealed.name_eq, hsealed.keyId_eq, hdecode, hlength,
    hopens secret hholds hagree⟩

end GitHubReconciler.Secret
