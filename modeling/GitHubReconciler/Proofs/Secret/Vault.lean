-- SUMMARY: GitHub's side of one secret (`Vault`): what it holds, how calls are answered (`Vault.Answers`) and what may become of it (`Vault.Later`).
import GitHubReconciler.Proofs.Exchanges
import GitHubReconciler.Proofs.Time.Timestamp

/-!
# Vaults

A vault is what GitHub keeps of one secret: its value, which it never gives back, and the time of
the last write. Every write gets a later second than all writes before it. A call that fails may
have been carried out all the same.

However a vault changes, it only goes from earlier to later (`Later`): what it holds was there
already or has been written since.
-/

namespace GitHubReconciler.Secret

/-- A value in GitHub, and when it was written. -/
structure Held where
  value : Bytes
  updatedAt : Timestamp

/-- Where a secret is. -/
structure Address where
  owner : String
  repository : String
  name : String
  deriving DecidableEq

/-- What GitHub keeps of a secret. -/
structure Vault where
  held : Option Held
  /-- The second of the last write. -/
  latest : Int
  held_le : ∀ h ∈ held, h.updatedAt.tick ≤ latest

namespace Vault

variable {opens : Remote.SealedSecret → Option Bytes} {a : Address} {u v w : Vault}
  {xs : List Exchange}

/-! ## Changes -/

/-- A value is written, in a later second than any before it. -/
def Written (v : Vault) (value : Bytes) (w : Vault) : Prop :=
  ∃ updatedAt : Timestamp, v.latest < updatedAt.tick ∧ w.held = some ⟨value, updatedAt⟩ ∧
    w.latest = updatedAt.tick

/-- The secret is deleted. -/
def Deleted (v w : Vault) : Prop :=
  w.held = none ∧ w.latest = v.latest

/-- What someone else does to the secret. -/
inductive Foreign (v w : Vault) : Prop where
  | untouched : w = v → Foreign v w
  | written {value : Bytes} : v.Written value w → Foreign v w
  | deleted : v.Deleted w → Foreign v w

/-- How GitHub answers calls. It opens what it is sent, and a call that fails may or may not have
    been carried out. -/
def Answers (opens : Remote.SealedSecret → Option Bytes) (a : Address) (v : Vault) :
    Exchange → Vault → Prop
  | ⟨.putSecret owner repository s, answer⟩, w =>
      if a = ⟨owner, repository, s.name⟩ then
        (∃ value, opens s = some value ∧ v.Written value w) ∨
          ((∃ failure, answer = .error failure) ∧ w = v)
      else w = v
  | ⟨.deleteSecret owner repository name, answer⟩, w =>
      if a = ⟨owner, repository, name⟩ then
        v.Deleted w ∨ ((∃ failure, answer = .error failure) ∧ w = v)
      else w = v
  | ⟨.getSecret owner repository name, answer⟩, w =>
      w = v ∧ (a = ⟨owner, repository, name⟩ → ∀ record, answer = .ok record →
        ∃ h ∈ v.held, record.updatedAt = h.updatedAt)
  | _, w => w = v

/-- The answers to several exchanges, one after another. -/
inductive Evolves (opens : Remote.SealedSecret → Option Bytes) (a : Address) :
    Vault → List Exchange → Vault → Prop where
  | nil {v : Vault} : Evolves opens a v [] v
  | cons {u v w : Vault} {x : Exchange} {xs : List Exchange} :
      u.Answers opens a x v → Evolves opens a v xs w → Evolves opens a u (x :: xs) w

/-! ## From earlier to later -/

/-- What is held in `w` was held in `v` or has been written since. -/
structure Later (v w : Vault) : Prop where
  latest_le : v.latest ≤ w.latest
  held_or_newer : ∀ h ∈ w.held, h ∈ v.held ∨ v.latest < h.updatedAt.tick

theorem Later.refl (v : Vault) : v.Later v where
  latest_le := Int.le_refl _
  held_or_newer := fun _ hheld => .inl hheld

theorem Later.trans (huv : u.Later v) (hvw : v.Later w) : u.Later w where
  latest_le := Int.le_trans huv.latest_le hvw.latest_le
  held_or_newer := by
    intro h hheld
    rcases hvw.held_or_newer h hheld with hheld | hnewer
    · exact huv.held_or_newer h hheld
    · exact .inr (Int.lt_of_le_of_lt huv.latest_le hnewer)

theorem Written.later {value : Bytes} (h : v.Written value w) : v.Later w := by
  obtain ⟨updatedAt, hlater, hheld, hlatest⟩ := h
  refine ⟨by omega, ?_⟩
  intro h hmem
  rw [hheld] at hmem
  cases hmem
  exact .inr hlater

theorem Deleted.later (h : v.Deleted w) : v.Later w := by
  obtain ⟨hheld, hlatest⟩ := h
  refine ⟨by omega, ?_⟩
  intro h hmem
  rw [hheld] at hmem
  cases hmem

theorem Foreign.later (h : v.Foreign w) : v.Later w := by
  cases h with
  | untouched heq =>
    subst heq
    exact .refl _
  | written hwritten => exact hwritten.later
  | deleted hdeleted => exact hdeleted.later

theorem Answers.later {x : Exchange} (h : v.Answers opens a x w) : v.Later w := by
  obtain ⟨q, answer⟩ := x
  cases q with
  | putSecret owner repository s =>
    simp only [Answers] at h
    split at h
    · rcases h with ⟨value, -, hwritten⟩ | ⟨-, rfl⟩
      · exact hwritten.later
      · exact .refl _
    · subst h
      exact .refl _
  | deleteSecret owner repository name =>
    simp only [Answers] at h
    split at h
    · rcases h with hdeleted | ⟨-, rfl⟩
      · exact hdeleted.later
      · exact .refl _
    · subst h
      exact .refl _
  | getSecret owner repository name =>
    cases h.1
    exact .refl _
  | _ =>
    cases h
    exact .refl _

theorem Evolves.later (h : Evolves opens a v xs w) : v.Later w := by
  induction h with
  | nil => exact .refl _
  | cons hanswers _ ih => exact hanswers.later.trans ih

theorem Evolves.split {ys : List Exchange} (h : Evolves opens a u (xs ++ ys) w) :
    ∃ v, Evolves opens a u xs v ∧ Evolves opens a v ys w := by
  induction xs generalizing u with
  | nil => exact ⟨u, .nil, h⟩
  | cons x xs ih =>
    cases h with
    | cons hanswers hrest =>
      obtain ⟨v, hfirst, hsecond⟩ := ih hrest
      exact ⟨v, .cons hanswers hfirst, hsecond⟩

/-! ## Single calls -/

/-- An upload that is accepted is a write of what it opens to. -/
theorem answers_put_iff {owner repository : String} {s : Remote.SealedSecret}
    (haddress : a = ⟨owner, repository, s.name⟩) :
    v.Answers opens a ⟨.putSecret owner repository s, .ok ()⟩ w ↔
      ∃ value, opens s = some value ∧ v.Written value w := by
  simp only [Answers, haddress, if_true]
  constructor
  · rintro (hwritten | ⟨⟨failure, heq⟩, -⟩)
    · exact hwritten
    · cases heq
  · exact .inl

theorem Evolves.written_of_put {owner repository name : String} {s : Remote.SealedSecret}
    {value : Bytes} (hname : s.name = name) (hopens : opens s = some value)
    (h : Evolves opens ⟨owner, repository, name⟩ v [⟨.putSecret owner repository s, .ok ()⟩] w) :
    v.Written value w := by
  subst hname
  cases h with
  | cons hanswers hrest =>
    cases hrest
    obtain ⟨opened, hopened, hwritten⟩ := (answers_put_iff rfl).mp hanswers
    cases hopens.symm.trans hopened
    exact hwritten

/-- GitHub's record of a secret is that of what is held. -/
theorem Evolves.held_of_get {owner repository name : String} {record : Remote.SecretRecord}
    (h : Evolves opens ⟨owner, repository, name⟩ v
      [⟨.getSecret owner repository name, .ok record⟩] w) :
    w = v ∧ ∃ held, v.held = some held ∧ record.updatedAt = held.updatedAt := by
  cases h with
  | cons hanswers hrest =>
    cases hrest
    obtain ⟨rfl, hread⟩ := hanswers
    exact ⟨rfl, hread rfl record rfl⟩

/-- A world that answers as the vault in it demands leads the vault along its exchanges. -/
theorem evolves_of_walk {σ : Type} {world : Dialogue.World Call Call.Answer σ} {vault : σ → Vault}
    {s s' : σ}
    (hworld : ∀ q s, (vault s).Answers opens a ⟨q, (world q s).1⟩ (vault (world q s).2))
    (h : Dialogue.Walk world s xs s') : Evolves opens a (vault s) xs (vault s') := by
  induction h with
  | nil => exact .nil
  | cons _ ih => exact .cons (hworld _ _) ih

end Vault

end GitHubReconciler.Secret
