-- SUMMARY: What exchanges show: the calls (`calls`), look-ups of repositories (`lookUps`, `places`), bodies written (`bodies`), writes to the cluster (`writes`) and the parts of uploads.
import GitHubReconciler.Proofs.Operation
import GitHubReconciler.Repository.Template

/-!
# Views of exchanges

Statements about whole runs speak of some exchanges only: the look-ups among them, the bodies
that were sent to GitHub, the values that were read. Each view picks its part of one exchange
and leaves the others out; on a list it keeps the order.
-/

namespace GitHubReconciler

/-- Where a call looks for a repository. -/
def Call.place? : Call → Option Repository.FullName
  | .getRepository owner name => some ⟨owner, name⟩
  | _ => none

namespace Exchange

/-- The answer to a look-up of a repository. -/
def lookUp? : Exchange → Option (Call.FromGitHub Remote.Repository)
  | ⟨.getRepository _ _, answer⟩ => some answer
  | _ => none

/-- The body of a repository on its way to GitHub. -/
def body? : Exchange → Option Remote.Repository
  | ⟨.createRepository _ body, _⟩ => some body
  | ⟨.editRepository _ _ changes, _⟩ => some changes
  | _ => none

/-- The public key that GitHub gave out. -/
def publicKey? : Exchange → Option Remote.PublicKey
  | ⟨.getPublicKey _ _, .ok key⟩ => some key
  | _ => none

/-- The secret half of a key pair that was drawn. -/
def drawnKey? : Exchange → Option Bytes
  | ⟨.drawKey, key⟩ => some key
  | _ => none

/-- The value of a secret that was read. -/
def value? : Exchange → Option Bytes
  | ⟨.extract _, .ok value⟩ => some value
  | _ => none

/-- GitHub's record of a secret. -/
def record? : Exchange → Option Remote.SecretRecord
  | ⟨.getSecret _ _ _, .ok record⟩ => some record
  | _ => none

/-- A resource on its way to the cluster, and how the cluster answered. -/
def write? : Exchange → Option (Resource × Except Causes Resource)
  | ⟨.persist resource, answer⟩ => some (resource, answer)
  | _ => none

end Exchange

/-- The calls that were made. -/
def calls (xs : List Exchange) : List Call :=
  xs.map (·.1)

/-- The answers to look-ups of repositories. -/
def lookUps (xs : List Exchange) : List (Call.FromGitHub Remote.Repository) :=
  xs.filterMap Exchange.lookUp?

/-- The places where repositories were looked for. -/
def places (xs : List Exchange) : List Repository.FullName :=
  (calls xs).filterMap Call.place?

/-- The bodies of repositories sent to GitHub. -/
def bodies (xs : List Exchange) : List Remote.Repository :=
  xs.filterMap Exchange.body?

/-- The public keys that GitHub gave out. -/
def publicKeys (xs : List Exchange) : List Remote.PublicKey :=
  xs.filterMap Exchange.publicKey?

/-- The secret halves of key pairs that were drawn. -/
def drawnKeys (xs : List Exchange) : List Bytes :=
  xs.filterMap Exchange.drawnKey?

/-- The values of secrets that were read. -/
def values (xs : List Exchange) : List Bytes :=
  xs.filterMap Exchange.value?

/-- GitHub's records of secrets. -/
def records (xs : List Exchange) : List Remote.SecretRecord :=
  xs.filterMap Exchange.record?

/-- The resources written to the cluster, each with the answer. -/
def writes (xs : List Exchange) : List (Resource × Except Causes Resource) :=
  xs.filterMap Exchange.write?

@[simp] theorem calls_append (xs ys : List Exchange) : calls (xs ++ ys) = calls xs ++ calls ys :=
  List.map_append

@[simp] theorem lookUps_append (xs ys : List Exchange) :
    lookUps (xs ++ ys) = lookUps xs ++ lookUps ys :=
  List.filterMap_append

@[simp] theorem places_append (xs ys : List Exchange) :
    places (xs ++ ys) = places xs ++ places ys := by
  simp [places]

@[simp] theorem bodies_append (xs ys : List Exchange) :
    bodies (xs ++ ys) = bodies xs ++ bodies ys :=
  List.filterMap_append

@[simp] theorem publicKeys_append (xs ys : List Exchange) :
    publicKeys (xs ++ ys) = publicKeys xs ++ publicKeys ys :=
  List.filterMap_append

@[simp] theorem drawnKeys_append (xs ys : List Exchange) :
    drawnKeys (xs ++ ys) = drawnKeys xs ++ drawnKeys ys :=
  List.filterMap_append

@[simp] theorem values_append (xs ys : List Exchange) :
    values (xs ++ ys) = values xs ++ values ys :=
  List.filterMap_append

@[simp] theorem records_append (xs ys : List Exchange) :
    records (xs ++ ys) = records xs ++ records ys :=
  List.filterMap_append

@[simp] theorem writes_append (xs ys : List Exchange) :
    writes (xs ++ ys) = writes xs ++ writes ys :=
  List.filterMap_append

theorem exists_extract_of_mem_values {xs : List Exchange} {value : Bytes} (h : value ∈ values xs) :
    ∃ selector, (⟨.extract selector, .ok value⟩ : Exchange) ∈ xs := by
  obtain ⟨⟨q, answer⟩, hmem, hvalue⟩ := List.mem_filterMap.mp h
  cases q with
  | extract selector =>
    cases answer with
    | error failure => cases hvalue
    | ok read =>
      cases hvalue
      exact ⟨selector, hmem⟩
  | _ => cases hvalue

/-- Writes to the cluster look for nothing. -/
theorem places_eq_nil {xs : List Exchange} (h : ∀ x ∈ xs, ∃ q, x.1 = .persist q) :
    places xs = [] := by
  simp only [places, calls, List.filterMap_map, List.filterMap_eq_nil_iff]
  intro x hx
  obtain ⟨q, heq⟩ := h x hx
  simp [heq, Call.place?]

/-! ## Declined calls -/

/-- The answer of a world that declines every call, but writes to the cluster and draws keys. -/
def declined : (c : Call) → c.Answer
  | .getRepository .. => noAnswer
  | .createRepository .. => noAnswer
  | .editRepository .. => noAnswer
  | .deleteRepository .. => noAnswer
  | .generateRepository .. => noAnswer
  | .getPublicKey .. => noAnswer
  | .getSecret .. => noAnswer
  | .putSecret .. => noAnswer
  | .deleteSecret .. => noAnswer
  | .getMembership .. => noAnswer
  | .invite .. => noAnswer
  | .removeMember .. => noAnswer
  | .getFile .. => noAnswer
  | .createFile .. => noAnswer
  | .updateFile .. => noAnswer
  | .deleteFile .. => noAnswer
  | .persist resource => Except.ok resource
  | .extract _ => Except.error (.secretExtraction "declined")
  | .drawKey => List.replicate 32 0
where
  /-- A call to GitHub that comes to nothing. -/
  noAnswer {α : Type} : Call.FromGitHub α := .error { status := none, message := "declined" }

end GitHubReconciler
