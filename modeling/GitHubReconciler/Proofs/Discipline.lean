-- SUMMARY: Which calls that change GitHub an operation makes, after what, and what follows from their answers (`Disciplined`, `calls_disciplined`).
import GitHubReconciler.Proofs.Atomicity
import Mathlib.Data.List.Basic

/-!
# Changes in GitHub

An observation changes nothing in GitHub. Any other operation makes at most one call that changes
something, and only after all that this call is built from is at hand: `Prepared` lists for each of
these calls the operation that makes it and the exchanges that have to stand before it. If GitHub
refuses the change, the operation fails; if the operation ends well, GitHub has accepted the change.
Only where nothing is to be changed does an operation end well without (`Excused`).
-/

namespace GitHubReconciler

open Operation

variable {k : Kind} {verb : Verb} {now : String} {r r' : Resource} {xs ys : List Exchange}
  {outcome : Except Failure Outcome}

/-! ## Mutations -/

/-- How GitHub answered a call that changes something. -/
def Exchange.mutation? : Exchange → Option (Call.FromGitHub Unit)
  | ⟨.createRepository _ _, answer⟩ => some (answer.map fun _ => ())
  | ⟨.editRepository _ _ _, answer⟩ => some (answer.map fun _ => ())
  | ⟨.deleteRepository _ _, answer⟩ => some answer
  | ⟨.generateRepository _ _ _, answer⟩ => some (answer.map fun _ => ())
  | ⟨.putSecret _ _ _, answer⟩ => some answer
  | ⟨.deleteSecret _ _ _, answer⟩ => some answer
  | ⟨.invite _ _, answer⟩ => some answer
  | ⟨.removeMember _ _, answer⟩ => some answer
  | ⟨.createFile _ _ _ _, answer⟩ => some (answer.map fun _ => ())
  | ⟨.updateFile _ _ _ _, answer⟩ => some (answer.map fun _ => ())
  | ⟨.deleteFile _ _ _ _, answer⟩ => some answer
  | _ => none

/-- The answers to the calls that change something in GitHub. -/
def mutations (xs : List Exchange) : List (Call.FromGitHub Unit) :=
  xs.filterMap Exchange.mutation?

theorem Exchange.isSome_mutation? (x : Exchange) : x.mutation?.isSome = x.1.isMutation := by
  obtain ⟨c, answer⟩ := x
  cases c with
  | _ => rfl

theorem mutations_eq_nil_iff : mutations xs = [] ↔ ∀ x ∈ xs, x.1.isMutation = false := by
  simp only [mutations, List.filterMap_eq_nil_iff, ← Exchange.isSome_mutation?,
    Option.isSome_eq_false_iff, Option.isNone_iff_eq_none]

@[simp] theorem mutations_append : mutations (xs ++ ys) = mutations xs ++ mutations ys :=
  List.filterMap_append

/-! ## What a change is built from -/

/-- `Prepared r verb before c` means that the operation on `r` makes the call `c`, which changes
    something in GitHub, right after the exchanges `before`, all of which it depends on. -/
inductive Prepared : Resource → Verb → List Exchange → Call → Prop where
  | createRepository {o : RepositoryObject} :
      o.desired.template = none →
      Prepared (.repository o) .create []
        (.createRepository (o.desired.organization.getD "") (o.desired.applyTo {}))
  /-- The reference to the template is a full name. -/
  | generateRepository {o : RepositoryObject} {template : Reference}
      {fullName : Repository.FullName} :
      o.desired.template = some template →
      Repository.FullName.parse? template.name = some fullName →
      Prepared (.repository o) .create []
        (.generateRepository fullName.owner fullName.name o.desired.templateRequest)
  /-- The repository was found, under one name or the other. -/
  | editRepository {o : RepositoryObject} {before : List Exchange} {found : Remote.Repository} :
      Repository.LookingUp o.desired.owner o.desired.name (Repository.recordedName o) before
        (.ok found) →
      Prepared (.repository o) .update before
        (.editRepository o.desired.owner (Repository.editedName o) (o.desired.applyTo found))
  | deleteRepository {o : RepositoryObject} :
      Prepared (.repository o) .delete [] (.deleteRepository o.desired.owner o.desired.name)
  /-- The public key was given out, the value was read and could be sealed with the key. -/
  | putSecret {o : SecretObject} {verb : Verb} {key : Remote.PublicKey} {value box drawn : Bytes} :
      verb = .create ∨ verb = .update →
      Secret.recipient key = .ok box →
      Prepared (.secrets o) verb
        [⟨.getPublicKey o.desired.owner o.desired.repository, .ok key⟩,
          ⟨.extract o.desired.value, .ok value⟩, ⟨.drawKey, drawn⟩]
        (.putSecret o.desired.owner o.desired.repository
          (Secret.sealValue key box drawn o.metadata.externalName value))
  | deleteSecret {o : SecretObject} :
      Prepared (.secrets o) .delete []
        (.deleteSecret o.desired.owner o.desired.repository o.metadata.externalName)
  | invite {o : MembershipObject} :
      Prepared (.membership o) .create [] (.invite o.desired.organization o.desired.invitation)
  | removeMember {o : MembershipObject} :
      Prepared (.membership o) .delete [] (.removeMember o.desired.organization o.desired.user)
  | createFile {o : ContentObject} :
      Prepared (.content o) .create []
        (.createFile o.desired.owner o.desired.repository o.desired.path (o.desired.commit none))
  /-- The file was found, and its blob is the one to replace. -/
  | updateFile {o : ContentObject} {found : Remote.File} :
      Prepared (.content o) .update [⟨Content.asking o, .ok found⟩]
        (.updateFile o.desired.owner o.desired.repository o.desired.path
          (o.desired.commit found.sha))
  | deleteFile {o : ContentObject} {found : Remote.File} :
      Prepared (.content o) .delete [⟨Content.asking o, .ok found⟩]
        (.deleteFile o.desired.owner o.desired.repository o.desired.path
          (o.desired.commit found.sha))

/-- There was nothing to change: memberships are never updated, and a file that is not there need
    not be deleted. -/
inductive Excused : Resource → Verb → List Exchange → Prop where
  | membership {o : MembershipObject} : Excused (.membership o) .update []
  | file {o : ContentObject} {failure : ApiFailure} :
      failure.isNotFound = true →
      Excused (.content o) .delete [⟨Content.asking o, .error failure⟩]

/-- How an operation that makes some exchanges and has some outcome goes about changes in GitHub. -/
structure Disciplined (r : Resource) (verb : Verb) (xs : List Exchange)
    (outcome : Except Failure Outcome) : Prop where
  /-- An observation changes nothing. -/
  observes : verb = .observe → mutations xs = []
  once : (mutations xs).length ≤ 1
  /-- What a change depends on has gone well before. -/
  prepared {before after : List Exchange} {c : Call} {answer : c.Answer} :
    xs = before ++ ⟨c, answer⟩ :: after → c.isMutation = true → Prepared r verb before c
  /-- A change that is refused makes the operation fail. -/
  fails {refusal : ApiFailure} :
    .error refusal ∈ mutations xs → ∃ failure, outcome = .error failure
  /-- An operation that ends well has changed something, if there was something to change. -/
  acts {result : Outcome} :
    outcome = .ok result → verb ≠ .observe → mutations xs = [.ok ()] ∨ Excused r verb xs

/-! ## Quiet and changing operations

An operation that is disciplined takes one of two courses. -/

theorem Prepared.isMutation {before : List Exchange} {c : Call} (h : Prepared r verb before c) :
    c.isMutation = true := by
  cases h with
  | _ => rfl

theorem Prepared.mutations_eq_nil {before : List Exchange} {c : Call}
    (h : Prepared r verb before c) : mutations before = [] := by
  cases h with
  | editRepository hlook => exact mutations_eq_nil_iff.mpr fun _ => hlook.isMutation_eq_false
  | _ => rfl

theorem Prepared.ne_observe {before : List Exchange} {c : Call} (h : Prepared r verb before c) :
    verb ≠ .observe := by
  cases h with
  | putSecret hverb => rcases hverb with rfl | rfl <;> decide
  | _ => decide

/-- An operation that changes nothing. -/
theorem Disciplined.of_quiet (hquiet : mutations xs = [])
    (hacts : ∀ result, outcome = .ok result → verb = .observe ∨ Excused r verb xs) :
    Disciplined r verb xs outcome where
  observes _ := hquiet
  once := by simp [hquiet]
  prepared := by
    rintro before after c answer rfl hmutation
    have hfree := mutations_eq_nil_iff.mp hquiet ⟨c, answer⟩ (by simp)
    simp [hmutation] at hfree
  fails := by simp [hquiet]
  acts hok hverb := .inr ((hacts _ hok).resolve_left hverb)

/-- An operation that changes something with one call, and fails if GitHub refuses it. -/
theorem Disciplined.of_prepared {before after : List Exchange} {c : Call} {answer : c.Answer}
    {reply : Call.FromGitHub Unit} (hprepared : Prepared r verb before c)
    (hafter : mutations after = [])
    (hreply : Exchange.mutation? ⟨c, answer⟩ = some reply)
    (hfails : ∀ refusal, reply = .error refusal → ∃ failure, outcome = .error failure) :
    Disciplined r verb (before ++ ⟨c, answer⟩ :: after) outcome := by
  have hmutations : mutations (before ++ ⟨c, answer⟩ :: after) = [reply] := by
    rw [mutations_append, hprepared.mutations_eq_nil, mutations, List.filterMap_cons_some hreply]
    exact congrArg (List.cons reply) hafter
  refine
    { observes := fun hverb => absurd hverb hprepared.ne_observe
      once := by simp [hmutations]
      prepared := ?_
      fails := ?_
      acts := ?_ }
  · intro before' after' c' answer' hsplit hmutation
    -- There is only one mutation, so any two splits at a mutation are the same.
    have hbefore : (⟨c', answer'⟩ : Exchange) ∉ before := fun hmem => by
      simp [mutations_eq_nil_iff.mp hprepared.mutations_eq_nil _ hmem] at hmutation
    have hrest : (⟨c', answer'⟩ : Exchange) ∉ after := fun hmem => by
      simp [mutations_eq_nil_iff.mp hafter _ hmem] at hmutation
    obtain ⟨rfl, heq, -⟩ := (List.append_cons_inj_of_notMem hbefore hrest).mp hsplit
    cases heq
    exact hprepared
  · intro refusal hmem
    rw [hmutations, List.mem_singleton] at hmem
    exact hfails refusal hmem.symm
  · intro result hok _
    rw [hmutations]
    cases reply with
    | error refusal =>
      obtain ⟨failure, hfailed⟩ := hfails refusal rfl
      cases hok.symm.trans hfailed
    | ok _ => exact .inl rfl

/-- An operation that begins and ends with a change. -/
theorem Disciplined.of_single {c : Call} {answer : c.Answer} {reply : Call.FromGitHub Unit}
    (hprepared : Prepared r verb [] c) (hreply : Exchange.mutation? ⟨c, answer⟩ = some reply)
    (hfails : ∀ refusal, reply = .error refusal → ∃ failure, outcome = .error failure) :
    Disciplined r verb [⟨c, answer⟩] outcome :=
  .of_prepared hprepared rfl hreply hfails

/-! ## Client by client -/

theorem Membership.Performing.disciplined {o : MembershipObject}
    (h : Performing now o verb xs outcome r') : Disciplined (.membership o) verb xs outcome := by
  cases h with
  | observed hobserving =>
    refine .of_quiet ?_ fun _ _ => .inl rfl
    cases hobserving with
    | _ => rfl
  | notInvited => exact .of_single .invite rfl fun _ _ => ⟨_, rfl⟩
  | invited => exact .of_single .invite rfl fun _ hrefused => nomatch hrefused
  | updated => exact .of_quiet rfl fun _ _ => .inr .membership
  | notRemoved => exact .of_single .removeMember rfl fun _ _ => ⟨_, rfl⟩
  | removed => exact .of_single .removeMember rfl fun _ hrefused => nomatch hrefused

theorem Content.Updating.disciplined {o : ContentObject} {result : Except Failure Unit}
    (h : Updating o xs result) :
    Disciplined (.content o) .update xs ((fun _ => .updated) <$> result) := by
  cases h with
  | unfound => exact .of_quiet rfl fun _ hok => nomatch hok
  | refused => exact .of_prepared .updateFile rfl rfl fun _ _ => ⟨_, rfl⟩
  | replaced => exact .of_prepared .updateFile rfl rfl fun _ hrefused => nomatch hrefused

theorem Content.Deleting.disciplined {o : ContentObject} {result : Except Failure Unit}
    (h : Deleting now o xs result r') :
    Disciplined (.content o) .delete xs ((fun _ => .deleted) <$> result) := by
  cases h with
  | gone hmissing => exact .of_quiet rfl fun _ _ => .inr (.file hmissing)
  | failed => exact .of_quiet rfl fun _ hok => nomatch hok
  | refused => exact .of_prepared .deleteFile rfl rfl fun _ _ => ⟨_, rfl⟩
  | deleted => exact .of_prepared .deleteFile rfl rfl fun _ hrefused => nomatch hrefused

theorem Content.Performing.disciplined {o : ContentObject}
    (h : Performing now o verb xs outcome r') : Disciplined (.content o) verb xs outcome := by
  cases h with
  | observed hobserving =>
    refine .of_quiet ?_ fun _ _ => .inl rfl
    cases hobserving with
    | _ => rfl
  | notCreated => exact .of_single .createFile rfl fun _ _ => ⟨_, rfl⟩
  | created => exact .of_single .createFile rfl fun _ hrefused => nomatch hrefused
  | updated hupdating => exact hupdating.disciplined
  | deleted hdeleting => exact hdeleting.disciplined

namespace Secret

variable {o : SecretObject}

/-- An upload that fails has changed nothing, was refused, or could not be read back. -/
theorem Uploading.disciplined_error {failure : Failure} (hverb : verb = .create ∨ verb = .update)
    (h : Uploading o.desired o.metadata.externalName xs (.error failure)) :
    Disciplined (.secrets o) verb xs (.error failure) := by
  cases h with
  | unsent hsending =>
    cases hsending with
    | keyless => exact .of_quiet rfl fun _ hok => nomatch hok
    | valueless => exact .of_quiet rfl fun _ hok => nomatch hok
    | unusable => exact .of_quiet rfl fun _ hok => nomatch hok
    | refused hbox => exact .of_prepared (.putSecret hverb hbox) rfl rfl fun _ _ => ⟨_, rfl⟩
  | unread hsending =>
    cases hsending with
    | sent hbox =>
      change Disciplined _ _ ([_, _, _] ++ _ :: [_]) _
      exact .of_prepared (.putSecret hverb hbox) rfl rfl fun _ _ => ⟨_, rfl⟩

theorem Uploading.disciplined_ok {upload : Bytes × Remote.SecretRecord} {result : Outcome}
    (hverb : verb = .create ∨ verb = .update)
    (h : Uploading o.desired o.metadata.externalName xs (.ok upload)) :
    Disciplined (.secrets o) verb xs (.ok result) := by
  cases h with
  | uploaded hsending =>
    cases hsending with
    | sent hbox =>
      change Disciplined _ _ ([_, _, _] ++ _ :: [_]) _
      exact .of_prepared (.putSecret hverb hbox) rfl rfl fun _ hrefused => nomatch hrefused

theorem Performing.disciplined (h : Performing now o verb xs outcome r') :
    Disciplined (.secrets o) verb xs outcome := by
  cases h with
  | observed hobserving =>
    refine .of_quiet ?_ fun _ _ => .inl rfl
    cases hobserving with
    | _ => rfl
  | notUploaded hverb huploading => exact huploading.disciplined_error hverb
  | created huploading => exact huploading.disciplined_ok (.inl rfl)
  | updated huploading => exact huploading.disciplined_ok (.inr rfl)
  | notDeleted => exact .of_single .deleteSecret rfl fun _ _ => ⟨_, rfl⟩
  | deleted => exact .of_single .deleteSecret rfl fun _ hrefused => nomatch hrefused

end Secret

namespace Repository

variable {o : RepositoryObject}

theorem Observing.disciplined {result : Except Failure Observation}
    (h : Observing now o xs result r') :
    Disciplined (.repository o) .observe xs (.observed <$> result) :=
  .of_quiet (mutations_eq_nil_iff.mpr fun _ => h.isMutation_eq_false) fun _ _ => .inl rfl

theorem Creating.disciplined {result : Except Failure Bool} (h : Creating now o xs result r') :
    Disciplined (.repository o) .create xs (.created <$> result) := by
  cases h with
  | refused hplain => exact .of_single (.createRepository hplain) rfl fun _ _ => ⟨_, rfl⟩
  | created hplain =>
    exact .of_single (.createRepository hplain) rfl fun _ hrefused => nomatch hrefused
  | malformed => exact .of_quiet rfl fun _ hok => nomatch hok
  | ungenerated htemplate hname =>
    exact .of_single (.generateRepository htemplate hname) rfl fun _ _ => ⟨_, rfl⟩
  | generated htemplate hname =>
    exact .of_single (.generateRepository htemplate hname) rfl fun _ hrefused => nomatch hrefused

theorem Updating.disciplined {result : Except Failure Unit} (h : Updating o xs result) :
    Disciplined (.repository o) .update xs ((fun _ => .updated) <$> result) := by
  cases h with
  | unfound hlook =>
    exact .of_quiet (mutations_eq_nil_iff.mpr fun _ => hlook.isMutation_eq_false)
      fun _ hok => nomatch hok
  | refused hlook => exact .of_prepared (.editRepository hlook) rfl rfl fun _ _ => ⟨_, rfl⟩
  | edited hlook =>
    exact .of_prepared (.editRepository hlook) rfl rfl fun _ hrefused => nomatch hrefused

theorem disciplined_of_generates {result : Except Failure Outcome × Resource}
    (h : (client.converse verb now (.repository o)).Generates xs result) :
    Disciplined (.repository o) verb xs result.1 := by
  cases verb with
  | observe =>
    obtain ⟨first, heq, hobserving⟩ := observing_of_generates h
    rw [heq]
    exact hobserving.disciplined
  | create =>
    obtain ⟨first, heq, hcreating⟩ := creating_of_generates h
    rw [heq]
    exact hcreating.disciplined
  | update =>
    obtain ⟨first, heq, hupdating, -⟩ := updating_of_generates h
    rw [heq]
    exact hupdating.disciplined
  | delete =>
    obtain ⟨answer, rfl, heq, -⟩ := deleting_of_generates h
    rw [heq]
    cases answer with
    | error failure => exact .of_single .deleteRepository rfl fun _ _ => ⟨_, rfl⟩
    | ok _ => exact .of_single .deleteRepository rfl fun _ hrefused => nomatch hrefused

end Repository

/-! ## For every client -/

/-- Every operation of every client, whatever resource it is handed and however its calls are
    answered, keeps the discipline of changes in GitHub. -/
theorem calls_disciplined {σ : Type} (world : Dialogue.World Call Call.Answer σ) (w : σ) (k : Kind)
    (verb : Verb) (now : String) (r : Resource) :
    let run := (k.client.converse verb now r).run world w
    Disciplined r verb run.exchanges run.value.1 := by
  intro run
  have hrun : (k.client.converse verb now r).Generates run.exchanges run.value :=
    Dialogue.generates_run world _ w
  by_cases hkind : r.kind = k
  · subst hkind
    cases r with
    | repository o => exact Repository.disciplined_of_generates hrun
    | secrets o => exact (Secret.performing_of_generates hrun).disciplined
    | membership o => exact (Membership.performing_of_generates hrun).disciplined
    | content o => exact (Content.performing_of_generates hrun).disciplined
  · obtain ⟨hexchanges, hresult, -⟩ := k.demands_client.perform _ _ _ _ hkind hrun
    rw [hexchanges, hresult]
    exact .of_quiet rfl fun _ hok => nomatch hok

end GitHubReconciler
