-- SUMMARY: Why operations fail (`Cause`): the resource, a failed call, or a key that is of no use.
import GitHubReconciler.Proofs.Atomicity
import GitHubReconciler.Proofs.Repository.FullName

/-!
# Causes of failures

An operation fails for one of four causes: the resource is of another kind, it refers to a template
by something that is no full name, a call has failed, or a value cannot be sealed with the key that
GitHub gave out. `Cause` says which failure goes with which cause, and an operation ends with a
failure just if there is a cause for it (`Attributed`).

Only the first two causes lie in the resource alone, and are found out before any call is made. A
failed call counts unless the operation tolerates it: a repository may be looked up again, and what
is not found may be what is wanted.
-/

namespace GitHubReconciler

open Operation

variable {k : Kind} {verb : Verb} {now : String} {r r' : Resource} {xs ys : List Exchange}
  {outcome : Except Failure Outcome} {failure : Failure}

/-! ## Resources beyond help -/

/-- A repository is to be generated from a template whose name is no full name. -/
inductive Malformed : Verb → Resource → Prop where
  | create {o : RepositoryObject} {template : Reference} :
      o.desired.template = some template → template.name.toList.count '/' ≠ 1 →
      Malformed .create (.repository o)

/-- The client of a kind cannot do with a resource what is asked for, whatever its calls are
    answered. -/
def Hopeless (k : Kind) (verb : Verb) (r : Resource) : Prop :=
  r.kind ≠ k ∨ Malformed verb r

/-! ## Calls that fail -/

/-- The failed call to GitHub that a failure carries. -/
def Failure.source? : Failure → Option ApiFailure
  | .remote _ source => some source
  | .templateNotFound source => some source
  | _ => none

/-- What the failure of a call is reported as. -/
def Exchange.failure? : Exchange → Option Failure
  | ⟨.getRepository .., .error source⟩ => some (.remote Repository.getContext source)
  | ⟨.createRepository .., .error source⟩ => some (.remote Repository.createContext source)
  | ⟨.editRepository .., .error source⟩ => some (.remote Repository.updateContext source)
  | ⟨.deleteRepository .., .error source⟩ => some (.remote Repository.deleteContext source)
  | ⟨.generateRepository .., .error source⟩ => some (Repository.templateFailure source)
  | ⟨.getPublicKey .., .error source⟩ => some (.remote Secret.keyContext source)
  | ⟨.getSecret .., .error source⟩ => some (.remote Secret.getContext source)
  | ⟨.putSecret .., .error source⟩ => some (.remote Secret.uploadContext source)
  | ⟨.deleteSecret .., .error source⟩ => some (.remote Secret.deleteContext source)
  | ⟨.getMembership .., .error source⟩ => some (.remote Membership.getContext source)
  | ⟨.invite .., .error source⟩ => some (.remote Membership.inviteContext source)
  | ⟨.removeMember .., .error source⟩ => some (.remote Membership.removeContext source)
  | ⟨.getFile .., .error source⟩ => some (.remote Content.getContext source)
  | ⟨.createFile .., .error source⟩ => some (.remote Content.createContext source)
  | ⟨.updateFile .., .error source⟩ => some (.remote Content.updateContext source)
  | ⟨.deleteFile .., .error source⟩ => some (.remote Content.deleteContext source)
  | ⟨.persist _, .error causes⟩ => some (.localPersistence Kind.repository.name causes)
  | ⟨.extract _, .error failure⟩ => some failure
  | _ => none

/-- Whether an operation goes on although a call has failed. A repository that is observed may be
    missing, and one that is observed or updated is looked for in a second place, which is then
    `last`. A membership that is observed may be missing, and a file that is observed or deleted. -/
def Exchange.tolerated (verb : Verb) (last : Option Repository.FullName) : Exchange → Bool
  | ⟨.getRepository owner name, .error source⟩ =>
      verb == .observe && source.isNotFound ||
        (verb == .observe || verb == .update) && last != some ⟨owner, name⟩
  | ⟨.getMembership .., .error source⟩ => verb == .observe && source.isNotFound
  | ⟨.getFile .., .error source⟩ => (verb == .observe || verb == .delete) && source.isNotFound
  | _ => false

/-- The failures that the calls of an operation amount to. -/
def complaints (verb : Verb) (xs : List Exchange) : List Failure :=
  (xs.filter fun x => !x.tolerated verb (places xs).getLast?).filterMap Exchange.failure?

theorem mem_complaints : failure ∈ complaints verb xs ↔
    ∃ x ∈ xs, x.tolerated verb (places xs).getLast? = false ∧ x.failure? = some failure := by
  simp [complaints, and_assoc]

/-- Where repositories were looked for matters to look-ups only. -/
theorem Exchange.tolerated_eq {x : Exchange} (h : x.1.place? = none)
    (last last' : Option Repository.FullName) : x.tolerated verb last = x.tolerated verb last' := by
  obtain ⟨q, answer⟩ := x
  cases q with
  | getRepository owner name => cases h
  | getMembership user organization =>
    cases answer with
    | _ => rfl
  | getFile owner repository path branch =>
    cases answer with
    | _ => rfl
  | _ => rfl

/-- Calls that look for no repository can be considered on their own. -/
theorem complaints_append (h : places ys = []) :
    complaints verb (xs ++ ys) = complaints verb xs ++ complaints verb ys := by
  have hplace : ∀ x ∈ ys, x.1.place? = none := by
    simpa [places, calls] using h
  have hfilter : ys.filter (fun x => !x.tolerated verb (places xs).getLast?) =
      ys.filter fun x => !x.tolerated verb none :=
    List.filter_congr fun x hx => by rw [Exchange.tolerated_eq (hplace x hx)]
  simp [complaints, h, hfilter]

/-- A call that has failed is one to GitHub, a write to the cluster or the reading of a value. -/
theorem Exchange.cases_of_failure? {x : Exchange} (h : x.failure? = some failure) :
    (∃ source, failure.source? = some source) ∨
    (∃ q causes, x = ⟨.persist q, .error causes⟩ ∧
      failure = .localPersistence Kind.repository.name causes) ∨
    ∃ selector, x = ⟨.extract selector, .error failure⟩ := by
  obtain ⟨q, answer⟩ := x
  cases q with
  | persist q =>
    cases answer with
    | ok stored => cases h
    | error causes =>
      cases h
      exact .inr (.inl ⟨q, causes, rfl, rfl⟩)
  | extract selector =>
    cases answer with
    | ok value => cases h
    | error failure' =>
      cases h
      exact .inr (.inr ⟨selector, rfl⟩)
  | drawKey => cases h
  | generateRepository =>
    cases answer with
    | ok created => cases h
    | error source =>
      cases h
      refine .inl ⟨source, ?_⟩
      unfold Repository.templateFailure
      split <;> rfl
  | _ =>
    cases answer with
    | ok answer => cases h
    | error source =>
      cases h
      exact .inl ⟨source, rfl⟩

/-! ## Causes -/

/-- A value was read, but the public key that GitHub gave out cannot be used to seal it. -/
inductive Unsealable (xs : List Exchange) : Secret.KeyFault → Prop where
  | intro {key : Remote.PublicKey} {value : Bytes} {fault : Secret.KeyFault} :
      key ∈ publicKeys xs → value ∈ values xs → Secret.recipient key = .error fault →
      Unsealable xs fault

/-- Why an operation of the client of a kind fails. -/
inductive Cause (k : Kind) (verb : Verb) (r : Resource) (xs : List Exchange) : Failure → Prop where
  | wrongKind : r.kind ≠ k → Cause k verb r xs (.wrongKind k.name)
  | malformed : r.kind = k → Malformed verb r → Cause k verb r xs .malformedReference
  | reported {failure : Failure} : failure ∈ complaints verb xs → Cause k verb r xs failure
  | unsealable {fault : Secret.KeyFault} :
      Unsealable xs fault → Cause k verb r xs (.encryption fault.message)

/-- An operation fails just for the causes that there are. -/
def Attributed (k : Kind) (verb : Verb) (r : Resource) (xs : List Exchange)
    (outcome : Except Failure Outcome) : Prop :=
  ∀ failure, outcome = .error failure ↔ Cause k verb r xs failure

/-- The failure of an outcome, if it is one. -/
def failures : Except Failure Outcome → List Failure
  | .ok _ => []
  | .error failure => [failure]

@[simp] theorem failures_ok {result : Outcome} : failures (.ok result) = [] := rfl

@[simp] theorem failures_error : failures (.error failure) = [failure] := rfl

@[simp] theorem mem_failures : failure ∈ failures outcome ↔ outcome = .error failure := by
  cases outcome with
  | _ => simp [failures, eq_comm]

/-- An operation on a resource that is in order, with a key that is too, fails with what its calls
    amount to. -/
theorem Attributed.of_complaints (hkind : r.kind = k) (hformed : ¬ Malformed verb r)
    (hsealable : ∀ fault, ¬ Unsealable xs fault) (h : complaints verb xs = failures outcome) :
    Attributed k verb r xs outcome := by
  intro failure
  rw [← mem_failures, ← h]
  constructor
  · exact .reported
  · rintro (hother | ⟨-, hmalformed⟩ | hreported | hunsealable)
    · exact absurd hkind hother
    · exact absurd hmalformed hformed
    · exact hreported
    · exact absurd hunsealable (hsealable _)

/-- Without a public key there is nothing that cannot be sealed. -/
theorem Attributed.of_keyless (hkind : r.kind = k) (hformed : ¬ Malformed verb r)
    (hkeys : publicKeys xs = []) (h : complaints verb xs = failures outcome) :
    Attributed k verb r xs outcome := by
  refine .of_complaints hkind hformed ?_ h
  rintro fault ⟨hkey, -, -⟩
  simp [hkeys] at hkey

/-- Where no call was made, the cause lies in the resource. -/
theorem Cause.of_nil (h : Cause k verb r [] failure) :
    r.kind ≠ k ∧ failure = .wrongKind k.name ∨
      r.kind = k ∧ Malformed verb r ∧ failure = .malformedReference := by
  cases h with
  | wrongKind hother => exact .inl ⟨hother, rfl⟩
  | malformed hkind hmalformed => exact .inr ⟨hkind, hmalformed, rfl⟩
  | reported hreported => cases hreported
  | unsealable hunsealable =>
    cases hunsealable with
    | intro hkey => cases hkey

theorem attributed_wrongKind (hother : r.kind ≠ k) :
    Attributed k verb r [] (.error (.wrongKind k.name)) := by
  intro failure
  constructor
  · rintro ⟨⟩
    exact .wrongKind hother
  · intro h
    rcases h.of_nil with ⟨-, rfl⟩ | ⟨hkind, -, -⟩
    · rfl
    · exact absurd hkind hother

theorem attributed_malformed (hkind : r.kind = k) (hmalformed : Malformed verb r) :
    Attributed k verb r [] (.error .malformedReference) := by
  intro failure
  constructor
  · rintro ⟨⟩
    exact .malformed hkind hmalformed
  · intro h
    rcases h.of_nil with ⟨hother, -⟩ | ⟨-, -, rfl⟩
    · exact absurd hkind hother
    · rfl

/-! ## Operation by operation -/

theorem Membership.Performing.attributed {o : MembershipObject}
    (h : Performing now o verb xs outcome r') :
    Attributed .membership verb (.membership o) xs outcome := by
  cases h with
  | observed hobserving =>
    cases hobserving with
    | absent hmissing =>
      exact .of_keyless rfl nofun rfl (by simp [complaints, Exchange.tolerated, hmissing])
    | failed hmissing =>
      exact .of_keyless rfl nofun rfl
        (by simp [complaints, Exchange.tolerated, Exchange.failure?, hmissing])
    | found => exact .of_keyless rfl nofun rfl rfl
  | _ => exact .of_keyless rfl nofun rfl rfl

namespace Content

variable {o : ContentObject}

/-- A file that is observed or deleted may be missing. -/
theorem complaints_asking (hverb : verb = .observe ∨ verb = .delete) {source : ApiFailure} :
    complaints verb [⟨asking o, .error source⟩] =
      if source.isNotFound = true then [] else [.remote getContext source] := by
  cases hmissing : source.isNotFound with
  | _ =>
    rcases hverb with rfl | rfl
    · simp [complaints, Exchange.tolerated, Exchange.failure?, asking, hmissing]
    · simp [complaints, Exchange.tolerated, Exchange.failure?, asking, hmissing]

theorem Observing.attributed {result : Except Failure Observation}
    (h : Observing now o xs result r') :
    Attributed .content .observe (.content o) xs (.observed <$> result) := by
  cases h with
  | absent hmissing =>
    exact .of_keyless rfl nofun rfl ((complaints_asking (.inl rfl)).trans (if_pos hmissing))
  | failed hmissing =>
    exact .of_keyless rfl nofun rfl
      ((complaints_asking (.inl rfl)).trans (if_neg (by simp [hmissing])))
  | found => exact .of_keyless rfl nofun rfl rfl

theorem Deleting.attributed {result : Except Failure Unit} (h : Deleting now o xs result r') :
    Attributed .content .delete (.content o) xs ((fun _ => .deleted) <$> result) := by
  cases h with
  | gone hmissing =>
    exact .of_keyless rfl nofun rfl ((complaints_asking (.inr rfl)).trans (if_pos hmissing))
  | failed hmissing =>
    exact .of_keyless rfl nofun rfl
      ((complaints_asking (.inr rfl)).trans (if_neg (by simp [hmissing])))
  | refused => exact .of_keyless rfl nofun rfl rfl
  | deleted => exact .of_keyless rfl nofun rfl rfl

theorem Performing.attributed (h : Performing now o verb xs outcome r') :
    Attributed .content verb (.content o) xs outcome := by
  cases h with
  | observed hobserving => exact hobserving.attributed
  | updated hupdating =>
    cases hupdating with
    | _ => exact .of_keyless rfl nofun rfl rfl
  | deleted hdeleting => exact hdeleting.attributed
  | _ => exact .of_keyless rfl nofun rfl rfl

end Content

namespace Repository

variable {o : RepositoryObject}

/-- What is reported of a look-up that settles for an answer: its failure, unless an observation
    finds out that nothing is there. -/
def lookUpFailures (verb : Verb) : Call.FromGitHub Remote.Repository → List Failure
  | .ok _ => []
  | .error source =>
      if verb = .observe ∧ source.isNotFound = true then [] else [.remote getContext source]

theorem complaints_getRepository (hverb : verb = .observe ∨ verb = .update) (owner name : String)
    (answer : Call.FromGitHub Remote.Repository) :
    complaints verb [⟨.getRepository owner name, answer⟩] = lookUpFailures verb answer := by
  cases answer with
  | ok found => rfl
  | error source =>
    have hplaces : (places [⟨.getRepository owner name, .error source⟩]).getLast? =
        some ⟨owner, name⟩ := rfl
    rcases hverb with rfl | rfl
    · cases hmissing : source.isNotFound with
      | _ =>
        simp [complaints, hplaces, Exchange.tolerated, Exchange.failure?, lookUpFailures, hmissing]
    · simp [complaints, hplaces, Exchange.tolerated, Exchange.failure?, lookUpFailures]

/-- A look-up that is followed by another one is not reported. -/
theorem complaints_retried (hverb : verb = .observe ∨ verb = .update) {owner name recorded : String}
    (hother : recorded ≠ name) (source : ApiFailure)
    (answer : Call.FromGitHub Remote.Repository) :
    complaints verb
        [⟨.getRepository owner name, .error source⟩, ⟨.getRepository owner recorded, answer⟩] =
      complaints verb [⟨.getRepository owner recorded, answer⟩] := by
  have htolerated : Exchange.tolerated verb (some ⟨owner, recorded⟩)
      ⟨.getRepository owner name, .error source⟩ = true := by
    rcases hverb with rfl | rfl <;> simp [Exchange.tolerated, hother]
  exact congrArg (List.filterMap _)
    (List.filter_cons_of_neg (by simp [places, calls, Call.place?, htolerated]))

/-- All that is reported of a look-up is the failure that it settles for. -/
theorem LookingUp.complaints_eq {owner name recorded : String}
    {answer : Call.FromGitHub Remote.Repository} (h : LookingUp owner name recorded xs answer)
    (hverb : verb = .observe ∨ verb = .update) :
    complaints verb xs = lookUpFailures verb answer := by
  cases h with
  | found => exact complaints_getRepository hverb owner name _
  | failed => exact complaints_getRepository hverb owner name _
  | retried hname =>
    rw [complaints_retried hverb fun heq => hname (.inr heq)]
    exact complaints_getRepository hverb owner recorded answer

theorem LookingUp.publicKeys_eq_nil {owner name recorded : String}
    {answer : Call.FromGitHub Remote.Repository} (h : LookingUp owner name recorded xs answer) :
    publicKeys xs = [] := by
  cases h with
  | _ => rfl

theorem Settling.complaints_eq {found : Remote.Repository} {result : Except Failure Observation}
    (h : Settling now o found xs result r') (hkind : KeepsKind xs) :
    complaints .observe xs = failures (.observed <$> result) := by
  cases h with
  | full => rfl
  | unstored => rfl
  | stored => rfl
  | swapped _ hswapped => exact absurd (hkind _ _ (List.mem_singleton_self _)) hswapped

theorem Settling.publicKeys_eq_nil {found : Remote.Repository}
    {result : Except Failure Observation} (h : Settling now o found xs result r') :
    publicKeys xs = [] := by
  cases h with
  | _ => rfl

theorem Observing.attributed {result : Except Failure Observation}
    (h : Observing now o xs result r') (hkind : KeepsKind xs) :
    Attributed .repository .observe (.repository o) xs (.observed <$> result) := by
  cases h with
  | absent hlook hmissing =>
    refine .of_keyless rfl nofun hlook.publicKeys_eq_nil ?_
    rw [hlook.complaints_eq (.inl rfl)]
    exact if_pos ⟨rfl, hmissing⟩
  | failed hlook hmissing =>
    refine .of_keyless rfl nofun hlook.publicKeys_eq_nil ?_
    rw [hlook.complaints_eq (.inl rfl)]
    exact if_neg (by simp [hmissing])
  | @found ys zs found _ _ hlook hsettling =>
    have hkind' : KeepsKind zs := fun q stored hmem =>
      hkind q stored (List.mem_append_right _ hmem)
    have hkeys : publicKeys (ys ++ zs) = [] := by
      simp [hlook.publicKeys_eq_nil, hsettling.publicKeys_eq_nil]
    have hplaces : places zs = [] := places_eq_nil fun x hx => ⟨_, hsettling.question_eq hx⟩
    refine .of_keyless rfl nofun hkeys ?_
    rw [complaints_append hplaces, hlook.complaints_eq (.inl rfl), hsettling.complaints_eq hkind']
    rfl

theorem not_malformed_of_none (hplain : o.desired.template = none) :
    ¬ Malformed verb (.repository o) := by
  rintro ⟨htemplate, -⟩
  cases hplain.symm.trans htemplate

theorem not_malformed_of_some {template : Reference} {fullName : FullName}
    (htemplate : o.desired.template = some template)
    (hname : FullName.parse? template.name = some fullName) : ¬ Malformed verb (.repository o) := by
  rintro ⟨hother, hcount⟩
  cases htemplate.symm.trans hother
  cases hname.symm.trans (FullName.parse?_eq_none_iff.mpr hcount)

theorem Creating.attributed {result : Except Failure Bool} (h : Creating now o xs result r') :
    Attributed .repository .create (.repository o) xs (.created <$> result) := by
  cases h with
  | refused hplain => exact .of_keyless rfl (not_malformed_of_none hplain) rfl rfl
  | created hplain => exact .of_keyless rfl (not_malformed_of_none hplain) rfl rfl
  | malformed htemplate hname =>
    exact attributed_malformed rfl (.create htemplate (FullName.parse?_eq_none_iff.mp hname))
  | ungenerated htemplate hname =>
    exact .of_keyless rfl (not_malformed_of_some htemplate hname) rfl rfl
  | generated htemplate hname =>
    exact .of_keyless rfl (not_malformed_of_some htemplate hname) rfl rfl

theorem Creating.eq_nil_of_malformed {result : Except Failure Bool}
    (h : Creating now o xs result r') (hmalformed : Malformed verb (.repository o)) : xs = [] := by
  obtain ⟨htemplate, hcount⟩ := hmalformed
  exact (h.eq_of_malformed htemplate (FullName.parse?_eq_none_iff.mpr hcount)).1

theorem Updating.attributed {result : Except Failure Unit} (h : Updating o xs result) :
    Attributed .repository .update (.repository o) xs ((fun _ => .updated) <$> result) := by
  cases h with
  | unfound hlook =>
    refine .of_keyless rfl nofun hlook.publicKeys_eq_nil ?_
    rw [hlook.complaints_eq (.inr rfl)]
    rfl
  | refused hlook =>
    refine .of_keyless rfl nofun ?_ ?_
    · rw [publicKeys_append, hlook.publicKeys_eq_nil]
      rfl
    · rw [complaints_append rfl, hlook.complaints_eq (.inr rfl)]
      rfl
  | edited hlook =>
    refine .of_keyless rfl nofun ?_ ?_
    · rw [publicKeys_append, hlook.publicKeys_eq_nil]
      rfl
    · rw [complaints_append rfl, hlook.complaints_eq (.inr rfl)]
      rfl

theorem attributed_of_generates {result : Except Failure Outcome × Resource}
    (h : (client.converse verb now (.repository o)).Generates xs result) (hkind : KeepsKind xs) :
    Attributed .repository verb (.repository o) xs result.1 := by
  cases verb with
  | observe =>
    obtain ⟨first, heq, hobserving⟩ := observing_of_generates h
    rw [heq]
    exact hobserving.attributed hkind
  | create =>
    obtain ⟨first, heq, hcreating⟩ := creating_of_generates h
    rw [heq]
    exact hcreating.attributed
  | update =>
    obtain ⟨first, heq, hupdating, -⟩ := updating_of_generates h
    rw [heq]
    exact hupdating.attributed
  | delete =>
    obtain ⟨answer, rfl, heq, -⟩ := deleting_of_generates h
    rw [heq]
    refine .of_keyless rfl nofun rfl ?_
    cases answer with
    | _ => rfl

end Repository

namespace Secret

variable {o : SecretObject}

theorem not_unsealable_of_recipient {key : Remote.PublicKey} {box : Bytes}
    (hkeys : publicKeys xs = [key]) (hbox : recipient key = .ok box) (fault : KeyFault) :
    ¬ Unsealable xs fault := by
  rintro ⟨hkey, -, hfault⟩
  rw [hkeys, List.mem_singleton] at hkey
  subst hkey
  cases hbox.symm.trans hfault

theorem not_unsealable_of_values_eq_nil (hvalues : values xs = []) (fault : KeyFault) :
    ¬ Unsealable xs fault := by
  rintro ⟨-, hvalue, -⟩
  simp [hvalues] at hvalue

/-- A key that cannot be used is the only cause then. -/
theorem attributed_unusable {key : Remote.PublicKey} {fault : KeyFault}
    (hkeys : publicKeys xs = [key]) (hvalues : values xs ≠ [])
    (hfault : recipient key = .error fault) (hcomplaints : complaints verb xs = []) :
    Attributed .secrets verb (.secrets o) xs (.error (.encryption fault.message)) := by
  intro failure
  constructor
  · rintro ⟨⟩
    obtain ⟨value, hvalue⟩ := List.exists_mem_of_ne_nil _ hvalues
    exact .unsealable ⟨by simp [hkeys], hvalue, hfault⟩
  · rintro (hother | ⟨-, ⟨⟩⟩ | hreported | ⟨hkey, -, hfault'⟩)
    · exact absurd rfl hother
    · simp [hcomplaints] at hreported
    · rw [hkeys, List.mem_singleton] at hkey
      subst hkey
      cases hfault.symm.trans hfault'
      rfl

theorem Sending.attributed_error {d : Desired} {name : String}
    (h : Sending d name xs (.error failure)) :
    Attributed .secrets verb (.secrets o) xs (.error failure) := by
  cases h with
  | keyless => exact .of_keyless rfl nofun rfl rfl
  | valueless =>
    exact .of_complaints rfl nofun (not_unsealable_of_values_eq_nil rfl) rfl
  | unusable hfault => exact attributed_unusable rfl (by simp [values, Exchange.value?]) hfault rfl
  | refused hbox => exact .of_complaints rfl nofun (not_unsealable_of_recipient rfl hbox) rfl

theorem Uploading.attributed_error {d : Desired} {name : String}
    (h : Uploading d name xs (.error failure)) :
    Attributed .secrets verb (.secrets o) xs (.error failure) := by
  cases h with
  | unsent hsending => exact hsending.attributed_error
  | unread hsending =>
    cases hsending with
    | sent hbox => exact .of_complaints rfl nofun (not_unsealable_of_recipient rfl hbox) rfl

theorem Uploading.attributed_ok {d : Desired} {name : String}
    {upload : Bytes × Remote.SecretRecord} {result : Outcome}
    (h : Uploading d name xs (.ok upload)) :
    Attributed .secrets verb (.secrets o) xs (.ok result) := by
  cases h with
  | uploaded hsending =>
    cases hsending with
    | sent hbox => exact .of_complaints rfl nofun (not_unsealable_of_recipient rfl hbox) rfl

theorem Performing.attributed (h : Performing now o verb xs outcome r') :
    Attributed .secrets verb (.secrets o) xs outcome := by
  cases h with
  | observed hobserving =>
    cases hobserving with
    | _ => exact .of_keyless rfl nofun rfl rfl
  | notUploaded _ huploading => exact huploading.attributed_error
  | created huploading => exact huploading.attributed_ok
  | updated huploading => exact huploading.attributed_ok
  | notDeleted => exact .of_keyless rfl nofun rfl rfl
  | deleted => exact .of_keyless rfl nofun rfl rfl

end Secret

/-! ## For every client -/

theorem Kind.attributed_of_generates {k : Kind} {result : Except Failure Outcome × Resource}
    (h : (k.client.converse verb now r).Generates xs result) (hkeeps : KeepsKind xs) :
    Attributed k verb r xs result.1 := by
  by_cases hkind : r.kind = k
  · subst hkind
    cases r with
    | repository o => exact Repository.attributed_of_generates h hkeeps
    | secrets o => exact (Secret.performing_of_generates h).attributed
    | membership o => exact (Membership.performing_of_generates h).attributed
    | content o => exact (Content.performing_of_generates h).attributed
  · obtain ⟨hexchanges, hresult, -⟩ := k.demands_client.perform _ _ _ _ hkind h
    rw [hexchanges, hresult]
    exact attributed_wrongKind hkind

/-- Nothing is called for a resource that is beyond help. -/
theorem Kind.eq_nil_of_hopeless {k : Kind} {result : Except Failure Outcome × Resource}
    (h : (k.client.converse verb now r).Generates xs result) (hhopeless : Hopeless k verb r) :
    xs = [] := by
  by_cases hkind : r.kind = k
  · have hmalformed := hhopeless.resolve_left fun hother => hother hkind
    subst hkind
    cases hmalformed with
    | create htemplate hcount =>
      obtain ⟨first, -, hcreating⟩ := Repository.creating_of_generates h
      exact hcreating.eq_nil_of_malformed (.create htemplate hcount)
  · exact (k.demands_client.perform _ _ _ _ hkind h).1

end GitHubReconciler
