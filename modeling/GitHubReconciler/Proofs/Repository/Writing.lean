-- SUMMARY: All that creating (`Creating`), editing (`Updating`) and deleting a repository can do, and the body that they send.
import GitHubReconciler.Proofs.Repository.Observing

/-!
# Writing repositories

`Creating` and `Updating` say what a creation and an edit can do, as `Observing` does for an
observation. An edit leaves the resource alone; a creation marks it once it has succeeded. A
deletion is a single call.
-/

namespace GitHubReconciler.Repository

open Operation

variable {now : String} {o : RepositoryObject} {r' : Resource} {xs : List Exchange}

/-! ## Creating -/

/-- The failure of a creation whose template GitHub refused to use. -/
def templateFailure (failure : ApiFailure) : Failure :=
  if failure.isNotFound then .templateNotFound failure else .remote createContext failure

/-- The exchanges of a creation, whether it assigns a name and the resource after it. -/
inductive Creating (now : String) (o : RepositoryObject) :
    List Exchange → Except Failure Bool → Resource → Prop where
  | refused {failure : ApiFailure} :
      o.desired.template = none →
      Creating now o
        [⟨.createRepository (o.desired.organization.getD "") (o.desired.applyTo {}),
          .error failure⟩]
        (.error (.remote createContext failure)) (.repository o)
  | created {answer : Remote.Repository} :
      o.desired.template = none →
      Creating now o
        [⟨.createRepository (o.desired.organization.getD "") (o.desired.applyTo {}), .ok answer⟩]
        (.ok false) (.repository (o.withCondition (.ready .creating now)))
  | malformed {template : Reference} :
      o.desired.template = some template → FullName.parse? template.name = none →
      Creating now o [] (.error .malformedReference) (.repository o)
  | ungenerated {template : Reference} {fullName : FullName} {failure : ApiFailure} :
      o.desired.template = some template → FullName.parse? template.name = some fullName →
      Creating now o
        [⟨.generateRepository fullName.owner fullName.name o.desired.templateRequest,
          .error failure⟩]
        (.error (templateFailure failure)) (.repository o)
  | generated {template : Reference} {fullName : FullName} {answer : Remote.Repository} :
      o.desired.template = some template → FullName.parse? template.name = some fullName →
      Creating now o
        [⟨.generateRepository fullName.owner fullName.name o.desired.templateRequest, .ok answer⟩]
        (.ok false) (.repository (o.withCondition (.ready .creating now)))

theorem yields_createPlain {d : Desired} {r : Resource} {result : Except Failure Unit}
    (h : Yields (createPlain d) r xs result r') :
    ∃ answer, xs = [⟨.createRepository (d.organization.getD "") (d.applyTo {}), answer⟩] ∧
      result = (answer.map fun _ => ()).mapError (.remote createContext) ∧ r' = r := by
  obtain ⟨answer, ys, rfl, hrest⟩ := yields_call_bind.mp h
  cases answer with
  | ok created =>
    rw [yields_expect_ok_bind, yields_log] at hrest
    obtain ⟨rfl, rfl, rfl⟩ := hrest
    exact ⟨.ok created, rfl, rfl, rfl⟩
  | error failure =>
    rw [yields_expect_error_bind] at hrest
    obtain ⟨rfl, rfl, rfl⟩ := hrest
    exact ⟨.error failure, rfl, rfl, rfl⟩

theorem yields_createFromTemplate {d : Desired} {template : Reference} {fullName : FullName}
    {r : Resource} {result : Except Failure Unit} (hname : FullName.parse? template.name = fullName)
    (h : Yields (createFromTemplate d template) r xs result r') :
    ∃ answer, xs = [⟨.generateRepository fullName.owner fullName.name d.templateRequest, answer⟩] ∧
      result = (answer.map fun _ => ()).mapError templateFailure ∧ r' = r := by
  unfold createFromTemplate at h
  rw [hname] at h
  obtain ⟨answer, ys, rfl, hrest⟩ := yields_call_bind.mp h
  cases answer with
  | ok created =>
    obtain ⟨rfl, rfl, rfl⟩ := yields_log.mp hrest
    exact ⟨.ok created, rfl, rfl, rfl⟩
  | error failure =>
    dsimp only at hrest
    by_cases hmissing : failure.isNotFound = true
    · rw [if_pos hmissing, yields_throw] at hrest
      obtain ⟨rfl, rfl, rfl⟩ := hrest
      exact ⟨.error failure, rfl, congrArg Except.error (if_pos hmissing).symm, rfl⟩
    · rw [if_neg hmissing, yields_throw] at hrest
      obtain ⟨rfl, rfl, rfl⟩ := hrest
      exact ⟨.error failure, rfl, congrArg Except.error (if_neg hmissing).symm, rfl⟩

/-- A creation does nothing but what `Creating` lists. -/
theorem creating_of_yields {result : Except Failure Bool}
    (h : Yields (create now) (.repository o) xs result r') : Creating now o xs result r' := by
  unfold create at h
  rw [yields_getRepositoryObject_bind] at h
  cases htemplate : o.desired.template with
  | none =>
    rw [htemplate] at h
    rcases yields_bind_set_pure h with ⟨failure, rfl, hplain⟩ | ⟨x, s, hplain, rfl, rfl⟩
    · obtain ⟨answer, rfl, heq, rfl⟩ := yields_createPlain hplain
      cases answer with
      | ok created => cases heq
      | error refusal =>
        cases heq
        exact .refused htemplate
    · obtain ⟨answer, rfl, heq, rfl⟩ := yields_createPlain hplain
      cases answer with
      | ok created => exact .created htemplate
      | error refusal => cases heq
  | some template =>
    rw [htemplate] at h
    cases hname : FullName.parse? template.name with
    | none =>
      simp only [createFromTemplate, hname] at h
      obtain ⟨rfl, rfl, rfl⟩ := yields_throw_bind.mp h
      exact .malformed htemplate hname
    | some fullName =>
      rcases yields_bind_set_pure h with ⟨failure, rfl, hgenerate⟩ | ⟨x, s, hgenerate, rfl, rfl⟩
      · obtain ⟨answer, rfl, heq, rfl⟩ := yields_createFromTemplate hname hgenerate
        cases answer with
        | ok generated => cases heq
        | error refusal =>
          cases heq
          exact .ungenerated htemplate hname
      · obtain ⟨answer, rfl, heq, rfl⟩ := yields_createFromTemplate hname hgenerate
        cases answer with
        | ok generated => exact .generated htemplate hname
        | error refusal => cases heq

/-! ## Editing -/

/-- The name that an edit is addressed to. -/
def editedName (o : RepositoryObject) : String :=
  if recordedName o = "" then o.desired.name else recordedName o

theorem editedName_eq_recorded (h : recordedName o ≠ "") : editedName o = recordedName o :=
  if_neg h

/-- The exchanges of an edit and its result. -/
inductive Updating (o : RepositoryObject) : List Exchange → Except Failure Unit → Prop where
  | unfound {xs : List Exchange} {failure : ApiFailure} :
      LookingUp o.desired.owner o.desired.name (recordedName o) xs (.error failure) →
      Updating o xs (.error (.remote getContext failure))
  | refused {xs : List Exchange} {found : Remote.Repository} {failure : ApiFailure} :
      LookingUp o.desired.owner o.desired.name (recordedName o) xs (.ok found) →
      Updating o
        (xs ++ [⟨.editRepository o.desired.owner (editedName o) (o.desired.applyTo found),
          .error failure⟩])
        (.error (.remote updateContext failure))
  | edited {xs : List Exchange} {found answer : Remote.Repository} :
      LookingUp o.desired.owner o.desired.name (recordedName o) xs (.ok found) →
      Updating o
        (xs ++ [⟨.editRepository o.desired.owner (editedName o) (o.desired.applyTo found),
          .ok answer⟩])
        (.ok ())

/-- An edit does nothing but what `Updating` lists, and leaves the resource alone. -/
theorem updating_of_yields {result : Except Failure Unit}
    (h : Yields update (.repository o) xs result r') :
    Updating o xs result ∧ r' = .repository o := by
  unfold update at h
  rw [yields_getRepositoryObject_bind] at h
  obtain ⟨ys, zs, answer, rfl, hlook, h⟩ := yields_lookUp_bind.mp h
  cases answer with
  | error failure =>
    rw [yields_expect_error_bind] at h
    obtain ⟨rfl, rfl, rfl⟩ := h
    rw [List.append_nil]
    exact ⟨.unfound hlook, rfl⟩
  | ok found =>
    rw [yields_expect_ok_bind] at h
    obtain ⟨answer, ws, rfl, hedit⟩ := yields_call_bind.mp h
    cases answer with
    | error failure =>
      rw [yields_expect_error_bind] at hedit
      obtain ⟨rfl, rfl, rfl⟩ := hedit
      exact ⟨.refused hlook, rfl⟩
    | ok edited =>
      rw [yields_expect_ok_bind, yields_log] at hedit
      obtain ⟨rfl, rfl, rfl⟩ := hedit
      exact ⟨.edited hlook, rfl⟩

/-- An edit looks the repository up first; what is found is edited with a single call. -/
theorem Updating.exists_lookingUp {result : Except Failure Unit} (h : Updating o xs result) :
    ∃ ys zs answer, xs = ys ++ zs ∧
      LookingUp o.desired.owner o.desired.name (recordedName o) ys answer ∧
      ∀ found, answer = .ok found → ∃ reply : Call.FromGitHub Remote.Repository,
        zs = [⟨.editRepository o.desired.owner (editedName o) (o.desired.applyTo found), reply⟩] ∧
        result = (reply.map fun _ => ()).mapError (.remote updateContext) := by
  cases h with
  | unfound hlook => exact ⟨xs, [], _, by simp, hlook, by simp⟩
  | @refused ys found failure hlook =>
    refine ⟨ys, _, _, rfl, hlook, ?_⟩
    rintro found ⟨⟩
    exact ⟨.error failure, rfl, rfl⟩
  | @edited ys found edited hlook =>
    refine ⟨ys, _, _, rfl, hlook, ?_⟩
    rintro found ⟨⟩
    exact ⟨.ok edited, rfl, rfl⟩

/-! ## Deleting -/

/-- A deletion is a single call, addressed to the desired name. -/
theorem deleting_of_yields {result : Except Failure Unit}
    (h : Yields delete (.repository o) xs result r') :
    ∃ answer : Call.FromGitHub Unit,
      xs = [⟨.deleteRepository o.desired.owner o.desired.name, answer⟩] ∧
      result = answer.mapError (.remote deleteContext) ∧ r' = .repository o := by
  unfold delete at h
  rw [yields_getRepositoryObject_bind] at h
  obtain ⟨answer, ys, rfl, hanswer⟩ := yields_call_bind.mp h
  cases answer with
  | error failure =>
    rw [yields_expect_error_bind] at hanswer
    obtain ⟨rfl, rfl, rfl⟩ := hanswer
    exact ⟨.error failure, rfl, rfl, rfl⟩
  | ok _ =>
    rw [yields_expect_ok_bind, yields_log] at hanswer
    obtain ⟨rfl, rfl, rfl⟩ := hanswer
    exact ⟨.ok (), rfl, rfl, rfl⟩

/-! ## Through the client -/

theorem creating_of_generates {outcome : Except Failure Outcome × Resource}
    (h : (client.converse .create now (.repository o)).Generates xs outcome) :
    ∃ result, outcome.1 = .created <$> result ∧ Creating now o xs result outcome.2 := by
  obtain ⟨result, heq, hyields⟩ := yields_map.mp h
  exact ⟨result, heq, creating_of_yields (yields_instrumented.mp hyields)⟩

theorem updating_of_generates {outcome : Except Failure Outcome × Resource}
    (h : (client.converse .update now (.repository o)).Generates xs outcome) :
    ∃ result, outcome.1 = (fun _ => .updated) <$> result ∧ Updating o xs result ∧
      outcome.2 = .repository o := by
  obtain ⟨result, heq, hyields⟩ := yields_map.mp h
  exact ⟨result, heq, updating_of_yields (yields_instrumented.mp hyields)⟩

theorem deleting_of_generates {outcome : Except Failure Outcome × Resource}
    (h : (client.converse .delete now (.repository o)).Generates xs outcome) :
    ∃ answer : Call.FromGitHub Unit,
      xs = [⟨.deleteRepository o.desired.owner o.desired.name, answer⟩] ∧
      outcome.1 = (answer.map fun _ => Outcome.deleted).mapError (.remote deleteContext) ∧
      outcome.2 = .repository o := by
  obtain ⟨result, heq, hyields⟩ := yields_map.mp h
  obtain ⟨answer, rfl, rfl, hresource⟩ := deleting_of_yields (yields_instrumented.mp hyields)
  refine ⟨answer, rfl, ?_, hresource⟩
  rw [heq]
  cases answer with
  | error failure => rfl
  | ok _ => rfl

end GitHubReconciler.Repository
