-- SUMMARY: All that the operations on a membership can do: observing (`Observing`), and any of them through the client (`Performing`).
import GitHubReconciler.Operation.Session
import GitHubReconciler.Proofs.Operation

/-!
# Operations on memberships

An operation on a membership makes one call, or none when there is nothing to do. Only an
observation changes the resource.
-/

namespace GitHubReconciler.Membership

open Operation

variable {now : String} {o : MembershipObject} {r' : Resource} {xs : List Exchange}

/-! ## Observing -/

/-- The exchanges of an observation, what it finds out and the resource after it. -/
inductive Observing (now : String) (o : MembershipObject) :
    List Exchange → Except Failure Observation → Resource → Prop where
  | absent {failure : ApiFailure} :
      failure.isNotFound = true →
      Observing now o [⟨.getMembership o.desired.user o.desired.organization, .error failure⟩]
        (.ok .absent) (.membership o)
  | failed {failure : ApiFailure} :
      failure.isNotFound = false →
      Observing now o [⟨.getMembership o.desired.user o.desired.organization, .error failure⟩]
        (.error (.remote getContext failure)) (.membership o)
  | found {found : Remote.Membership} :
      Observing now o [⟨.getMembership o.desired.user o.desired.organization, .ok found⟩]
        (.ok ⟨true, true, false⟩)
        (.membership
          ((o.withCondition (.ready (readiness found) now)).withObserved (.ofRemote found)))

theorem observing_of_yields {result : Except Failure Observation}
    (h : Yields (observe now) (.membership o) xs result r') : Observing now o xs result r' := by
  unfold observe at h
  rw [yields_getMembershipObject_bind] at h
  obtain ⟨answer, ys, rfl, hanswer⟩ := yields_call_bind.mp h
  cases answer with
  | error failure =>
    dsimp only at hanswer
    by_cases hmissing : failure.isNotFound = true
    · rw [if_pos hmissing, yields_log_bind, yields_pure] at hanswer
      obtain ⟨rfl, rfl, rfl⟩ := hanswer
      exact .absent hmissing
    · rw [if_neg hmissing, yields_throw] at hanswer
      obtain ⟨rfl, rfl, rfl⟩ := hanswer
      exact .failed (by simpa using hmissing)
  | ok found =>
    dsimp only at hanswer
    rw [yields_set_bind, yields_pure] at hanswer
    obtain ⟨rfl, rfl, rfl⟩ := hanswer
    exact .found

/-! ## Inviting and removing -/

/-- A creation is a single invitation. -/
theorem inviting_of_yields {result : Except Failure Bool}
    (h : Yields create (.membership o) xs result r') :
    ∃ answer : Call.FromGitHub Unit,
      xs = [⟨.invite o.desired.organization o.desired.invitation, answer⟩] ∧
      result = (answer.map fun _ => true).mapError (.remote inviteContext) ∧
      r' = .membership o := by
  unfold create at h
  rw [yields_getMembershipObject_bind] at h
  obtain ⟨answer, ys, rfl, hanswer⟩ := yields_call_bind.mp h
  cases answer with
  | error failure =>
    rw [yields_expect_error_bind] at hanswer
    obtain ⟨rfl, rfl, rfl⟩ := hanswer
    exact ⟨.error failure, rfl, rfl, rfl⟩
  | ok _ =>
    rw [yields_expect_ok_bind, yields_log_bind, yields_pure] at hanswer
    obtain ⟨rfl, rfl, rfl⟩ := hanswer
    exact ⟨.ok (), rfl, rfl, rfl⟩

/-- An update does nothing. -/
theorem yields_update {result : Except Failure Unit} :
    Yields update (.membership o) xs result r' ↔
      xs = [] ∧ result = .ok () ∧ r' = .membership o := by
  unfold update
  rw [yields_getMembershipObject_bind, yields_pure]

/-- A deletion is a single call. -/
theorem removing_of_yields {result : Except Failure Unit}
    (h : Yields delete (.membership o) xs result r') :
    ∃ answer : Call.FromGitHub Unit,
      xs = [⟨.removeMember o.desired.organization o.desired.user, answer⟩] ∧
      result = answer.mapError (.remote removeContext) ∧ r' = .membership o := by
  unfold delete at h
  rw [yields_getMembershipObject_bind] at h
  obtain ⟨answer, ys, rfl, hanswer⟩ := yields_call_bind.mp h
  cases answer with
  | error failure =>
    rw [yields_expect_error_bind] at hanswer
    obtain ⟨rfl, rfl, rfl⟩ := hanswer
    exact ⟨.error failure, rfl, rfl, rfl⟩
  | ok _ =>
    rw [yields_expect_ok_bind, yields_log] at hanswer
    obtain ⟨rfl, rfl, rfl⟩ := hanswer
    exact ⟨.ok (), rfl, rfl, rfl⟩

/-! ## Through the client -/

/-- The exchanges of an operation of the client, its outcome and the resource after it. -/
inductive Performing (now : String) (o : MembershipObject) :
    Verb → List Exchange → Except Failure Outcome → Resource → Prop where
  | observed {xs : List Exchange} {result : Except Failure Observation} {r' : Resource} :
      Observing now o xs result r' →
      Performing now o .observe xs (.observed <$> result) r'
  | notInvited {failure : ApiFailure} :
      Performing now o .create
        [⟨.invite o.desired.organization o.desired.invitation, .error failure⟩]
        (.error (.remote inviteContext failure)) (.membership o)
  | invited :
      Performing now o .create
        [⟨.invite o.desired.organization o.desired.invitation, .ok ()⟩]
        (.ok (.created true)) (.membership o)
  | updated : Performing now o .update [] (.ok .updated) (.membership o)
  | notRemoved {failure : ApiFailure} :
      Performing now o .delete
        [⟨.removeMember o.desired.organization o.desired.user, .error failure⟩]
        (.error (.remote removeContext failure)) (.membership o)
  | removed :
      Performing now o .delete
        [⟨.removeMember o.desired.organization o.desired.user, .ok ()⟩]
        (.ok .deleted) (.membership o)

/-- The client does nothing but what `Performing` lists. -/
theorem performing_of_generates {verb : Verb} {outcome : Except Failure Outcome × Resource}
    (h : (client.converse verb now (.membership o)).Generates xs outcome) :
    Performing now o verb xs outcome.1 outcome.2 := by
  obtain ⟨result, resource⟩ := outcome
  cases verb with
  | observe =>
    obtain ⟨first, rfl, hyields⟩ := yields_map.mp h
    exact .observed (observing_of_yields (yields_instrumented.mp hyields))
  | create =>
    obtain ⟨first, rfl, hyields⟩ := yields_map.mp h
    obtain ⟨answer, rfl, rfl, rfl⟩ := inviting_of_yields (yields_instrumented.mp hyields)
    cases answer with
    | error failure => exact .notInvited
    | ok _ => exact .invited
  | update =>
    obtain ⟨first, rfl, hyields⟩ := yields_map.mp h
    obtain ⟨rfl, rfl, rfl⟩ := yields_update.mp (yields_instrumented.mp hyields)
    exact .updated
  | delete =>
    obtain ⟨first, rfl, hyields⟩ := yields_map.mp h
    obtain ⟨answer, rfl, rfl, rfl⟩ := removing_of_yields (yields_instrumented.mp hyields)
    cases answer with
    | error failure => exact .notRemoved
    | ok _ => exact .removed

end GitHubReconciler.Membership
