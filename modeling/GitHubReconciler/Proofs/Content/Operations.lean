-- SUMMARY: All that the operations on a file can do: observing (`Observing`), replacing (`Updating`), deleting (`Deleting`), and any of them through the client (`Performing`).
import GitHubReconciler.Operation.Session
import GitHubReconciler.Proofs.Operation

/-!
# Operations on files

Each operation but the creation, which is a single call, has a relation that says what it can do,
with one case for each way in which its calls may be answered. `Performing` puts them together
for the client.
-/

namespace GitHubReconciler.Content

open Operation

variable {now : String} {o : ContentObject} {r' : Resource} {xs : List Exchange}

/-- The question for the file of an object. -/
def asking (o : ContentObject) : Call :=
  .getFile o.desired.owner o.desired.repository o.desired.path o.desired.branch

/-! ## Observing -/

/-- The exchanges of an observation, what it finds out and the resource after it. -/
inductive Observing (now : String) (o : ContentObject) :
    List Exchange → Except Failure Observation → Resource → Prop where
  | absent {failure : ApiFailure} :
      failure.isNotFound = true →
      Observing now o [⟨asking o, .error failure⟩] (.ok .absent) (.content o)
  | failed {failure : ApiFailure} :
      failure.isNotFound = false →
      Observing now o [⟨asking o, .error failure⟩] (.error (.remote getContext failure))
        (.content o)
  | found {found : Remote.File} :
      Observing now o [⟨asking o, .ok found⟩] (.ok ⟨true, o.desired.isMetBy found, false⟩)
        (.content ((o.withCondition (.ready .available now)).withObserved (.ofRemote found)))

/-- Comparing only takes notes. -/
theorem yields_compare {d : Desired} {found : Remote.File} {r : Resource}
    {result : Except Failure Bool} :
    Yields (compare d found) r xs result r' ↔
      xs = [] ∧ result = .ok (d.isMetBy found) ∧ r' = r := by
  have hdrift : Yields (do
      if !d.isMetBy found then
        note (.drifted Kind.content.name)
        log .info "File differs from desired content" []
      return d.isMetBy found) r xs result r' ↔
        xs = [] ∧ result = .ok (d.isMetBy found) ∧ r' = r := by
    split
    · rw [yields_note_bind, yields_log_bind, yields_pure]
    · rw [yields_pure]
  unfold compare
  split
  · rw [yields_log_bind]
    exact hdrift
  · exact hdrift

theorem yields_compare_bind {α : Type} {d : Desired} {found : Remote.File} {f : Bool → Operation α}
    {r : Resource} {result : Except Failure α} :
    Yields (compare d found >>= f) r xs result r' ↔
      Yields (f (d.isMetBy found)) r xs result r' := by
  rw [yields_bind]
  simp only [yields_compare]
  constructor
  · rintro (⟨failure, -, -, h, -⟩ | ⟨ys, zs, x, s, rfl, ⟨rfl, h, rfl⟩, hf⟩)
    · cases h
    · cases h
      exact hf
  · intro h
    exact .inr ⟨[], xs, _, r, rfl, ⟨rfl, rfl, rfl⟩, h⟩

theorem observing_of_yields {result : Except Failure Observation}
    (h : Yields (observe now) (.content o) xs result r') : Observing now o xs result r' := by
  unfold observe at h
  rw [yields_getContentObject_bind] at h
  obtain ⟨answer, ys, rfl, hanswer⟩ := yields_call_bind.mp h
  cases answer with
  | error failure =>
    dsimp only at hanswer
    by_cases hmissing : failure.isNotFound = true
    · rw [if_pos hmissing, yields_log_bind, yields_pure] at hanswer
      obtain ⟨rfl, rfl, rfl⟩ := hanswer
      exact .absent hmissing
    · rw [if_neg hmissing, yields_throw] at hanswer
      obtain ⟨rfl, rfl, rfl⟩ := hanswer
      exact .failed (by simpa using hmissing)
  | ok found =>
    dsimp only at hanswer
    rw [yields_compare_bind, yields_set_bind, yields_pure] at hanswer
    obtain ⟨rfl, rfl, rfl⟩ := hanswer
    exact .found

/-! ## Creating -/

/-- A creation is a single call, and marks the resource if it succeeds. -/
theorem creating_of_yields {result : Except Failure Bool}
    (h : Yields (create now) (.content o) xs result r') :
    ∃ answer : Call.FromGitHub Remote.File,
      xs = [⟨.createFile o.desired.owner o.desired.repository o.desired.path
        (o.desired.commit none), answer⟩] ∧
      result = (answer.map fun _ => false).mapError (.remote createContext) ∧
      r' = match answer with
        | .ok _ => .content (o.withCondition (.ready .creating now))
        | .error _ => .content o := by
  unfold create at h
  rw [yields_getContentObject_bind] at h
  obtain ⟨answer, ys, rfl, hanswer⟩ := yields_call_bind.mp h
  cases answer with
  | error failure =>
    rw [yields_expect_error_bind] at hanswer
    obtain ⟨rfl, rfl, rfl⟩ := hanswer
    exact ⟨.error failure, rfl, rfl, rfl⟩
  | ok created =>
    rw [yields_expect_ok_bind, yields_log_bind, yields_set_bind, yields_pure] at hanswer
    obtain ⟨rfl, rfl, rfl⟩ := hanswer
    exact ⟨.ok created, rfl, rfl, rfl⟩

/-! ## Replacing -/

/-- The exchanges of a replacement and its result. -/
inductive Updating (o : ContentObject) : List Exchange → Except Failure Unit → Prop where
  | unfound {failure : ApiFailure} :
      Updating o [⟨asking o, .error failure⟩] (.error (.remote getContext failure))
  | refused {found : Remote.File} {failure : ApiFailure} :
      Updating o
        [⟨asking o, .ok found⟩,
          ⟨.updateFile o.desired.owner o.desired.repository o.desired.path
            (o.desired.commit found.sha), .error failure⟩]
        (.error (.remote updateContext failure))
  | replaced {found answer : Remote.File} :
      Updating o
        [⟨asking o, .ok found⟩,
          ⟨.updateFile o.desired.owner o.desired.repository o.desired.path
            (o.desired.commit found.sha), .ok answer⟩]
        (.ok ())

/-- A replacement leaves the resource alone. -/
theorem updating_of_yields {result : Except Failure Unit}
    (h : Yields update (.content o) xs result r') : Updating o xs result ∧ r' = .content o := by
  unfold update at h
  rw [yields_getContentObject_bind] at h
  obtain ⟨answer, ys, rfl, hanswer⟩ := yields_call_bind.mp h
  cases answer with
  | error failure =>
    rw [yields_expect_error_bind] at hanswer
    obtain ⟨rfl, rfl, rfl⟩ := hanswer
    exact ⟨.unfound, rfl⟩
  | ok found =>
    rw [yields_expect_ok_bind] at hanswer
    obtain ⟨reply, zs, rfl, hreply⟩ := yields_call_bind.mp hanswer
    cases reply with
    | error failure =>
      rw [yields_expect_error_bind] at hreply
      obtain ⟨rfl, rfl, rfl⟩ := hreply
      exact ⟨.refused, rfl⟩
    | ok replaced =>
      rw [yields_expect_ok_bind, yields_log] at hreply
      obtain ⟨rfl, rfl, rfl⟩ := hreply
      exact ⟨.replaced, rfl⟩

/-! ## Deleting -/

/-- The exchanges of a deletion, its result and the resource after it. -/
inductive Deleting (now : String) (o : ContentObject) :
    List Exchange → Except Failure Unit → Resource → Prop where
  /-- There is no file any more, and nothing to do. -/
  | gone {failure : ApiFailure} :
      failure.isNotFound = true →
      Deleting now o [⟨asking o, .error failure⟩] (.ok ()) (.content o)
  | failed {failure : ApiFailure} :
      failure.isNotFound = false →
      Deleting now o [⟨asking o, .error failure⟩] (.error (.remote getContext failure))
        (.content o)
  | refused {found : Remote.File} {failure : ApiFailure} :
      Deleting now o
        [⟨asking o, .ok found⟩,
          ⟨.deleteFile o.desired.owner o.desired.repository o.desired.path
            (o.desired.commit found.sha), .error failure⟩]
        (.error (.remote deleteContext failure)) (.content o)
  | deleted {found : Remote.File} :
      Deleting now o
        [⟨asking o, .ok found⟩,
          ⟨.deleteFile o.desired.owner o.desired.repository o.desired.path
            (o.desired.commit found.sha), .ok ()⟩]
        (.ok ()) (.content (o.withCondition (.ready .deleting now)))

theorem deleting_of_yields {result : Except Failure Unit}
    (h : Yields (delete now) (.content o) xs result r') : Deleting now o xs result r' := by
  unfold delete at h
  rw [yields_getContentObject_bind] at h
  obtain ⟨answer, ys, rfl, hanswer⟩ := yields_call_bind.mp h
  cases answer with
  | error failure =>
    dsimp only at hanswer
    by_cases hmissing : failure.isNotFound = true
    · rw [if_pos hmissing, yields_log] at hanswer
      obtain ⟨rfl, rfl, rfl⟩ := hanswer
      exact .gone hmissing
    · rw [if_neg hmissing, yields_throw] at hanswer
      obtain ⟨rfl, rfl, rfl⟩ := hanswer
      exact .failed (by simpa using hmissing)
  | ok found =>
    dsimp only at hanswer
    obtain ⟨reply, zs, rfl, hreply⟩ := yields_call_bind.mp hanswer
    cases reply with
    | error failure =>
      rw [yields_expect_error_bind] at hreply
      obtain ⟨rfl, rfl, rfl⟩ := hreply
      exact .refused
    | ok _ =>
      rw [yields_expect_ok_bind, yields_log_bind, yields_set] at hreply
      obtain ⟨rfl, rfl, rfl⟩ := hreply
      exact .deleted

/-! ## Through the client -/

/-- The exchanges of an operation of the client, its outcome and the resource after it. -/
inductive Performing (now : String) (o : ContentObject) :
    Verb → List Exchange → Except Failure Outcome → Resource → Prop where
  | observed {xs : List Exchange} {result : Except Failure Observation} {r' : Resource} :
      Observing now o xs result r' →
      Performing now o .observe xs (.observed <$> result) r'
  | notCreated {failure : ApiFailure} :
      Performing now o .create
        [⟨.createFile o.desired.owner o.desired.repository o.desired.path
          (o.desired.commit none), .error failure⟩]
        (.error (.remote createContext failure)) (.content o)
  | created {answer : Remote.File} :
      Performing now o .create
        [⟨.createFile o.desired.owner o.desired.repository o.desired.path
          (o.desired.commit none), .ok answer⟩]
        (.ok (.created false)) (.content (o.withCondition (.ready .creating now)))
  | updated {xs : List Exchange} {result : Except Failure Unit} :
      Updating o xs result →
      Performing now o .update xs ((fun _ => .updated) <$> result) (.content o)
  | deleted {xs : List Exchange} {result : Except Failure Unit} {r' : Resource} :
      Deleting now o xs result r' →
      Performing now o .delete xs ((fun _ => .deleted) <$> result) r'

/-- The client does nothing but what `Performing` lists. -/
theorem performing_of_generates {verb : Verb} {outcome : Except Failure Outcome × Resource}
    (h : (client.converse verb now (.content o)).Generates xs outcome) :
    Performing now o verb xs outcome.1 outcome.2 := by
  obtain ⟨result, resource⟩ := outcome
  cases verb with
  | observe =>
    obtain ⟨first, rfl, hyields⟩ := yields_map.mp h
    exact .observed (observing_of_yields (yields_instrumented.mp hyields))
  | create =>
    obtain ⟨first, rfl, hyields⟩ := yields_map.mp h
    obtain ⟨answer, rfl, rfl, rfl⟩ := creating_of_yields (yields_instrumented.mp hyields)
    cases answer with
    | error failure => exact .notCreated
    | ok created => exact .created
  | update =>
    obtain ⟨first, rfl, hyields⟩ := yields_map.mp h
    obtain ⟨hupdating, rfl⟩ := updating_of_yields (yields_instrumented.mp hyields)
    exact .updated hupdating
  | delete =>
    obtain ⟨first, rfl, hyields⟩ := yields_map.mp h
    exact .deleted (deleting_of_yields (yields_instrumented.mp hyields))

end GitHubReconciler.Content
