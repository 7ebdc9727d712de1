-- SUMMARY: All that looking up (`LookingUp`) and observing (`Observing`) a repository can do.
import GitHubReconciler.Operation.Session
import GitHubReconciler.Proofs.Exchanges

/-!
# Observing repositories

`LookingUp` and `Observing` say what a look-up and an observation can do, with one case for each
way in which their exchanges may go. What follows once a repository is found is the matter of
`Settling`. `observing_of_yields` takes the operation apart once; what is proved about observations
afterwards is a case distinction over these.
-/

namespace GitHubReconciler.Repository

open Operation

variable {owner name recorded now : String} {o p : RepositoryObject} {r r' : Resource}
  {xs : List Exchange}

/-! ## Looking up -/

/-- The exchanges of a look-up and the answer that it settles for. -/
inductive LookingUp (owner name recorded : String) :
    List Exchange → Call.FromGitHub Remote.Repository → Prop where
  | found {found : Remote.Repository} :
      LookingUp owner name recorded [⟨.getRepository owner name, .ok found⟩] (.ok found)
  /-- There is no other name to look under. -/
  | failed {failure : ApiFailure} :
      recorded = "" ∨ recorded = name →
      LookingUp owner name recorded [⟨.getRepository owner name, .error failure⟩] (.error failure)
  /-- Whatever the first failure was, the recorded name is tried. -/
  | retried {failure : ApiFailure} {answer : Call.FromGitHub Remote.Repository} :
      ¬ (recorded = "" ∨ recorded = name) →
      LookingUp owner name recorded
        [⟨.getRepository owner name, .error failure⟩, ⟨.getRepository owner recorded, answer⟩]
        answer

theorem yields_lookUp {result : Except Failure (Call.FromGitHub Remote.Repository)} :
    Yields (lookUp owner name recorded) r xs result r' ↔
      ∃ answer, LookingUp owner name recorded xs answer ∧ result = .ok answer ∧ r' = r := by
  refine yields_call_bind.trans ?_
  constructor
  · rintro ⟨first, ys, rfl, h⟩
    cases first with
    | ok found =>
      obtain ⟨rfl, rfl, rfl⟩ := yields_pure.mp h
      exact ⟨.ok found, .found, rfl, rfl⟩
    | error failure =>
      dsimp only at h
      split at h
      next hname =>
        obtain ⟨rfl, rfl, rfl⟩ := yields_pure.mp h
        exact ⟨.error failure, .failed hname, rfl, rfl⟩
      next hname =>
        obtain ⟨answer, rfl, rfl, rfl⟩ := yields_call.mp (yields_log_bind.mp h)
        exact ⟨answer, .retried hname, rfl, rfl⟩
  · rintro ⟨answer, hlook, rfl, rfl⟩
    cases hlook with
    | @found found => exact ⟨.ok found, [], rfl, yields_pure.mpr ⟨rfl, rfl, rfl⟩⟩
    | @failed failure hname =>
      refine ⟨.error failure, [], rfl, ?_⟩
      dsimp only
      rw [if_pos hname, yields_pure]
      exact ⟨rfl, rfl, rfl⟩
    | @retried failure _ hname =>
      refine ⟨.error failure, _, rfl, ?_⟩
      dsimp only
      rw [if_neg hname, yields_log_bind]
      exact yields_call.mpr ⟨answer, rfl, rfl, rfl⟩

theorem yields_lookUp_bind {α : Type} {f : Call.FromGitHub Remote.Repository → Operation α}
    {result : Except Failure α} :
    Yields (lookUp owner name recorded >>= f) r xs result r' ↔
      ∃ ys zs answer, xs = ys ++ zs ∧ LookingUp owner name recorded ys answer ∧
        Yields (f answer) r zs result r' := by
  simp only [yields_bind, yields_lookUp]
  constructor
  · rintro (⟨failure, -, answer, -, h, -⟩ | ⟨ys, zs, x, _, rfl, ⟨_, hlook, h, rfl⟩, hf⟩)
    · cases h
    · cases h
      exact ⟨ys, zs, x, rfl, hlook, hf⟩
  · rintro ⟨ys, zs, answer, rfl, hlook, hf⟩
    exact .inr ⟨ys, zs, answer, r, rfl, ⟨answer, hlook, rfl, rfl⟩, hf⟩

/-- The look-ups of a look-up end with the answer it settles for. -/
theorem LookingUp.lookUps_eq {answer : Call.FromGitHub Remote.Repository}
    (h : LookingUp owner name recorded xs answer) :
    lookUps xs = [answer] ∨ ∃ failure, lookUps xs = [.error failure, answer] := by
  cases h with
  | found => exact .inl rfl
  | failed => exact .inl rfl
  | @retried failure => exact .inr ⟨failure, rfl⟩

theorem LookingUp.getLast?_lookUps {answer : Call.FromGitHub Remote.Repository}
    (h : LookingUp owner name recorded xs answer) : (lookUps xs).getLast? = some answer := by
  rcases h.lookUps_eq with heq | ⟨failure, heq⟩
  · rw [heq, List.getLast?_singleton]
  · rw [heq]
    rfl

theorem LookingUp.mem_lookUps {answer : Call.FromGitHub Remote.Repository}
    (h : LookingUp owner name recorded xs answer) : answer ∈ lookUps xs := by
  rcases h.lookUps_eq with heq | ⟨failure, heq⟩
  · simp [heq]
  · simp [heq]

/-- A repository that a look-up was answered with is the one it settles for. -/
theorem LookingUp.eq_of_mem_lookUps {answer : Call.FromGitHub Remote.Repository}
    {found : Remote.Repository} (h : LookingUp owner name recorded xs answer)
    (hfound : .ok found ∈ lookUps xs) : answer = .ok found := by
  rcases h.lookUps_eq with heq | ⟨failure, heq⟩
  · simpa [heq, eq_comm] using hfound
  · simpa [heq, eq_comm] using hfound

/-- A look-up asks for nothing else. -/
theorem LookingUp.question_eq {answer : Call.FromGitHub Remote.Repository}
    (h : LookingUp owner name recorded xs answer) {x : Exchange} (hmem : x ∈ xs) :
    ∃ asked, x.1 = .getRepository owner asked := by
  cases h with
  | found =>
    cases List.mem_singleton.mp hmem
    exact ⟨name, rfl⟩
  | failed =>
    cases List.mem_singleton.mp hmem
    exact ⟨name, rfl⟩
  | retried =>
    rcases List.mem_cons.mp hmem with rfl | hmem
    · exact ⟨name, rfl⟩
    · cases List.mem_singleton.mp hmem
      exact ⟨recorded, rfl⟩

/-! ## Observing -/

/-- What the status of an object becomes when a repository is recorded in it. -/
def recording (now : String) (o : RepositoryObject) (found : Remote.Repository) :
    RepositoryObject :=
  (o.withCondition (.ready .available now)).withObserved (.ofRemote found)

/-- The desired state of an object, filled in from a repository. -/
def filling (o : RepositoryObject) (found : Remote.Repository) : Desired × Remote.Repository :=
  o.desired.fill found o.ready?

/-- What an observation does after it has found a repository: its exchanges, what it finds out and
    the resource after it. -/
inductive Settling (now : String) (o : RepositoryObject) (found : Remote.Repository) :
    List Exchange → Except Failure Observation → Resource → Prop where
  /-- There is nothing to fill in. -/
  | full :
      (filling o found).1 = o.desired →
      Settling now o found [] (.ok ⟨true, o.desired.isMetBy (filling o found).2, false⟩)
        (.repository (recording now o (filling o found).2))
  /-- What was filled in could not be stored. -/
  | unstored {causes : Causes} :
      (filling o found).1 ≠ o.desired →
      Settling now o found
        [⟨.persist (.repository (o.withDesired (filling o found).1)), .error causes⟩]
        (.error (.localPersistence Kind.repository.name causes))
        (.repository (o.withDesired (filling o found).1))
  /-- What was filled in has been stored, and the resource is now `p`. -/
  | stored {p : RepositoryObject} :
      (filling o found).1 ≠ o.desired →
      Settling now o found
        [⟨.persist (.repository (o.withDesired (filling o found).1)), .ok (.repository p)⟩]
        (.ok ⟨true, p.desired.isMetBy (filling o found).2, true⟩)
        (.repository (recording now p (filling o found).2))
  /-- The resource that came back from the cluster is of another kind. -/
  | swapped {stored : Resource} :
      (filling o found).1 ≠ o.desired →
      stored.kind ≠ .repository →
      Settling now o found
        [⟨.persist (.repository (o.withDesired (filling o found).1)), .ok stored⟩]
        (.error (.wrongKind Kind.repository.name)) stored

/-- The exchanges of an observation, what it finds out and the resource after it. -/
inductive Observing (now : String) (o : RepositoryObject) :
    List Exchange → Except Failure Observation → Resource → Prop where
  | absent {xs : List Exchange} {failure : ApiFailure} :
      LookingUp o.desired.owner o.desired.name (recordedName o) xs (.error failure) →
      failure.isNotFound = true →
      Observing now o xs (.ok .absent) (.repository o)
  | failed {xs : List Exchange} {failure : ApiFailure} :
      LookingUp o.desired.owner o.desired.name (recordedName o) xs (.error failure) →
      failure.isNotFound = false →
      Observing now o xs (.error (.remote getContext failure)) (.repository o)
  | found {xs ys : List Exchange} {found : Remote.Repository}
      {result : Except Failure Observation} {r' : Resource} :
      LookingUp o.desired.owner o.desired.name (recordedName o) xs (.ok found) →
      Settling now o found ys result r' →
      Observing now o (xs ++ ys) result r'

theorem Settling.lookUps_eq_nil {found : Remote.Repository}
    {result : Except Failure Observation} (h : Settling now o found xs result r') :
    lookUps xs = [] := by
  cases h with
  | full => rfl
  | unstored => rfl
  | stored => rfl
  | swapped => rfl

/-- A repository that is found is never reported as absent. -/
theorem Settling.ne_absent {found : Remote.Repository} {result : Except Failure Observation}
    (h : Settling now o found xs result r') : result ≠ .ok .absent := by
  cases h with
  | full => simp [Observation.absent]
  | unstored => simp
  | stored => simp [Observation.absent]
  | swapped => simp

/-- An observation that ends well reports what it has found as existing. -/
theorem Settling.resourceExists_eq_true {found : Remote.Repository} {observation : Observation}
    (h : Settling now o found xs (.ok observation) r') : observation.resourceExists = true := by
  cases h with
  | full => rfl
  | stored => rfl

/-- An observation settles on the repository that one of its look-ups was answered with. -/
theorem Observing.settling_of_mem {found : Remote.Repository}
    {result : Except Failure Observation} (h : Observing now o xs result r')
    (hfound : .ok found ∈ lookUps xs) :
    ∃ ys zs, xs = ys ++ zs ∧
      LookingUp o.desired.owner o.desired.name (recordedName o) ys (.ok found) ∧
      Settling now o found zs result r' := by
  cases h with
  | absent hlook => cases hlook.eq_of_mem_lookUps hfound
  | failed hlook => cases hlook.eq_of_mem_lookUps hfound
  | found hlook hsettling =>
    rw [lookUps_append, hsettling.lookUps_eq_nil, List.append_nil] at hfound
    cases hlook.eq_of_mem_lookUps hfound
    exact ⟨_, _, rfl, hlook, hsettling⟩

/-- What is done after a repository has been found is at most a write to the cluster. -/
theorem Settling.question_eq {found : Remote.Repository} {result : Except Failure Observation}
    (h : Settling now o found xs result r') {x : Exchange} (hmem : x ∈ xs) :
    x.1 = .persist (.repository (o.withDesired (filling o found).1)) := by
  cases h with
  | full => cases hmem
  | unstored =>
    cases List.mem_singleton.mp hmem
    rfl
  | stored =>
    cases List.mem_singleton.mp hmem
    rfl
  | swapped =>
    cases List.mem_singleton.mp hmem
    rfl

/-- An observation looks a repository up, settles on one that is found, and calls for nothing
    else. -/
theorem Observing.exists_lookingUp {result : Except Failure Observation}
    (h : Observing now o xs result r') :
    ∃ ys zs answer, xs = ys ++ zs ∧
      LookingUp o.desired.owner o.desired.name (recordedName o) ys answer ∧
      (∀ x ∈ zs, ∃ q, x.1 = .persist q) ∧
      ∀ found, answer = .ok found → Settling now o found zs result r' := by
  cases h with
  | absent hlook =>
    exact ⟨xs, [], _, by simp, hlook, by simp, by simp⟩
  | failed hlook =>
    exact ⟨xs, [], _, by simp, hlook, by simp, by simp⟩
  | found hlook hsettling =>
    refine ⟨_, _, _, rfl, hlook, fun x hx => ⟨_, hsettling.question_eq hx⟩, ?_⟩
    intro found heq
    cases heq
    exact hsettling

theorem LookingUp.isMutation_eq_false {answer : Call.FromGitHub Remote.Repository}
    (h : LookingUp owner name recorded xs answer) {x : Exchange} (hmem : x ∈ xs) :
    x.1.isMutation = false := by
  obtain ⟨asked, heq⟩ := h.question_eq hmem
  rw [heq]
  rfl

/-- An observation changes nothing in GitHub. -/
theorem Observing.isMutation_eq_false {result : Except Failure Observation}
    (h : Observing now o xs result r') {x : Exchange} (hmem : x ∈ xs) :
    x.1.isMutation = false := by
  obtain ⟨ys, zs, answer, rfl, hlook, hwrites, -⟩ := h.exists_lookingUp
  rcases List.mem_append.mp hmem with hmem | hmem
  · exact hlook.isMutation_eq_false hmem
  · obtain ⟨q, heq⟩ := hwrites x hmem
    rw [heq]
    rfl

/-! ## Stored resources -/

/-- What an object becomes when a repository is found: its settings are filled in and the
    repository is recorded. -/
def settled (now : String) (o : RepositoryObject) (found : Remote.Repository) : RepositoryObject :=
  recording now (o.withDesired (filling o found).1) (filling o found).2

/-- An observation that finds a repository ends well if the cluster stores what it is given. -/
theorem Settling.eq_of_stores {found : Remote.Repository} {result : Except Failure Observation}
    (h : Settling now o found xs result r')
    (hstore : ∀ q answer, (⟨.persist q, answer⟩ : Exchange) ∈ xs → answer = Except.ok q) :
    (∃ filledIn,
      result = .ok ⟨true, (filling o found).1.isMetBy (filling o found).2, filledIn⟩) ∧
      r' = .repository (settled now o found) := by
  cases h with
  | full hfull =>
    have hsame : o.withDesired (filling o found).1 = o := by
      rw [hfull]
      rfl
    refine ⟨⟨false, by rw [hfull]⟩, ?_⟩
    rw [settled, hsame]
  | unstored => cases hstore _ _ (List.mem_singleton_self _)
  | stored =>
    cases hstore _ _ (List.mem_singleton_self _)
    exact ⟨⟨true, rfl⟩, rfl⟩
  | swapped hfilled hkind =>
    cases hstore _ _ (List.mem_singleton_self _)
    exact absurd rfl hkind

/-! ## Taking the operation apart -/

theorem yields_record {found : Remote.Repository} {result : Except Failure Bool} :
    Yields (record now found) (.repository o) xs result r' ↔
      xs = [] ∧ result = .ok (o.desired.isMetBy found) ∧
        r' = .repository (recording now o found) := by
  unfold record
  rw [yields_getRepositoryObject_bind, yields_set_bind]
  dsimp only
  split
  · rw [yields_note_bind, yields_log_bind, yields_pure]
    rfl
  · rw [yields_pure]
    rfl

theorem yields_record_of_ne {found : Remote.Repository} {result : Except Failure Bool}
    (hkind : r.kind ≠ .repository) :
    Yields (record now found) r xs result r' ↔
      xs = [] ∧ result = .error (.wrongKind Kind.repository.name) ∧ r' = r :=
  yields_getRepositoryObject_bind_of_ne hkind

theorem yields_storeFilled {filled : Desired} {result : Except Failure Unit} :
    Yields (storeFilled o filled) r xs result r' ↔
      (∃ causes, xs = [⟨.persist (.repository (o.withDesired filled)), .error causes⟩] ∧
        result = .error (.localPersistence Kind.repository.name causes) ∧
        r' = .repository (o.withDesired filled)) ∨
      (xs = [⟨.persist (.repository (o.withDesired filled)), .ok r'⟩] ∧ result = .ok ()) := by
  refine yields_set_bind.trans (yields_call_bind.trans ?_)
  constructor
  · rintro ⟨answer, ys, rfl, h⟩
    cases answer with
    | error causes =>
      obtain ⟨rfl, rfl, rfl⟩ := yields_throw.mp h
      exact .inl ⟨causes, rfl, rfl, rfl⟩
    | ok stored =>
      obtain ⟨rfl, rfl, rfl⟩ := yields_log.mp (yields_note_bind.mp (yields_set_bind.mp h))
      exact .inr ⟨rfl, rfl⟩
  · rintro (⟨causes, rfl, rfl, rfl⟩ | ⟨rfl, rfl⟩)
    · exact ⟨.error causes, [], rfl, yields_throw.mpr ⟨rfl, rfl, rfl⟩⟩
    · refine ⟨.ok r', [], rfl, ?_⟩
      exact yields_set_bind.mpr (yields_note_bind.mpr (yields_log.mpr ⟨rfl, rfl, rfl⟩))

/-- What is left to do once the filled-in settings are stored. -/
theorem settling_of_stored {found : Remote.Repository} {stored : Resource} {ys : List Exchange}
    {result : Except Failure Observation} (hfilled : (filling o found).1 ≠ o.desired)
    (h : Yields ((fun upToDate => ⟨true, upToDate, true⟩) <$> record now (filling o found).2)
      stored ys result r') :
    Settling now o found
      ([⟨.persist (.repository (o.withDesired (filling o found).1)), .ok stored⟩] ++ ys)
      result r' := by
  obtain ⟨first, rfl, hrecord⟩ := yields_map.mp h
  by_cases hkind : stored.kind = .repository
  · obtain ⟨p, rfl⟩ : ∃ p, stored = .repository p := by
      cases stored with
      | repository p => exact ⟨p, rfl⟩
      | secrets p => cases hkind
      | membership p => cases hkind
      | content p => cases hkind
    obtain ⟨rfl, rfl, rfl⟩ := yields_record.mp hrecord
    exact .stored hfilled
  · obtain ⟨rfl, rfl, rfl⟩ := (yields_record_of_ne hkind).mp hrecord
    exact .swapped hfilled hkind

/-- An observation does nothing but what `Observing` lists. -/
theorem observing_of_yields {result : Except Failure Observation}
    (h : Yields (observe now) (.repository o) xs result r') : Observing now o xs result r' := by
  unfold observe at h
  rw [yields_getRepositoryObject_bind] at h
  obtain ⟨ys, zs, answer, rfl, hlook, h⟩ := yields_lookUp_bind.mp h
  cases answer with
  | error failure =>
    dsimp only at h
    split at h
    next hmissing =>
      rw [yields_log_bind, yields_pure] at h
      obtain ⟨rfl, rfl, rfl⟩ := h
      rw [List.append_nil]
      exact .absent hlook hmissing
    next hmissing =>
      rw [yields_throw] at h
      obtain ⟨rfl, rfl, rfl⟩ := h
      rw [List.append_nil]
      exact .failed hlook (by simpa using hmissing)
  | ok found =>
    refine .found hlook ?_
    dsimp only at h
    split at h
    next hfilled =>
      rw [yields_bind] at h
      rcases h with ⟨failure, rfl, hstore⟩ | ⟨zs, ws, x, s, rfl, hstore, hrecord⟩
      · rcases yields_storeFilled.mp hstore with ⟨causes, rfl, heq, rfl⟩ | ⟨-, heq⟩
        · cases heq
          exact .unstored hfilled
        · cases heq
      · obtain ⟨rfl, -⟩ := (yields_storeFilled.mp hstore).resolve_left (by simp)
        rw [decide_eq_true hfilled] at hrecord
        exact settling_of_stored hfilled hrecord
    next hfull =>
      rw [decide_eq_false hfull] at h
      obtain ⟨first, rfl, hrecord⟩ := yields_map.mp h
      obtain ⟨rfl, rfl, rfl⟩ := yields_record.mp hrecord
      exact .full (Decidable.not_not.mp hfull)

/-- What the observations of the client do, whatever is noted around them. -/
theorem observing_of_generates {outcome : Except Failure Outcome × Resource}
    (h : (client.converse .observe now (.repository o)).Generates xs outcome) :
    ∃ result, outcome.1 = .observed <$> result ∧ Observing now o xs result outcome.2 := by
  obtain ⟨result, heq, hyields⟩ := yields_map.mp h
  exact ⟨result, heq, observing_of_yields (yields_instrumented.mp hyields)⟩

end GitHubReconciler.Repository
