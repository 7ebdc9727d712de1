-- SUMMARY: What whole sessions make of the `Ready` condition: its state is the one that was set last, and its time is when that state was entered (`readiness_of_run`).
import GitHubReconciler.Proofs.Atomicity
import GitHubReconciler.Proofs.Resource.Condition
import GitHubReconciler.Proofs.Session

/-!
# Readiness over sessions

An operation that ends well may set the state of the `Ready` condition; one that fails leaves the
condition alone. So the condition shows the state that was set last. Setting the state that it shows
already changes nothing, however often it happens: the condition keeps the time of the step that
entered the state.
-/

namespace GitHubReconciler

open Operation

variable {verb : Verb} {now : String} {r r' : Resource} {xs : List Exchange}
  {outcome : Except Failure Outcome}

/-! ## States that operations set -/

/-- The membership that GitHub reported. -/
def Exchange.membership? : Exchange → Option Remote.Membership
  | ⟨.getMembership _ _, .ok found⟩ => some found
  | _ => none

/-- Whether a file was deleted. -/
def Exchange.deletesFile : Exchange → Bool
  | ⟨.deleteFile _ _ _ _, .ok _⟩ => true
  | _ => false

/-- The state of `Ready` that an operation of the client of a kind sets, from its exchanges and its
    outcome. -/
def readinessSet (client : Kind) (xs : List Exchange) :
    Except Failure Outcome → Option Condition.ReadyReason
  | .ok (.observed observation) =>
      if observation.resourceExists then
        match client with
        | .membership => (xs.findSome? Exchange.membership?).map fun found =>
            if found.state = some "active" then .available else .creating
        | _ => some .available
      else none
  | .ok (.created _) => if client = .membership then none else some .creating
  | .ok .deleted =>
      match client with
      | .secrets => some .deleting
      | .content => if xs.any Exchange.deletesFile then some .deleting else none
      | _ => none
  | _ => none

/-! ## Conditions of objects -/

namespace Object

variable {Desired Observed : Type} [Inhabited Observed] (o : Object Desired Observed)

@[simp] theorem conditions_statusOrEmpty : o.statusOrEmpty.conditions = o.conditions := by
  unfold statusOrEmpty conditions
  cases o.status with
  | none => rfl
  | some status => rfl

@[simp] theorem conditions_withCondition (c : Condition) :
    (o.withCondition c).conditions = c.put o.conditions := by
  simp [withCondition, conditions]

@[simp] theorem conditions_withObserved (x : Observed) :
    (o.withObserved x).conditions = o.conditions := by
  simp [withObserved, conditions]

end Object

/-! ## Operation by operation -/

theorem Membership.Performing.conditions_eq {o : MembershipObject}
    (h : Performing now o verb xs outcome r') :
    r'.conditions = Condition.mark (readinessSet .membership xs outcome) now o.conditions := by
  cases h with
  | observed hobserving =>
    cases hobserving with
    | absent => rfl
    | failed => rfl
    | found =>
      simp [Resource.conditions, readinessSet, Exchange.membership?, Functor.map, Except.map,
        readiness, Remote.Membership.isActive, Condition.mark]
  | notInvited => rfl
  | invited => rfl
  | updated => rfl
  | notRemoved => rfl
  | removed => rfl

theorem Content.Performing.conditions_eq {o : ContentObject}
    (h : Performing now o verb xs outcome r') :
    r'.conditions = Condition.mark (readinessSet .content xs outcome) now o.conditions := by
  cases h with
  | observed hobserving =>
    cases hobserving with
    | absent => rfl
    | failed => rfl
    | found =>
      exact (Object.conditions_withObserved _ _).trans (Object.conditions_withCondition o _)
  | notCreated => rfl
  | created => exact Object.conditions_withCondition o _
  | updated hupdating =>
    cases hupdating with
    | _ => rfl
  | deleted hdeleting =>
    cases hdeleting with
    | gone => rfl
    | failed => rfl
    | refused => rfl
    | deleted => exact Object.conditions_withCondition o _

theorem Secret.Performing.conditions_eq {o : SecretObject}
    (h : Performing now o verb xs outcome r') :
    r'.conditions = Condition.mark (readinessSet .secrets xs outcome) now o.conditions := by
  cases h with
  | observed hobserving =>
    cases hobserving with
    | absent => rfl
    | unread => rfl
    | valueless => rfl
    | compared => exact Object.conditions_withCondition o _
  | notUploaded => rfl
  | @created xs upload _ =>
    change ((remembering o upload).withCondition _).conditions = _
    rw [Object.conditions_withCondition, remembering, Object.conditions_withObserved]
    rfl
  | updated => exact Object.conditions_withObserved o _
  | notDeleted => rfl
  | deleted =>
    change ((o.withObserved {}).withCondition _).conditions = _
    rw [Object.conditions_withCondition, Object.conditions_withObserved]
    rfl

namespace Repository

variable {o : RepositoryObject}

theorem Observing.conditions_eq {result : Except Failure Observation}
    (h : Observing now o xs result r') (hstore : StoresOrFails xs) :
    r'.conditions =
      Condition.mark (readinessSet .repository xs (.observed <$> result)) now o.conditions := by
  cases h with
  | absent => rfl
  | failed => rfl
  | found hlook hsettling =>
    cases hsettling with
    | full =>
      exact (Object.conditions_withObserved _ _).trans (Object.conditions_withCondition o _)
    | unstored => rfl
    | stored =>
      cases (hstore.right _ _ (List.mem_singleton_self _)).resolve_left (by simp)
      exact (Object.conditions_withObserved _ _).trans (Object.conditions_withCondition _ _)
    | swapped _ hkind =>
      cases (hstore.right _ _ (List.mem_singleton_self _)).resolve_left (by simp)
      exact absurd rfl hkind

theorem Creating.conditions_eq {result : Except Failure Bool} (h : Creating now o xs result r') :
    r'.conditions =
      Condition.mark (readinessSet .repository xs (.created <$> result)) now o.conditions := by
  cases h with
  | refused => rfl
  | created => exact Object.conditions_withCondition o _
  | malformed => rfl
  | ungenerated => rfl
  | generated => exact Object.conditions_withCondition o _

theorem conditions_eq_of_generates {result : Except Failure Outcome × Resource}
    (h : (client.converse verb now (.repository o)).Generates xs result)
    (hstore : StoresOrFails xs) :
    result.2.conditions =
      Condition.mark (readinessSet .repository xs result.1) now o.conditions := by
  cases verb with
  | observe =>
    obtain ⟨first, heq, hobserving⟩ := observing_of_generates h
    rw [heq]
    exact hobserving.conditions_eq hstore
  | create =>
    obtain ⟨first, heq, hcreating⟩ := creating_of_generates h
    rw [heq]
    exact hcreating.conditions_eq
  | update =>
    obtain ⟨first, heq, -, hresource⟩ := updating_of_generates h
    rw [heq, hresource]
    cases first with
    | _ => rfl
  | delete =>
    obtain ⟨answer, -, heq, hresource⟩ := deleting_of_generates h
    rw [heq, hresource]
    cases answer with
    | _ => rfl

end Repository

/-- An operation of the client of a kind sets `Ready` to the state that `readinessSet` tells, and
    leaves the conditions alone if there is none. -/
theorem Kind.conditions_eq_of_generates {k : Kind} {result : Except Failure Outcome × Resource}
    (h : (k.client.converse verb now r).Generates xs result)
    (hstore : Repository.StoresOrFails xs) :
    result.2.conditions = Condition.mark (readinessSet k xs result.1) now r.conditions := by
  by_cases hkind : r.kind = k
  · subst hkind
    cases r with
    | repository o => exact Repository.conditions_eq_of_generates h hstore
    | secrets o => exact (Secret.performing_of_generates h).conditions_eq
    | membership o => exact (Membership.performing_of_generates h).conditions_eq
    | content o => exact (Content.performing_of_generates h).conditions_eq
  · obtain ⟨-, hfailed, hsame⟩ := k.demands_client.perform _ _ _ _ hkind h
    rw [hfailed, hsame]
    rfl

/-! ## Turns and sessions -/

namespace Session

variable {σ : Type} {client : Kind} {world : Dialogue.World Call Call.Answer σ}
  {others : σ → σ → Prop} {state state' : State} {w w' : σ} {turns : List Turn}

/-- The state of `Ready` that a turn sets. -/
def Turn.readinessSet (client : Kind) (t : Turn) : Option Condition.ReadyReason :=
  t.report.result.bind (GitHubReconciler.readinessSet client t.report.exchanges)

@[simp] theorem conditions_withSpec (r : Resource) (spec : Resource.AnySpec) :
    (r.withSpec spec).conditions = r.conditions := by
  cases r with
  | _ => cases spec with
    | _ => rfl

/-- What a turn makes of the conditions. -/
theorem conditions_eq_of_step {s : Step} {seconds : Float} {report : Report}
    (h : step client world now seconds s state w = (report, state', w'))
    (hs : ∀ r, s ≠ .setResource r) (hstore : Repository.StoresOrFails report.exchanges) :
    state'.resource.conditions =
      Condition.mark (Turn.readinessSet client ⟨s, now, seconds, report⟩) now
        state.resource.conditions := by
  cases s with
  | perform verb =>
    obtain ⟨result, hresult, hgenerates, -⟩ := generates_of_step h
    rw [Turn.readinessSet, hresult]
    exact Kind.conditions_eq_of_generates hgenerates hstore
  | setSpec spec =>
    cases h
    exact conditions_withSpec _ _
  | setResource r => exact absurd rfl (hs r)
  | configureMetrics config =>
    cases h
    rfl

/-- How a `Ready` condition has come to stand after some turns of a session. -/
inductive Standing (client : Kind) (world : Dialogue.World Call Call.Answer σ)
    (others : σ → σ → Prop) (state : State) (w : σ) : List Turn → Condition → Prop where
  /-- It was there from the start, and turns have set no other state. -/
  | initial {turns : List Turn} {c : Condition} :
      state.resource.ready? = some c →
      (∀ t ∈ turns, ∀ reason ∈ t.readinessSet client, c.IsReady reason) →
      Standing client world others state w turns c
  /-- A turn has entered the state, in which the condition was not before, and later turns have set
      no other. -/
  | entered {before after : List Turn} {t : Turn} {reason : Condition.ReadyReason} {middle : State}
      {w' : σ} :
      Run client world others state w before middle w' →
      (∀ c ∈ middle.resource.ready?, ¬ c.IsReady reason) →
      t.readinessSet client = some reason →
      (∀ u ∈ after, ∀ reason' ∈ u.readinessSet client, reason' = reason) →
      Standing client world others state w (before ++ t :: after) (.ready reason t.now)

/-- A turn that sets no other state leaves the condition standing. -/
theorem Standing.snoc {c : Condition} {t : Turn} (h : Standing client world others state w turns c)
    (ht : ∀ reason ∈ t.readinessSet client, c.IsReady reason) :
    Standing client world others state w (turns ++ [t]) c := by
  cases h with
  | initial hinitial hturns =>
    apply Standing.initial hinitial
    intro u hu
    rcases List.mem_append.mp hu with hu | hu
    · exact hturns u hu
    · cases List.mem_singleton.mp hu
      exact ht
  | @entered before after u reason _ _ hrun hbefore hset hafter =>
    rw [List.append_assoc, List.cons_append]
    apply Standing.entered hrun hbefore hset
    intro v hv reason' hreason'
    rcases List.mem_append.mp hv with hv | hv
    · exact hafter v hv reason' hreason'
    · cases List.mem_singleton.mp hv
      exact (ht reason' hreason').eq (Condition.isReady_ready reason u.now)

/-- The state of `Ready` that was set last. -/
def lastReadiness (client : Kind) (turns : List Turn) : Option Condition.ReadyReason :=
  (turns.filterMap (·.readinessSet client)).getLast?

theorem lastReadiness_snoc (turns : List Turn) (t : Turn) :
    lastReadiness client (turns ++ [t]) =
      (t.readinessSet client).or (lastReadiness client turns) := by
  unfold lastReadiness
  cases hset : t.readinessSet client with
  | _ => simp [hset]

/-- What a session has made of the `Ready` condition of its resource, which is `r` now. -/
structure Readiness (client : Kind) (world : Dialogue.World Call Call.Answer σ)
    (others : σ → σ → Prop) (state : State) (w : σ) (turns : List Turn) (r : Resource) : Prop where
  /-- The condition shows the state that was set last. -/
  shows : ∀ reason ∈ lastReadiness client turns, ∃ c ∈ r.ready?, c.IsReady reason
  /-- Without such a state it is as it was. -/
  keeps : lastReadiness client turns = none → r.ready? = state.resource.ready?
  /-- Its time is when its state was entered. -/
  stands : ∀ c ∈ r.ready?, Standing client world others state w turns c
  /-- It remains the only one. -/
  single : state.resource.conditions.countP (·.type == Condition.readyType) ≤ 1 →
    r.conditions.countP (·.type == Condition.readyType) ≤ 1

section Turns

variable {t : Turn} (hrun : Run client world others state w turns state' w')
  (h : Readiness client world others state w turns state'.resource)
  (hr : r.conditions = Condition.mark (t.readinessSet client) t.now state'.resource.conditions)

include h hr

theorem Readiness.countP_le_one
    (hstart : state.resource.conditions.countP (·.type == Condition.readyType) ≤ 1) :
    r.conditions.countP (·.type == Condition.readyType) ≤ 1 := by
  rw [hr]
  exact Condition.countP_mark_le_one _ (h.single hstart)

/-- A turn that sets no state, or the one that the condition shows, leaves the condition alone. -/
theorem Readiness.snoc_of_eq (hsame : r.ready? = state'.resource.ready?)
    (hset : ∀ reason ∈ t.readinessSet client, ∃ c ∈ state'.resource.ready?, c.IsReady reason) :
    Readiness client world others state w (turns ++ [t]) r where
  shows reason hlast := by
    rw [hsame]
    rw [lastReadiness_snoc] at hlast
    rcases Option.or_eq_some_iff.mp hlast with hset' | ⟨-, hlast⟩
    · exact hset reason hset'
    · exact h.shows reason hlast
  keeps hlast := by
    rw [lastReadiness_snoc, Option.or_eq_none_iff] at hlast
    rw [hsame, h.keeps hlast.2]
  stands c hc := by
    rw [hsame] at hc
    apply (h.stands c hc).snoc
    intro reason hreason
    obtain ⟨d, hd, hready⟩ := hset reason hreason
    rwa [Option.some.inj (hc.symm.trans hd)]
  single := h.countP_le_one hr

include hrun

/-- A turn that sets another state than the condition shows puts a new condition in its place. -/
theorem Readiness.snoc_of_ne {reason : Condition.ReadyReason}
    (hset : t.readinessSet client = some reason)
    (hother : ∀ c ∈ state'.resource.ready?, ¬ c.IsReady reason) :
    Readiness client world others state w (turns ++ [t]) r := by
  have hlast : lastReadiness client (turns ++ [t]) = some reason := by
    rw [lastReadiness_snoc, hset, Option.some_or]
  have hready : r.ready? = some (.ready reason t.now) := by
    rw [hset] at hr
    exact (congrArg (Condition.find? _) hr).trans (Condition.find?_mark_of_not_isReady hother)
  refine ⟨?_, ?_, ?_, h.countP_le_one hr⟩
  · rw [hlast, hready]
    rintro _ ⟨⟩
    exact ⟨_, rfl, Condition.isReady_ready reason t.now⟩
  · rw [hlast]
    rintro ⟨⟩
  · rw [hready]
    rintro _ ⟨⟩
    exact .entered hrun hother hset (by simp)

theorem Readiness.snoc : Readiness client world others state w (turns ++ [t]) r := by
  cases hset : t.readinessSet client with
  | none =>
    apply h.snoc_of_eq hr
    · rw [hset] at hr
      exact congrArg (Condition.find? _) hr
    · simp [hset]
  | some reason =>
    by_cases hin : ∃ c ∈ state'.resource.ready?, c.IsReady reason
    · apply h.snoc_of_eq hr
      · obtain ⟨c, hc, hready⟩ := hin
        rw [hset] at hr
        rw [hc]
        exact (congrArg (Condition.find? _) hr).trans (Condition.find?_mark_of_isReady hc hready)
      · rw [hset]
        rintro _ ⟨⟩
        exact hin
    · exact h.snoc_of_ne hrun hr hset fun c hc hready => hin ⟨c, hc, hready⟩

end Turns

/-- In a session whose resource is not replaced, neither from outside nor by the cluster, the
    `Ready` condition shows the state that was set last and the time at which it was entered. -/
theorem readiness_of_run (hrun : Run client world others state w turns state' w')
    (hsteps : ∀ t ∈ turns, ∀ r, t.step ≠ .setResource r)
    (hstore : Repository.StoresOrFails (exchanges turns)) :
    Readiness client world others state w turns state'.resource := by
  induction hrun with
  | start =>
    exact ⟨by simp [lastReadiness], fun _ => rfl, fun c hc => .initial hc (by simp), id⟩
  | turn s now seconds hrun hstep ih =>
    rw [exchanges_snoc] at hstore
    have hbefore := ih (fun t ht => hsteps t (List.mem_append_left _ ht)) hstore.left
    have hs := hsteps _ (List.mem_append_right _ (List.mem_singleton_self _))
    exact hbefore.snoc hrun (conditions_eq_of_step hstep hs hstore.right)
  | disturbed hrun hothers ih => exact ih hsteps hstore

/-- An invitation. -/
def awaited : State where
  resource := .membership
    { metadata := {}
      spec := { forProvider := { user := "octocat", organization := "acme" } } }

/-- A world in which an invitation is accepted after it has been looked at once. -/
def accepting : Dialogue.World Call Call.Answer Bool
  | .getMembership .., accepted =>
      (Except.ok { state := some (if accepted then "active" else "pending") }, true)
  | c, accepted => (declined c, accepted)

/-- Looking at the invitation on three days. -/
def polling : List Cue :=
  [⟨.perform .observe, "monday", 1⟩, ⟨.perform .observe, "tuesday", 1⟩,
    ⟨.perform .observe, "wednesday", 1⟩]

/-- What comes of it. -/
def polls : List Turn × State × Bool :=
  play .membership accepting polling awaited false

theorem run_polls : Run .membership accepting Eq awaited false polls.1 polls.2.1 polls.2.2 :=
  Run.start.play polling

theorem storesOrFails_polls : Repository.StoresOrFails (exchanges polls.1) := by
  intro q answer hmem
  obtain ⟨accepted, rfl⟩ := run_polls.exists_answer hmem
  exact .inr rfl

/-- The member is ready since the second day, when the invitation had been accepted. -/
theorem readiness_of_run_polls :
    ∃ c ∈ polls.2.1.resource.ready?, c.IsReady .available ∧
      c.lastTransitionTime = some "tuesday" := by
  obtain ⟨c, hc, hready⟩ :=
    (readiness_of_run run_polls (by simp [polls, polling, play, step]) storesOrFails_polls).shows
      .available rfl
  refine ⟨c, hc, hready, ?_⟩
  cases hc
  rfl

end Session

end GitHubReconciler
