-- SUMMARY: What the operations of the clients leave alone in their resource (`Frame`), one by one and over whole sessions (`frame_of_run`).
import GitHubReconciler.Proofs.Readiness
import GitHubReconciler.Proofs.Repository.Drift

/-!
# Frames

An operation is handed the whole resource, but changes little of it. Metadata stay as they are. The
specification is changed only by observations of repositories, and these only add to it. Of the
conditions only `Ready` is touched. The observed state is recorded by observations that find
something, for secrets by uploads and deletions instead.

`Frame` says so of the resources before and after. It is a preorder, so a session keeps what its
turns keep.
-/

namespace GitHubReconciler

open Operation

variable {verb : Verb} {now : String} {r r' r'' : Resource} {xs : List Exchange}
  {outcome : Except Failure Outcome}

/-! ## Specifications that are filled in -/

namespace Repository.Desired

variable {d d' d'' : Desired}

/-- `d'` sets all that `d` sets, and sets it alike. The template alone may be another one. -/
structure Extends (d' d : Desired) : Prop where
  owner_eq : d'.owner = d.owner
  name_eq : d'.name = d.name
  organization : Kept d.organization d'.organization
  settings : d'.settings.Carries d.settings
  autoInit : Kept d.settings.autoInit d'.settings.autoInit

theorem Extends.trans (h : d''.Extends d') (h' : d'.Extends d) : d''.Extends d where
  owner_eq := h.owner_eq.trans h'.owner_eq
  name_eq := h.name_eq.trans h'.name_eq
  organization := h'.organization.trans h.organization
  settings := h.settings.trans h'.settings
  autoInit := h'.autoInit.trans h.autoInit

/-- A default branch that is set stays, even while the repository is being generated. -/
theorem kept_filledBranch {set : Option String} {found : Remote.Repository}
    {ready : Option Condition} : Kept set (filledBranch set found ready) := by
  rintro branch rfl
  simp [filledBranch]

theorem extends_fill {found : Remote.Repository} {ready : Option Condition} :
    (d.fill found ready).1.Extends d := by
  rw [fill_fst]
  refine ⟨rfl, rfl, kept_or_left, ?_, kept_or_left⟩
  simp [Settings.carries_iff, Settings.orElse, kept_or_left, kept_filledBranch]

end Repository.Desired

/-- What a specification may become: it stays, or more of a repository is set in it, with the same
    reference to a provider's configuration. -/
inductive Resource.AnySpec.Extends : Resource.AnySpec → Resource.AnySpec → Prop where
  | refl (spec : Resource.AnySpec) : Extends spec spec
  | filled {d' d : Repository.Desired} {providerConfig : Option Reference} :
      d'.Extends d →
      Extends (.repository { forProvider := d', providerConfig })
        (.repository { forProvider := d, providerConfig })

theorem Resource.AnySpec.Extends.trans {spec spec' spec'' : Resource.AnySpec}
    (h : spec''.Extends spec') (h' : spec'.Extends spec) : spec''.Extends spec := by
  cases h with
  | refl => exact h'
  | filled hextends =>
    cases h' with
    | refl => exact .filled hextends
    | filled hextends' => exact .filled (hextends.trans hextends')

/-! ## Frames -/

/-- An observed state of one of the kinds. -/
inductive Resource.AnyObserved where
  | repository (observed : Repository.Observed)
  | secrets (observed : Secret.Fingerprint)
  | membership (observed : Membership.Observed)
  | content (observed : Content.Observed)

def Resource.spec : Resource → AnySpec
  | repository o => .repository o.spec
  | secrets o => .secrets o.spec
  | membership o => .membership o.spec
  | content o => .content o.spec

/-- The state that was last observed, or the empty one. -/
def Resource.observed : Resource → AnyObserved
  | repository o => .repository o.observed
  | secrets o => .secrets o.observed
  | membership o => .membership o.observed
  | content o => .content o.observed

/-- What stays of a resource `r` that becomes `r'`, depending on whether its specification may be
    filled in and whether an observed state may be recorded. -/
structure Frame (fills records : Prop) (r r' : Resource) : Prop where
  metadata_eq : r'.metadata = r.metadata
  extends_spec : r'.spec.Extends r.spec
  spec_eq : ¬ fills → r'.spec = r.spec
  marked : Condition.Marked r.conditions r'.conditions
  observed_eq : ¬ records → r'.observed = r.observed

namespace Frame

variable {fills fills' records records' : Prop} {reason? : Option Condition.ReadyReason}

theorem refl (r : Resource) : Frame fills records r r :=
  ⟨rfl, .refl _, fun _ => rfl, .refl _, fun _ => rfl⟩

theorem trans (h : Frame fills records r r') (h' : Frame fills' records' r' r'') :
    Frame (fills ∨ fills') (records ∨ records') r r'' where
  metadata_eq := h'.metadata_eq.trans h.metadata_eq
  extends_spec := h'.extends_spec.trans h.extends_spec
  spec_eq hfills :=
    (h'.spec_eq fun hlater => hfills (.inr hlater)).trans
      (h.spec_eq fun hearlier => hfills (.inl hearlier))
  marked := h.marked.trans h'.marked
  observed_eq hrecords :=
    (h'.observed_eq fun hlater => hrecords (.inr hlater)).trans
      (h.observed_eq fun hearlier => hrecords (.inl hearlier))

theorem mono (h : Frame fills records r r') (hfills : fills → fills')
    (hrecords : records → records') : Frame fills' records' r r' where
  metadata_eq := h.metadata_eq
  extends_spec := h.extends_spec
  spec_eq hno := h.spec_eq fun hyes => hno (hfills hyes)
  marked := h.marked
  observed_eq hno := h.observed_eq fun hyes => hno (hrecords hyes)

/-- A change that keeps the specification and marks the conditions once. -/
theorem of_mark (hconditions : r'.conditions = Condition.mark reason? now r.conditions)
    (hmetadata : r'.metadata = r.metadata) (hspec : r'.spec = r.spec)
    (hobserved : ¬ records → r'.observed = r.observed) : Frame fills records r r' where
  metadata_eq := hmetadata
  extends_spec := by
    rw [hspec]
    exact .refl _
  spec_eq _ := hspec
  marked := by
    rw [hconditions]
    exact Condition.marked_mark reason?
  observed_eq := hobserved

end Frame

/-! ## Operation by operation -/

/-- Whether an operation fills in the specification. -/
def Fills (client : Kind) (verb : Verb) : Prop :=
  client = .repository ∧ verb = .observe

/-- Whether an operation that has ended so records an observed state. -/
def Records (client : Kind) : Except Failure Outcome → Prop
  | .ok (.observed observation) => client ≠ .secrets ∧ observation.resourceExists = true
  | .ok _ => client = .secrets
  | .error _ => False

theorem Membership.Performing.frame {o : MembershipObject}
    (h : Performing now o verb xs outcome r') :
    Frame (Fills .membership verb) (Records .membership outcome) (.membership o) r' := by
  have hconditions := h.conditions_eq
  cases h with
  | observed hobserving =>
    cases hobserving with
    | absent => exact .refl _
    | failed => exact .refl _
    | found => exact .of_mark hconditions rfl rfl fun hno => absurd ⟨by decide, rfl⟩ hno
  | notInvited => exact .refl _
  | invited => exact .refl _
  | updated => exact .refl _
  | notRemoved => exact .refl _
  | removed => exact .refl _

theorem Content.Performing.frame {o : ContentObject} (h : Performing now o verb xs outcome r') :
    Frame (Fills .content verb) (Records .content outcome) (.content o) r' := by
  have hconditions := h.conditions_eq
  cases h with
  | observed hobserving =>
    cases hobserving with
    | absent => exact .refl _
    | failed => exact .refl _
    | found => exact .of_mark hconditions rfl rfl fun hno => absurd ⟨by decide, rfl⟩ hno
  | notCreated => exact .refl _
  | created => exact .of_mark hconditions rfl rfl fun _ => rfl
  | updated => exact .refl _
  | deleted hdeleting =>
    cases hdeleting with
    | gone => exact .refl _
    | failed => exact .refl _
    | refused => exact .refl _
    | deleted => exact .of_mark hconditions rfl rfl fun _ => rfl

theorem Secret.Performing.frame {o : SecretObject} (h : Performing now o verb xs outcome r') :
    Frame (Fills .secrets verb) (Records .secrets outcome) (.secrets o) r' := by
  have hconditions := h.conditions_eq
  cases h with
  | observed hobserving =>
    cases hobserving with
    | absent => exact .refl _
    | unread => exact .refl _
    | valueless => exact .refl _
    | compared => exact .of_mark hconditions rfl rfl fun _ => rfl
  | notUploaded => exact .refl _
  | created => exact .of_mark hconditions rfl rfl fun hno => absurd rfl hno
  | updated => exact .of_mark hconditions rfl rfl fun hno => absurd rfl hno
  | notDeleted => exact .refl _
  | deleted => exact .of_mark hconditions rfl rfl fun hno => absurd rfl hno

namespace Repository

variable {o : RepositoryObject}

/-- Filling in changes only the specification. -/
theorem frame_filling (found : Remote.Repository) :
    Frame True False (.repository o) (.repository (o.withDesired (filling o found).1)) where
  metadata_eq := rfl
  extends_spec := .filled Desired.extends_fill
  spec_eq hno := absurd trivial hno
  marked := .refl _
  observed_eq _ := rfl

/-- Recording a repository leaves the specification alone. -/
theorem frame_recording (found : Remote.Repository) :
    Frame False True (.repository o) (.repository (recording now o found)) := by
  have hconditions : (recording now o found).conditions =
      Condition.mark (some .available) now o.conditions :=
    (Object.conditions_withObserved _ _).trans (Object.conditions_withCondition o _)
  exact .of_mark hconditions rfl rfl fun hno => absurd trivial hno

theorem Settling.frame {found : Remote.Repository} {result : Except Failure Observation}
    (h : Settling now o found xs result r') (hstore : StoresOrFails xs) :
    Frame True (Records .repository (.observed <$> result)) (.repository o) r' := by
  cases h with
  | full => exact (frame_recording _).mono False.elim fun _ => ⟨by decide, rfl⟩
  | unstored => exact (frame_filling found).mono id False.elim
  | stored =>
    cases (hstore _ _ (List.mem_singleton_self _)).resolve_left (by simp)
    exact ((frame_filling found).trans (frame_recording (filling o found).2)).mono
      (fun _ => trivial) fun _ => ⟨by decide, rfl⟩
  | swapped _ hkind =>
    cases (hstore _ _ (List.mem_singleton_self _)).resolve_left (by simp)
    exact absurd rfl hkind

theorem Observing.frame {result : Except Failure Observation} (h : Observing now o xs result r')
    (hstore : StoresOrFails xs) :
    Frame True (Records .repository (.observed <$> result)) (.repository o) r' := by
  cases h with
  | absent => exact .refl _
  | failed => exact .refl _
  | found _ hsettling => exact hsettling.frame hstore.right

theorem Creating.frame {result : Except Failure Bool} (h : Creating now o xs result r') :
    Frame False False (.repository o) r' := by
  have hconditions := h.conditions_eq
  cases h with
  | refused => exact .refl _
  | created => exact .of_mark hconditions rfl rfl fun _ => rfl
  | malformed => exact .refl _
  | ungenerated => exact .refl _
  | generated => exact .of_mark hconditions rfl rfl fun _ => rfl

theorem frame_of_generates {result : Except Failure Outcome × Resource}
    (h : (client.converse verb now (.repository o)).Generates xs result)
    (hstore : StoresOrFails xs) :
    Frame (Fills .repository verb) (Records .repository result.1) (.repository o) result.2 := by
  cases verb with
  | observe =>
    obtain ⟨first, heq, hobserving⟩ := observing_of_generates h
    rw [heq]
    exact (hobserving.frame hstore).mono (fun _ => ⟨rfl, rfl⟩) id
  | create =>
    obtain ⟨first, -, hcreating⟩ := creating_of_generates h
    exact hcreating.frame.mono False.elim False.elim
  | update =>
    obtain ⟨first, -, -, hresource⟩ := updating_of_generates h
    rw [hresource]
    exact .refl _
  | delete =>
    obtain ⟨answer, -, -, hresource⟩ := deleting_of_generates h
    rw [hresource]
    exact .refl _

end Repository

/-- What an operation of the client of a kind leaves alone in a resource, which need not be of the
    kind. -/
theorem Kind.frame_of_generates {k : Kind} {result : Except Failure Outcome × Resource}
    (h : (k.client.converse verb now r).Generates xs result)
    (hstore : Repository.StoresOrFails xs) :
    Frame (Fills k verb) (Records k result.1) r result.2 := by
  by_cases hkind : r.kind = k
  · subst hkind
    cases r with
    | repository o => exact Repository.frame_of_generates h hstore
    | secrets o => exact (Secret.performing_of_generates h).frame
    | membership o => exact (Membership.performing_of_generates h).frame
    | content o => exact (Content.performing_of_generates h).frame
  · obtain ⟨-, -, hsame⟩ := k.demands_client.perform _ _ _ _ hkind h
    rw [hsame]
    exact .refl _

/-! ## Sessions -/

namespace Session

variable {σ : Type} {client : Kind} {world : Dialogue.World Call Call.Answer σ}
  {others : σ → σ → Prop} {state state' : State} {w w' : σ} {turns : List Turn}

/-- A turn in which the specification may be filled in. -/
def Turn.Fills (client : Kind) (t : Turn) : Prop :=
  ∃ verb, t.step = .perform verb ∧ GitHubReconciler.Fills client verb

/-- A turn in which an observed state is recorded. -/
def Turn.Records (client : Kind) (t : Turn) : Prop :=
  ∃ outcome, t.report.result = some outcome ∧ GitHubReconciler.Records client outcome

/-- In a session of operations, whatever they are answered, the resource keeps its metadata. Its
    specification is at most filled in, its conditions are at most marked, and the observed state is
    that of the start unless some turn has recorded another. -/
theorem frame_of_run (hrun : Run client world others state w turns state' w')
    (hsteps : ∀ t ∈ turns, ∃ verb, t.step = .perform verb)
    (hstore : Repository.StoresOrFails (exchanges turns)) :
    Frame (∃ t ∈ turns, t.Fills client) (∃ t ∈ turns, t.Records client) state.resource
      state'.resource := by
  induction hrun with
  | start => exact .refl _
  | turn s now seconds hrun hstep ih =>
    rw [exchanges_snoc] at hstore
    have hbefore := ih (fun t ht => hsteps t (List.mem_append_left _ ht)) hstore.left
    obtain ⟨verb, hverb⟩ := hsteps _ (List.mem_append_right _ (List.mem_singleton_self _))
    cases hverb
    obtain ⟨result, hresult, hgenerates, -⟩ := generates_of_step hstep
    refine (hbefore.trans (Kind.frame_of_generates hgenerates hstore.right)).mono ?_ ?_
    · rintro (⟨t, ht, hfills⟩ | hfills)
      · exact ⟨t, List.mem_append_left _ ht, hfills⟩
      · exact ⟨_, List.mem_append_right _ (List.mem_singleton_self _), verb, rfl, hfills⟩
    · rintro (⟨t, ht, hrecords⟩ | hrecords)
      · exact ⟨t, List.mem_append_left _ ht, hrecords⟩
      · exact ⟨_, List.mem_append_right _ (List.mem_singleton_self _), result, hresult, hrecords⟩
  | disturbed hrun hothers ih => exact ih hsteps hstore

/-- What is filled in stays although it could not be stored, and all else is as it was. -/
theorem frame_of_run_twice :
    let after := Repository.secondly.2.1.resource
    Frame (∃ t ∈ Repository.twice, t.Fills .repository)
      (∃ t ∈ Repository.twice, t.Records .repository) (.repository Repository.bare) after ∧
    after.spec ≠ (Resource.repository Repository.bare).spec := by
  intro after
  refine ⟨frame_of_run Repository.run_twice ?_ Repository.storesOrFails_twice, ?_⟩
  · simp [Repository.twice]
  · decide

end Session

end GitHubReconciler
