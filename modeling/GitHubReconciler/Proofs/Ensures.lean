-- SUMMARY: What a dialogue notes and gives if it is answered as allowed (`Dialogue.Ensures`), with one rule for each way to build an operation (`Operation.Ensures`, `Operation.Tells`).
import GitHubReconciler.Proofs.Operation

/-!
# What operations note

`Ensures` is the weakest precondition of a dialogue: it says that the notes and the value are as a
postcondition says, whatever answers come, as long as they are allowed. The rules for operations
work through an operation from its first step on and leave the postcondition to be shown at its
ends.

Of the notes only those that metrics count matter here, the facts. `Tells` says that the facts an
operation notes can be told from its result, and `Silent` that there are none.
-/

namespace GitHubReconciler

namespace Dialogue

variable {Q : Type} {A : Q → Type} {N M : Type} {σ α β : Type} {allowed : Exchange Q A → Prop}
  {d : Dialogue Q A N α}

/-- If the answers are allowed, the notes and the value are as the postcondition says. -/
def Ensures (allowed : Exchange Q A → Prop) :
    Dialogue Q A N α → (List N → α → Prop) → Prop
  | .done x, post => post [] x
  | .ask q next, post => ∀ a, allowed ⟨q, a⟩ → (next a).Ensures allowed post
  | .note n next, post => next.Ensures allowed fun ns x => post (n :: ns) x

namespace Ensures

theorem mono {post weaker : List N → α → Prop} (h : d.Ensures allowed post)
    (himp : ∀ ns x, post ns x → weaker ns x) : d.Ensures allowed weaker := by
  induction d generalizing post weaker with
  | done x => exact himp [] x h
  | ask q next ih => exact fun a ha => ih a (h a ha) himp
  | note n next ih => exact ih h fun ns x => himp (n :: ns) x

theorem bind {f : α → Dialogue Q A N β} {post : List N → β → Prop}
    (h : d.Ensures allowed fun ns x => (f x).Ensures allowed fun ms y => post (ns ++ ms) y) :
    (d >>= f).Ensures allowed post := by
  induction d generalizing post with
  | done x => exact h
  | ask q next ih => exact fun a ha => ih a (h a ha)
  | note n next ih => exact ih h

theorem mapNotes {f : N → M} {post : List M → α → Prop}
    (h : d.Ensures allowed fun ns x => post (ns.map f) x) :
    (d.mapNotes f).Ensures allowed post := by
  induction d generalizing post with
  | done x => exact h
  | ask q next ih => exact fun a ha => ih a (h a ha)
  | note n next ih => exact ih h

/-- What is ensured holds of every run in which all answers are allowed. -/
theorem run {post : List N → α → Prop} (h : d.Ensures allowed post) (world : World Q A σ) (s : σ)
    (hallowed : ∀ x ∈ (d.run world s).exchanges, allowed x) :
    post (d.run world s).notes (d.run world s).value := by
  induction d generalizing post s with
  | done x => exact h
  | ask q next ih =>
    obtain ⟨hfirst, hrest⟩ := List.forall_mem_cons.mp hallowed
    exact ih _ (h _ hfirst) _ hrest
  | note n next ih => exact ih h s hallowed

end Ensures

end Dialogue

/-! ## Facts -/

/-- Whether a note is one that metrics count. -/
def Note.isFact : Note → Bool
  | .event _ => false
  | _ => true

/-- The notes that metrics count. -/
def facts (notes : List Note) : List Note :=
  notes.filter Note.isFact

@[simp] theorem facts_append (ns ms : List Note) : facts (ns ++ ms) = facts ns ++ facts ms :=
  List.filter_append ns ms

/-- A span changes events only. -/
@[simp] theorem facts_map_inSpan (span : Span) (ns : List Note) :
    facts (ns.map (Note.inSpan span)) = facts ns := by
  induction ns with
  | nil => rfl
  | cons n ns ih =>
    cases n with
    | event e => exact ih
    | _ => exact congrArg (List.cons _) ih

namespace Operation

variable {α β : Type} {allowed : Exchange → Prop} {r : Resource}

/-! ## Rules for operations -/

/-- What an operation notes, how it ends and the resource it leaves are as the postcondition
    says. -/
def Ensures (allowed : Exchange → Prop) (op : Operation α) (r : Resource)
    (post : List Note → Except Failure α → Resource → Prop) : Prop :=
  ((ExceptT.run op).run r).Ensures allowed fun ns x => post ns x.1 x.2

variable {post : List Note → Except Failure β → Resource → Prop}

@[simp] theorem ensures_pure {x : β} : Ensures allowed (pure x) r post ↔ post [] (.ok x) r :=
  Iff.rfl

@[simp] theorem ensures_throw {failure : Failure} :
    Ensures allowed (throw failure) r post ↔ post [] (.error failure) r :=
  Iff.rfl

@[simp] theorem ensures_set_bind {s : Resource} {f : PUnit → Operation β} :
    Ensures allowed (set s >>= f) r post ↔ Ensures allowed (f ⟨⟩) s post :=
  Iff.rfl

@[simp] theorem ensures_call_bind {c : Call} {f : c.Answer → Operation β} :
    Ensures allowed (call c >>= f) r post ↔
      ∀ answer, allowed ⟨c, answer⟩ → Ensures allowed (f answer) r post :=
  Iff.rfl

@[simp] theorem ensures_note_bind {n : Note} {f : Unit → Operation β} :
    Ensures allowed (note n >>= f) r post ↔
      Ensures allowed (f ()) r fun ns result s => post (n :: ns) result s :=
  Iff.rfl

@[simp] theorem ensures_getRepositoryObject_bind {o : RepositoryObject}
    {f : RepositoryObject → Operation β} :
    Ensures allowed (getRepositoryObject >>= f) (.repository o) post ↔
      Ensures allowed (f o) (.repository o) post :=
  Iff.rfl

theorem Ensures.mono {op : Operation β}
    {weaker : List Note → Except Failure β → Resource → Prop} (h : Ensures allowed op r post)
    (himp : ∀ ns result s, post ns result s → weaker ns result s) : Ensures allowed op r weaker :=
  Dialogue.Ensures.mono h fun ns x => himp ns x.1 x.2

theorem Ensures.bind {op : Operation α} {f : α → Operation β}
    (h : Ensures allowed op r fun ns result s =>
      match result with
      | .ok x => Ensures allowed (f x) s fun ms => post (ns ++ ms)
      | .error failure => post ns (.error failure) s) :
    Ensures allowed (op >>= f) r post := by
  change ((ExceptT.run op).run r >>= fun p => (ExceptT.bindCont f p.1).run p.2).Ensures allowed _
  apply Dialogue.Ensures.bind
  apply Dialogue.Ensures.mono h
  rintro ns ⟨result, s⟩ hpost
  cases result with
  | ok x => exact hpost
  | error failure =>
    change post (ns ++ []) (.error failure) s
    rwa [List.append_nil]

/-! ## Facts that results tell -/

/-- The facts that an operation notes on any resource can be told from its result. -/
def Tells (allowed : Exchange → Prop) (op : Operation α) (told : Except Failure α → List Note) :
    Prop :=
  ∀ r, Ensures allowed op r fun ns result _ => facts ns = told result

/-- An operation notes no facts. -/
def Silent (allowed : Exchange → Prop) (op : Operation α) : Prop :=
  Tells allowed op fun _ => []

theorem silent_pure (x : α) : Silent allowed (pure x) :=
  fun _ => ensures_pure.mpr rfl

theorem silent_throw (failure : Failure) : Silent allowed (throw failure : Operation α) :=
  fun _ => ensures_throw.mpr rfl

theorem silent_set (s : Resource) : Silent allowed (set s) := fun _ => rfl

theorem silent_call (c : Call) : Silent allowed (call c) := fun _ _ _ => rfl

theorem silent_log (level : Level) (message : String) (fields : List (String × FieldValue)) :
    Silent allowed (log level message fields) := fun _ => rfl

theorem silent_expect (context : String) (answer : Call.FromGitHub α) :
    Silent allowed (expect context answer) := by
  cases answer with
  | ok x => exact silent_pure x
  | error failure => exact silent_throw _

theorem silent_getRepositoryObject : Silent allowed getRepositoryObject := by
  intro r
  cases r with
  | _ => rfl

theorem silent_getSecretObject : Silent allowed getSecretObject := by
  intro r
  cases r with
  | _ => rfl

theorem silent_getMembershipObject : Silent allowed getMembershipObject := by
  intro r
  cases r with
  | _ => rfl

theorem silent_getContentObject : Silent allowed getContentObject := by
  intro r
  cases r with
  | _ => rfl

/-- What follows a silent operation tells for both, as long as failures tell nothing. -/
theorem Silent.bind_tells {op : Operation α} {f : α → Operation β}
    {told : Except Failure β → List Note} (h : Silent allowed op)
    (hf : ∀ x, Tells allowed (f x) told) (herror : ∀ failure, told (.error failure) = []) :
    Tells allowed (op >>= f) told := by
  intro r
  apply Ensures.bind
  apply (h r).mono
  intro ns result s hsilent
  cases result with
  | ok x =>
    apply (hf x s).mono
    intro ms y _ htold
    rw [facts_append, hsilent, htold]
    rfl
  | error failure => exact hsilent.trans (herror failure).symm

theorem Silent.bind {op : Operation α} {f : α → Operation β} (h : Silent allowed op)
    (hf : ∀ x, Silent allowed (f x)) : Silent allowed (op >>= f) :=
  h.bind_tells hf fun _ => rfl

/-! ## Whole operations -/

theorem Ensures.map {op : Operation α} {f : α → β}
    (h : Ensures allowed op r fun ns result s => post ns (f <$> result) s) :
    Ensures allowed (f <$> op) r post := by
  rw [map_eq_pure_bind]
  apply Ensures.bind
  apply h.mono
  intro ns result s hpost
  cases result with
  | ok x =>
    change post (ns ++ []) _ s
    rwa [List.append_nil]
  | error failure => exact hpost

theorem Tells.map {op : Operation α} {f : α → β} {told : Except Failure α → List Note}
    {told' : Except Failure β → List Note} (h : Tells allowed op told)
    (htold : ∀ result, told' (f <$> result) = told result) : Tells allowed (f <$> op) told' := by
  intro r
  apply Ensures.map
  apply (h r).mono
  intro ns result s hfacts
  rw [hfacts, htold]

/-- The facts that are noted after an operation. -/
def closingFacts (kind : Kind) (verb : Verb) : Except Failure α → List Note
  | .ok _ => [.finished kind.name verb.name]
  | .error failure =>
      [.finished kind.name verb.name, .failed kind.name verb.name failure.reason]

theorem facts_closingNotes (kind : Kind) (verb : Verb) (span : Span) (result : Except Failure α) :
    facts (closingNotes kind verb span result) = closingFacts kind verb result := by
  cases result with
  | _ => rfl

@[simp] theorem closingFacts_map (kind : Kind) (verb : Verb) (f : α → β)
    (result : Except Failure α) :
    closingFacts kind verb (f <$> result) = closingFacts kind verb result := by
  cases result with
  | _ => rfl

theorem ensures_noteAll {notes : List Note} {d : Conversation α} {post : List Note → α → Prop} :
    (noteAll notes d).Ensures allowed post ↔
      d.Ensures allowed fun ns x => post (notes ++ ns) x := by
  induction notes generalizing post with
  | nil => rfl
  | cons n rest ih => exact ih

theorem Tells.instrumented {kind : Kind} {verb : Verb} {body : Operation α}
    {told : Except Failure α → List Note} (h : Tells allowed body told) :
    Tells allowed (instrumented kind verb body) fun result =>
      told result ++ closingFacts kind verb result := by
  intro r
  change (Dialogue.mapNotes _ _ >>= _).Ensures allowed _
  apply Dialogue.Ensures.bind
  apply Dialogue.Ensures.mapNotes
  apply Dialogue.Ensures.mono (h r)
  rintro ns ⟨result, s⟩ hfacts
  rw [ensures_noteAll]
  change facts (_ ++ (_ ++ [])) = _
  rw [List.append_nil, facts_append, facts_map_inSpan, facts_closingNotes, hfacts]

end Operation

end GitHubReconciler
