-- SUMMARY: The exchanges an operation can make on a resource and how it then ends (`Operation.Yields`), with one rule for each way to build an operation.
import GitHubReconciler.Operation.Basic
import GitHubReconciler.Proofs.Dialogue

/-!
# What operations yield

`Operation.Yields op r xs result r'` says that the operation, handed the resource `r`, can make
the exchanges `xs`, and that it then ends with `result` and leaves the resource `r'`. The rules
below take an operation apart from its first step on, so that the exchanges of a whole operation
can be read off its definition.
-/

namespace GitHubReconciler

/-- A question that an operation asked, with its answer. -/
abbrev Exchange := Dialogue.Exchange Call Call.Answer

namespace Operation

variable {α β : Type} {r r' : Resource} {xs : List Exchange}

/-- What an operation can do with a resource. -/
def Yields (op : Operation α) (r : Resource) (xs : List Exchange) (result : Except Failure α)
    (r' : Resource) : Prop :=
  ((ExceptT.run op).run r).Generates xs (result, r')

/-! ## Single steps -/

@[simp] theorem yields_pure {x : α} {result : Except Failure α} :
    Yields (pure x) r xs result r' ↔ xs = [] ∧ result = .ok x ∧ r' = r := by
  change (Dialogue.done (Except.ok x, r)).Generates xs (result, r') ↔ _
  simp

@[simp] theorem yields_throw {failure : Failure} {result : Except Failure α} :
    Yields (throw failure) r xs result r' ↔ xs = [] ∧ result = .error failure ∧ r' = r := by
  change (Dialogue.done (Except.error failure, r)).Generates xs (result, r') ↔ _
  simp

@[simp] theorem yields_set {s : Resource} {result : Except Failure PUnit} :
    Yields (set s) r xs result r' ↔ xs = [] ∧ result = .ok ⟨⟩ ∧ r' = s := by
  change (Dialogue.done (Except.ok PUnit.unit, s)).Generates xs (result, r') ↔ _
  simp

/-! ## Sequences

The rule for a sequence splits the exchanges. Where the first step is a single one, the rules
after it say at once what it does. -/

theorem yields_bind {op : Operation α} {f : α → Operation β} {result : Except Failure β} :
    Yields (op >>= f) r xs result r' ↔
      (∃ failure, result = .error failure ∧ Yields op r xs (.error failure) r') ∨
      ∃ ys zs x s, xs = ys ++ zs ∧ Yields op r ys (.ok x) s ∧ Yields (f x) s zs result r' := by
  change ((ExceptT.run op).run r >>= fun p => (ExceptT.bindCont f p.1).run p.2).Generates xs
    (result, r') ↔ _
  rw [Dialogue.generates_bind]
  constructor
  · rintro ⟨ys, zs, ⟨first, s⟩, rfl, hop, hf⟩
    cases first with
    | error failure =>
      change (Dialogue.done (Except.error failure, s)).Generates zs (result, r') at hf
      obtain ⟨rfl, h⟩ := Dialogue.generates_done.mp hf
      cases h
      exact .inl ⟨failure, rfl, by simpa [Yields] using hop⟩
    | ok x => exact .inr ⟨ys, zs, x, s, rfl, hop, hf⟩
  · rintro (⟨failure, rfl, hop⟩ | ⟨ys, zs, x, s, rfl, hop, hf⟩)
    · exact ⟨xs, [], (.error failure, r'), by simp, hop, .done⟩
    · exact ⟨ys, zs, (.ok x, s), rfl, hop, hf⟩

@[simp] theorem yields_set_bind {s : Resource} {f : PUnit → Operation β}
    {result : Except Failure β} :
    Yields (set s >>= f) r xs result r' ↔ Yields (f ⟨⟩) s xs result r' :=
  Iff.rfl

@[simp] theorem yields_call_bind {c : Call} {f : c.Answer → Operation β}
    {result : Except Failure β} :
    Yields (call c >>= f) r xs result r' ↔
      ∃ answer ys, xs = ⟨c, answer⟩ :: ys ∧ Yields (f answer) r ys result r' := by
  change (Dialogue.ask c fun answer => (ExceptT.run (f answer)).run r).Generates xs (result, r') ↔ _
  rw [Dialogue.generates_ask]
  rfl

@[simp] theorem yields_note_bind {n : Note} {f : Unit → Operation β} {result : Except Failure β} :
    Yields (note n >>= f) r xs result r' ↔ Yields (f ()) r xs result r' := by
  change (Dialogue.note n ((ExceptT.run (f ())).run r)).Generates xs (result, r') ↔ _
  rw [Dialogue.generates_note]
  rfl

@[simp] theorem yields_log_bind {level : Level} {message : String}
    {fields : List (String × FieldValue)} {f : Unit → Operation β} {result : Except Failure β} :
    Yields (log level message fields >>= f) r xs result r' ↔ Yields (f ()) r xs result r' :=
  yields_note_bind

@[simp] theorem yields_throw_bind {failure : Failure} {f : α → Operation β}
    {result : Except Failure β} :
    Yields (throw failure >>= f) r xs result r' ↔
      xs = [] ∧ result = .error failure ∧ r' = r :=
  yields_throw

@[simp] theorem yields_expect_ok_bind {context : String} {x : α} {f : α → Operation β}
    {result : Except Failure β} :
    Yields (expect context (.ok x) >>= f) r xs result r' ↔ Yields (f x) r xs result r' :=
  Iff.rfl

@[simp] theorem yields_expect_error_bind {context : String} {failure : ApiFailure}
    {f : α → Operation β} {result : Except Failure β} :
    Yields (expect context (.error failure) >>= f) r xs result r' ↔
      xs = [] ∧ result = .error (.remote context failure) ∧ r' = r :=
  yields_throw

@[simp] theorem yields_call {c : Call} {result : Except Failure c.Answer} :
    Yields (call c) r xs result r' ↔
      ∃ answer, xs = [⟨c, answer⟩] ∧ result = .ok answer ∧ r' = r := by
  rw [← bind_pure (call c), yields_call_bind]
  simp only [yields_pure]
  constructor
  · rintro ⟨answer, _, rfl, rfl, h⟩
    exact ⟨answer, rfl, h⟩
  · rintro ⟨answer, rfl, h⟩
    exact ⟨answer, [], rfl, rfl, h⟩

@[simp] theorem yields_note {n : Note} {result : Except Failure Unit} :
    Yields (note n) r xs result r' ↔ xs = [] ∧ result = .ok () ∧ r' = r := by
  rw [← bind_pure (note n), yields_note_bind]
  simp

@[simp] theorem yields_log {level : Level} {message : String}
    {fields : List (String × FieldValue)} {result : Except Failure Unit} :
    Yields (log level message fields) r xs result r' ↔ xs = [] ∧ result = .ok () ∧ r' = r :=
  yields_note

/-- An operation that replaces the resource once it has succeeded. -/
theorem yields_bind_set_pure {op : Operation α} {s : Resource} {y : β} {result : Except Failure β}
    (h : Yields (op >>= fun _ => set s >>= fun _ => pure y) r xs result r') :
    (∃ failure, result = .error failure ∧ Yields op r xs (.error failure) r') ∨
      ∃ x s', Yields op r xs (.ok x) s' ∧ result = .ok y ∧ r' = s := by
  rcases yields_bind.mp h with hfailed | ⟨ys, zs, x, s', rfl, hop, hset⟩
  · exact .inl hfailed
  · rw [yields_set_bind, yields_pure] at hset
    obtain ⟨rfl, rfl, rfl⟩ := hset
    exact .inr ⟨x, s', by simpa using hop, rfl, rfl⟩

/-! ## The resource -/

@[simp] theorem yields_getRepositoryObject_bind {o : RepositoryObject}
    {f : RepositoryObject → Operation β} {result : Except Failure β} :
    Yields (getRepositoryObject >>= f) (.repository o) xs result r' ↔
      Yields (f o) (.repository o) xs result r' :=
  Iff.rfl

theorem yields_getRepositoryObject_bind_of_ne {f : RepositoryObject → Operation β}
    {result : Except Failure β} (hkind : r.kind ≠ .repository) :
    Yields (getRepositoryObject >>= f) r xs result r' ↔
      xs = [] ∧ result = .error (.wrongKind Kind.repository.name) ∧ r' = r := by
  cases r with
  | repository o => exact absurd rfl hkind
  | secrets o => exact yields_throw
  | membership o => exact yields_throw
  | content o => exact yields_throw

@[simp] theorem yields_getSecretObject_bind {o : SecretObject} {f : SecretObject → Operation β}
    {result : Except Failure β} :
    Yields (getSecretObject >>= f) (.secrets o) xs result r' ↔
      Yields (f o) (.secrets o) xs result r' :=
  Iff.rfl

@[simp] theorem yields_getMembershipObject_bind {o : MembershipObject}
    {f : MembershipObject → Operation β} {result : Except Failure β} :
    Yields (getMembershipObject >>= f) (.membership o) xs result r' ↔
      Yields (f o) (.membership o) xs result r' :=
  Iff.rfl

@[simp] theorem yields_getContentObject_bind {o : ContentObject} {f : ContentObject → Operation β}
    {result : Except Failure β} :
    Yields (getContentObject >>= f) (.content o) xs result r' ↔
      Yields (f o) (.content o) xs result r' :=
  Iff.rfl

/-! ## Whole operations -/

theorem yields_map {f : α → β} {op : Operation α} {result : Except Failure β} :
    Yields (f <$> op) r xs result r' ↔ ∃ first, result = f <$> first ∧ Yields op r xs first r' := by
  rw [map_eq_pure_bind, yields_bind]
  constructor
  · rintro (⟨failure, rfl, h⟩ | ⟨ys, zs, x, s, rfl, h, hpure⟩)
    · exact ⟨.error failure, rfl, h⟩
    · obtain ⟨rfl, rfl, rfl⟩ := yields_pure.mp hpure
      exact ⟨.ok x, rfl, by simpa using h⟩
  · rintro ⟨first, rfl, h⟩
    cases first with
    | error failure => exact .inl ⟨failure, rfl, h⟩
    | ok x => exact .inr ⟨xs, [], x, r', by simp, h, by simp [Functor.map, Except.map]⟩

theorem noteAll_done (notes : List Note) (x : α) (y : α) :
    (noteAll notes (.done x)).Generates xs y ↔ xs = [] ∧ y = x := by
  induction notes with
  | nil => simp [noteAll]
  | cons n rest ih => simpa [noteAll] using ih

/-- The notes around an operation do not change what it yields. -/
@[simp] theorem yields_instrumented {kind : Kind} {verb : Verb} {body : Operation α}
    {result : Except Failure α} :
    Yields (instrumented kind verb body) r xs result r' ↔ Yields body r xs result r' := by
  change (Dialogue.mapNotes _ _ >>= _).Generates xs (result, r') ↔ _
  simp only [Dialogue.generates_bind, Dialogue.generates_mapNotes, noteAll_done]
  constructor
  · rintro ⟨ys, zs, ⟨first, s⟩, rfl, h, rfl, heq⟩
    cases heq
    simpa [Yields] using h
  · intro h
    exact ⟨xs, [], (result, r'), by simp, h, rfl, rfl⟩

end Operation

end GitHubReconciler
