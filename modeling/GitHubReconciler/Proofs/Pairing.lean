-- SUMMARY: Runs in two worlds side by side (`Dialogue.Pairing`), and a rule for each way to build a pair of operations (`Operation.Lockstep`, `Operation.Discreet`).
import GitHubReconciler.Proofs.Operation
import Mathlib.Data.List.Forall2

/-!
# Runs side by side

Whether something stays secret is a question about two runs: can those who watch them tell them
apart? A pairing has two worlds that answer alike as long as they are asked alike. `Couples` says
of two dialogues that all their runs in a pairing ask alike, and how their notes and values
compare.

Operations are compared from resources that look the same. `Lockstep` is for the parts of an
operation: the notes are the same, and so is how the parts fail. `Discreet` is for operations as a
whole: unless their results tell two runs apart, the notes do not either.
-/

namespace GitHubReconciler

namespace Dialogue

variable {Q : Type} {A : Q → Type} {N M : Type} {σ τ α β γ δ : Type}

/-! ## Two worlds -/

/-- Two worlds that give alike answers to alike questions, in states that belong together. -/
structure Pairing (asks : Q → Q → Prop) (alike : Exchange Q A → Exchange Q A → Prop)
    (σ τ : Type) where
  left : World Q A σ
  right : World Q A τ
  /-- Which states of the two worlds belong together. -/
  related : σ → τ → Prop
  answers {q q' : Q} {s : σ} {t : τ} : asks q q' → related s t →
    alike ⟨q, (left q s).1⟩ ⟨q', (right q' t).1⟩ ∧ related (left q s).2 (right q' t).2

variable {asks : Q → Q → Prop} {alike : Exchange Q A → Exchange Q A → Prop}
  {p : Pairing asks alike σ τ}

namespace Pairing

/-- How two runs in a pairing compare: their exchanges, where they leave the worlds, and their
    notes and values as `post` says. -/
structure Coupled (p : Pairing asks alike σ τ) (post : List N → α → List N → β → Prop)
    (run : Run Q A N σ α) (run' : Run Q A N τ β) : Prop where
  exchanges : List.Forall₂ alike run.exchanges run'.exchanges
  world : p.related run.world run'.world
  post : post run.notes run.value run'.notes run'.value

/-- All runs of two dialogues from states that belong together compare so. -/
def Couples (p : Pairing asks alike σ τ) (d : Dialogue Q A N α) (d' : Dialogue Q A N β)
    (post : List N → α → List N → β → Prop) : Prop :=
  ∀ s t, p.related s t → p.Coupled post (d.run p.left s) (d'.run p.right t)

namespace Couples

variable {d : Dialogue Q A N α} {d' : Dialogue Q A N β}
  {mid : List N → α → List N → β → Prop} {post : List N → γ → List N → δ → Prop}

theorem done {x : γ} {y : δ} (h : post [] x [] y) :
    p.Couples (.done x) (.done y) post :=
  fun _ _ hrelated => ⟨.nil, hrelated, h⟩

theorem ask {q q' : Q} {next : A q → Dialogue Q A N γ} {next' : A q' → Dialogue Q A N δ}
    (hasks : asks q q')
    (hnext : ∀ a a', alike ⟨q, a⟩ ⟨q', a'⟩ → p.Couples (next a) (next' a') post) :
    p.Couples (.ask q next) (.ask q' next') post := by
  intro s t hrelated
  obtain ⟨halike, hafter⟩ := p.answers hasks hrelated
  obtain ⟨hexchanges, hworld, hpost⟩ := hnext _ _ halike _ _ hafter
  exact ⟨.cons halike hexchanges, hworld, hpost⟩

theorem mono {weaker : List N → α → List N → β → Prop} (h : p.Couples d d' mid)
    (himp : ∀ ns x ms y, mid ns x ms y → weaker ns x ms y) : p.Couples d d' weaker := by
  intro s t hrelated
  obtain ⟨hexchanges, hworld, hpost⟩ := h s t hrelated
  exact ⟨hexchanges, hworld, himp _ _ _ _ hpost⟩

theorem bind {f : α → Dialogue Q A N γ} {f' : β → Dialogue Q A N δ} (h : p.Couples d d' mid)
    (hf : ∀ ns x ms y, mid ns x ms y →
      p.Couples (f x) (f' y) fun ks u ls v => post (ns ++ ks) u (ms ++ ls) v) :
    p.Couples (d >>= f) (d' >>= f') post := by
  intro s t hrelated
  obtain ⟨hexchanges, hworld, hmid⟩ := h s t hrelated
  obtain ⟨hexchanges', hworld', hpost⟩ := hf _ _ _ _ hmid _ _ hworld
  rw [run_bind, run_bind]
  exact ⟨List.rel_append hexchanges hexchanges', hworld', hpost⟩

theorem mapNotes {f f' : N → M} {post : List M → α → List M → β → Prop}
    (h : p.Couples d d' fun ns x ms y => post (ns.map f) x (ms.map f') y) :
    p.Couples (d.mapNotes f) (d'.mapNotes f') post := by
  intro s t hrelated
  obtain ⟨hexchanges, hworld, hpost⟩ := h s t hrelated
  rw [run_mapNotes, run_mapNotes]
  exact ⟨hexchanges, hworld, hpost⟩

end Couples

end Pairing

end Dialogue

/-! ## Operations -/

namespace Operation

variable {σ τ α β γ δ : Type} {asks : Call → Call → Prop} {alike : Exchange → Exchange → Prop}
  {p : Dialogue.Pairing asks alike σ τ} {view : Resource → Resource}

/-- Two results are the same failure, or values that `V` relates. -/
inductive Agree (V : α → β → Prop) : Except Failure α → Except Failure β → Prop where
  | ok {x : α} {y : β} : V x y → Agree V (.ok x) (.ok y)
  | error {failure : Failure} : Agree V (.error failure) (.error failure)

theorem Agree.eq {x y : Except Failure α} (h : Agree Eq x y) : x = y := by
  cases h with
  | ok heq => rw [heq]
  | error => rfl

/-- From resources of the same look, two operations ask alike and take the same notes, agree in
    their results, and leave resources of the same look. -/
def Lockstep (p : Dialogue.Pairing asks alike σ τ) (view : Resource → Resource)
    (V : α → β → Prop) (op : Operation α) (op' : Operation β) : Prop :=
  ∀ r r', view r = view r' →
    p.Couples ((ExceptT.run op).run r) ((ExceptT.run op').run r') fun ns x ms y =>
      ns = ms ∧ Agree V x.1 y.1 ∧ view x.2 = view y.2

/-- From resources of the same look, two operations ask alike and leave resources of the same
    look, and take the same notes if their results are the same; they are if `certain` holds. -/
def Discreet (p : Dialogue.Pairing asks alike σ τ) (view : Resource → Resource) (certain : Prop)
    (op op' : Operation α) : Prop :=
  ∀ r r', view r = view r' →
    p.Couples ((ExceptT.run op).run r) ((ExceptT.run op').run r') fun ns x ms y =>
      (certain → x.1 = y.1) ∧ (x.1 = y.1 → ns = ms) ∧ view x.2 = view y.2

/-! ### Notes and maps around operations -/

theorem run_noteAll {world : Dialogue.World Call Call.Answer σ} (notes : List Note)
    (next : Conversation α) (s : σ) :
    (noteAll notes next).run world s =
      { value := (next.run world s).value, exchanges := (next.run world s).exchanges,
        notes := notes ++ (next.run world s).notes, world := (next.run world s).world } := by
  induction notes with
  | nil => rfl
  | cons n rest ih =>
    change { (noteAll rest next).run world s with
      notes := n :: ((noteAll rest next).run world s).notes } = _
    rw [ih]
    rfl

theorem run_map (f : α → β) (op : Operation α) (r : Resource) :
    (ExceptT.run (f <$> op)).run r =
      (ExceptT.run op).run r >>= fun x => .done (f <$> x.1, x.2) := by
  refine congrArg (Dialogue.bind _) (funext fun x => ?_)
  obtain ⟨result, s⟩ := x
  cases result with
  | error failure => rfl
  | ok a => rfl

theorem eq_of_map_eq {f : α → β} (hf : ∀ a b, f a = f b → a = b) {x y : Except Failure α}
    (h : f <$> x = f <$> y) : x = y := by
  cases x with
  | error failure =>
    cases y with
    | error failure' =>
      cases h
      rfl
    | ok b => cases h
  | ok a =>
    cases y with
    | error failure => cases h
    | ok b => rw [hf a b (Except.ok.inj h)]

theorem couples_noteAll {ns ms : List Note} {d : Conversation α} {d' : Conversation β}
    {post : List Note → α → List Note → β → Prop}
    (h : p.Couples d d' fun ks x ls y => post (ns ++ ks) x (ms ++ ls) y) :
    p.Couples (noteAll ns d) (noteAll ms d') post := by
  intro s t hrelated
  obtain ⟨hexchanges, hworld, hpost⟩ := h s t hrelated
  rw [run_noteAll, run_noteAll]
  exact ⟨hexchanges, hworld, hpost⟩

/-! ### Parts of operations -/

namespace Lockstep

variable {V : α → β → Prop} {W : γ → δ → Prop} {op : Operation α} {op' : Operation β}
  {f : α → Operation γ} {f' : β → Operation δ}

theorem pure {x : α} {y : β} (h : V x y) :
    Lockstep p view V (Pure.pure x) (Pure.pure y) :=
  fun _ _ hview => .done ⟨rfl, .ok h, hview⟩

theorem throw {failure : Failure} :
    Lockstep p view V (MonadExcept.throw failure) (MonadExcept.throw failure) :=
  fun _ _ hview => .done ⟨rfl, .error, hview⟩

theorem set {s s' : Resource} (h : view s = view s') :
    Lockstep p view Eq (MonadStateOf.set s) (MonadStateOf.set s') :=
  fun _ _ _ => .done ⟨rfl, .ok rfl, h⟩

theorem call {c c' : Call} {V : c.Answer → c'.Answer → Prop} (hasks : asks c c')
    (h : ∀ a a', alike ⟨c, a⟩ ⟨c', a'⟩ → V a a') :
    Lockstep p view V (Operation.call c) (Operation.call c') :=
  fun _ _ hview => .ask hasks fun a a' halike => .done ⟨rfl, .ok (h a a' halike), hview⟩

theorem note (n : Note) : Lockstep p view Eq (Operation.note n) (Operation.note n) :=
  fun _ _ hview _ _ hrelated => ⟨.nil, hrelated, rfl, .ok rfl, hview⟩

theorem log (level : Level) (message : String) (fields : List (String × FieldValue)) :
    Lockstep p view Eq (Operation.log level message fields) (Operation.log level message fields) :=
  note _

theorem expect {context : String} {answer : Call.FromGitHub α} :
    Lockstep p view Eq (Operation.expect context answer) (Operation.expect context answer) := by
  cases answer with
  | error failure => exact throw
  | ok x => exact pure rfl

/-- If two operations begin in lockstep, what holds of their continuations holds of the whole: the
    notes taken first are the same, and stand in front of the others on both sides. -/
theorem couples_bind {post : List Note → Except Failure γ × Resource → List Note →
      Except Failure δ × Resource → Prop} {r r' : Resource}
    (h : Lockstep p view V op op') (hview : view r = view r')
    (herror : ∀ ns failure s s', view s = view s' →
      post ns (.error failure, s) ns (.error failure, s'))
    (hf : ∀ ns x y s s', V x y → view s = view s' →
      p.Couples ((ExceptT.run (f x)).run s) ((ExceptT.run (f' y)).run s') fun ks u ls v =>
        post (ns ++ ks) u (ns ++ ls) v) :
    p.Couples ((ExceptT.run (op >>= f)).run r) ((ExceptT.run (op' >>= f')).run r') post := by
  change p.Couples ((ExceptT.run op).run r >>= fun x => (ExceptT.bindCont f x.1).run x.2)
    ((ExceptT.run op').run r' >>= fun y => (ExceptT.bindCont f' y.1).run y.2) post
  refine (h r r' hview).bind ?_
  rintro ns ⟨x, s⟩ _ ⟨y, s'⟩ ⟨rfl, hagree, hlook⟩
  cases hagree with
  | ok hV => exact hf ns _ _ s s' hV hlook
  | error => exact .done (herror _ _ s s' hlook)

theorem bind (h : Lockstep p view V op op')
    (hf : ∀ x y, V x y → Lockstep p view W (f x) (f' y)) :
    Lockstep p view W (op >>= f) (op' >>= f') := by
  intro r r' hview
  refine h.couples_bind hview (fun ns failure s s' hlook => ⟨rfl, .error, hlook⟩) ?_
  intro ns x y s s' hV hlook
  refine (hf x y hV s s' hlook).mono ?_
  rintro ks u ls v ⟨rfl, hagree, hlast⟩
  exact ⟨rfl, hagree, hlast⟩

end Lockstep

/-! ### Whole operations -/

namespace Discreet

variable {certain : Prop} {op op' : Operation α}

theorem of_lockstep (h : Lockstep p view Eq op op') : Discreet p view certain op op' := by
  intro r r' hview
  refine (h r r' hview).mono ?_
  rintro ns x ms y ⟨hnotes, hagree, hlook⟩
  exact ⟨fun _ => hagree.eq, fun _ => hnotes, hlook⟩

theorem bind {first : Operation γ} {first' : Operation δ} {V : γ → δ → Prop}
    {f : γ → Operation α} {f' : δ → Operation α} (h : Lockstep p view V first first')
    (hf : ∀ x y, V x y → Discreet p view certain (f x) (f' y)) :
    Discreet p view certain (first >>= f) (first' >>= f') := by
  intro r r' hview
  refine h.couples_bind hview
    (fun ns failure s s' hlook => ⟨fun _ => rfl, fun _ => rfl, hlook⟩) ?_
  intro ns x y s s' hV hlook
  refine (hf x y hV s s' hlook).mono ?_
  rintro ks u ls v ⟨hcertain, hnotes, hlast⟩
  exact ⟨hcertain, fun heq => by rw [hnotes heq], hlast⟩

theorem map {f : α → γ} (hf : ∀ x y, f x = f y → x = y) (h : Discreet p view certain op op') :
    Discreet p view certain (f <$> op) (f <$> op') := by
  intro r r' hview
  rw [run_map, run_map]
  refine (h r r' hview).bind ?_
  rintro ns ⟨x, s⟩ ms ⟨y, s'⟩ ⟨hcertain, hnotes, hlook⟩
  refine .done ⟨fun hc => congrArg (Functor.map f) (hcertain hc), fun heq => ?_, hlook⟩
  rw [hnotes (eq_of_map_eq hf heq)]

theorem instrumented {kind : Kind} {verb : Verb}
    (hname : ∀ r r', view r = view r' → r.displayName = r'.displayName)
    (h : Discreet p view certain op op') :
    Discreet p view certain (instrumented kind verb op) (instrumented kind verb op') := by
  intro r r' hview
  have hspan : r.displayName = r'.displayName := hname r r' hview
  have hbody : p.Couples
      (((ExceptT.run op).run r).mapNotes (Note.inSpan ⟨kind.name, r.displayName, verb.name⟩))
      (((ExceptT.run op').run r').mapNotes (Note.inSpan ⟨kind.name, r'.displayName, verb.name⟩))
      fun ns x ms y => (certain → x.1 = y.1) ∧ (x.1 = y.1 → ns = ms) ∧ view x.2 = view y.2 := by
    refine .mapNotes ((h r r' hview).mono ?_)
    rintro ns x ms y ⟨hcertain, hnotes, hlook⟩
    refine ⟨hcertain, fun heq => ?_, hlook⟩
    rw [hnotes heq, hspan]
  refine hbody.bind ?_
  rintro ns ⟨x, s⟩ ms ⟨y, s'⟩ ⟨hcertain, hnotes, hlook⟩
  -- The closing notes tell the result and the span, and nothing else.
  refine couples_noteAll (.done ⟨hcertain, fun heq => ?_, hlook⟩)
  simp only [hspan, List.append_nil] at heq ⊢
  subst heq
  rw [hnotes rfl]

end Discreet

end Operation

end GitHubReconciler
