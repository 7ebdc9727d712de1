-- SUMMARY: The exchanges a dialogue can make (`Dialogue.Generates`) and the states they lead a world through (`Dialogue.Walk`).
import GitHubReconciler.Dialogue

/-!
# Exchanges of dialogues

A dialogue does not determine how it is answered. `Generates` relates it to each list of
exchanges that it can make and the value that it then gives, whatever world answers. `Walk` says
which states a given world passes through while it gives the answers of a list of exchanges.

A run in a world is one of each (`generates_run`, `walk_run`). So what holds of all that a
dialogue generates holds of its runs in every world.
-/

namespace GitHubReconciler.Dialogue

variable {Q : Type} {A : Q → Type} {N M : Type} {σ α β : Type}

/-! ## What a dialogue generates -/

/-- `d.Generates xs x` means that `d` gives `x` if its questions are answered as in `xs`. -/
inductive Generates : Dialogue Q A N α → List (Exchange Q A) → α → Prop where
  | done {x : α} : Generates (.done x) [] x
  | ask {q : Q} {next : A q → Dialogue Q A N α} {a : A q} {xs : List (Exchange Q A)} {x : α} :
      Generates (next a) xs x → Generates (.ask q next) (⟨q, a⟩ :: xs) x
  | note {n : N} {next : Dialogue Q A N α} {xs : List (Exchange Q A)} {x : α} :
      Generates next xs x → Generates (.note n next) xs x

@[simp] theorem generates_done {x y : α} {xs : List (Exchange Q A)} :
    (done x : Dialogue Q A N α).Generates xs y ↔ xs = [] ∧ y = x := by
  constructor
  · intro h
    cases h
    exact ⟨rfl, rfl⟩
  · rintro ⟨rfl, rfl⟩
    exact .done

@[simp] theorem generates_ask {q : Q} {next : A q → Dialogue Q A N α} {y : α}
    {xs : List (Exchange Q A)} :
    (ask q next).Generates xs y ↔ ∃ a ys, xs = ⟨q, a⟩ :: ys ∧ (next a).Generates ys y := by
  constructor
  · intro h
    cases h with
    | ask h => exact ⟨_, _, rfl, h⟩
  · rintro ⟨a, ys, rfl, h⟩
    exact .ask h

@[simp] theorem generates_note {n : N} {next : Dialogue Q A N α} {y : α}
    {xs : List (Exchange Q A)} :
    (note n next).Generates xs y ↔ next.Generates xs y := by
  constructor
  · intro h
    cases h with
    | note h => exact h
  · exact .note

/-- What two dialogues in sequence generate falls apart into what each of them does. -/
theorem generates_bind {d : Dialogue Q A N α} {f : α → Dialogue Q A N β}
    {xs : List (Exchange Q A)} {y : β} :
    (d >>= f).Generates xs y ↔
      ∃ ys zs x, xs = ys ++ zs ∧ d.Generates ys x ∧ (f x).Generates zs y := by
  induction d generalizing xs with
  | done x =>
    simp only [done_bind, generates_done]
    constructor
    · intro h
      exact ⟨[], xs, x, rfl, ⟨rfl, rfl⟩, h⟩
    · rintro ⟨_, zs, _, rfl, ⟨rfl, rfl⟩, h⟩
      exact h
  | ask q next ih =>
    simp only [ask_bind, generates_ask, ih]
    constructor
    · rintro ⟨a, _, rfl, ys, zs, x, rfl, hd, hf⟩
      exact ⟨⟨q, a⟩ :: ys, zs, x, rfl, ⟨a, ys, rfl, hd⟩, hf⟩
    · rintro ⟨_, zs, x, rfl, ⟨a, ys, rfl, hd⟩, hf⟩
      exact ⟨a, ys ++ zs, rfl, ys, zs, x, rfl, hd, hf⟩
  | note n next ih => simp [ih]

@[simp] theorem generates_mapNotes {f : N → M} {d : Dialogue Q A N α}
    {xs : List (Exchange Q A)} {x : α} :
    (d.mapNotes f).Generates xs x ↔ d.Generates xs x := by
  induction d generalizing xs with
  | done y => simp [mapNotes]
  | ask q next ih => simp [mapNotes, ih]
  | note n next ih => simp [mapNotes, ih]

/-- A run generates the exchanges it reports. -/
theorem generates_run (world : World Q A σ) (d : Dialogue Q A N α) (s : σ) :
    d.Generates (d.run world s).exchanges (d.run world s).value := by
  induction d generalizing s with
  | done x => exact .done
  | ask q next ih => exact .ask (ih _ _)
  | note n next ih => exact .note (ih _)

/-- Changing the notes of a dialogue changes those of its runs. -/
theorem run_mapNotes (world : World Q A σ) (f : N → M) (d : Dialogue Q A N α) (s : σ) :
    (d.mapNotes f).run world s =
      { value := (d.run world s).value, exchanges := (d.run world s).exchanges,
        notes := (d.run world s).notes.map f, world := (d.run world s).world } := by
  induction d generalizing s with
  | done x => rfl
  | ask q next ih => simp [mapNotes, run, ih]
  | note n next ih => simp [mapNotes, run, ih]

/-! ## The states of a world -/

/-- `Walk world s xs s'` means that the world, in the state `s`, gives the answers of `xs` one
    after another, and is in the state `s'` then. -/
inductive Walk (world : World Q A σ) : σ → List (Exchange Q A) → σ → Prop where
  | nil {s : σ} : Walk world s [] s
  | cons {s s' : σ} {q : Q} {xs : List (Exchange Q A)} :
      Walk world (world q s).2 xs s' → Walk world s (⟨q, (world q s).1⟩ :: xs) s'

/-- A run leads the world along its exchanges. -/
theorem walk_run (world : World Q A σ) (d : Dialogue Q A N α) (s : σ) :
    Walk world s (d.run world s).exchanges (d.run world s).world := by
  induction d generalizing s with
  | done x => exact .nil
  | ask q next ih => exact .cons (ih _ _)
  | note n next ih => exact ih _

/-- The first exchange of a walk says how the world answers at once. -/
theorem Walk.answer_eq {world : World Q A σ} {s s' : σ} {q : Q} {a : A q}
    {xs : List (Exchange Q A)} (h : Walk world s (⟨q, a⟩ :: xs) s') :
    (world q s).1 = a ∧ Walk world (world q s).2 xs s' := by
  generalize hys : (⟨q, a⟩ : Exchange Q A) :: xs = ys at h
  cases h with
  | nil => cases hys
  | cons h =>
    cases hys
    exact ⟨rfl, h⟩

theorem Walk.split {world : World Q A σ} {s s'' : σ} {xs ys : List (Exchange Q A)}
    (h : Walk world s (xs ++ ys) s'') : ∃ s', Walk world s xs s' ∧ Walk world s' ys s'' := by
  induction xs generalizing s with
  | nil => exact ⟨s, .nil, h⟩
  | cons x xs ih =>
    obtain ⟨q, a⟩ := x
    obtain ⟨rfl, hrest⟩ := h.answer_eq
    obtain ⟨s', hfirst, hsecond⟩ := ih hrest
    exact ⟨s', .cons hfirst, hsecond⟩

/-- Every answer along a walk is one that the world gives. -/
theorem Walk.exists_answer {world : World Q A σ} {s s' : σ} {xs : List (Exchange Q A)} {q : Q}
    {a : A q} (h : Walk world s xs s') (hmem : ⟨q, a⟩ ∈ xs) : ∃ t, a = (world q t).1 := by
  induction h with
  | nil => cases hmem
  | cons _ ih =>
    cases hmem with
    | head => exact ⟨_, rfl⟩
    | tail _ hmem => exact ih hmem

end GitHubReconciler.Dialogue
