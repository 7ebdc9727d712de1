-- SUMMARY: Computations that ask questions and take notes (`Dialogue`): sequencing, answering (`Dialogue.run`) and the monad laws.
/-!
# Dialogues

A dialogue is a computation that depends on the outside world only through questions that it
asks one after another. It can also take notes, which nothing answers. What the world is does
not matter to it: any way of answering the questions, with a state of its own, runs it.

So a statement about a dialogue can range over all worlds, and a statement about a run can look
at the questions that were asked and the answers that were given.
-/

namespace GitHubReconciler

/-- A computation that asks questions `q : Q`, gets answers of type `A q` and takes notes. -/
inductive Dialogue (Q : Type) (A : Q → Type) (N : Type) (α : Type) where
  | done (value : α)
  | ask (question : Q) (next : A question → Dialogue Q A N α)
  | note (entry : N) (next : Dialogue Q A N α)

namespace Dialogue

variable {Q : Type} {A : Q → Type} {N M : Type} {α β γ : Type}

/-! ## Sequencing -/

/-- Go on with another dialogue when one is done. -/
def bind : Dialogue Q A N α → (α → Dialogue Q A N β) → Dialogue Q A N β
  | done x, f => f x
  | ask q next, f => ask q fun a => (next a).bind f
  | note n next, f => note n (next.bind f)

instance : Monad (Dialogue Q A N) where
  pure := done
  bind := bind

@[simp] theorem pure_eq (x : α) : (pure x : Dialogue Q A N α) = done x := rfl

@[simp] theorem done_bind (x : α) (f : α → Dialogue Q A N β) : (done x >>= f) = f x := rfl

@[simp] theorem ask_bind (q : Q) (next : A q → Dialogue Q A N α) (f : α → Dialogue Q A N β) :
    (ask q next >>= f) = ask q fun a => next a >>= f := rfl

@[simp] theorem note_bind (n : N) (next : Dialogue Q A N α) (f : α → Dialogue Q A N β) :
    (note n next >>= f) = note n (next >>= f) := rfl

theorem bind_done (d : Dialogue Q A N α) : (d >>= done) = d := by
  induction d with
  | done x => rfl
  | ask q next ih => simp [ih]
  | note n next ih => simp [ih]

theorem bind_bind (d : Dialogue Q A N α) (f : α → Dialogue Q A N β) (g : β → Dialogue Q A N γ) :
    ((d >>= f) >>= g) = d >>= fun x => f x >>= g := by
  induction d with
  | done x => rfl
  | ask q next ih => simp [ih]
  | note n next ih => simp [ih]

instance : LawfulMonad (Dialogue Q A N) :=
  LawfulMonad.mk' _
    (fun d => bind_done d)
    (fun _ _ => rfl)
    (fun d f g => bind_bind d f g)

/-! ## Notes -/

/-- Change every note. -/
def mapNotes (f : N → M) : Dialogue Q A N α → Dialogue Q A M α
  | done x => done x
  | ask q next => ask q fun a => (next a).mapNotes f
  | note n next => note (f n) (next.mapNotes f)

/-! ## Running -/

/-- A question with the answer that was given. -/
abbrev Exchange (Q : Type) (A : Q → Type) := (q : Q) × A q

/-- What a run gives: the value, what was asked and answered, the notes, and the state that
    the world was left in. -/
structure Run (Q : Type) (A : Q → Type) (N σ α : Type) where
  value : α
  exchanges : List (Exchange Q A)
  notes : List N
  world : σ

/-- A world with states in `σ`: how it answers each question. -/
abbrev World (Q : Type) (A : Q → Type) (σ : Type) := (q : Q) → σ → A q × σ

/-- Run a dialogue in a world that is in a state. -/
def run (world : World Q A σ) : Dialogue Q A N α → σ → Run Q A N σ α
  | done x, s => { value := x, exchanges := [], notes := [], world := s }
  | ask q next, s =>
      let (a, s) := world q s
      let rest := (next a).run world s
      { rest with exchanges := ⟨q, a⟩ :: rest.exchanges }
  | note n next, s =>
      let rest := next.run world s
      { rest with notes := n :: rest.notes }

theorem run_bind (world : World Q A σ) (d : Dialogue Q A N α) (f : α → Dialogue Q A N β) (s : σ) :
    (d >>= f).run world s =
      let first := d.run world s
      let second := (f first.value).run world first.world
      { second with
        exchanges := first.exchanges ++ second.exchanges
        notes := first.notes ++ second.notes } := by
  induction d generalizing s with
  | done x => simp [run]
  | ask q next ih => simp [run, ih]
  | note n next ih => simp [run, ih]

end Dialogue

end GitHubReconciler
