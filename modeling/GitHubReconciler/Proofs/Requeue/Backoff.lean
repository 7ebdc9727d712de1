-- SUMMARY: The closed form of backoffs (`Backoff.closed_form`): the delays are the Fibonacci multiples of the first one, up to the greatest delay and the greatest word.
import GitHubReconciler.Requeue.Backoff
import Mathlib.Data.Nat.Fib.Basic
import Mathlib.Logic.Function.Iterate

/-!
# The closed form of backoffs

A backoff adds up numbers that were cut down before, in words that saturate. Neither shows: a sum
of two Fibonacci multiples that is cut down at the greatest delay is the same whether they were cut
down there before or not, and a saturated sum is beyond every greatest delay. So a backoff that
gave `n` delays since its beginning holds the two Fibonacci multiples of that place, each up to the
greatest delay (`Stands`). One lemma says so for each move, and all delays follow from it.
-/

namespace GitHubReconciler.Backoff

variable {first greatest : UInt64} {b : Backoff} {n m : Nat}

/-- The delay that a backoff gives after `n` others. -/
def output (b : Backoff) (n : Nat) : UInt64 :=
  ((fun b => b.next.2)^[n] b).next.1

/-- The `k`-th delay of a backoff in seconds, in numbers without bound. It is the `k`-th Fibonacci
    multiple of the first delay up to the greatest one, or the greatest word if that does not
    fit. -/
def ideal (first greatest k : Nat) : Nat :=
  min (2 ^ 64 - 1) (60 * min (Nat.fib k * first) greatest)

/-! ## Ideal delays -/

theorem ideal_le (first greatest k : Nat) :
    ideal first greatest k ≤ min (2 ^ 64 - 1) (60 * greatest) := by
  unfold ideal
  omega

theorem ideal_monotone (first greatest : Nat) : Monotone (ideal first greatest) := by
  intro k l h
  have hfib : Nat.fib k * first ≤ Nat.fib l * first := Nat.mul_le_mul_right first (Nat.fib_mono h)
  unfold ideal
  omega

/-- Once the greatest delay is reached, it stays. -/
theorem ideal_eq_of_le {first greatest k l : Nat} (h : k ≤ l)
    (hreached : min (2 ^ 64 - 1) (60 * greatest) ≤ ideal first greatest k) :
    ideal first greatest l = ideal first greatest k := by
  have hbound := ideal_le first greatest l
  have hgrown := ideal_monotone first greatest h
  omega

/-! ## Moves -/

/-- What can be done with a backoff. -/
inductive Move where
  | next
  | reset
  deriving DecidableEq, Repr

/-- The backoff after a move. -/
def perform (b : Backoff) : Move → Backoff
  | .next => b.next.2
  | .reset => b.reset

def performAll (b : Backoff) (moves : List Move) : Backoff :=
  moves.foldl perform b

/-- The number of delays that were given since the last reset. -/
def place (moves : List Move) : Nat :=
  (moves.reverse.takeWhile (· = .next)).length

@[simp] theorem performAll_concat {moves : List Move} {move : Move} :
    b.performAll (moves ++ [move]) = (b.performAll moves).perform move :=
  List.foldl_concat ..

@[simp] theorem place_concat_next {moves : List Move} :
    place (moves ++ [.next]) = place moves + 1 := by
  simp [place]

@[simp] theorem place_concat_reset {moves : List Move} : place (moves ++ [.reset]) = 0 := by
  simp [place]

/-! ## Where a backoff stands -/

/-- The backoff gave `n` delays since its beginning. -/
structure Stands (first greatest : UInt64) (n : Nat) (b : Backoff) : Prop where
  first_eq : b.first = first
  greatest_eq : b.greatest = greatest
  toNat_previous : b.previous.toNat = min (Nat.fib n * first.toNat) greatest.toNat
  toNat_current : b.current.toNat = min (Nat.fib (n + 1) * first.toNat) greatest.toNat

theorem stands_start (first greatest : UInt64) :
    Stands first greatest 0 (start first greatest) where
  first_eq := rfl
  greatest_eq := rfl
  toNat_previous := by simp [start]
  toNat_current := by simp [start, UInt64.toNat_min]

namespace Stands

/-- The next delay is cut down at the greatest one, so it does not matter that the two before it
    were cut down there and that their sum saturates. -/
theorem next (h : Stands first greatest n b) : Stands first greatest (n + 1) b.next.2 where
  first_eq := h.first_eq
  greatest_eq := h.greatest_eq
  toNat_previous := h.toNat_current
  toNat_current := by
    have hword : greatest.toNat < UInt64.size := greatest.toNat_lt
    have hfib : Nat.fib (n + 2) * first.toNat =
        Nat.fib n * first.toNat + Nat.fib (n + 1) * first.toNat := by
      rw [Nat.fib_add_two, Nat.add_mul]
    have hcurrent : b.next.2.current.toNat =
        min (min (b.previous.toNat + b.current.toNat) (UInt64.size - 1)) greatest.toNat := by
      rw [← toNat_addSat, ← h.greatest_eq, ← UInt64.toNat_min]
      rfl
    rw [hcurrent, h.toNat_previous, h.toNat_current, hfib]
    omega

theorem reset (h : Stands first greatest n b) : b.reset = start first greatest := by
  rw [Backoff.reset, h.first_eq, h.greatest_eq]

theorem performAll (moves : List Move) :
    Stands first greatest (place moves) ((start first greatest).performAll moves) := by
  induction moves using List.reverseRecOn with
  | nil => exact stands_start first greatest
  | append_singleton moves move ih =>
    rw [performAll_concat]
    cases move with
    | next =>
      rw [place_concat_next]
      exact ih.next
    | reset =>
      rw [place_concat_reset, perform, ih.reset]
      exact stands_start first greatest

theorem iterate (h : Stands first greatest n b) :
    Stands first greatest (n + m) ((fun b => b.next.2)^[m] b) := by
  induction m with
  | zero => exact h
  | succ m ih =>
    rw [Function.iterate_succ_apply']
    exact ih.next

theorem toNat_delay (h : Stands first greatest n b) :
    b.next.1.toNat = ideal first.toNat greatest.toNat (n + 1) := by
  change (mulSat b.current 60).toNat = _
  have hsize : UInt64.size - 1 = 2 ^ 64 - 1 := rfl
  have hminute : (60 : UInt64).toNat = 60 := rfl
  rw [toNat_mulSat, h.toNat_current, hsize, hminute, ideal, Nat.min_comm, Nat.mul_comm]

theorem toNat_output (h : Stands first greatest n b) :
    (b.output m).toNat = ideal first.toNat greatest.toNat (n + m + 1) :=
  h.iterate.toNat_delay

end Stands

/-! ## All delays -/

/-- The delays of a backoff are the ideal ones, from its beginning on, from any place between and
    after any reset. So they never decrease, stay within the greatest delay, and are constant once
    they reach it. -/
theorem closed_form (first greatest : UInt64) :
    let b := start first greatest
    let greatestDelay := min (2 ^ 64 - 1) (60 * greatest.toNat)
    (∀ n, (b.output n).toNat = ideal first.toNat greatest.toNat (n + 1)) ∧
    (∀ moves n, ((b.performAll moves).output n).toNat =
      ideal first.toNat greatest.toNat (place moves + n + 1)) ∧
    (∀ moves n, ((b.performAll moves).reset.output n).toNat =
      ideal first.toNat greatest.toNat (n + 1)) ∧
    (∀ n m, n ≤ m → b.output n ≤ b.output m) ∧
    (∀ n, (b.output n).toNat ≤ greatestDelay) ∧
    ∀ n m, n ≤ m → (b.output n).toNat = greatestDelay → b.output m = b.output n := by
  intro b greatestDelay
  have houtput : ∀ n, (b.output n).toNat = ideal first.toNat greatest.toNat (n + 1) := by
    intro n
    rw [(stands_start first greatest).toNat_output, Nat.zero_add]
  refine ⟨houtput, fun moves n => (Stands.performAll moves).toNat_output, ?_, ?_, ?_, ?_⟩
  · intro moves n
    rw [(Stands.performAll moves).reset]
    exact houtput n
  · intro n m h
    rw [UInt64.le_iff_toNat_le, houtput, houtput]
    exact ideal_monotone _ _ (Nat.succ_le_succ h)
  · intro n
    rw [houtput]
    exact ideal_le _ _ _
  · intro n m h hreached
    rw [← UInt64.toNat_inj, houtput, houtput]
    rw [houtput] at hreached
    exact ideal_eq_of_le (Nat.succ_le_succ h) (Nat.le_of_eq hreached.symm)

/-- The first delay is half the words there are, in minutes; in seconds it does not fit already. -/
theorem closed_form_saturated :
    let b := start 0x8000000000000000 0xffffffffffffffff
    (b.output 0).toNat = 2 ^ 64 - 1 ∧ b.output 5 = b.output 0 := by
  intro b
  obtain ⟨houtput, -, -, -, -, hconstant⟩ := closed_form 0x8000000000000000 0xffffffffffffffff
  have hfirst : (b.output 0).toNat = 2 ^ 64 - 1 := houtput 0
  exact ⟨hfirst, hconstant 0 5 (Nat.zero_le 5) hfirst⟩

end GitHubReconciler.Backoff
