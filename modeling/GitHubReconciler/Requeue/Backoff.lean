-- SUMMARY: Delays that grow along the Fibonacci sequence up to a greatest one (`Backoff`).
import GitHubReconciler.Requeue.Saturating

/-!
# Backoff

Each delay is the sum of the two before it, up to a greatest delay. The sequence is kept in
minutes; the delays are given in seconds.
-/

namespace GitHubReconciler

/-- The state of a backoff, in minutes. -/
structure Backoff where
  first : UInt64
  greatest : UInt64
  previous : UInt64
  current : UInt64
  deriving DecidableEq, Repr

namespace Backoff

/-- A backoff at its beginning. A first delay above the greatest one is cut down to it. -/
def start (first greatest : UInt64) : Backoff where
  first := first
  greatest := greatest
  previous := 0
  current := min first greatest

/-- The current delay in seconds. -/
def delay (b : Backoff) : UInt64 :=
  mulSat b.current 60

/-- Go on to the next delay. -/
def advance (b : Backoff) : Backoff :=
  { b with
    previous := b.current
    current := min (addSat b.previous b.current) b.greatest }

/-- The current delay in seconds, and the backoff after it. -/
def next (b : Backoff) : UInt64 × Backoff :=
  (b.delay, b.advance)

/-- Go back to the beginning. -/
def reset (b : Backoff) : Backoff :=
  start b.first b.greatest

end Backoff

end GitHubReconciler
