-- SUMMARY: The registry of metrics (`Metrics.Registry`): recording while it is switched on, growth between two states, and registration.
import GitHubReconciler.Config
import GitHubReconciler.Metrics.Series
import GitHubReconciler.Operation.Note

/-!
# The registry

The registry counts the samples of every series. While it is switched off it records nothing.
A duration counts towards every bound that it does not exceed.
-/

namespace GitHubReconciler.Metrics

/-- The bounds of durations in seconds, with their texts. -/
def bounds : List (Float × String) :=
  [(0.05, "0.05"), (0.1, "0.1"), (0.25, "0.25"), (0.5, "0.5"), (1.0, "1"), (2.0, "2"), (5.0, "5"),
   (10.0, "10")]

/-- Count one more sample of a series. -/
def increment (s : Series) : List (Series × Nat) → List (Series × Nat)
  | [] => [(s, 1)]
  | (t, n) :: rest => if t = s then (t, n + 1) :: rest else (t, n) :: increment s rest

structure Registry where
  /-- Whether samples are recorded. -/
  enabled : Bool := true
  /-- Whether the collectors of the families have been registered. -/
  registered : Bool := false
  counts : List (Series × Nat) := []
  deriving DecidableEq, Repr

namespace Registry

/-- The number of samples of a series. -/
def count (r : Registry) (s : Series) : Nat :=
  (r.counts.lookup s).getD 0

/-- Switch recording on or off. -/
def configure (config : Config) (r : Registry) : Registry :=
  { r with enabled := config.metricsEnabled }

/-- Register the collectors, which can be done once. -/
def register (r : Registry) : Except String Registry :=
  if r.registered then .error "Duplicate metrics collector registration attempted"
  else .ok { r with registered := true }

/-! ## Recording -/

/-- Count a sample of each of some series, if recording is switched on. -/
def add (samples : List Series) (r : Registry) : Registry :=
  if r.enabled then { r with counts := samples.foldl (fun counts s => increment s counts) r.counts }
  else r

/-- The samples of an operation that took some seconds. -/
def operationSamples (kind operation : String) (seconds : Float) : List Series :=
  [.operations kind operation, .durations kind operation]
    ++ (bounds.filter fun b => seconds ≤ b.1).map (fun b => .durationsWithin kind operation b.2)
    ++ [.durationsWithin kind operation "+Inf"]

/-- Record an operation that took some seconds. -/
def addOperation (kind operation : String) (seconds : Float) (r : Registry) : Registry :=
  r.add (operationSamples kind operation seconds)

/-- Record a failed operation. -/
def addFailure (kind operation reason : String) (r : Registry) : Registry :=
  r.add [.failures kind operation reason]

/-- Record a specification that was filled in. -/
def addFilling (kind : String) (r : Registry) : Registry :=
  r.add [.fillings kind]

/-- Record an observation of something not as desired. -/
def addDrift (kind : String) (r : Registry) : Registry :=
  r.add [.drifts kind]

/-- Record a note of an operation that took some seconds. -/
def addNote (seconds : Float) (r : Registry) : Note → Registry
  | .event _ => r
  | .finished kind operation => r.addOperation kind operation seconds
  | .failed kind operation reason => r.addFailure kind operation reason
  | .filledIn kind => r.addFilling kind
  | .drifted kind => r.addDrift kind

/-- Record the notes of an operation that took some seconds. -/
def addNotes (seconds : Float) (notes : List Note) (r : Registry) : Registry :=
  notes.foldl (addNote seconds) r

/-! ## Growth -/

/-- The series that have grown since an earlier state, and by how much. -/
def growthSince (before after : Registry) : List (Series × Nat) :=
  (after.counts.map fun (s, n) => (s, n - before.count s)).filter fun (_, n) => n ≠ 0

end Registry

end GitHubReconciler.Metrics
