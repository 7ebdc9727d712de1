-- SUMMARY: Series of samples (`Series`), their text with escaped labels, and the families of series that are kept.
/-!
# Series

A series is a family of samples with a value for each of its labels. In text the labels stand
in braces, their values between quotes with the quote, the backslash and the line feed escaped.
-/

namespace GitHubReconciler.Metrics

/-- A series of samples. -/
structure Series where
  family : String
  labels : List (String × String)
  deriving DecidableEq, Repr

namespace Series

/-- The characters that show `c` in the value of a label. -/
def escape (c : Char) : List Char :=
  if c == '\\' then ['\\', '\\']
  else if c == '"' then ['\\', '"']
  else if c == '\n' then ['\\', 'n']
  else [c]

/-- A label with its value. -/
def labelText (label : String × String) : String :=
  label.1 ++ "=\"" ++ String.ofList (label.2.toList.flatMap escape) ++ "\""

def text (s : Series) : String :=
  s.family ++ "\x7b" ++ ",".intercalate (s.labels.map labelText) ++ "\x7d"

/-! ## Families -/

/-- Operations, by kind and operation. -/
def operations (kind operation : String) : Series :=
  ⟨"provider_github_external_operations_total", [("kind", kind), ("operation", operation)]⟩

/-- Failed operations, by kind, operation and reason. -/
def failures (kind operation reason : String) : Series :=
  ⟨"provider_github_external_operation_errors_total",
    [("kind", kind), ("operation", operation), ("reason", reason)]⟩

/-- Operations whose duration was measured, by kind and operation. -/
def durations (kind operation : String) : Series :=
  ⟨"provider_github_external_operation_duration_seconds_count",
    [("kind", kind), ("operation", operation)]⟩

/-- Operations that took no longer than a bound, by kind and operation. -/
def durationsWithin (kind operation bound : String) : Series :=
  ⟨"provider_github_external_operation_duration_seconds_bucket",
    [("kind", kind), ("operation", operation), ("le", bound)]⟩

/-- Specifications that were filled in from GitHub, by kind. -/
def fillings (kind : String) : Series :=
  ⟨"provider_github_late_initializations_total", [("kind", kind)]⟩

/-- Observations that found GitHub not as desired, by kind. -/
def drifts (kind : String) : Series :=
  ⟨"provider_github_drift_detected_total", [("kind", kind)]⟩

end Series

end GitHubReconciler.Metrics
