-- SUMMARY: Log events (`Event`) with a level, named fields and the span they happen in.
/-!
# Log events

An event has a level, a message and named fields. Events of an operation happen in its span,
which names the resource and the operation.
-/

namespace GitHubReconciler

/-- How important an event is. -/
inductive Level where
  | error
  | warn
  | info
  | debug
  | trace
  deriving DecidableEq, Repr

namespace Level

def name : Level → String
  | .error => "ERROR"
  | .warn => "WARN"
  | .info => "INFO"
  | .debug => "DEBUG"
  | .trace => "TRACE"

/-- All levels, the most important first. -/
def all : List Level := [.error, .warn, .info, .debug, .trace]

/-- How much is let through with events of this level: one for errors, five for all. -/
def verbosity : Level → Nat
  | .error => 1
  | .warn => 2
  | .info => 3
  | .debug => 4
  | .trace => 5

end Level

inductive FieldValue where
  | text (value : String)
  | number (value : Nat)
  | flag (value : Bool)
  deriving DecidableEq, Repr

/-- The operation that an event happens in. -/
structure Span where
  kind : String
  name : String
  operation : String
  deriving DecidableEq, Repr

structure Event where
  level : Level
  message : String
  fields : List (String × FieldValue) := []
  span : Option Span := none
  deriving DecidableEq, Repr

end GitHubReconciler
