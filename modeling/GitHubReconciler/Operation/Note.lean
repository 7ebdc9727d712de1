-- SUMMARY: What operations leave behind in logs and metrics (`Note`), and the four operations (`Verb`).
import GitHubReconciler.Logging.Event

/-!
# Notes

An operation notes log events and the facts that metrics count. A kind and an operation are
noted by name, since metrics label their series with names.
-/

namespace GitHubReconciler

/-- What can be done with an external object. -/
inductive Verb where
  | observe
  | create
  | update
  | delete
  deriving DecidableEq, Repr

def Verb.name : Verb → String
  | .observe => "observe"
  | .create => "create"
  | .update => "update"
  | .delete => "delete"

inductive Note where
  | event (e : Event)
  /-- An operation has ended, well or not. -/
  | finished (kind operation : String)
  /-- An operation has failed for a reason. -/
  | failed (kind operation reason : String)
  /-- Settings were filled in and stored. -/
  | filledIn (kind : String)
  /-- GitHub differs from the desired state. -/
  | drifted (kind : String)
  deriving DecidableEq, Repr

namespace Note

/-- Let an event happen in a span. -/
def inSpan (span : Span) : Note → Note
  | event e => event { e with span := some span }
  | n => n

/-- The event of a note, if it is one. -/
def event? : Note → Option Event
  | event e => some e
  | _ => none

end Note

end GitHubReconciler
