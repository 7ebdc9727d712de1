-- SUMMARY: Status conditions (`Condition`), the three states of `Ready`, and lists with one condition a type (`Condition.find?`, `Condition.put`).
import GitHubReconciler.Json.Codec

/-!
# Status conditions

A condition says that some aspect of a resource, its type, has some status, and since when. A
list of conditions is looked up by type, the first one counting. Putting a condition into a
list that already describes the same state leaves the list alone, so that the time of the
transition is kept.
-/

namespace GitHubReconciler

/-- A status condition. -/
structure Condition where
  type : String
  status : String
  /-- When the condition entered its state. -/
  lastTransitionTime : Option String
  reason : Option String
  message : Option String
  deriving DecidableEq, Inhabited, Repr

namespace Condition

/-! ## The states of `Ready` -/

/-- The type of the condition that says whether the external object is usable. -/
def readyType : String := "Ready"

inductive ReadyReason where
  | available
  | creating
  | deleting
  deriving DecidableEq, Repr

def ReadyReason.text : ReadyReason → String
  | .available => "Available"
  | .creating => "Creating"
  | .deleting => "Deleting"

/-- The status that goes with a reason. -/
def ReadyReason.status : ReadyReason → String
  | .available => "True"
  | .creating => "False"
  | .deleting => "False"

/-- The `Ready` condition of a reason, entered at a time. -/
def ready (reason : ReadyReason) (now : String) : Condition :=
  { type := readyType
    status := reason.status
    lastTransitionTime := some now
    reason := some reason.text
    message := none }

/-! ## Comparison -/

/-- Whether two conditions describe the same state, whenever they entered it. -/
def sameState (c d : Condition) : Bool :=
  c.type == d.type && c.status == d.status && c.reason == d.reason && c.message == d.message

def hasReason (c : Condition) (reason : String) : Bool :=
  c.reason == some reason

/-! ## Lists of conditions -/

/-- The first condition of a type. -/
def find? (type : String) (conditions : List Condition) : Option Condition :=
  conditions.find? fun c => c.type == type

/-- Put a condition in place of the first one of its type, or at the end if there is none. A
    condition of the same state is kept as it is. -/
def put (c : Condition) : List Condition → List Condition
  | [] => [c]
  | d :: rest =>
      if d.type = c.type then (if d.sameState c then d else c) :: rest
      else d :: put c rest

/-! ## Documents -/

/-- Conditions as JSON: all five fields are written. -/
def record : Record Condition Condition :=
  Condition.mk
    <$> .required "type" .text (·.type)
    <*> .required "status" .text (·.status)
    <*> .explicit "lastTransitionTime" .text (·.lastTransitionTime)
    <*> .explicit "reason" .text (·.reason)
    <*> .explicit "message" .text (·.message)

end Condition

end GitHubReconciler
