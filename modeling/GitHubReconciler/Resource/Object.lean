-- SUMMARY: Cluster objects with a desired and an observed state (`Object`), and their parts as JSON.
import GitHubReconciler.Resource.Condition
import GitHubReconciler.Resource.Metadata

/-!
# Objects

An object declares a desired state in its specification. Its status, once there is one, holds
conditions and the state that was last observed. Writing to the status of an object that has
none begins with an empty one.
-/

namespace GitHubReconciler

/-- A reference to another object by name. -/
structure Reference where
  name : String
  deriving DecidableEq, Inhabited, Repr

def Reference.record : Record Reference Reference :=
  Reference.mk <$> .required "name" .text (·.name)

/-- The specification of an object. -/
structure Spec (Desired : Type) where
  forProvider : Desired
  providerConfig : Option Reference := none
  deriving DecidableEq, Inhabited, Repr

structure Status (Observed : Type) where
  conditions : List Condition := []
  atProvider : Observed
  deriving DecidableEq, Inhabited, Repr

/-- An object of the cluster. -/
structure Object (Desired Observed : Type) where
  metadata : Metadata
  spec : Spec Desired
  status : Option (Status Observed) := none
  deriving DecidableEq, Inhabited, Repr

namespace Object

variable {Desired Observed : Type}

abbrev desired (o : Object Desired Observed) : Desired :=
  o.spec.forProvider

/-- The conditions; none without a status. -/
def conditions (o : Object Desired Observed) : List Condition :=
  match o.status with
  | some status => status.conditions
  | none => []

def ready? (o : Object Desired Observed) : Option Condition :=
  Condition.find? Condition.readyType o.conditions

/-- The status, or an empty one. -/
def statusOrEmpty [Inhabited Observed] (o : Object Desired Observed) : Status Observed :=
  o.status.getD { conditions := [], atProvider := default }

/-- The state that was last observed, or the empty one. -/
def observed [Inhabited Observed] (o : Object Desired Observed) : Observed :=
  o.statusOrEmpty.atProvider

/-- Put a condition into the status. -/
def withCondition [Inhabited Observed] (o : Object Desired Observed) (c : Condition) :
    Object Desired Observed :=
  { o with
    status := some { o.statusOrEmpty with conditions := c.put o.statusOrEmpty.conditions } }

/-- Record an observed state in the status. -/
def withObserved [Inhabited Observed] (o : Object Desired Observed) (x : Observed) :
    Object Desired Observed :=
  { o with status := some { o.statusOrEmpty with atProvider := x } }

/-- Replace the desired state. -/
def withDesired (o : Object Desired Observed) (x : Desired) : Object Desired Observed :=
  { o with spec := { o.spec with forProvider := x } }

end Object

/-! ## Documents -/

/-- Specifications as JSON. -/
def Spec.record (desired : Codec Desired) : Record (Spec Desired) (Spec Desired) :=
  Spec.mk
    <$> .required "forProvider" desired (·.forProvider)
    <*> .optional "providerConfigRef" Reference.record.codec (·.providerConfig)

/-- Statuses as JSON; each part that is absent is the empty one. -/
def Status.record [Inhabited Observed] (observed : Codec Observed) :
    Record (Status Observed) (Status Observed) :=
  Status.mk
    <$> .defaulted "conditions" (.list Condition.record.codec) [] (·.conditions)
    <*> .defaulted "atProvider" observed default (·.atProvider)

/-- Objects as JSON. They are written with their version and kind, which reading ignores. -/
def Object.codec [Inhabited Observed] (apiVersion kind : String) (desired : Codec Desired)
    (observed : Codec Observed) : Codec (Object Desired Observed) :=
  let record : Record (Object Desired Observed) (Object Desired Observed) :=
    Object.mk
      <$> .required "metadata" Metadata.codec (·.metadata)
      <*> .required "spec" (Spec.record desired).codec (·.spec)
      <*> .placed "status" (Status.record observed).codec (·.status)
  ((record.stamped "kind" kind).stamped "apiVersion" apiVersion).codec

end GitHubReconciler
