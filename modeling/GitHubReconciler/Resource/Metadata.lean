-- SUMMARY: Metadata of cluster objects (`Metadata`), the name they are addressed by and the name of the external object (`Metadata.externalName`).
import GitHubReconciler.Json.Codec
import GitHubReconciler.Time.Reading

/-!
# Metadata

What the cluster keeps about every object besides its specification and status. It tells who owns
the object and who has written which of its fields, and when.

Metadata and their parts are read from objects alone, and of a field that stands twice in a text
the last counts.
-/

namespace GitHubReconciler

/-- A reference to an object that owns another one. -/
structure Owner where
  apiVersion : String := ""
  blockOwnerDeletion : Option Bool := none
  controller : Option Bool := none
  kind : String := ""
  name : String := ""
  uid : String := ""
  deriving DecidableEq, Inhabited, Repr

/-- A note on who manages fields of an object. -/
structure Manager where
  apiVersion : Option String := none
  fieldsType : Option String := none
  fields : Option Json.Given := none
  manager : Option String := none
  operation : Option String := none
  subresource : Option String := none
  time : Option Instant := none
  deriving DecidableEq, Inhabited, Repr

/-- The metadata of an object. -/
structure Metadata where
  name : Option String := none
  generateName : Option String := none
  space : Option String := none
  annotations : Option (List (String × String)) := none
  labels : Option (List (String × String)) := none
  resourceVersion : Option String := none
  generation : Option Int64 := none
  uid : Option String := none
  finalizers : Option (List String) := none
  creationTimestamp : Option Instant := none
  deletionTimestamp : Option Instant := none
  deletionGracePeriodSeconds : Option Int64 := none
  owners : Option (List Owner) := none
  managers : Option (List Manager) := none
  selfLink : Option String := none
  deriving DecidableEq, Inhabited, Repr

/-! ## Names -/

namespace Metadata

/-- The name of the object: its own, else the one names are generated from, else none. -/
def displayName (m : Metadata) : String :=
  (m.name.or m.generateName).getD ""

/-- The annotation that holds the name of the external object. -/
def externalNameAnnotation : String := "crossplane.io/external-name"

/-- The name of the external object: the annotation if it is not empty, else the object's own
    name. -/
def externalName (m : Metadata) : String :=
  let annotated := (m.annotations.bind (·.lookup externalNameAnnotation)).filter (· ≠ "")
  (annotated.or m.name).getD ""

end Metadata

/-! ## Documents -/

/-- Instants as RFC 3339. -/
def Instant.codec : Codec Instant :=
  .textOf "an RFC 3339 formatted date and time string" (·.formatExact) parse (·.message)

/-- References to owners as JSON. What has to be there reads as empty where it is not. -/
def Owner.record : Record Owner Owner :=
  let named (name : String) (get : Owner → String) : Record Owner String :=
    .defaulted name (.orDefault .text "") "" get
  Owner.mk
    <$> named "apiVersion" (·.apiVersion)
    <*> .optional "blockOwnerDeletion" .flag (·.blockOwnerDeletion)
    <*> .optional "controller" .flag (·.controller)
    <*> named "kind" (·.kind)
    <*> named "name" (·.name)
    <*> named "uid" (·.uid)

/-- Notes on managers as JSON. In the text of an object they stand four levels deep. -/
def Manager.record : Record Manager Manager :=
  Manager.mk
    <$> .optional "apiVersion" .text (·.apiVersion)
    <*> .optional "fieldsType" .text (·.fieldsType)
    <*> .optional "fieldsV1" (.given (Json.Reader.maxDepth - 4)) (·.fields)
    <*> .optional "manager" .text (·.manager)
    <*> .optional "operation" .text (·.operation)
    <*> .optional "subresource" .text (·.subresource)
    <*> .optional "time" Instant.codec (·.time)

namespace Metadata

/-- The fields of metadata, with the namespace under the name `namespace`. -/
def record : Record Metadata Metadata :=
  Metadata.mk
    <$> .optional "name" .text (·.name)
    <*> .optional "generateName" .text (·.generateName)
    <*> .optional "namespace" .text (·.space)
    <*> .optional "annotations" (.map .text) (·.annotations)
    <*> .optional "labels" (.map .text) (·.labels)
    <*> .optional "resourceVersion" .text (·.resourceVersion)
    <*> .optional "generation" .integer (·.generation)
    <*> .optional "uid" .text (·.uid)
    <*> .optional "finalizers" (.list .text) (·.finalizers)
    <*> .optional "creationTimestamp" Instant.codec (·.creationTimestamp)
    <*> .optional "deletionTimestamp" Instant.codec (·.deletionTimestamp)
    <*> .optional "deletionGracePeriodSeconds" .integer (·.deletionGracePeriodSeconds)
    <*> .optional "ownerReferences" (.list (Owner.record.objectCodec "OwnerReference")) (·.owners)
    <*> .optional "managedFields" (.list (Manager.record.objectCodec "ManagedFieldsEntry"))
          (·.managers)
    <*> .optional "selfLink" .text (·.selfLink)

/-- Metadata as JSON. -/
def codec : Codec Metadata :=
  record.objectCodec "ObjectMeta"

end Metadata

end GitHubReconciler
