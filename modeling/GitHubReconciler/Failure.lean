-- SUMMARY: Why an operation on a managed resource fails (`Failure`): its text, its class and its label.
import GitHubReconciler.Remote.Failure

/-!
# Failures of operations

A failure is permanent if no retry can succeed before the resource changes. All others are
worth retrying.
-/

namespace GitHubReconciler

/-- Why an error arose, from the outermost reason to the one at the root. -/
structure Causes where
  outermost : String
  deeper : List String := []
  deriving DecidableEq, Inhabited, Repr

/-- All reasons, the outermost first. -/
def Causes.toList (c : Causes) : List String :=
  c.outermost :: c.deeper

/-- Why an operation fails. -/
inductive Failure where
  /-- The client was handed a resource of another kind than its own. -/
  | wrongKind (expected : String)
  /-- A call to GitHub failed. -/
  | remote (context : String) (source : ApiFailure)
  /-- There is no such template as the resource refers to. -/
  | templateNotFound (source : ApiFailure)
  /-- What was filled in could not be written back to the cluster. -/
  | localPersistence (kind : String) (causes : Causes)
  /-- The reference to a template is not a full name. -/
  | malformedReference
  /-- The value of a secret could not be had. -/
  | secretExtraction (detail : String)
  /-- The value of a secret could not be sealed. -/
  | encryption (detail : String)
  deriving DecidableEq, Repr

namespace Failure

def message : Failure → String
  | .wrongKind expected => "The managed resource is not a " ++ expected ++ " resource"
  | .remote context source => context ++ ": " ++ source.text
  | .templateNotFound source =>
      "cannot create Repository: the referenced repository template was not found: "
        ++ source.text
  | .localPersistence kind causes =>
      "cannot update " ++ kind ++ " custom resource: " ++ causes.outermost
  | .malformedReference =>
      "The templateRef fullname is not valid. "
        ++ "It needs to be in the format \x7bowner\x7d/\x7bname\x7d"
  | .secretExtraction detail => "cannot get secret value: " ++ detail
  | .encryption detail => "cannot encrypt secret: " ++ detail

/-- The texts of the errors behind a failure, the outermost first. -/
def chain : Failure → List String
  | .remote _ source => [source.text]
  | .templateNotFound source => [source.text]
  | .localPersistence _ causes => causes.toList
  | _ => []

/-- Whether no retry can succeed before the resource changes. -/
def isPermanent : Failure → Bool
  | .wrongKind _ => true
  | .malformedReference => true
  | _ => false

/-- A short label. -/
def reason : Failure → String
  | .wrongKind _ => "wrong_resource_kind"
  | .remote _ _ => "remote"
  | .templateNotFound _ => "template_not_found"
  | .localPersistence _ _ => "local_persistence"
  | .malformedReference => "malformed_reference"
  | .secretExtraction _ => "secret_extraction"
  | .encryption _ => "encryption"

end Failure

end GitHubReconciler
