-- SUMMARY: Writing a managed resource back to the cluster (`Cluster.replace`).
import GitHubReconciler.Cluster.Interface
import GitHubReconciler.Failure
import GitHubReconciler.Resource.Basic

/-!
# Writing resources back

A resource is replaced in the cluster by its manifest, under its name. The answer is the
manifest of the resource as it is then stored, of the same kind whatever the manifest says.
-/

namespace GitHubReconciler.Cluster

def replaceRequest (r : Resource) : Request where
  method := "PUT"
  path := r.kind.definition.path ++ "/" ++ r.displayName ++ "?"
  body := some r.manifest

/-- Replace a resource in the cluster, and give the resource as it is stored. A resource
    without a name is not asked for. -/
def replace (r : Resource) : Exchange (Except Causes Resource) :=
  let context := "Failed to replace " ++ r.displayName
  if r.displayName = "" then
    .done (.error { outermost := context, deeper := ["A resource name is required"] })
  else
    request (replaceRequest r) (Resource.codec r.kind) >>= fun
      | .ok stored => .done (.ok stored)
      | .error e => .done (.error { outermost := context, deeper := [e.text] })

/-- How the writer is shown in diagnostics, with its parts left out. -/
def storeText : String := "KubeStore \x7b .. \x7d"

end GitHubReconciler.Cluster
