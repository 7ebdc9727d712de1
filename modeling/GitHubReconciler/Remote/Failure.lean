-- SUMMARY: Failed calls to GitHub (`ApiFailure`).
/-!
# Failed calls

A call fails with an answer that has a status, or without any answer.
-/

namespace GitHubReconciler

/-- The failure of a call to GitHub. -/
structure ApiFailure where
  /-- The status of the answer, if there was one. -/
  status : Option UInt16
  message : String
  deriving DecidableEq, Inhabited, Repr

namespace ApiFailure

/-- Whether GitHub answered that there is no such object. -/
def isNotFound (f : ApiFailure) : Bool :=
  f.status == some 404

def text (f : ApiFailure) : String :=
  let label := match f.status with
    | some status => "status " ++ toString status.toNat
    | none => "no response"
  "GitHub API request failed (" ++ label ++ "): " ++ f.message

end ApiFailure

end GitHubReconciler
