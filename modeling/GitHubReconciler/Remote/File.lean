-- SUMMARY: Files of a repository as GitHub reports them (`Remote.File`) and the commits that write them (`Remote.Commit`).
import GitHubReconciler.Text.Hex

/-!
# Files in GitHub
-/

namespace GitHubReconciler.Remote

/-- A file of a repository. -/
structure File where
  name : Option String := none
  path : Option String := none
  /-- The blob that the file holds. -/
  sha : Option String := none
  url : Option String := none
  htmlUrl : Option String := none
  /-- The body, in the encoding that `encoding` names. -/
  content : Option String := none
  encoding : Option String := none
  deriving DecidableEq, Inhabited, Repr

/-- A commit that creates, replaces or deletes one file. -/
structure Commit where
  message : String
  content : Bytes
  /-- The blob that is replaced or deleted; none for a new file. -/
  sha : Option String
  branch : Option String
  deriving DecidableEq, Inhabited, Repr

end GitHubReconciler.Remote
