-- SUMMARY: The desired and the observed state of a file (`Content.Desired`, `Content.Observed`) and the commits that write it.
import GitHubReconciler.Remote.File
import GitHubReconciler.Resource.Object

/-!
# Desired files

A desired file has a path, a body and the message of the commits that write it.
-/

namespace GitHubReconciler.Content

/-- The desired state of a file. -/
structure Desired where
  owner : String
  repository : String
  path : String
  /-- The message of every commit to the file. -/
  message : String
  /-- The body. -/
  content : String
  /-- The branch to commit to; without it the default branch of the repository. -/
  branch : Option String := none
  deriving DecidableEq, Inhabited, Repr

/-- The commit that writes the desired body in place of a blob, or as a new file. -/
def Desired.commit (d : Desired) (sha : Option String) : Remote.Commit where
  message := d.message
  content := d.content.toUTF8.toList
  sha := sha
  branch := d.branch

def Desired.record : Record Desired Desired :=
  Desired.mk
    <$> .required "owner" .text (·.owner)
    <*> .required "repo" .text (·.repository)
    <*> .required "path" .text (·.path)
    <*> .required "message" .text (·.message)
    <*> .required "content" .text (·.content)
    <*> .optional "branch" .text (·.branch)

/-- The observed state of a file. -/
structure Observed where
  url : String := ""
  htmlUrl : String := ""
  sha : String := ""
  deriving DecidableEq, Repr

instance : Inhabited Observed := ⟨{}⟩

/-- Keep what the status records of a file. -/
def Observed.ofRemote (f : Remote.File) : Observed where
  url := f.url.getD ""
  htmlUrl := f.htmlUrl.getD ""
  sha := f.sha.getD ""

def Observed.record : Record Observed Observed :=
  Observed.mk
    <$> .defaulted "url" .text "" (·.url)
    <*> .defaulted "htmlUrl" .text "" (·.htmlUrl)
    <*> .defaulted "sha" .text "" (·.sha)

end GitHubReconciler.Content
