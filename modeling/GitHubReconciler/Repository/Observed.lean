-- SUMMARY: The observed state of a repository (`Repository.Observed`), flattened from what GitHub reports (`Observed.ofRemote`).
import GitHubReconciler.Remote.Repository

/-!
# Observed repositories

The status keeps a flat picture of the repository: what GitHub does not report becomes the
empty text, zero or false.
-/

namespace GitHubReconciler.Repository

structure Observed where
  id : Int64
  nodeId : String
  fullName : String
  name : String
  links : Links String
  counts : Counts Int64
  createdAt : Option String
  pushedAt : Option String
  updatedAt : Option String
  language : String
  fork : Bool
  size : Int64
  topics : List String
  disabled : Bool
  permissions : Option (List (String × Bool))
  deriving DecidableEq, Repr

namespace Observed

/-- The empty state, in which every part is the empty text, zero or false. -/
def empty : Observed where
  id := 0
  nodeId := ""
  fullName := ""
  name := ""
  links := .const ""
  counts := .const 0
  createdAt := none
  pushedAt := none
  updatedAt := none
  language := ""
  fork := false
  size := 0
  topics := []
  disabled := false
  permissions := none

instance : Inhabited Observed := ⟨empty⟩

/-- Flatten a repository. -/
def ofRemote (r : Remote.Repository) : Observed where
  id := r.id.getD 0
  nodeId := r.nodeId.getD ""
  fullName := r.fullName.getD ""
  name := r.name.getD ""
  links := r.links.map (·.getD "")
  counts := r.counts.map (·.getD 0)
  createdAt := r.createdAt.map (·.format)
  pushedAt := r.pushedAt.map (·.format)
  updatedAt := r.updatedAt.map (·.format)
  language := r.language.getD ""
  fork := r.fork.getD false
  size := r.size.getD 0
  topics := r.topics.getD []
  disabled := r.disabled.getD false
  permissions := r.permissions

/-- Observed states as JSON. Empty values are written, but a missing time, missing permissions
    and an empty list of topics are left out. -/
def record : Record Observed Observed :=
  Observed.mk
    <$> .defaulted "id" .integer 0 (·.id)
    <*> .defaulted "nodeId" .text "" (·.nodeId)
    <*> .defaulted "fullName" .text "" (·.fullName)
    <*> .defaulted "name" .text "" (·.name)
    <*> (Links.recordOf fun name get => .defaulted name .text "" get).within (·.links)
    <*> (Counts.recordOf fun name get => .defaulted name .integer 0 get).within (·.counts)
    <*> .optional "createdAt" .text (·.createdAt)
    <*> .optional "pushedAt" .text (·.pushedAt)
    <*> .optional "updatedAt" .text (·.updatedAt)
    <*> .defaulted "language" .text "" (·.language)
    <*> .defaulted "fork" .flag false (·.fork)
    <*> .defaulted "size" .integer 0 (·.size)
    <*> .elements "topics" .text (·.topics)
    <*> .defaulted "disabled" .flag false (·.disabled)
    <*> .optional "permissions" (.map .flag) (·.permissions)

end Observed

end GitHubReconciler.Repository
