-- SUMMARY: The kinds of managed resources (`Kind`) and how each is known to the cluster (`Kind.definition`).
/-!
# Kinds

Four kinds of resources are managed. Each is known to the cluster under a group, a version and
a plural name, and has columns that listings of its resources show.
-/

namespace GitHubReconciler

/-- A kind of managed resource. -/
inductive Kind where
  | repository
  | secrets
  | membership
  | content
  deriving DecidableEq, Repr

/-- A column in listings of resources. -/
structure Column where
  name : String
  type : String
  /-- The path to the value inside the resource. -/
  path : String
  deriving DecidableEq, Repr

/-- How a kind is known to the cluster. -/
structure Definition where
  group : String
  version : String
  kind : String
  plural : String
  singular : String
  shortNames : List String
  categories : List String
  /-- Whether resources belong to the whole cluster or to one of its namespaces. -/
  scope : String
  columns : List Column
  /-- The parts of a resource that are written apart from the rest. -/
  subresources : List String
  served : Bool
  stored : Bool
  deriving DecidableEq, Repr

namespace Definition

def name (d : Definition) : String :=
  d.plural ++ "." ++ d.group

/-- The group with its version. -/
def apiVersion (d : Definition) : String :=
  d.group ++ "/" ++ d.version

/-- The path of the resources in the cluster's interface. -/
def path (d : Definition) : String :=
  "/apis/" ++ d.apiVersion ++ "/" ++ d.plural

end Definition

namespace Kind

def name : Kind → String
  | .repository => "Repository"
  | .secrets => "Secrets"
  | .membership => "Membership"
  | .content => "Content"

def all : List Kind := [.repository, .secrets, .membership, .content]

def ofName? (name : String) : Option Kind :=
  all.find? fun k => k.name == name

@[simp] theorem ofName?_name (k : Kind) : ofName? k.name = some k := by
  cases k with
  | repository => rfl
  | secrets => rfl
  | membership => rfl
  | content => rfl

/-- The column of the address of a page. -/
def urlColumn : Column := ⟨"URL", "string", ".status.atProvider.htmlUrl"⟩

/-- The column of the state of a membership. -/
def stateColumn : Column := ⟨"STATE", "string", ".status.atProvider.state"⟩

/-- The column of the status of `Ready`. -/
def readyColumn : Column :=
  ⟨"READY", "string", ".status.conditions[?(@.type=='Ready')].status"⟩

def ageColumn : Column := ⟨"AGE", "date", ".metadata.creationTimestamp"⟩

/-- The definition with a group, two names and columns of its own. -/
def define (kind : Kind) (group plural singular : String) (columns : List Column) :
    Definition where
  group := group
  version := "v1alpha1"
  kind := kind.name
  plural := plural
  singular := singular
  shortNames := []
  categories := ["crossplane", "managed", "github"]
  scope := "Cluster"
  columns := columns ++ [readyColumn, ageColumn]
  subresources := ["status"]
  served := true
  stored := true

/-- How a kind is known to the cluster. -/
def definition : Kind → Definition
  | .repository =>
      define .repository "repositories.github.crossplane.io" "repositories" "repository" [urlColumn]
  | .secrets => define .secrets "secrets.github.crossplane.io" "secrets" "secrets" []
  | .membership =>
      define .membership "organizations.github.crossplane.io" "memberships" "membership"
        [stateColumn]
  | .content =>
      define .content "repositories.github.crossplane.io" "contents" "content" [urlColumn]

end Kind

end GitHubReconciler
