-- SUMMARY: Managed resources of any kind (`Resource`) and their manifests.
import GitHubReconciler.Content.Desired
import GitHubReconciler.Membership.Desired
import GitHubReconciler.Repository.Desired
import GitHubReconciler.Repository.Observed
import GitHubReconciler.Resource.Kind
import GitHubReconciler.Secret.Desired

/-!
# Managed resources

A resource is an object of one of the four kinds. Its manifest is the document the cluster
keeps of it.
-/

namespace GitHubReconciler

/-- Declared repositories. -/
abbrev RepositoryObject := Object Repository.Desired Repository.Observed

/-- Declared repository secrets. -/
abbrev SecretObject := Object Secret.Desired Secret.Fingerprint

/-- Declared memberships. -/
abbrev MembershipObject := Object Membership.Desired Membership.Observed

/-- Declared files. -/
abbrev ContentObject := Object Content.Desired Content.Observed

/-- A managed resource. -/
inductive Resource where
  | repository (object : RepositoryObject)
  | secrets (object : SecretObject)
  | membership (object : MembershipObject)
  | content (object : ContentObject)
  deriving DecidableEq, Repr

namespace Resource

/-! ## Parts -/

def kind : Resource → Kind
  | repository _ => .repository
  | secrets _ => .secrets
  | membership _ => .membership
  | content _ => .content

def metadata : Resource → Metadata
  | repository o => o.metadata
  | secrets o => o.metadata
  | membership o => o.metadata
  | content o => o.metadata

def conditions : Resource → List Condition
  | repository o => o.conditions
  | secrets o => o.conditions
  | membership o => o.conditions
  | content o => o.conditions

/-- Put a condition into the status of a resource. -/
def withCondition (c : Condition) : Resource → Resource
  | repository o => .repository (o.withCondition c)
  | secrets o => .secrets (o.withCondition c)
  | membership o => .membership (o.withCondition c)
  | content o => .content (o.withCondition c)

/-- The name of a resource in the cluster. -/
def displayName (r : Resource) : String :=
  r.metadata.displayName

/-- The name of the external object. -/
def externalName (r : Resource) : String :=
  r.metadata.externalName

def ready? (r : Resource) : Option Condition :=
  Condition.find? Condition.readyType r.conditions

/-! ## Specifications -/

/-- A specification of one of the kinds. -/
inductive AnySpec where
  | repository (spec : Spec Repository.Desired)
  | secrets (spec : Spec Secret.Desired)
  | membership (spec : Spec Membership.Desired)
  | content (spec : Spec Content.Desired)
  deriving DecidableEq, Repr

/-- Replace the specification by one of the same kind; one of another kind is ignored. -/
def withSpec : Resource → AnySpec → Resource
  | repository o, .repository spec => .repository { o with spec }
  | secrets o, .secrets spec => .secrets { o with spec }
  | membership o, .membership spec => .membership { o with spec }
  | content o, .content spec => .content { o with spec }
  | r, _ => r

/-! ## Manifests -/

/-- Manifests of declared repositories. -/
def repositoryCodec : Codec RepositoryObject :=
  Object.codec Kind.repository.definition.apiVersion Kind.repository.name
    Repository.Desired.record.codec Repository.Observed.record.codec

/-- Manifests of declared repository secrets. -/
def secretsCodec : Codec SecretObject :=
  Object.codec Kind.secrets.definition.apiVersion Kind.secrets.name
    Secret.Desired.record.codec Secret.Fingerprint.record.codec

/-- Manifests of declared memberships. -/
def membershipCodec : Codec MembershipObject :=
  Object.codec Kind.membership.definition.apiVersion Kind.membership.name
    Membership.Desired.record.codec Membership.Observed.record.codec

/-- Manifests of declared files. -/
def contentCodec : Codec ContentObject :=
  Object.codec Kind.content.definition.apiVersion Kind.content.name
    Content.Desired.record.codec Content.Observed.record.codec

def manifest : Resource → Json
  | repository o => repositoryCodec.encode o
  | secrets o => secretsCodec.encode o
  | membership o => membershipCodec.encode o
  | content o => contentCodec.encode o

/-- Read the manifest of a resource of a kind. The kind that the manifest itself names is not
    looked at. -/
def ofManifest (kind : Kind) (document : Json) : Decoded Resource :=
  match kind with
  | .repository => repository <$> repositoryCodec.decode document
  | .secrets => secrets <$> secretsCodec.decode document
  | .membership => membership <$> membershipCodec.decode document
  | .content => content <$> contentCodec.decode document

/-- How the manifest of a resource of a kind is read from text. -/
def manifestReader : Kind → Json.Reader Json
  | .repository => repositoryCodec.read
  | .secrets => secretsCodec.read
  | .membership => membershipCodec.read
  | .content => contentCodec.read

/-- Manifests of resources of a kind. -/
def codec (kind : Kind) : Codec Resource where
  encode := manifest
  decode := ofManifest kind
  read := manifestReader kind

/-- Read a specification of a kind. -/
def AnySpec.ofDocument (kind : Kind) (document : Json) : Decoded AnySpec :=
  match kind with
  | .repository => .repository <$> (Spec.record Repository.Desired.record.codec).decode document
  | .secrets => .secrets <$> (Spec.record Secret.Desired.record.codec).decode document
  | .membership => .membership <$> (Spec.record Membership.Desired.record.codec).decode document
  | .content => .content <$> (Spec.record Content.Desired.record.codec).decode document

end Resource

end GitHubReconciler
