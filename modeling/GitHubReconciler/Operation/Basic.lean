-- SUMMARY: Operations on a managed resource (`Operation`): calls, notes, and the span and metrics around a whole operation (`Operation.instrumented`).
import GitHubReconciler.Dialogue
import GitHubReconciler.Operation.Call
import GitHubReconciler.Operation.Note

/-!
# Operations

An operation works on the managed resource that it was handed, makes calls, takes notes and
may fail. The changes it has made to the resource before it fails stay.
-/

namespace GitHubReconciler

/-- A computation that makes calls and takes notes. -/
abbrev Conversation := Dialogue Call Call.Answer Note

/-- A computation on a managed resource that may fail. -/
abbrev Operation := ExceptT Failure (StateT Resource Conversation)

namespace Operation

/-! ## Steps -/

/-- Make a call. -/
def call (c : Call) : Operation c.Answer :=
  ExceptT.mk fun r => .ask c fun answer => .done (.ok answer, r)

/-- Take a note. -/
def note (n : Note) : Operation Unit :=
  ExceptT.mk fun r => .note n (.done (.ok (), r))

/-- Log an event. -/
def log (level : Level) (message : String) (fields : List (String × FieldValue)) :
    Operation Unit :=
  note (.event { level, message, fields })

/-- The answer of a call to GitHub; its failure is that of the operation, in a context. -/
def expect (context : String) (answer : Call.FromGitHub α) : Operation α :=
  match answer with
  | .ok x => pure x
  | .error failure => throw (.remote context failure)

/-! ## The resource -/

/-- The declared repository; fails on a resource of another kind. -/
def getRepositoryObject : Operation RepositoryObject := do
  match ← get with
  | .repository o => return o
  | _ => throw (.wrongKind Kind.repository.name)

/-- The declared secret; fails on a resource of another kind. -/
def getSecretObject : Operation SecretObject := do
  match ← get with
  | .secrets o => return o
  | _ => throw (.wrongKind Kind.secrets.name)

/-- The declared membership; fails on a resource of another kind. -/
def getMembershipObject : Operation MembershipObject := do
  match ← get with
  | .membership o => return o
  | _ => throw (.wrongKind Kind.membership.name)

/-- The declared file; fails on a resource of another kind. -/
def getContentObject : Operation ContentObject := do
  match ← get with
  | .content o => return o
  | _ => throw (.wrongKind Kind.content.name)

/-- Refuse a resource of another kind. -/
def checkKind (expected : Kind) (r : Resource) : Except Failure Unit :=
  if r.kind = expected then .ok () else .error (.wrongKind expected.name)

/-! ## Whole operations -/

/-- What is noted after an operation. -/
def closingNotes (kind : Kind) (verb : Verb) (span : Span) : Except Failure α → List Note
  | .ok _ => [.finished kind.name verb.name]
  | .error failure =>
      [.finished kind.name verb.name,
       .event
        { level := .warn
          message := "External operation failed"
          fields := [("error", .text failure.message), ("permanent", .flag failure.isPermanent)]
          span := some span },
       .failed kind.name verb.name failure.reason]

/-- Take notes one after another. -/
def noteAll (notes : List Note) (next : Conversation α) : Conversation α :=
  notes.foldr .note next

/-- Run an operation in the span that names the client, the resource and the operation, and
    note how it ended. -/
def instrumented (kind : Kind) (verb : Verb) (body : Operation α) : Operation α :=
  ExceptT.mk fun r =>
    let span : Span := { kind := kind.name, name := r.displayName, operation := verb.name }
    ((ExceptT.run body).run r |>.mapNotes (Note.inSpan span)) >>= fun (result, r) =>
      noteAll (closingNotes kind verb span result) (.done (result, r))

end Operation

/-! ## Outcomes -/

/-- What an observation finds out. -/
structure Observation where
  /-- The external object exists. -/
  resourceExists : Bool
  /-- GitHub is in the desired state. -/
  upToDate : Bool
  /-- Settings that were not set have been filled in from GitHub and stored. -/
  filledIn : Bool
  deriving DecidableEq, Repr

/-- There is no external object. -/
def Observation.absent : Observation := ⟨false, false, false⟩

/-- What an operation gives. -/
inductive Outcome where
  | observed (observation : Observation)
  /-- The external object was created, and given its external name or not. -/
  | created (nameAssigned : Bool)
  | updated
  | deleted
  deriving DecidableEq, Repr

/-- The four operations of a client; the observing and the writing ones are told the time. -/
structure Client where
  observe : String → Operation Observation
  /-- Whether an external name was assigned. -/
  create : String → Operation Bool
  update : Operation Unit
  delete : String → Operation Unit

def Client.perform (c : Client) (verb : Verb) (now : String) : Operation Outcome :=
  match verb with
  | .observe => .observed <$> c.observe now
  | .create => .created <$> c.create now
  | .update => (fun _ => .updated) <$> c.update
  | .delete => (fun _ => .deleted) <$> c.delete now

end GitHubReconciler
