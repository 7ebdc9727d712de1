-- SUMMARY: Sessions (`Session`): a client's operations one after another on one resource, in a world that answers their calls.
import GitHubReconciler.Content.Client
import GitHubReconciler.Membership.Client
import GitHubReconciler.Metrics.Registry
import GitHubReconciler.Repository.Client
import GitHubReconciler.Secret.Client

/-!
# Sessions

In a session one client works on one resource, step after step. Between its operations the
resource may be changed from outside, and metrics may be switched on and off. What a step shows
is its result, the calls it made with their answers, its log events and what is left behind.
-/

namespace GitHubReconciler

def Kind.client : Kind → Client
  | .repository => Repository.client
  | .secrets => Secret.client
  | .membership => Membership.client
  | .content => Content.client

/-- How the client of a kind is shown in diagnostics, with its parts left out. -/
def Kind.clientText (k : Kind) : String :=
  k.name ++ "External \x7b .. \x7d"

/-- One of the operations of a client as a conversation: its result and the resource after it. -/
def Client.converse (c : Client) (verb : Verb) (now : String) (r : Resource) :
    Conversation (Except Failure Outcome × Resource) :=
  (c.perform verb now).run.run r

namespace Session

inductive Step where
  | perform (verb : Verb)
  /-- Someone changes the specification. -/
  | setSpec (spec : Resource.AnySpec)
  /-- The client is handed another resource. -/
  | setResource (resource : Resource)
  | configureMetrics (config : Config)

/-- What lasts from step to step. -/
structure State where
  resource : Resource
  metrics : Metrics.Registry := {}

/-- What a step shows. A step that is no operation has no result. -/
structure Report where
  result : Option (Except Failure Outcome) := none
  exchanges : List (Dialogue.Exchange Call Call.Answer) := []
  notes : List Note := []

/-- Take a step of the client of a kind at some time. An operation takes some seconds. -/
def step (client : Kind) (world : Dialogue.World Call Call.Answer σ) (now : String)
    (seconds : Float) (s : Step) (state : State) (w : σ) : Report × State × σ :=
  match s with
  | .perform verb =>
      let run := (client.client.converse verb now state.resource).run world w
      let (result, resource) := run.value
      ({ result := some result, exchanges := run.exchanges, notes := run.notes },
       { resource, metrics := state.metrics.addNotes seconds run.notes }, run.world)
  | .setSpec spec => ({}, { state with resource := state.resource.withSpec spec }, w)
  | .setResource resource => ({}, { state with resource }, w)
  | .configureMetrics config =>
      ({}, { state with metrics := state.metrics.configure config }, w)

end Session

end GitHubReconciler
