-- SUMMARY: When a resource is looked at again (`Requeue.Policy`): after a failure, after success, and for resources that are gone.
import GitHubReconciler.Config
import GitHubReconciler.Failure
import GitHubReconciler.Logging.Event
import GitHubReconciler.Requeue.Backoff

/-!
# Requeue policy

After success a resource is looked at again at the next poll. After a permanent failure it
waits for a long time. Other failures in a row wait longer and longer; the policy remembers a
backoff for every resource that is failing, under its kind and name.
-/

namespace GitHubReconciler.Requeue

/-- What is remembered of a resource that is failing. -/
structure Tracked where
  backoff : Backoff
  /-- The number of failures in a row. -/
  failures : UInt32
  deriving DecidableEq, Repr

/-- The policy with all that it remembers. -/
structure Policy where
  config : Config
  tracked : List (String × Tracked) := []
  deriving DecidableEq, Repr

/-- What the policy remembers a resource under. -/
def key (kind name : String) : String :=
  kind ++ "/" ++ name

namespace Policy

/-- The policy of a configuration, which remembers nothing yet. -/
def new (config : Config) : Policy := { config }

/-- What is remembered under a key. -/
def find? (p : Policy) (k : String) : Option Tracked :=
  p.tracked.lookup k

/-- Forget what is remembered under a key. -/
def erase (p : Policy) (k : String) : Policy :=
  { p with tracked := p.tracked.filter fun entry => entry.1 ≠ k }

/-- Remember something under a key. -/
def insert (p : Policy) (k : String) (t : Tracked) : Policy :=
  { p with tracked := (k, t) :: (p.erase k).tracked }

/-- The number of resources that are failing. -/
def size (p : Policy) : Nat :=
  p.tracked.length

/-- The number of failures in a row of a resource. -/
def failures (p : Policy) (kind name : String) : UInt32 :=
  match p.find? (key kind name) with
  | some t => t.failures
  | none => 0

/-- What to begin with for a resource that starts failing. -/
def fresh (p : Policy) : Tracked where
  backoff := .start p.config.backoffMinMinutes p.config.backoffMaxMinutes
  failures := 0

/-- A failed resource: the seconds until it is looked at again, and what is logged. -/
def onFailure (p : Policy) (kind name : String) (f : Failure) : UInt64 × Policy × List Event :=
  if f.isPermanent then
    (p.config.permanentRequeueSeconds, p,
      [{ level := .warn
         message := "Permanent error, waiting for the resource to change"
         fields := [("resource.kind", .text kind), ("resource.name", .text name),
           ("error", .text f.message)] }])
  else
    let k := key kind name
    let t := (p.find? k).getD p.fresh
    let count := succSat t.failures
    let (delay, backoff) := t.backoff.next
    (delay, p.insert k { backoff, failures := count },
      [{ level := .warn
         message := "Reconcile failed"
         fields := [("resource", .text k), ("error_count", .number count.toNat),
           ("error", .text f.message)] },
       { level := .info
         message := "Retrying with Fibonacci backoff"
         fields := [("resource", .text k), ("delay_secs", .number delay.toNat)] }])

/-- A resource that is as desired: the seconds until it is looked at again. -/
def onSuccess (p : Policy) (kind name : String) : UInt64 × Policy :=
  (p.config.pollSeconds, p.erase (key kind name))

/-- A resource that is gone, and what is logged. -/
def forget (p : Policy) (kind name : String) : Policy × List Event :=
  let k := key kind name
  match p.find? k with
  | none => (p, [])
  | some _ =>
      (p.erase k,
        [{ level := .debug
           message := "Dropped backoff state"
           fields := [("resource", .text k)] }])

end Policy

end GitHubReconciler.Requeue
