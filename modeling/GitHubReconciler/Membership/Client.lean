-- SUMMARY: The client of declared memberships (`Membership.client`): inviting and removing members.
import GitHubReconciler.Operation.Basic

/-!
# The client of memberships

A membership is created by an invitation and is ready once the user has accepted it. There is
nothing to update: what is desired matters for the invitation only.
-/

namespace GitHubReconciler.Membership

open Operation

/-! ## Calls -/

def getMembership (user organization : String) :
    Operation (Call.FromGitHub Remote.Membership) :=
  call (.getMembership user organization)

/-- Invite a user to an organization. -/
def invite (organization : String) (invitation : Remote.Invitation) :
    Operation (Call.FromGitHub Unit) :=
  call (.invite organization invitation)

def removeMember (organization user : String) : Operation (Call.FromGitHub Unit) :=
  call (.removeMember organization user)

/-! ## Contexts of failures -/

def getContext : String := "cannot get organization membership"

def inviteContext : String := "cannot create organization invitation"

def removeContext : String := "cannot remove organization member"

/-! ## Operations -/

def readiness (m : Remote.Membership) : Condition.ReadyReason :=
  if m.isActive then .available else .creating

def observe (now : String) : Operation Observation := do
  let o ← getMembershipObject
  match ← getMembership o.desired.user o.desired.organization with
  | .error failure =>
      if failure.isNotFound then
        log .debug "Membership does not exist" []
        return .absent
      else
        throw (.remote getContext failure)
  | .ok found =>
      set (Resource.membership
        ((o.withCondition (.ready (readiness found) now)).withObserved (.ofRemote found)))
      return { resourceExists := true, upToDate := true, filledIn := false }

/-- Invite the user. The membership has its external name from then on. -/
def create : Operation Bool := do
  let o ← getMembershipObject
  expect inviteContext (← invite o.desired.organization o.desired.invitation)
  log .info "Invited member" [("organization", .text o.desired.organization)]
  return true

/-- Nothing to do. -/
def update : Operation Unit := do
  let _ ← getMembershipObject

/-- Remove the member. -/
def delete : Operation Unit := do
  let o ← getMembershipObject
  expect removeContext (← removeMember o.desired.organization o.desired.user)
  log .info "Removed member"
    [("organization", .text o.desired.organization), ("user", .text o.desired.user)]

def client : Client where
  observe now := instrumented .membership .observe (observe now)
  create _ := instrumented .membership .create create
  update := instrumented .membership .update update
  delete _ := instrumented .membership .delete delete

end GitHubReconciler.Membership
