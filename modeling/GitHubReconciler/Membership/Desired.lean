-- SUMMARY: The desired and the observed state of a membership (`Membership.Desired`, `Membership.Observed`).
import GitHubReconciler.Remote.Membership
import GitHubReconciler.Resource.Object

/-!
# Desired memberships

A desired membership says whom to invite to which organization. Whether the user has accepted
is observed.
-/

namespace GitHubReconciler.Membership

structure Desired where
  /-- The user to invite by number; without it the address is needed. -/
  inviteeId : Option Int64 := none
  /-- The address to invite. -/
  email : Option String := none
  /-- The login of the member. -/
  user : String := ""
  role : Option String := none
  organization : String
  deriving DecidableEq, Inhabited, Repr

/-- The invitation to send. The role matters for the invitation only. -/
def Desired.invitation (d : Desired) : Remote.Invitation where
  inviteeId := d.inviteeId
  email := d.email
  role := d.role
  teamIds := []

def Desired.record : Record Desired Desired :=
  Desired.mk
    <$> .optional "inviteeId" .integer (·.inviteeId)
    <*> .optional "email" .text (·.email)
    <*> .defaulted "user" .text "" (·.user)
    <*> .optional "role" .text (·.role)
    <*> .required "organization" .text (·.organization)

structure Observed where
  url : Option String := none
  state : Option String := none
  deriving DecidableEq, Inhabited, Repr

/-- Keep what the status records of a membership. -/
def Observed.ofRemote (m : Remote.Membership) : Observed where
  url := m.url
  state := m.state

def Observed.record : Record Observed Observed :=
  Observed.mk
    <$> .optional "url" .text (·.url)
    <*> .optional "state" .text (·.state)

end GitHubReconciler.Membership
