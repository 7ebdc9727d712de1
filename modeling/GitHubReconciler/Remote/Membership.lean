-- SUMMARY: Memberships of organizations in GitHub (`Remote.Membership`) and invitations to them.
/-!
# Memberships in GitHub
-/

namespace GitHubReconciler.Remote

/-- A user's membership of an organization. -/
structure Membership where
  url : Option String := none
  /-- Whether the user has accepted: `active` or `pending`. -/
  state : Option String := none
  role : Option String := none
  organizationUrl : Option String := none
  deriving DecidableEq, Inhabited, Repr

/-- Whether the user has accepted the invitation. -/
def Membership.isActive (m : Membership) : Bool :=
  m.state == some "active"

/-- An invitation to an organization. -/
structure Invitation where
  inviteeId : Option Int64
  email : Option String
  role : Option String
  teamIds : List Int64
  deriving DecidableEq, Inhabited, Repr

end GitHubReconciler.Remote
