import Formulary.Office.Refusal

/-!
# Work on accounts

What an admin does with one account: the account as it is afterwards, or a refusal.  An admin of an organization stays
within it and grants no higher role than the own, a super admin is bound by neither, and nobody removes the own account.
-/

namespace Formulary.User

/-- Refuses to grant a role that the user may not grant. -/
def ensureGrant (actor : User) (role : Role) : Except Refusal Unit :=
  ensure (role ∈ actor.grantable) (.roleBeyondRank actor.id role)

/-- The organization of a new account: the one asked for, or that of an admin who asks for none; an admin of an
organization may ask for no other. -/
def organizationFor (actor : User) (request : AccountRequest) : Except Refusal (Option OrganizationId) :=
  if actor.holds .superAdmin then .ok request.organization
  else
    match request.organization with
    | none => .ok actor.organization
    | some requested =>
      if actor.organization = some requested then .ok (some requested)
      else .error (.foreignOrganization request.id)

/-- A new account. -/
def create (actor : User) (request : AccountRequest) : Except Refusal User := do
  actor.ensureGrant request.role
  let organization ← actor.organizationFor request
  let u := ((anonymous request.id organization).named request.name request.email).assign request.role
  actor.ensureRight .edit (.user u)
  return u

/-- An account with other contents; only a super admin moves it to another organization. -/
def revise (actor target : User) (revision : AccountRevision) : Except Refusal User := do
  actor.ensureRight .edit (.user target)
  actor.ensureGrant revision.role
  ensure (revision.organization = target.organization || actor.holds .superAdmin) (.foreignOrganization target.id)
  return { (target.named revision.name revision.email).assign revision.role with
    organization := revision.organization }

/-- Refuses to remove the own account or one that the user does not administer. -/
def ensureRemovable (actor target : User) : Except Refusal Unit := do
  ensure (actor.id ≠ target.id) (.ownAccount actor.id)
  actor.ensureRight .edit (.user target)

end Formulary.User
