import Formulary.Identifier

/-!
# Accounts

The users of an office, the roles that they hold and the organizations to which they belong.  A set of roles is given by
which of the five roles it has, so that two sets with the same roles are equal.
-/

namespace Formulary

/-- A role that a user may hold, from the lowest to the highest rank. -/
inductive Role where
  | user
  | editor
  | validator
  | adminOrg
  | superAdmin
deriving DecidableEq

namespace Role

/-- The roles from the lowest to the highest rank. -/
def all : List Role := [user, editor, validator, adminOrg, superAdmin]

def name : Role → String
  | user => "ROLE_USER"
  | editor => "ROLE_EDITOR"
  | validator => "ROLE_VALIDATOR"
  | adminOrg => "ROLE_ADMIN_ORG"
  | superAdmin => "ROLE_SUPER_ADMIN"

/-- The role with a given name. -/
def ofName? (name : String) : Option Role := all.find? (fun r => r.name = name)

theorem mem_all (r : Role) : r ∈ all := by cases r <;> decide

theorem ofName?_name (r : Role) : ofName? r.name = some r := by cases r <;> decide

end Role

/-- A set of roles, by whether it has each one. -/
structure RoleSet where
  user : Bool
  editor : Bool
  validator : Bool
  adminOrg : Bool
  superAdmin : Bool
deriving DecidableEq

namespace RoleSet

def empty : RoleSet := ⟨false, false, false, false, false⟩

def has (s : RoleSet) : Role → Bool
  | .user => s.user
  | .editor => s.editor
  | .validator => s.validator
  | .adminOrg => s.adminOrg
  | .superAdmin => s.superAdmin

/-- The set with one role more. -/
def insert (s : RoleSet) : Role → RoleSet
  | .user => { s with user := true }
  | .editor => { s with editor := true }
  | .validator => { s with validator := true }
  | .adminOrg => { s with adminOrg := true }
  | .superAdmin => { s with superAdmin := true }

/-- The roles of a set from the lowest to the highest rank. -/
def toList (s : RoleSet) : List Role := Role.all.filter s.has

def ofList (roles : List Role) : RoleSet := roles.foldl insert empty

theorem has_insert (s : RoleSet) (r q : Role) : (s.insert r).has q = (decide (q = r) || s.has q) := by
  cases r <;> cases q <;> rfl

theorem ext_has {s t : RoleSet} (h : ∀ r, s.has r = t.has r) : s = t := by
  obtain ⟨u, e, v, a, p⟩ := s
  obtain ⟨u', e', v', a', p'⟩ := t
  have := h .user; have := h .editor; have := h .validator; have := h .adminOrg; have := h .superAdmin
  simp_all [has]

theorem has_foldl_insert (roles : List Role) (s : RoleSet) (r : Role) :
    (roles.foldl insert s).has r = (s.has r || decide (r ∈ roles)) := by
  induction roles generalizing s with
  | nil => simp
  | cons q roles ih =>
    rw [List.foldl_cons, ih, has_insert]
    by_cases hq : r = q
    · simp [hq]
    · simp [hq]

/-- A list gives the set with just its roles, in whatever order and however often they stand there. -/
theorem ofList_eq_iff {roles : List Role} {s : RoleSet} : ofList roles = s ↔ ∀ r, s.has r = true ↔ r ∈ roles := by
  have hof (r : Role) : (ofList roles).has r = decide (r ∈ roles) := by
    rw [ofList, has_foldl_insert]
    cases r <;> rfl
  constructor
  · rintro rfl r
    rw [hof, decide_eq_true_iff]
  · intro h
    apply ext_has
    intro r
    rw [hof, Bool.eq_iff_iff, decide_eq_true_iff]
    exact (h r).symm

theorem ofList_toList (s : RoleSet) : ofList s.toList = s :=
  ofList_eq_iff.2 fun r => by simp [toList, Role.mem_all]

end RoleSet

/-- A user account. -/
structure User where
  id : UserId
  name : String
  email : String
  roles : RoleSet
  organization : Option OrganizationId
deriving DecidableEq

namespace User

/-- One role besides the base role. -/
def rolesFor (r : Role) : RoleSet := (RoleSet.empty.insert .user).insert r

/-- An account without a name, with the base role alone. -/
def anonymous (id : UserId) (organization : Option OrganizationId) : User :=
  ⟨id, "", "", rolesFor .user, organization⟩

def named (u : User) (name email : String) : User := { u with name, email }

/-- The user with one role more. -/
def grant (u : User) (r : Role) : User := { u with roles := u.roles.insert r }

/-- The user with one role besides the base role, in place of all roles held before. -/
def assign (u : User) (r : Role) : User := { u with roles := rolesFor r }

def holds (u : User) (r : Role) : Bool := u.roles.has r

/-- Whether the user administers an organization or all of them. -/
def isAdministrator (u : User) : Bool := u.holds .adminOrg || u.holds .superAdmin

/-- Whether the user may write templates. -/
def isAuthor (u : User) : Bool := u.holds .editor || u.holds .adminOrg || u.holds .superAdmin

/-- Whether the user belongs to the organization of a record; no user belongs to an absent one. -/
def belongsTo (u : User) (organization : Option OrganizationId) : Bool :=
  u.organization.isSome && u.organization = organization

/-- The roles that a user may give to others: none without administering, and the highest only if held. -/
def grantable (u : User) : List Role :=
  if u.holds .superAdmin then Role.all
  else if u.holds .adminOrg then [.user, .editor, .validator, .adminOrg]
  else []

end User

end Formulary
