import Formulary.Proofs.Office.Accounts

/-!
# What admins of an organization can make of the accounts

Who is no super admin works on the accounts of the own organization alone, and only as an admin of it
(`User.GrantedBy`).  So in a run in which no super admin acts nobody becomes a super admin, no organization gets its
first admin, and no account changes its organization (`Run.KeepsRanks`).  The rank of the accounts that are worked on
is not looked at: a super admin who belongs to an organization can be revised and removed by its admins, and by nobody
else below that rank (`Office.superAdmin_lost_iff`).
-/

namespace Formulary

variable {o : Office} {s : Step} {u v w : User}

namespace User

/-- An account has its role from a user who is an admin of its organization, and it is not the highest role. -/
structure GrantedBy (v u : User) (role : Role) : Prop where
  role_ne : role ≠ .superAdmin
  roles : v.roles = rolesFor role
  adminOrg : u.holds .adminOrg = true
  organization : ∃ b, u.organization = some b ∧ v.organization = some b

theorem GrantedBy.holds_iff {role q : Role} (h : v.GrantedBy u role) : v.holds q = true ↔ q = .user ∨ q = role := by
  rw [holds, h.roles, rolesFor, RoleSet.has_insert, RoleSet.has_insert]
  cases q <;> cases role <;> decide

theorem GrantedBy.not_superAdmin {role : Role} (h : v.GrantedBy u role) : v.holds .superAdmin = false := by
  rw [← Bool.not_eq_true, h.holds_iff]
  rintro (hrole | hrole)
  · cases hrole
  · exact h.role_ne hrole.symm

variable (hu : u.holds .superAdmin = false)

include hu

theorem grantedBy_of_create {request : AccountRequest} (h : u.create request = .ok v) :
    v.GrantedBy u request.role := by
  obtain ⟨hrole, _, _, hedit, rfl⟩ := create_eq_ok_iff.1 h
  obtain ⟨hadmin, horg⟩ := (administers_iff hu).1 hedit
  exact ⟨((mem_grantable_iff hu).1 hrole).2, rfl, hadmin, horg⟩

theorem organization_of_revise {revision : AccountRevision} (h : u.revise w revision = .ok v) :
    v.organization = w.organization := by
  obtain ⟨_, _, horg, rfl⟩ := revise_eq_ok_iff.1 h
  exact horg.resolve_right (by simp [hu])

theorem grantedBy_of_revise {revision : AccountRevision} (h : u.revise w revision = .ok v) :
    v.GrantedBy u revision.role := by
  have hkept := organization_of_revise hu h
  obtain ⟨hedit, hrole, _, rfl⟩ := revise_eq_ok_iff.1 h
  obtain ⟨hadmin, b, hub, hwb⟩ := (administers_iff hu).1 hedit
  exact ⟨((mem_grantable_iff hu).1 hrole).2, rfl, hadmin, b, hub, hkept.trans hwb⟩

end User

namespace Office

variable (hact : ∀ u, o.user? s.actor = some u → u.holds .superAdmin = false)

include hact

/-- Under a user who is no super admin an account after a step was there before and is given no role, or has its role
from the user. -/
theorem AccountOrigin.kept_or_granted (h : o.AccountOrigin s v) :
    (v ∈ o.users ∧ ∀ role, s.grant? ≠ some (v.id, role)) ∨
      ∃ u role, o.user? s.actor = some u ∧ s.grant? = some (v.id, role) ∧ v.GrantedBy u role := by
  cases h with
  | kept hv hs => exact .inl ⟨hv, hs⟩
  | made hs hu hv =>
    subst hs
    have hgranted := User.grantedBy_of_create (hact _ hu) hv
    obtain ⟨_, _, _, _, rfl⟩ := User.create_eq_ok_iff.1 hv
    exact .inr ⟨_, _, hu, rfl, hgranted⟩
  | revised hs hu _ hv =>
    subst hs
    have hgranted := User.grantedBy_of_revise (hact _ hu) hv
    obtain ⟨_, _, _, rfl⟩ := User.revise_eq_ok_iff.1 hv
    exact .inr ⟨_, _, hu, rfl, hgranted⟩

theorem AccountOrigin.organization_eq (h : o.AccountOrigin s w) (distinct : o.UsersDistinct)
    (fresh : ∀ actor request, s = .addUser actor request → ∀ v ∈ o.users, v.id ≠ request.id) (hv : v ∈ o.users)
    (hid : w.id = v.id) : w.organization = v.organization := by
  cases h with
  | kept hw => rw [user_eq_of_id_eq distinct hw hv hid]
  | made hs _ hw =>
    obtain ⟨_, _, _, _, rfl⟩ := User.create_eq_ok_iff.1 hw
    exact absurd hid.symm (fresh _ _ hs v hv)
  | @revised actor revision u c hs hu hc hw =>
    subst hs
    have hkept := User.organization_of_revise (hact u hu) hw
    obtain ⟨_, _, _, rfl⟩ := User.revise_eq_ok_iff.1 hw
    rw [hkept, user_eq_of_id_eq distinct hc hv hid]

end Office

namespace Run

/-- No super admin acts in a run. -/
def NoSuperAdminActs (r : Run) : Prop := ∀ n u, r.Acts n u → u.holds .superAdmin = false

/-- Step `n` makes an account for a user. -/
def Adds (r : Run) (n : Nat) (u v : User) : Prop :=
  ∃ actor request, r.Accepts n (.addUser actor request) (.user v) ∧ (r.state n).user? actor = some u

/-- Step `n` gives a role to the account with an identifier. -/
def Grants (r : Run) (n : Nat) (id : UserId) (role : Role) : Prop :=
  ∃ s a, r.Accepts n s a ∧ s.grant? = some (id, role)

/-- Before state `n` the account with an identifier was given a role, and none since. -/
def LastGrant (r : Run) (id : UserId) (n : Nat) (role : Role) : Prop :=
  ∃ k < n, r.Grants k id role ∧ ∀ i, k < i → i < n → ∀ q, ¬ r.Grants i id q

/-- The account with an identifier is there from state `k` to state `n`. -/
def Remains (r : Run) (id : UserId) (k n : Nat) : Prop :=
  ∀ i, k ≤ i → i ≤ n → ∃ v ∈ (r.state i).users, v.id = id

/-- Nobody comes to a rank that only super admins give, and accounts stay within their organizations. -/
structure KeepsRanks (r : Run) : Prop where
  /-- A super admin was one at the start. -/
  superAdmin : ∀ n, ∀ v ∈ (r.state n).users, v.holds .superAdmin = true → v ∈ r.start.users
  /-- An organization that has an admin had one at the start. -/
  adminOrg : ∀ n, ∀ v ∈ (r.state n).users, v.holds .adminOrg = true → ∀ b, v.organization = some b →
    ∃ u ∈ r.start.users, u.holds .adminOrg = true ∧ u.organization = some b
  /-- An account keeps its organization as long as it is there. -/
  organization : ∀ k n, k ≤ n → ∀ v ∈ (r.state k).users, r.Remains v.id k n → ∀ w ∈ (r.state n).users, w.id = v.id →
    w.organization = v.organization
  /-- An account is made by an admin of an organization, and belongs to that organization. -/
  added : ∀ n u v, r.Adds n u v → v ∈ (r.state (n + 1)).users ∧ u.holds .adminOrg = true ∧
    ∃ b, u.organization = some b ∧ v.organization = some b
  /-- An account that was given roles holds the last one and the base role, and no others. -/
  roles : ∀ n, ∀ v ∈ (r.state n).users, (∃ k < n, ∃ role, r.Grants k v.id role) →
    ∃ role, r.LastGrant v.id n role ∧ ∀ q, v.holds q = true ↔ q = .user ∨ q = role

variable {r : Run} {n : Nat}

theorem Adds.granted (h : r.Adds n u v) (hno : r.NoSuperAdminActs) :
    v ∈ (r.state (n + 1)).users ∧ ∃ role, v.GrantedBy u role := by
  obtain ⟨actor, request, h, hu⟩ := h
  have hsuper := hno n u ⟨_, _, h, hu⟩
  obtain ⟨o', hnext, he⟩ := h.exists_effect
  rw [hnext]
  cases he with
  | addUser hu' hv =>
    obtain rfl := Option.some.inj (hu.symm.trans hu')
    exact ⟨List.mem_append_right _ (List.mem_singleton_self _), _, User.grantedBy_of_create hsuper hv⟩

section NoSuperAdmin

variable (distinct : r.start.UsersDistinct) (fresh : r.AddsFresh) (hno : r.NoSuperAdminActs)

include distinct fresh hno

theorem account_succ_cases (hv : v ∈ (r.state (n + 1)).users) :
    (v ∈ (r.state n).users ∧ ∀ role, ¬ r.Grants n v.id role) ∨
      ∃ u ∈ (r.state n).users, ∃ role, r.Grants n v.id role ∧ v.GrantedBy u role := by
  rcases accepts_or_state_succ_eq r n with ⟨s, a, h⟩ | ⟨hnone, hsame⟩
  · have horigin := h.accountOrigin (usersDistinct_state distinct fresh n) fresh hv
    rcases horigin.kept_or_granted fun u hu => hno n u ⟨s, a, h, hu⟩ with ⟨hv, hs⟩ | ⟨u, role, hu, hs, hgranted⟩
    · refine .inl ⟨hv, ?_⟩
      rintro role ⟨s', a', h', hs'⟩
      obtain rfl := Option.some.inj (h.1.symm.trans h'.1)
      exact hs role hs'
    · exact .inr ⟨u, (Office.mem_users_of_user? hu).1, role, ⟨s, a, h, hs⟩, hgranted⟩
  · exact .inl ⟨hsame ▸ hv, fun role ⟨s, a, ha, _⟩ => hnone s a ha⟩

theorem mem_start_of_superAdmin (hv : v ∈ (r.state n).users) (hs : v.holds .superAdmin = true) :
    v ∈ r.start.users := by
  induction n with
  | zero => exact hv
  | succ n ih =>
    rcases account_succ_cases distinct fresh hno hv with ⟨hv, _⟩ | ⟨_, _, _, _, hgranted⟩
    · exact ih hv
    · rw [hgranted.not_superAdmin] at hs
      cases hs

theorem exists_start_adminOrg {b : OrganizationId} (hv : v ∈ (r.state n).users) (hadmin : v.holds .adminOrg = true)
    (hb : v.organization = some b) : ∃ u ∈ r.start.users, u.holds .adminOrg = true ∧ u.organization = some b := by
  -- for all accounts at once, as the admin who grants a role is another account
  induction n generalizing v with
  | zero => exact ⟨v, hv, hadmin, hb⟩
  | succ n ih =>
    rcases account_succ_cases distinct fresh hno hv with ⟨hv, _⟩ | ⟨u, hu, _, _, hgranted⟩
    · exact ih hv hadmin hb
    -- the admin who grants the role was an admin of the same organization one state before
    · obtain ⟨c, huc, hvc⟩ := hgranted.organization
      exact ih hu hgranted.adminOrg (huc.trans (hvc.symm.trans hb))

theorem organization_eq_succ (hv : v ∈ (r.state n).users) (hw : w ∈ (r.state (n + 1)).users) (hid : w.id = v.id) :
    w.organization = v.organization := by
  have hdistinct := usersDistinct_state distinct fresh n
  rcases state_succ_cases r n with ⟨s, a, h, _⟩ | h
  · have horigin := h.accountOrigin hdistinct fresh hw
    refine horigin.organization_eq (fun u hu => hno n u ⟨s, a, h, hu⟩) hdistinct ?_ hv hid
    rintro actor request rfl
    exact fresh n actor request a h
  · rw [Office.user_eq_of_id_eq hdistinct (h ▸ hw) hv hid]

theorem organization_eq_of_remains {k : Nat} (hkn : k ≤ n) (hv : v ∈ (r.state k).users) (hr : r.Remains v.id k n)
    (hw : w ∈ (r.state n).users) (hid : w.id = v.id) : w.organization = v.organization := by
  induction hkn generalizing w with
  | refl => rw [Office.user_eq_of_id_eq (usersDistinct_state distinct fresh k) hw hv hid]
  | @step n hkn ih =>
    obtain ⟨c, hc, hcid⟩ := hr n hkn (by omega)
    have hwc := organization_eq_succ distinct fresh hno hc hw (hid.trans hcid.symm)
    exact hwc.trans (ih (fun i hki hin => hr i hki (by omega)) hc hcid)

theorem exists_lastGrant (hv : v ∈ (r.state n).users) (hgrant : ∃ k < n, ∃ role, r.Grants k v.id role) :
    ∃ role, r.LastGrant v.id n role ∧ ∀ q, v.holds q = true ↔ q = .user ∨ q = role := by
  induction n with
  | zero => obtain ⟨k, hk, _⟩ := hgrant; cases hk
  | succ n ih =>
    rcases account_succ_cases distinct fresh hno hv with ⟨hv, hnone⟩ | ⟨_, _, role, hrole, hgranted⟩
    · obtain ⟨k, hk, role, hrole⟩ := hgrant
      have hkn : k ≠ n := by
        rintro rfl
        exact hnone role hrole
      obtain ⟨last, ⟨j, hj, hlast, hsince⟩, hroles⟩ := ih hv ⟨k, by omega, role, hrole⟩
      refine ⟨last, ⟨j, by omega, hlast, fun i hji hin => ?_⟩, hroles⟩
      rcases Nat.lt_succ_iff_lt_or_eq.1 hin with hin | rfl
      · exact hsince i hji hin
      · exact hnone
    · exact ⟨role, ⟨n, by omega, hrole, fun i hni hin => by omega⟩, fun q => hgranted.holds_iff⟩

end NoSuperAdmin

/-- In a run in which no super admin acts nobody comes to a rank that only super admins give, and accounts stay within
their organizations. -/
theorem keepsRanks (r : Run) (distinct : r.start.UsersDistinct) (fresh : r.AddsFresh) (hno : r.NoSuperAdminActs) :
    r.KeepsRanks where
  superAdmin _ _ hv hs := mem_start_of_superAdmin distinct fresh hno hv hs
  adminOrg _ _ hv hadmin _ hb := exists_start_adminOrg distinct fresh hno hv hadmin hb
  organization _ _ hkn _ hv hr _ hw hid := organization_eq_of_remains distinct fresh hno hkn hv hr hw hid
  added _ _ _ h := by
    obtain ⟨hv, _, hgranted⟩ := h.granted hno
    exact ⟨hv, hgranted.adminOrg, hgranted.organization⟩
  roles _ _ hv hgrant := exists_lastGrant distinct fresh hno hv hgrant

section Staff

open SmallOffice

/-- An admin makes an account for another admin, who changes the role of the editor, asks in vain for a higher rank, and
removes the account of a super admin of the organization. -/
def staffing : Run where
  start := { office with users := [admin, root, editor, owner] }
  steps := [
    .addUser admin.id ⟨⟨5⟩, "Paul Roy", "paul@acme.fr", .adminOrg, none⟩,
    .reviseUser ⟨5⟩ editor.id ⟨"Marie Roy", "marie@acme.fr", .validator, some acme⟩,
    .reviseUser ⟨5⟩ ⟨5⟩ ⟨"Paul Roy", "paul@acme.fr", .superAdmin, some acme⟩,
    .addUser owner.id ⟨⟨7⟩, "Jean Petit", "jean@beta.fr", .user, none⟩,
    .removeUser ⟨5⟩ root.id]

theorem staffing_keepsRanks :
    staffing.start.UsersDistinct ∧ staffing.AddsFresh ∧ staffing.NoSuperAdminActs ∧ staffing.KeepsRanks ∧
      (staffing.state 5).users =
        [admin, ⟨editor.id, "Marie Roy", "marie@acme.fr", User.rolesFor .validator, some acme⟩, owner,
          ⟨⟨5⟩, "Paul Roy", "paul@acme.fr", User.rolesFor .adminOrg, some acme⟩] := by
  have distinct : staffing.start.UsersDistinct := by decide
  have fresh : staffing.AddsFresh := by
    rintro n actor request a ⟨hs, _⟩
    rcases n with _ | _ | _ | _ | _ | n <;> cases hs
    · decide +kernel
    · decide +kernel
  have hno : staffing.NoSuperAdminActs := by
    have hcheck : ∀ n < 5, ∀ s ∈ staffing.steps[n]?, ∀ u ∈ (staffing.state n).user? s.actor,
        u.holds .superAdmin = false := by
      decide +kernel
    rintro n u ⟨s, a, ⟨hs, _⟩, hu⟩
    exact hcheck n (List.getElem?_eq_some_iff.1 hs).1 s hs u hu
  exact ⟨distinct, fresh, hno, keepsRanks staffing distinct fresh hno, by decide +kernel⟩

end Staff

end Run

/-! ### Super admins within an organization -/

namespace Office

/-- Under a user who is no super admin a super admin is lost if and only if the user is an admin of the organization of
the super admin and removes the account, or gives it another role within the organization. -/
theorem superAdmin_lost_iff (o : Office) (s : Step) (distinct : o.UsersDistinct) (hu : o.user? s.actor = some u)
    (hsuper : u.holds .superAdmin = false) (hv : v ∈ o.users) (hvs : v.holds .superAdmin = true) :
    v ∉ (o.step s).1.users ↔
      (u.holds .adminOrg = true ∧ ∃ b, u.organization = some b ∧ v.organization = some b) ∧
        (s = .removeUser u.id v.id ∨
          ∃ revision, s = .reviseUser u.id v.id revision ∧ revision.role ≠ .superAdmin ∧
            revision.organization = v.organization) := by
  rw [not_mem_users_step_iff distinct hu hv, User.ensureRemovable_eq_ok_iff, User.administers_iff hsuper]
  -- the super admin is another account than the user, so the check that nobody removes the own account says nothing
  have hne : u.id ≠ v.id := by
    intro hid
    rw [user_eq_of_id_eq distinct (mem_users_of_user? hu).1 hv hid, hvs] at hsuper
    cases hsuper
  constructor
  · rintro (⟨hs, _, hadmin⟩ | ⟨revision, _, hs, hr, _⟩)
    · exact ⟨hadmin, .inl hs⟩
    · obtain ⟨hedit, hrole, horg, _⟩ := User.revise_eq_ok_iff.1 hr
      exact ⟨(User.administers_iff hsuper).1 hedit, .inr ⟨revision, hs,
        ((User.mem_grantable_iff hsuper).1 hrole).2, horg.resolve_right (by simp [hsuper])⟩⟩
  · rintro ⟨hadmin, hs | ⟨revision, hs, hrole, horg⟩⟩
    · exact .inl ⟨hs, hne, hadmin⟩
    · have hr := User.revise_eq_ok_iff.2 ⟨(User.administers_iff hsuper).2 hadmin,
        (User.mem_grantable_iff hsuper).2 ⟨hadmin.1, hrole⟩, .inl horg, rfl⟩
      refine .inr ⟨revision, _, hs, hr, fun he => ?_⟩
      rw [← he, (User.grantedBy_of_revise hsuper hr).not_superAdmin] at hvs
      cases hvs

/-! The admin of an organization takes the rank from a super admin of it. -/

section Demotion

open SmallOffice

def staff : Office := { office with users := [admin, root] }

def demotion : Step := .reviseUser admin.id root.id ⟨root.name, root.email, .user, root.organization⟩

theorem demotion_superAdmin_lost :
    staff.UsersDistinct ∧ staff.user? demotion.actor = some admin ∧ admin.holds .superAdmin = false ∧
      root ∈ staff.users ∧ root.holds .superAdmin = true ∧ root ∉ (staff.step demotion).1.users := by
  have distinct : staff.UsersDistinct := by decide
  have hactor : staff.user? demotion.actor = some admin := by decide
  have hsuper : admin.holds .superAdmin = false := by decide
  have hroot : root ∈ staff.users := by decide
  have hrank : root.holds .superAdmin = true := by decide
  have hlost := (superAdmin_lost_iff staff demotion distinct hactor hsuper hroot hrank).2
    ⟨⟨by decide, acme, rfl, rfl⟩, .inr ⟨_, rfl, by decide, rfl⟩⟩
  exact ⟨distinct, hactor, hsuper, hroot, hrank, hlost⟩

/-- Super admins are not out of the reach of lower ranks: the admin of their organization removes their accounts. -/
theorem not_superAdmin_kept :
    ¬ ∀ (o : Office) (s : Step) (u v : User), o.UsersDistinct →
      (∀ actor request, s = .addUser actor request → ∀ w ∈ o.users, w.id ≠ request.id) →
      o.user? s.actor = some u → u.holds .superAdmin = false → v ∈ o.users → v.holds .superAdmin = true →
      v ∈ (o.step s).1.users := by
  intro h
  have hkept := h staff (.removeUser admin.id root.id) admin root (by decide) nofun (by decide) (by decide) (by decide)
    (by decide)
  exact absurd hkept (by decide +kernel)

end Demotion

end Office

end Formulary
