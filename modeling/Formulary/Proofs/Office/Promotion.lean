import Formulary.Proofs.Office.Listing
import Formulary.Proofs.Office.Operation

/-!
# More roles

A user who is promoted is the same user with more roles.  Each check of an office asks for one of some roles, or for
something that does not depend on roles at all, so that a promoted user passes every check that the user passed before
(`PromotedTo.may`, `PromotedTo.mem_grantable`).  Hence a promotion takes nothing away: neither rights, nor operations,
nor records from the listings (`User.keepsRights_grant`).
-/

namespace Formulary

namespace User

/-- One user with the roles of before and after a promotion. -/
structure PromotedTo (u v : User) : Prop where
  id_eq : v.id = u.id
  organization_eq : v.organization = u.organization
  holds : ∀ r, u.holds r = true → v.holds r = true

/-- Whatever `u` may do, `v` may do as well.  Work on templates and documents gives the same records, and an account
that `u` creates is created by `v` too, though maybe for another organization. -/
structure KeepsRights (u v : User) : Prop where
  may : ∀ right record, u.may right record = true → v.may right record = true
  createTemplate : ∀ rules request now t,
    Template.create rules u request now = .ok t → Template.create rules v request now = .ok t
  reviseTemplate : ∀ rules (t : Template) revision now t',
    t.revise rules u revision now = .ok t' → t.revise rules v revision now = .ok t'
  drawDocument : ∀ rules t id values now d,
    Document.draw rules u t id values now = .ok d → Document.draw rules v t id values now = .ok d
  refillDocument : ∀ rules (d : Document) t values now d',
    d.refill rules u t values now = .ok d' → d.refill rules v t values now = .ok d'
  moveDocument : ∀ lifecycle (d : Document) status now d',
    d.move lifecycle u status now = .ok d' → d.move lifecycle v status now = .ok d'
  removeDocument : ∀ d : Document, d.ensureRemovable u = .ok () → d.ensureRemovable v = .ok ()
  createAccount : ∀ request w, u.create request = .ok w →
    ∃ organization, v.create request = .ok { w with organization }
  reviseAccount : ∀ w revision w', u.revise w revision = .ok w' → v.revise w revision = .ok w'
  removeAccount : ∀ w, u.ensureRemovable w = .ok () → v.ensureRemovable w = .ok ()
  documents : ∀ ds status, (Listing.documents u ds status).Sublist (Listing.documents v ds status)
  templates : ∀ ts, (Listing.templates u ts).Sublist (Listing.templates v ts)
  users : ∀ us, (Listing.users u us).Sublist (Listing.users v us)

variable {u v w : User}

theorem promotedTo_grant (u : User) (r : Role) : u.PromotedTo (u.grant r) where
  id_eq := rfl
  organization_eq := rfl
  holds q hq := by
    rw [holds, grant, RoleSet.has_insert, ← holds, hq, Bool.or_true]

/-! ### What is asked of a user -/

section PromotedTo

variable (h : u.PromotedTo v)

include h

theorem PromotedTo.not_holds {r : Role} (hv : v.holds r = false) : u.holds r = false := by
  rw [← Bool.not_eq_true] at hv ⊢
  exact fun hu => hv (h.holds r hu)

theorem PromotedTo.belongsTo_eq (organization : Option OrganizationId) :
    v.belongsTo organization = u.belongsTo organization := by
  rw [belongsTo, belongsTo, h.organization_eq]

theorem PromotedTo.hasOnDocument {d : Document} {right : Right} (hu : u.hasOnDocument d right = true) :
    v.hasOnDocument d right = true := by
  cases right with
  | view =>
    simp only [User.hasOnDocument, h.id_eq, h.belongsTo_eq, Bool.or_eq_true] at hu ⊢
    exact hu.imp_left (Or.imp_left (h.holds .superAdmin))
  | edit =>
    simp only [User.hasOnDocument, h.id_eq, h.belongsTo_eq, Bool.or_eq_true, Bool.and_eq_true] at hu ⊢
    rcases hu with (hsuper | hcreator) | ⟨hmember, hadmin | ⟨hvalidator, hreview⟩⟩
    · exact .inl (.inl (h.holds .superAdmin hsuper))
    · exact .inl (.inr hcreator)
    · exact .inr ⟨hmember, .inl (h.holds .adminOrg hadmin)⟩
    · exact .inr ⟨hmember, .inr ⟨h.holds .validator hvalidator, hreview⟩⟩

theorem PromotedTo.hasOnTemplate {t : Template} {right : Right} (hu : u.hasOnTemplate t right = true) :
    v.hasOnTemplate t right = true := by
  cases right with
  | view =>
    simp only [User.hasOnTemplate, h.belongsTo_eq, Bool.or_eq_true] at hu ⊢
    exact hu.imp_left (Or.imp_left (h.holds .superAdmin))
  | edit =>
    simp only [User.hasOnTemplate, h.id_eq, h.belongsTo_eq, Bool.or_eq_true, Bool.and_eq_true] at hu ⊢
    exact hu.imp (Or.imp_left (h.holds .superAdmin)) (And.imp_left (h.holds .adminOrg))

theorem PromotedTo.administers (hu : u.administers w = true) : v.administers w = true := by
  simp only [User.administers, h.belongsTo_eq, Bool.or_eq_true, Bool.and_eq_true] at hu ⊢
  exact hu.imp (h.holds .superAdmin) (And.imp_left (h.holds .adminOrg))

theorem PromotedTo.may {right : Right} {record : Record} (hu : u.may right record = true) :
    v.may right record = true := by
  cases record with
  | document d => exact h.hasOnDocument hu
  | template t => exact h.hasOnTemplate hu
  | user w => exact h.administers hu

theorem PromotedTo.isAuthor (hu : u.isAuthor = true) : v.isAuthor = true := by
  simp only [User.isAuthor, Bool.or_eq_true] at hu ⊢
  exact hu.imp (Or.imp (h.holds .editor) (h.holds .adminOrg)) (h.holds .superAdmin)

theorem PromotedTo.owner_eq (audience : Audience) (current : Option OrganizationId) :
    audience.owner v current = audience.owner u current := by
  unfold Audience.owner
  rw [h.organization_eq, h.id_eq]

/-- A promoted user grants all roles that the user granted before. -/
theorem PromotedTo.mem_grantable {role : Role} (hu : role ∈ u.grantable) : role ∈ v.grantable := by
  cases hv : v.holds .superAdmin with
  | true =>
    rw [grantable, hv, if_pos rfl]
    cases role <;> decide
  | false =>
    rw [mem_grantable_iff (h.not_holds hv)] at hu
    exact (mem_grantable_iff hv).2 (hu.imp_left (h.holds .adminOrg))

/-- A new account belongs to the organization as before the promotion, or to the one asked for once the user is a super
admin. -/
theorem PromotedTo.organizationFor_cases (request : AccountRequest) :
    v.holds .superAdmin = true ∧ v.organizationFor request = .ok request.organization ∨
      v.organizationFor request = u.organizationFor request := by
  cases hv : v.holds .superAdmin with
  | true => exact .inl ⟨rfl, by rw [organizationFor, hv, if_pos rfl]⟩
  | false => exact .inr (by rw [organizationFor, organizationFor, hv, h.not_holds hv, h.organization_eq])

theorem PromotedTo.create {request : AccountRequest} (hu : u.create request = .ok w) :
    ∃ organization, v.create request = .ok { w with organization } := by
  obtain ⟨hrole, organization, ho, hedit, rfl⟩ := create_eq_ok_iff.1 hu
  rcases h.organizationFor_cases request with ⟨hsuper, hv⟩ | hv
  · have hadministers (x : User) : v.administers x = true := by rw [User.administers, hsuper, Bool.true_or]
    exact ⟨_, create_eq_ok_iff.2 ⟨h.mem_grantable hrole, _, hv, hadministers _, rfl⟩⟩
  · exact ⟨_, create_eq_ok_iff.2 ⟨h.mem_grantable hrole, _, hv.trans ho, h.administers hedit, rfl⟩⟩

theorem PromotedTo.keepsRights : u.KeepsRights v where
  may _ _ := h.may
  createTemplate rules request now t hu := by
    rw [Template.create_eq_ok_iff] at hu ⊢
    rw [h.owner_eq, h.id_eq]
    exact hu.imp_left h.isAuthor
  reviseTemplate rules t revision now t' hu := by
    rw [Template.revise_eq_ok_iff] at hu ⊢
    rw [h.owner_eq]
    exact ⟨h.isAuthor hu.1, h.may hu.2.1, hu.2.2⟩
  drawDocument rules t id values now d hu := by
    rw [Document.draw_eq_ok_iff] at hu ⊢
    rw [h.organization_eq, h.id_eq]
    exact hu.imp_left h.may
  refillDocument rules d t values now d' hu := by
    rw [Document.refill_eq_ok_iff] at hu ⊢
    exact hu.imp_left h.may
  moveDocument lifecycle d status now d' hu := by
    rw [Document.move_eq_ok_iff] at hu ⊢
    exact hu.imp_left h.may
  removeDocument d hu := by
    rw [Document.ensureRemovable_eq_ok_iff] at hu ⊢
    exact hu.imp_left h.may
  createAccount _ _ := h.create
  reviseAccount w revision w' hu := by
    rw [revise_eq_ok_iff] at hu ⊢
    obtain ⟨hedit, hrole, horganization, hw'⟩ := hu
    exact ⟨h.administers hedit, h.mem_grantable hrole, horganization.imp_right (h.holds .superAdmin), hw'⟩
  removeAccount w hu := by
    rw [ensureRemovable_eq_ok_iff] at hu ⊢
    rw [h.id_eq]
    exact hu.imp_right h.administers
  documents := Listing.documents_sublist fun _ => h.may
  templates := Listing.templates_sublist fun _ => h.may
  users := Listing.users_sublist fun _ => h.may

end PromotedTo

/-- Whatever a user may do, see and list, the user may with one role more. -/
theorem keepsRights_grant (u : User) (r : Role) : u.KeepsRights (u.grant r) := (promotedTo_grant u r).keepsRights

end User

end Formulary
