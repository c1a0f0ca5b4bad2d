import Formulary.Office.Administration
import Formulary.Office.Drafting
import Formulary.Proofs.Chain

/-!
# When an operation on a record succeeds

Each operation is a chain of checks with a result at its end.  For each one a lemma says exactly when it succeeds and
with what, so that nothing else has to look into its chain.
-/

namespace Formulary

theorem User.ensureRight_eq_ok_iff {u : User} {r : Right} {record : Record} :
    u.ensureRight r record = .ok () ↔ u.may r record = true :=
  ensure_eq_ok_iff

theorem Lifecycle.ensurePermitted_eq_ok_iff {l : Lifecycle} {source target : Status} :
    l.ensurePermitted source target = .ok () ↔ l.permits source target = true :=
  ensure_eq_ok_iff

variable {rules : Ruleset} {u v v' : User} {t t' : Template} {d d' : Document} {values : FormValues} {now : Instant}

/-! ### Templates -/

/-- A template for everyone gets no organization, and any other the one that it has or else that of the user. -/
theorem Audience.owner_eq_ok_iff {audience : Audience} {current organization : Option OrganizationId} :
    audience.owner u current = .ok organization ↔
      (audience = .everyone ∧ organization = none) ∨
        (audience = .organization ∧ organization = current.or u.organization ∧ organization ≠ none) := by
  cases audience with
  | everyone => simp [owner, eq_comm]
  | organization =>
    unfold owner
    cases current.or u.organization with
    | none => simp
    | some b =>
      simp only [Except.ok.injEq, reduceCtorEq, false_and, true_and, false_or]
      constructor
      · rintro rfl
        exact ⟨rfl, nofun⟩
      · rintro ⟨rfl, _⟩
        rfl

/-- A template comes to no other organization than the one that it has or that of the user. -/
theorem Audience.owner_ne {audience : Audience} {current organization : Option OrganizationId} {b : OrganizationId}
    (h : audience.owner u current = .ok organization) (hcurrent : current ≠ some b) (hu : u.organization ≠ some b) :
    organization ≠ some b := by
  rcases owner_eq_ok_iff.1 h with ⟨_, rfl⟩ | ⟨_, rfl, _⟩
  · nofun
  · rw [Ne, Option.or_eq_some_iff]
    rintro (hb | ⟨_, hb⟩)
    · exact hcurrent hb
    · exact hu hb

namespace Template

/-- An author creates a template if there is an organization for it or it needs none. -/
theorem create_eq_ok_iff {request : TemplateRequest} :
    create rules u request now = .ok t ↔
      u.isAuthor = true ∧ ∃ organization, request.audience.owner u none = .ok organization ∧
        t = ⟨request.id, request.name, request.description, request.body, rules.formOf request.body,
          request.audience, organization, u.id, 1, now, none⟩ := by
  unfold create
  rw [check_bind_eq_ok_iff, ensure_eq_ok_iff, bind_eq_ok_iff]
  simp only [pure_eq_ok_iff]

/-- An author who may edit a template revises it, again if there is an organization for it or it needs none. -/
theorem revise_eq_ok_iff {revision : TemplateRevision} :
    t.revise rules u revision now = .ok t' ↔
      u.isAuthor = true ∧ u.may .edit (.template t) = true ∧
        ∃ organization, revision.audience.owner u t.organization = .ok organization ∧
          t' = { t with
            name := revision.name
            description := revision.description
            body := revision.body
            form := rules.formOf revision.body
            audience := revision.audience
            organization
            version := t.version + 1
            updatedAt := some now } := by
  unfold revise
  rw [check_bind_eq_ok_iff, ensure_eq_ok_iff, check_bind_eq_ok_iff, User.ensureRight_eq_ok_iff, bind_eq_ok_iff]
  simp only [pure_eq_ok_iff]

end Template

/-! ### Documents -/

/-- A template is filled by the values that its form accepts, if it accepts all of them. -/
theorem Template.fillIn_eq_ok_iff {data : FormValues} {content : String} :
    t.fillIn rules values = .ok (data, content) ↔
      (rules.report t.form values).isValid = true ∧ data = (rules.report t.form values).data ∧
        content = fill t.body data := by
  unfold Template.fillIn
  by_cases hv : (rules.report t.form values).isValid
  · simp only [hv, if_true, Except.ok.injEq, Prod.mk.injEq, true_and]
    constructor
    · rintro ⟨rfl, rfl⟩
      exact ⟨rfl, rfl⟩
    · rintro ⟨rfl, rfl⟩
      exact ⟨rfl, rfl⟩
  · simp [hv]

namespace Document

theorem ensureDraft_eq_ok_iff : d.ensureDraft = .ok () ↔ d.status = .draft :=
  ensure_eq_ok_iff.trans decide_eq_true_iff

/-- A user who may view a template draws a document from a valid form. -/
theorem draw_eq_ok_iff {id : DocumentId} :
    draw rules u t id values now = .ok d ↔
      u.may .view (.template t) = true ∧ (rules.report t.form values).isValid = true ∧
        d = ⟨id, t.id, u.organization, u.id, .draft, (rules.report t.form values).data,
          fill t.body (rules.report t.form values).data, now, none⟩ := by
  unfold draw
  rw [check_bind_eq_ok_iff, User.ensureRight_eq_ok_iff, bind_eq_ok_iff]
  refine and_congr_right fun _ => ?_
  constructor
  · rintro ⟨⟨data, content⟩, h, hd⟩
    obtain ⟨hv, rfl, rfl⟩ := Template.fillIn_eq_ok_iff.1 h
    exact ⟨hv, pure_eq_ok_iff.1 hd⟩
  · rintro ⟨hv, rfl⟩
    exact ⟨_, Template.fillIn_eq_ok_iff.2 ⟨hv, rfl, rfl⟩, rfl⟩

/-- A user who may edit a draft refills it from a valid form of its template; nothing is asked of the right to view
the template. -/
theorem refill_eq_ok_iff :
    d.refill rules u t values now = .ok d' ↔
      u.may .edit (.document d) = true ∧ d.status = .draft ∧ d.template = t.id ∧
        (rules.report t.form values).isValid = true ∧
        d' = { d with
          data := (rules.report t.form values).data
          content := fill t.body (rules.report t.form values).data
          updatedAt := some now } := by
  unfold refill
  rw [check_bind_eq_ok_iff, User.ensureRight_eq_ok_iff, check_bind_eq_ok_iff, ensureDraft_eq_ok_iff,
    check_bind_eq_ok_iff, ensure_eq_ok_iff, decide_eq_true_iff, bind_eq_ok_iff]
  refine and_congr_right fun _ => and_congr_right fun _ => and_congr_right fun _ => ?_
  constructor
  · rintro ⟨⟨data, content⟩, h, hd⟩
    obtain ⟨hv, rfl, rfl⟩ := Template.fillIn_eq_ok_iff.1 h
    exact ⟨hv, pure_eq_ok_iff.1 hd⟩
  · rintro ⟨hv, rfl⟩
    exact ⟨_, Template.fillIn_eq_ok_iff.2 ⟨hv, rfl, rfl⟩, rfl⟩

/-- A user who may edit a document moves it to a status that can follow its own. -/
theorem move_eq_ok_iff {lifecycle : Lifecycle} {status : Status} :
    d.move lifecycle u status now = .ok d' ↔
      u.may .edit (.document d) = true ∧ lifecycle.permits d.status status = true ∧
        d' = { d with status, updatedAt := some now } := by
  unfold move
  rw [check_bind_eq_ok_iff, User.ensureRight_eq_ok_iff, check_bind_eq_ok_iff,
    Lifecycle.ensurePermitted_eq_ok_iff, pure_eq_ok_iff]

/-- A user who may edit a draft removes it. -/
theorem ensureRemovable_eq_ok_iff :
    d.ensureRemovable u = .ok () ↔ u.may .edit (.document d) = true ∧ d.status = .draft := by
  unfold ensureRemovable
  rw [check_bind_eq_ok_iff, User.ensureRight_eq_ok_iff, ensureDraft_eq_ok_iff]

end Document

/-! ### Accounts -/

namespace User

/-- A user belongs to the organization of a record if both have one and it is the same. -/
theorem belongsTo_eq_true_iff {organization : Option OrganizationId} :
    u.belongsTo organization = true ↔ ∃ b, u.organization = some b ∧ organization = some b := by
  unfold belongsTo
  rw [Bool.and_eq_true, decide_eq_true_iff, Option.isSome_iff_exists]
  constructor
  · rintro ⟨⟨b, hb⟩, rfl⟩
    exact ⟨b, hb, hb⟩
  · rintro ⟨b, hb, rfl⟩
    exact ⟨⟨b, hb⟩, hb⟩

/-- A user creates accounts that the user administers, with roles that the user may grant. -/
theorem create_eq_ok_iff {request : AccountRequest} :
    u.create request = .ok v ↔
      request.role ∈ u.grantable ∧ ∃ organization, u.organizationFor request = .ok organization ∧
        u.administers v = true ∧
        v = ⟨request.id, request.name, request.email, rolesFor request.role, organization⟩ := by
  unfold create
  rw [check_bind_eq_ok_iff, ensureGrant, ensure_eq_ok_iff, decide_eq_true_iff, bind_eq_ok_iff]
  simp only [check_bind_eq_ok_iff, ensureRight_eq_ok_iff, pure_eq_ok_iff]
  constructor
  · rintro ⟨hrole, organization, ho, hedit, rfl⟩
    exact ⟨hrole, organization, ho, hedit, rfl⟩
  · rintro ⟨hrole, organization, ho, hedit, rfl⟩
    exact ⟨hrole, organization, ho, hedit, rfl⟩

/-- A user revises the accounts that the user administers, with roles that the user may grant; the organization stays
unless a super admin changes it. -/
theorem revise_eq_ok_iff {revision : AccountRevision} :
    u.revise v revision = .ok v' ↔
      u.administers v = true ∧ revision.role ∈ u.grantable ∧
        (revision.organization = v.organization ∨ u.holds .superAdmin = true) ∧
        v' = ⟨v.id, revision.name, revision.email, rolesFor revision.role, revision.organization⟩ := by
  unfold revise
  rw [check_bind_eq_ok_iff, ensureRight_eq_ok_iff, check_bind_eq_ok_iff, ensureGrant, ensure_eq_ok_iff,
    decide_eq_true_iff, check_bind_eq_ok_iff, ensure_eq_ok_iff, Bool.or_eq_true, decide_eq_true_iff, pure_eq_ok_iff]
  rfl

/-- A user removes the accounts of others that the user administers. -/
theorem ensureRemovable_eq_ok_iff :
    u.ensureRemovable v = .ok () ↔ u.id ≠ v.id ∧ u.administers v = true := by
  unfold ensureRemovable
  rw [check_bind_eq_ok_iff, ensure_eq_ok_iff, decide_eq_true_iff, ensureRight_eq_ok_iff]
  rfl

/-! Who is no super admin administers as an admin of an organization or not at all. -/

section NotSuperAdmin

variable (hu : u.holds .superAdmin = false)

include hu

theorem administers_iff :
    u.administers v = true ↔ u.holds .adminOrg = true ∧ ∃ b, u.organization = some b ∧ v.organization = some b := by
  simp only [administers, hu, Bool.false_or, Bool.and_eq_true, belongsTo_eq_true_iff]

theorem mem_grantable_iff {role : Role} :
    role ∈ u.grantable ↔ u.holds .adminOrg = true ∧ role ≠ .superAdmin := by
  unfold grantable
  rw [hu]
  cases u.holds .adminOrg <;> cases role <;> simp

end NotSuperAdmin

end User

end Formulary
