import Formulary.Proofs.Office.History
import Formulary.Proofs.Office.Ranks

/-!
# Authors who may not view their templates

Whoever may edit a document or an account may view it.  A template is edited by its author, wherever the author belongs,
and viewed within its organization, so that it may be hidden from one user who may edit it: the author, once the
template is for an organization of others (`User.edit_not_view_iff`).  It takes a super admin to come to this, who moves
the author or takes a template for everyone into another organization, or an account under the identifier of an author
who is gone.  Where no super admin acts and no identifier is given twice, authors belong to the organizations of their
templates, and whoever may edit may view (`Run.edit_not_view`).
-/

namespace Formulary

namespace User

/-- The author of a template that is for an organization of others. -/
structure IsEstranged (u : User) (t : Template) : Prop where
  creator : t.creator = u.id
  audience : t.audience = .organization
  not_member : u.belongsTo t.organization = false
  not_superAdmin : u.holds .superAdmin = false

variable {u : User} {t : Template}

theorem view_document_of_edit {d : Document} (h : u.may .edit (.document d) = true) :
    u.may .view (.document d) = true := by
  simp only [may, hasOnDocument, Bool.or_eq_true, Bool.and_eq_true] at h ⊢
  rcases h with h | ⟨hmember, _⟩
  · exact .inl h
  · exact .inr hmember

theorem edit_not_view_template_iff :
    u.may .edit (.template t) = true ∧ u.may .view (.template t) = false ↔ u.IsEstranged t := by
  have haudience : t.audience ≠ .everyone ↔ t.audience = .organization := by cases t.audience <;> simp
  simp only [may, hasOnTemplate, Bool.or_eq_true, Bool.and_eq_true, Bool.or_eq_false_iff, decide_eq_true_iff,
    decide_eq_false_iff_not, haudience]
  constructor
  · rintro ⟨hedit, ⟨hsuper, horganization⟩, hmember⟩
    rcases hedit with (h | hcreator) | ⟨_, h⟩
    · rw [hsuper] at h
      cases h
    · exact ⟨hcreator, horganization, hmember, hsuper⟩
    · rw [hmember] at h
      cases h
  · intro h
    exact ⟨.inl (.inr h.creator), ⟨h.not_superAdmin, h.audience⟩, h.not_member⟩

/-- The records that a user may edit and not view are the templates from which their author is estranged. -/
theorem edit_not_view_iff {record : Record} :
    u.may .edit record = true ∧ u.may .view record = false ↔ ∃ t, record = .template t ∧ u.IsEstranged t := by
  cases record with
  | document d =>
    refine iff_of_false (fun ⟨hedit, hview⟩ => ?_) (by rintro ⟨_, ⟨⟩, _⟩)
    rw [view_document_of_edit hedit] at hview
    cases hview
  | user v =>
    -- viewing and editing an account are one right
    refine iff_of_false (fun ⟨hedit, hview⟩ => ?_) (by rintro ⟨_, ⟨⟩, _⟩)
    cases hedit.symm.trans hview
  | template t =>
    rw [edit_not_view_template_iff]
    constructor
    · exact fun h => ⟨t, rfl, h⟩
    · rintro ⟨_, ht, h⟩
      exact Record.template.inj ht ▸ h

/-- A template without an organization is edited by its author and by super admins alone. -/
theorem creator_of_edit (hsuper : u.holds .superAdmin = false) (hnone : t.organization = none)
    (h : u.may .edit (.template t) = true) : t.creator = u.id := by
  have hmember : u.belongsTo none = false := by
    rw [← Bool.not_eq_true, belongsTo_eq_true_iff]
    rintro ⟨_, _, ⟨⟩⟩
  simpa [may, hasOnTemplate, hsuper, hnone, hmember] using h

end User

namespace Office

/-- A record of an office. -/
def Holds (o : Office) : Record → Prop
  | .document d => d ∈ o.documents
  | .template t => t ∈ o.templates
  | .user u => u ∈ o.users

/-- Where a template after a step that succeeds comes from. -/
inductive TemplateOrigin (o : Office) (s : Step) (t : Template) : Prop
  | kept (ht : t ∈ o.templates)
  | made {request now u} (hu : o.user? s.actor = some u) (ht : Template.create o.rules u request now = .ok t)
  | revised {revision now u t₀} (hu : o.user? s.actor = some u) (ht₀ : t₀ ∈ o.templates)
      (ht : t₀.revise o.rules u revision now = .ok t)

theorem Effect.templateOrigin {o o' : Office} {s : Step} {a : Answer} {t : Template} (h : o.Effect s o' a)
    (ht : t ∈ o'.templates) : o.TemplateOrigin s t := by
  cases h with
  | addTemplate hu ht' =>
    rcases List.mem_append.1 ht with ht | ht
    · exact .kept ht
    · obtain rfl := List.mem_singleton.1 ht
      exact .made hu ht'
  | reviseTemplate hu ht₀ ht' =>
    rcases mem_of_mem_replaceFirst ht with rfl | ht
    · exact .revised hu (mem_of_find?_key ht₀).1 ht'
    · exact .kept ht
  | drawDocument | refillDocument | moveDocument | removeDocument | addUser | reviseUser | removeUser => exact .kept ht

end Office

namespace Run

/-- No account is made under an identifier that an account has had before. -/
def AddsNew (r : Run) : Prop :=
  ∀ n actor request a, r.Accepts n (.addUser actor request) a → ∀ k ≤ n, ∀ v ∈ (r.state k).users, v.id ≠ request.id

/-- A template of state `n` that is not for everyone has an organization, and its author, if still there, belongs to
it. -/
structure AtHome (r : Run) (n : Nat) (t : Template) : Prop where
  organization : t.organization = none → t.audience = .everyone
  author : ∃ k ≤ n, ∃ v ∈ (r.state k).users, v.id = t.creator
  home : ∀ v ∈ (r.state n).users, v.id = t.creator → ∀ b, t.organization = some b → v.organization = some b

variable {r : Run} {n : Nat} {u v : User} {t : Template}

theorem AddsNew.addsFresh (h : r.AddsNew) : r.AddsFresh :=
  fun n actor request a ha => h n actor request a ha n (Nat.le_refl n)

section Distinct

variable (distinct : r.start.UsersDistinct) (new : r.AddsNew)

include distinct new

theorem atHome_of_create {rules : Ruleset} {request : TemplateRequest} {now : Instant} (hu : u ∈ (r.state n).users)
    (h : Template.create rules u request now = .ok t) : r.AtHome n t := by
  obtain ⟨_, organization, howner, rfl⟩ := Template.create_eq_ok_iff.1 h
  refine ⟨(Template.organization_eq_none_iff_of_owner howner).1, ⟨n, le_rfl, u, hu, rfl⟩, fun v hv hid b hb => ?_⟩
  obtain rfl := Office.user_eq_of_id_eq (usersDistinct_state distinct new.addsFresh n) hv hu hid
  rcases Audience.owner_eq_ok_iff.1 howner with ⟨_, rfl⟩ | ⟨_, rfl, _⟩
  · cases hb
  · exact hb

theorem AtHome.revise {t₀ : Template} {rules : Ruleset} {revision : TemplateRevision} {now : Instant}
    (h₀ : r.AtHome n t₀) (hu : u ∈ (r.state n).users) (hsuper : u.holds .superAdmin = false)
    (h : t₀.revise rules u revision now = .ok t) : r.AtHome n t := by
  obtain ⟨_, hedit, organization, howner, rfl⟩ := Template.revise_eq_ok_iff.1 h
  refine ⟨(Template.organization_eq_none_iff_of_owner howner).1, h₀.author, fun v hv hid b hb => ?_⟩
  rcases Audience.owner_eq_ok_iff.1 howner with ⟨_, rfl⟩ | ⟨_, rfl, _⟩
  · cases hb
  · rcases Option.or_eq_some_iff.1 hb with hb | ⟨hnone, hb⟩
    · exact h₀.home v hv hid b hb
    -- a template without an organization is revised by its author, whose organization it gets
    · have hcreator := User.creator_of_edit hsuper hnone hedit
      obtain rfl := Office.user_eq_of_id_eq (usersDistinct_state distinct new.addsFresh n) hv hu (hid.trans hcreator)
      exact hb

variable (hno : r.NoSuperAdminActs)

include hno

/-- An account under an identifier that was in use before comes from an account of the state before, in the same
organization. -/
theorem exists_account_of_used (hv : v ∈ (r.state (n + 1)).users)
    (hused : ∃ k ≤ n, ∃ w ∈ (r.state k).users, w.id = v.id) :
    ∃ w ∈ (r.state n).users, w.id = v.id ∧ w.organization = v.organization := by
  rcases accepts_or_state_succ_eq r n with ⟨s, a, h⟩ | ⟨_, hsame⟩
  · cases h.accountOrigin (usersDistinct_state distinct new.addsFresh n) new.addsFresh hv with
    | kept hv _ => exact ⟨v, hv, rfl, rfl⟩
    | made hs hu hv =>
      obtain ⟨_, _, _, _, rfl⟩ := User.create_eq_ok_iff.1 hv
      obtain ⟨k, hk, w, hw, hid⟩ := hused
      exact absurd hid (new n _ _ a (hs ▸ h) k hk w hw)
    | revised hs hu hw hv =>
      have hkept := User.organization_of_revise (hno n _ ⟨s, a, h, hs ▸ hu⟩) hv
      obtain ⟨_, _, _, rfl⟩ := User.revise_eq_ok_iff.1 hv
      exact ⟨_, hw, rfl, hkept.symm⟩
  · exact ⟨v, hsame ▸ hv, rfl, rfl⟩

theorem AtHome.succ (h : r.AtHome n t) : r.AtHome (n + 1) t := by
  obtain ⟨k, hk, hauthor⟩ := h.author
  refine ⟨h.organization, ⟨k, Nat.le_succ_of_le hk, hauthor⟩, fun v hv hid b hb => ?_⟩
  obtain ⟨w, hw, hwid, horganization⟩ := exists_account_of_used distinct new hno hv (hid ▸ h.author)
  rw [← horganization]
  exact h.home w hw (hwid.trans hid) b hb

theorem atHome_state (htemplates : r.start.templates = []) (ht : t ∈ (r.state n).templates) : r.AtHome n t := by
  induction n generalizing t with
  | zero =>
    rw [show (r.state 0).templates = [] from htemplates] at ht
    cases ht
  | succ n ih =>
    refine AtHome.succ distinct new hno ?_
    rcases accepts_or_state_succ_eq r n with ⟨s, a, h⟩ | ⟨_, hsame⟩
    · cases h.effect.templateOrigin ht with
      | kept ht => exact ih ht
      | made hu ht => exact atHome_of_create distinct new (Office.mem_users_of_user? hu).1 ht
      | revised hu ht₀ ht =>
        exact (ih ht₀).revise distinct new (Office.mem_users_of_user? hu).1 (hno n _ ⟨s, a, h, hu⟩) ht
    · exact ih (hsame ▸ ht)

theorem not_isEstranged (htemplates : r.start.templates = []) (hu : u ∈ (r.state n).users)
    (ht : t ∈ (r.state n).templates) : ¬ u.IsEstranged t := by
  intro h
  have hhome := atHome_state distinct new hno htemplates ht
  cases horganization : t.organization with
  | none =>
    have heveryone := hhome.organization horganization
    rw [h.audience] at heveryone
    cases heveryone
  | some b =>
    have hmember := User.belongsTo_eq_true_iff.2 ⟨b, hhome.home u hu h.creator.symm b horganization, horganization⟩
    rw [h.not_member] at hmember
    cases hmember

end Distinct

/-- What a user of an office may edit and not view are the templates for others of which the user is the author, and if
the office starts without templates, no super admin acts and no identifier is given to two accounts, there are none. -/
theorem edit_not_view (r : Run) (htemplates : r.start.templates = []) (n : Nat) :
    (∀ u ∈ (r.state n).users, ∀ record, (r.state n).Holds record →
      (u.may .edit record = true ∧ u.may .view record = false ↔ ∃ t, record = .template t ∧ u.IsEstranged t)) ∧
      (r.start.UsersDistinct → r.AddsNew → r.NoSuperAdminActs → ∀ u ∈ (r.state n).users, ∀ record,
        (r.state n).Holds record → u.may .edit record = true → u.may .view record = true) := by
  refine ⟨fun _ _ _ _ => User.edit_not_view_iff, fun distinct new hno u hu record hrecord hedit => ?_⟩
  by_contra hview
  obtain ⟨t, rfl, h⟩ := User.edit_not_view_iff.1 ⟨hedit, Bool.eq_false_iff.2 hview⟩
  exact not_isEstranged distinct new hno htemplates hu hrecord h

section Transfer

open SmallOffice

def leaseRequest (audience : Audience) : TemplateRequest := ⟨lease.id, lease.name, none, lease.body, audience⟩

/-- The author of a template is moved to another organization by a super admin. -/
def transferring : Run where
  start := { office with users := [editor, root], templates := [] }
  steps := [
    .addTemplate editor.id (leaseRequest .organization) noon,
    .reviseUser root.id editor.id ⟨editor.name, editor.email, .editor, owner.organization⟩]

def movedEditor : User := { editor with organization := owner.organization }

/-- The author of a template for everyone takes it back for the own organization, in which there is a new account by
then. -/
def withdrawing : Run where
  start := { office with users := [editor, admin], templates := [] }
  steps := [
    .addTemplate editor.id (leaseRequest .everyone) noon,
    .addUser admin.id ⟨⟨5⟩, "Paul Roy", "paul@acme.fr", .editor, none⟩,
    .reviseTemplate editor.id lease.id ⟨lease.name, none, lease.body, .organization⟩ evening]

theorem transferring_edit_not_view :
    (transferring.start.templates = [] ∧ movedEditor ∈ (transferring.state 2).users ∧
        (transferring.state 2).Holds (.template lease) ∧ movedEditor.may .edit (.template lease) = true ∧
        movedEditor.may .view (.template lease) = false) ∧
      withdrawing.start.templates = [] ∧ withdrawing.start.UsersDistinct ∧ withdrawing.AddsNew ∧
      withdrawing.NoSuperAdminActs ∧ (withdrawing.state 3).templates.map Template.organization = [some acme] ∧
      ∀ record, (withdrawing.state 3).Holds record → editor.may .edit record = true →
        editor.may .view record = true := by
  have hmoved : movedEditor ∈ (transferring.state 2).users := by decide +kernel
  have hlease : lease ∈ (transferring.state 2).templates := by decide +kernel
  have hestranged : movedEditor.IsEstranged lease := ⟨by decide, by decide, by decide, by decide⟩
  have hexception := (edit_not_view transferring rfl 2).1 movedEditor hmoved (.template lease) hlease
  have h := hexception.2 ⟨lease, rfl, hestranged⟩
  have distinct : withdrawing.start.UsersDistinct := by decide
  have new : withdrawing.AddsNew := by
    rintro n actor request a ⟨hs, _⟩
    rcases n with _ | _ | _ | n <;> cases hs
    decide +kernel
  have hno : withdrawing.NoSuperAdminActs := by
    have hcheck : ∀ n < 3, ∀ s ∈ withdrawing.steps[n]?, ∀ u ∈ (withdrawing.state n).user? s.actor,
        u.holds .superAdmin = false := by
      decide +kernel
    rintro n u ⟨s, a, ⟨hs, _⟩, hu⟩
    exact hcheck n (List.getElem?_eq_some_iff.1 hs).1 s hs u hu
  exact ⟨⟨rfl, hmoved, hlease, h.1, h.2⟩, rfl, distinct, new, hno, by decide +kernel,
    (edit_not_view withdrawing rfl 3).2 distinct new hno editor (by decide +kernel)⟩

/-- Not everybody who may edit a record may view it. -/
theorem not_view_of_edit :
    ¬ ∀ (r : Run) (n : Nat), r.start.templates = [] → r.start.documents = [] → ∀ u ∈ (r.state n).users, ∀ record,
      (r.state n).Holds record → u.may .edit record = true → u.may .view record = true := by
  intro h
  have hlease : (transferring.state 2).Holds (.template lease) :=
    show lease ∈ (transferring.state 2).templates by decide +kernel
  have hview := h transferring 2 rfl rfl movedEditor (by decide +kernel) (.template lease) hlease (by decide)
  exact absurd hview (by decide)

end Transfer

end Run

end Formulary
