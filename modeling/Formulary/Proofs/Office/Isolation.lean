import Formulary.Proofs.Office.Accounts
import Formulary.Proofs.Office.Freezing

/-!
# What outsiders leave alone

An outsider to an organization is a user who is no super admin, does not belong to the organization and is the author
of none of its records.  An outsider may edit no record of the organization (`Office.Outsider.organization_ne`), and no
step of an outsider gives a record to it.  So the holdings of the organization stay as they are, in every field, over
one such step (`Effect.holdings_eq`) and over a run of them (`Run.holdings_eq_of_outsiders`).
-/

namespace Formulary

/-- The records of an organization. -/
structure Holdings where
  users : List User
  templates : List Template
  documents : List Document
deriving DecidableEq

namespace Office

/-- The records of an office that belong to an organization. -/
def holdings (o : Office) (b : OrganizationId) : Holdings where
  users := o.users.filter (fun u => u.organization = some b)
  templates := o.templates.filter (fun t => t.organization = some b)
  documents := o.documents.filter (fun d => d.organization = some b)

/-- A user without a right over the records of an organization. -/
structure Outsider (o : Office) (b : OrganizationId) (u : User) : Prop where
  not_superAdmin : u.holds .superAdmin = false
  not_member : u.organization ≠ some b
  no_template : ∀ t ∈ o.templates, t.organization = some b → t.creator ≠ u.id
  no_document : ∀ d ∈ o.documents, d.organization = some b → d.creator ≠ u.id

instance (o : Office) (b : OrganizationId) (u : User) : Decidable (o.Outsider b u) :=
  decidable_of_iff
    (u.holds .superAdmin = false ∧ u.organization ≠ some b ∧
      (∀ t ∈ o.templates, t.organization = some b → t.creator ≠ u.id) ∧
      ∀ d ∈ o.documents, d.organization = some b → d.creator ≠ u.id)
    ⟨fun ⟨h₁, h₂, h₃, h₄⟩ => ⟨h₁, h₂, h₃, h₄⟩, fun ⟨h₁, h₂, h₃, h₄⟩ => ⟨h₁, h₂, h₃, h₄⟩⟩

variable {o o' : Office} {s : Step} {a : Answer} {b : OrganizationId} {u v : User} {t : Template} {d : Document}

namespace Outsider

theorem belongsTo_eq_false (h : o.Outsider b u) : u.belongsTo (some b) = false := by
  rw [← Bool.not_eq_true, User.belongsTo_eq_true_iff]
  rintro ⟨c, hu, hb⟩
  exact h.not_member (hu.trans hb.symm)

/-! ### Records that an outsider may edit are not of the organization -/

theorem user_organization_ne (h : o.Outsider b u) (hv : u.administers v = true) : v.organization ≠ some b := by
  intro hb
  simp [User.administers, hb, h.not_superAdmin, h.belongsTo_eq_false] at hv

theorem template_organization_ne (h : o.Outsider b u) (ht : t ∈ o.templates)
    (hedit : u.may .edit (.template t) = true) : t.organization ≠ some b := by
  intro hb
  have hcreator := h.no_template t ht hb
  simp [User.may, User.hasOnTemplate, hb, hcreator, h.not_superAdmin, h.belongsTo_eq_false] at hedit

theorem document_organization_ne (h : o.Outsider b u) (hd : d ∈ o.documents)
    (hedit : u.may .edit (.document d) = true) : d.organization ≠ some b := by
  intro hb
  have hcreator := h.no_document d hd hb
  simp [User.may, User.hasOnDocument, hb, hcreator, h.not_superAdmin, h.belongsTo_eq_false] at hedit

end Outsider

/-- A step of an outsider leaves the holdings of an organization as they are. -/
theorem Effect.holdings_eq (h : o.Effect s o' a) (users : o.UsersDistinct) (documents : o.DocumentsDistinct)
    (outsider : ∀ u, o.user? s.actor = some u → o.Outsider b u) : o'.holdings b = o.holdings b := by
  unfold holdings
  cases h with
  | addTemplate hu ht =>
    have hout := outsider _ hu
    obtain ⟨_, _, howner, rfl⟩ := Template.create_eq_ok_iff.1 ht
    have hne := Audience.owner_ne howner nofun hout.not_member
    congr 1
    exact filter_append_singleton (decide_eq_false hne)
  | reviseTemplate hu ht ht' =>
    have hout := outsider _ hu
    obtain ⟨_, hedit, _, howner, rfl⟩ := Template.revise_eq_ok_iff.1 ht'
    have hne := hout.template_organization_ne (mem_of_find?_key ht).1 hedit
    have hne' := Audience.owner_ne howner hne hout.not_member
    congr 1
    exact filter_replaceFirst ht (decide_eq_false hne) (decide_eq_false hne')
  | drawDocument hu ht hd =>
    have hout := outsider _ hu
    obtain ⟨_, _, rfl⟩ := Document.draw_eq_ok_iff.1 hd
    congr 1
    exact filter_append_singleton (decide_eq_false hout.not_member)
  | refillDocument hu ht hd hd' =>
    obtain ⟨hedit, _, _, _, rfl⟩ := Document.refill_eq_ok_iff.1 hd'
    have hne := (outsider _ hu).document_organization_ne (mem_of_find?_key hd).1 hedit
    congr 1
    exact filter_replaceFirst hd (decide_eq_false hne) (decide_eq_false hne)
  | moveDocument hu hd hd' =>
    obtain ⟨hedit, _, rfl⟩ := Document.move_eq_ok_iff.1 hd'
    have hne := (outsider _ hu).document_organization_ne (mem_of_find?_key hd).1 hedit
    congr 1
    exact filter_replaceFirst hd (decide_eq_false hne) (decide_eq_false hne)
  | removeDocument hu hd hr =>
    obtain ⟨hmem, hid⟩ := mem_of_find?_key hd
    have hne := (outsider _ hu).document_organization_ne hmem (Document.ensureRemovable_eq_ok_iff.1 hr).1
    congr 1
    exact filter_key_ne documents hmem hid (decide_eq_false hne)
  | addUser hu hv =>
    obtain ⟨_, _, _, hedit, _⟩ := User.create_eq_ok_iff.1 hv
    have hne := (outsider _ hu).user_organization_ne hedit
    congr 1
    exact filter_append_singleton (decide_eq_false hne)
  | reviseUser hu hv hv' =>
    have hout := outsider _ hu
    obtain ⟨hedit, _, horg, rfl⟩ := User.revise_eq_ok_iff.1 hv'
    have hne := hout.user_organization_ne hedit
    have hkept := horg.resolve_right (by simp [hout.not_superAdmin])
    congr 1
    exact filter_replaceFirst hv (decide_eq_false hne) (decide_eq_false (hkept ▸ hne))
  | removeUser hu hv hr =>
    obtain ⟨hmem, hid⟩ := mem_of_find?_key hv
    have hne := (outsider _ hu).user_organization_ne (User.ensureRemovable_eq_ok_iff.1 hr).2
    congr 1
    exact filter_key_ne users hmem hid (decide_eq_false hne)

end Office

namespace Run

/-- Who acts in a run acts as an outsider to an organization, by the office as it is at the time. -/
def OutsidersAct (r : Run) (b : OrganizationId) : Prop := ∀ n u, r.Acts n u → (r.state n).Outsider b u

/-- In a run in which only outsiders to an organization act, its accounts, templates and documents stay as they are, in
every field, and there come to be no others. -/
theorem holdings_eq_of_outsiders (r : Run) (b : OrganizationId) (users : r.start.UsersDistinct)
    (documents : r.start.DocumentsDistinct) (freshUsers : r.AddsFresh) (freshDocuments : r.DrawsFresh)
    (outsiders : r.OutsidersAct b) (n : Nat) : (r.state n).holdings b = r.start.holdings b := by
  refine invariant (P := fun o => o.holdings b = r.start.holdings b) rfl (fun n s a h ih => ?_) n
  refine (h.effect.holdings_eq ?_ ?_ fun u hu => outsiders n u ⟨s, a, h, hu⟩).trans ih
  · exact usersDistinct_state users freshUsers n
  · exact documentsDistinct_state documents freshDocuments n

section Rival

open SmallOffice

/-- An admin of another organization. -/
def rival : User := ⟨⟨4⟩, "Luc Bernard", "luc@beta.fr", User.rolesFor .adminOrg, some ⟨2⟩⟩

def contract : Document :=
  ⟨⟨1⟩, lease.id, some acme, editor.id, .draft, tenant "SCI Horizon", "Bail de SCI Horizon", noon, none⟩

/-- A template for everyone, by the editor. -/
def openLease : Template := { lease with id := ⟨2⟩, audience := .everyone, organization := none }

/-- The rival works in the own organization and tries to change a template, to move a document and to remove an account
of the other one, whose editor tries to make an account. -/
def trespassing : Run where
  start := { office with users := [editor, rival], templates := [lease, openLease], documents := [contract] }
  steps := [
    .drawDocument rival.id openLease.id ⟨2⟩ (tenant "Boulangerie Martin") noon,
    .addUser rival.id ⟨⟨5⟩, "Paul Roy", "paul@beta.fr", .adminOrg, none⟩,
    .reviseTemplate rival.id lease.id ⟨"Bail", none, "Bail de {{bailleur}}", .organization⟩ noon,
    .moveDocument rival.id contract.id .review noon,
    .removeUser rival.id editor.id,
    .addUser editor.id ⟨⟨6⟩, "Paul Roy", "paul@acme.fr", .user, none⟩,
    .addTemplate rival.id ⟨⟨3⟩, "Mandat", none, "Mandat de {{mandant}}", .organization⟩ noon]

theorem trespassing_holdings_eq :
    trespassing.start.UsersDistinct ∧ trespassing.start.DocumentsDistinct ∧ trespassing.AddsFresh ∧
      trespassing.DrawsFresh ∧ trespassing.OutsidersAct acme ∧
      (trespassing.state 7).holdings acme = ⟨[editor], [lease], [contract]⟩ ∧
      (trespassing.state 7).users.length = 3 ∧ (trespassing.state 7).templates.length = 3 ∧
      (trespassing.state 7).documents.length = 2 := by
  have users : trespassing.start.UsersDistinct := by decide
  have documents : trespassing.start.DocumentsDistinct := by decide
  have outsiders : trespassing.OutsidersAct acme := by
    have hcheck : ∀ n < 7, ∀ s ∈ trespassing.steps[n]?, ((trespassing.state n).step s).2.isOk = true →
        ∀ u ∈ (trespassing.state n).user? s.actor, (trespassing.state n).Outsider acme u := by
      decide +kernel
    rintro n u ⟨s, a, ⟨hs, ha⟩, hu⟩
    exact hcheck n (List.getElem?_eq_some_iff.1 hs).1 s hs (by rw [ha]; rfl) u hu
  have freshUsers : trespassing.AddsFresh := by
    rintro n actor request a ⟨hs, _⟩
    rcases n with _ | _ | _ | _ | _ | _ | _ | n <;> cases hs
    · decide +kernel
    · decide +kernel
  have freshDocuments : trespassing.DrawsFresh := by
    rintro n d ⟨actor, template, id, values, now, h⟩
    have hs := h.1
    obtain ⟨_, _, heffect⟩ := h.exists_effect
    cases heffect with
    | drawDocument hu ht hd =>
      obtain ⟨_, _, rfl⟩ := Document.draw_eq_ok_iff.1 hd
      rcases n with _ | _ | _ | _ | _ | _ | _ | n <;> cases hs
      show ∀ e ∈ (trespassing.state 0).documents, e.id ≠ ⟨2⟩
      decide +kernel
  have hkept := holdings_eq_of_outsiders trespassing acme users documents freshUsers freshDocuments outsiders 7
  exact ⟨users, documents, freshUsers, freshDocuments, outsiders, hkept, by decide +kernel, by decide +kernel,
    by decide +kernel⟩

end Rival

end Run

end Formulary
