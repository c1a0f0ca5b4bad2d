import Formulary.Proofs.Office.Run

/-!
# Who is shown the text of a template

A document shows the text of the template from which it is drawn or refilled.  Drawing asks for the right to view the
template; refilling asks for the right to edit the document alone.  So a user may be shown a template that is hidden
from that user, but only by refilling, and `hidden_fillsIn_iff` says exactly when: the author of a draft, or an admin of
its organization, refills it from a template that is for another organization by then.
-/

namespace Formulary

/-- A template is hidden from those who are neither super admins nor of the organization that it is for. -/
theorem User.view_template_eq_false_iff {u : User} {t : Template} :
    u.may .view (.template t) = false ↔
      t.audience = .organization ∧ u.belongsTo t.organization = false ∧ u.holds .superAdmin = false := by
  have haudience : t.audience ≠ .everyone ↔ t.audience = .organization := by cases t.audience <;> simp
  simp only [may, hasOnTemplate, Bool.or_eq_false_iff, decide_eq_false_iff_not, haudience]
  constructor
  · rintro ⟨⟨hsuper, ha⟩, horg⟩
    exact ⟨ha, horg, hsuper⟩
  · rintro ⟨ha, horg, hsuper⟩
    exact ⟨⟨hsuper, ha⟩, horg⟩

/-- A draft is edited by super admins, by its author and by the admins of its organization. -/
theorem User.edit_draft_iff {u : User} {d : Document} (hd : d.status = .draft) :
    u.may .edit (.document d) = true ↔
      u.holds .superAdmin = true ∨ d.creator = u.id ∨ u.belongsTo d.organization = true ∧ u.holds .adminOrg = true := by
  simp [may, hasOnDocument, hd, or_assoc]

namespace Run

/-- Step `n` shows a user the text of a template, filled in a document. -/
inductive FillsIn (r : Run) (n : Nat) (u : User) (t : Template) : Prop
  | drawn {actor template id values now a} (h : r.Accepts n (.drawDocument actor template id values now) a)
      (hu : (r.state n).user? actor = some u) (ht : (r.state n).template? template = some t)
  | refilled {actor document template values now a}
      (h : r.Accepts n (.refillDocument actor document template values now) a)
      (hu : (r.state n).user? actor = some u) (ht : (r.state n).template? template = some t)

/-- Step `n` is the refilling of a draft from a valid form of its template, which is for an organization to which the
user does not belong; the user is no super admin, but is the author of the draft or an admin of its organization. -/
def RefillsHidden (r : Run) (n : Nat) (u : User) (t : Template) : Prop :=
  ∃ actor document template values now d,
    r.steps[n]? = some (.refillDocument actor document template values now) ∧
      (r.state n).user? actor = some u ∧ (r.state n).template? template = some t ∧
      (r.state n).document? document = some d ∧ d.status = .draft ∧ d.template = t.id ∧
      ((r.state n).rules.report t.form values).isValid = true ∧
      t.audience = .organization ∧ u.belongsTo t.organization = false ∧ u.holds .superAdmin = false ∧
      (d.creator = u.id ∨ u.belongsTo d.organization = true ∧ u.holds .adminOrg = true)

variable {r : Run} {n : Nat} {u : User} {t : Template}

theorem view_of_draws {actor : UserId} {template : TemplateId} {id : DocumentId} {values : FormValues} {now : Instant}
    {a : Answer} (h : r.Accepts n (.drawDocument actor template id values now) a)
    (hu : (r.state n).user? actor = some u) (ht : (r.state n).template? template = some t) :
    u.may .view (.template t) = true := by
  obtain ⟨o', _, he⟩ := h.exists_effect
  cases he with
  | drawDocument hu' ht' hd =>
    obtain rfl := Option.some.inj (hu.symm.trans hu')
    obtain rfl := Option.some.inj (ht.symm.trans ht')
    exact (Document.draw_eq_ok_iff.1 hd).1

theorem refillsHidden_of_fillsIn (h : r.FillsIn n u t) (hview : u.may .view (.template t) = false) :
    r.RefillsHidden n u t := by
  cases h with
  | drawn h hu ht =>
    rw [view_of_draws h hu ht] at hview
    cases hview
  | @refilled actor document template values now a h hu ht =>
    obtain ⟨haudience, horg, hsuper⟩ := User.view_template_eq_false_iff.1 hview
    have hs := h.1
    obtain ⟨o', _, he⟩ := h.exists_effect
    cases he with
    | refillDocument hu' ht' hd hd' =>
      obtain rfl := Option.some.inj (hu.symm.trans hu')
      obtain rfl := Option.some.inj (ht.symm.trans ht')
      obtain ⟨hedit, hdraft, htemplate, hvalid, _⟩ := Document.refill_eq_ok_iff.1 hd'
      have hright := ((User.edit_draft_iff hdraft).1 hedit).resolve_left (by simp [hsuper])
      exact ⟨_, _, _, _, _, _, hs, hu, ht, hd, hdraft, htemplate, hvalid, haudience, horg, hsuper, hright⟩

theorem fillsIn_of_refillsHidden (h : r.RefillsHidden n u t) :
    r.FillsIn n u t ∧ u.may .view (.template t) = false := by
  obtain ⟨actor, document, template, values, now, d, hs, hu, ht, hd, hdraft, htemplate, hvalid, haudience, horg,
    hsuper, hright⟩ := h
  have hedit := (User.edit_draft_iff hdraft).2 (.inr hright)
  obtain ⟨d', hrefill⟩ : ∃ d', d.refill (r.state n).rules u t values now = .ok d' :=
    ⟨_, Document.refill_eq_ok_iff.2 ⟨hedit, hdraft, htemplate, hvalid, rfl⟩⟩
  have heffect := Office.Effect.refillDocument hu ht hd hrefill
  have hstep := congrArg Prod.snd (Office.step_of_effect heffect)
  exact ⟨.refilled ⟨hs, hstep⟩ hu ht, User.view_template_eq_false_iff.2 ⟨haudience, horg, hsuper⟩⟩

/-- In every run the user for whom a document is drawn may view its template, and the steps that show a user a hidden
template are exactly the refillings of drafts whose template is by then for another organization. -/
theorem hidden_fillsIn_iff (r : Run) (n : Nat) (u : User) (t : Template) :
    (r.FillsIn n u t ∧ u.may .view (.template t) = false ↔ r.RefillsHidden n u t) :=
  ⟨fun h => refillsHidden_of_fillsIn h.1 h.2, fillsIn_of_refillsHidden⟩

/-! A lease is drawn from a template for everyone, which its owner then rewrites for another organization; refilling the
lease shows the editor the new text. -/

section Leak

open SmallOffice

def shared : Template := { lease with audience := .everyone, organization := owner.organization, creator := owner.id }

def secret : Template :=
  { shared with body := "Secret de {{preneur}}", audience := .organization, version := 2, updatedAt := some noon }

def leaking : Run where
  start := { office with users := [editor, owner], templates := [shared] }
  steps := [
    .drawDocument editor.id shared.id ⟨1⟩ (tenant "SCI Horizon") noon,
    .reviseTemplate owner.id shared.id ⟨secret.name, none, secret.body, .organization⟩ noon,
    .refillDocument editor.id ⟨1⟩ shared.id (tenant "SCI Horizon") noon]

theorem leaking_fillsIn :
    (leaking.FillsIn 2 editor secret ∧ editor.may .view (.template secret) = false) ∧
      (leaking.state 3).documents.map Document.content = ["Secret de SCI Horizon"] := by
  have hidden : leaking.RefillsHidden 2 editor secret :=
    ⟨editor.id, ⟨1⟩, shared.id, tenant "SCI Horizon", noon, _, rfl, by decide +kernel, by decide +kernel, rfl,
      by decide +kernel, by decide +kernel, by decide +kernel, rfl, by decide +kernel, by decide +kernel,
      .inl (by decide +kernel)⟩
  exact ⟨(hidden_fillsIn_iff leaking 2 editor secret).2 hidden, by decide +kernel⟩

end Leak

end Run

end Formulary
