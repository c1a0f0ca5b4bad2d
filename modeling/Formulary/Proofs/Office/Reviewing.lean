import Formulary.Proofs.Office.Fate
import Formulary.Proofs.Office.Run
import Mathlib.Data.Nat.Find

/-!
# What others make of a document

Who is neither an admin nor the author of a document may edit it only while it is in review, and only as a validator of
its organization (`User.edit_of_others_iff`).  In the standard lifecycle the one thing to do with a document in review is
to take it out of the review, and this ends the right of the validators.  So over a whole run others leave a document
as it is, or one of them reviews it once (`Run.kept_or_reviewed_once`).

The document is one that its identifier names.  Where identifiers are distinct this is any document; of several with one
identifier it is the first, and a removal takes the others with it.
-/

namespace Formulary

variable {u : User} {d e : Document}

theorem User.edit_of_others_iff (hadmin : u.isAdministrator = false) (hcreator : d.creator ≠ u.id) :
    u.may .edit (.document d) = true ↔
      u.belongsTo d.organization = true ∧ u.holds .validator = true ∧ d.status = .review := by
  rw [isAdministrator, Bool.or_eq_false_iff] at hadmin
  simp [may, hasOnDocument, hadmin.1, hadmin.2, hcreator]

theorem Lifecycle.standard_permits_of_review {status : Status} (h : standard.permits .review status = true) :
    status = .draft ∨ status = .approved := by
  have hmem : status ∈ [Status.draft, .approved] := of_decide_eq_true h
  simpa using hmem

namespace Office

variable {o o' : Office} {s : Step} {a : Answer}

/-- A document that a step takes out of the review, for a validator of its organization. -/
def Reviewed (o : Office) (s : Step) (d e : Document) : Prop :=
  ∃ actor u status now, s = .moveDocument actor d.id status now ∧ o.user? actor = some u ∧
    u.belongsTo d.organization = true ∧ u.holds .validator = true ∧ d.status = .review ∧
    (status = .draft ∨ status = .approved) ∧ e = { d with status, updatedAt := some now }

theorem Reviewed.id_eq (h : o.Reviewed s d e) : e.id = d.id := by
  obtain ⟨_, _, _, _, _, _, _, _, _, _, rfl⟩ := h
  rfl

theorem Reviewed.creator_eq (h : o.Reviewed s d e) : e.creator = d.creator := by
  obtain ⟨_, _, _, _, _, _, _, _, _, _, rfl⟩ := h
  rfl

theorem Reviewed.status_ne (h : o.Reviewed s d e) : e.status ≠ .review := by
  obtain ⟨_, _, status, _, _, _, _, _, _, rfl | rfl, rfl⟩ := h <;> nofun

/-- A step of somebody who is neither an admin nor the author of a document leaves it as it is or reviews it. -/
theorem Effect.kept_or_reviewed (h : o.Effect s o' a) (hd : o.document? d.id = some d)
    (standard : o.lifecycle = .standard)
    (others : ∀ u, o.user? s.actor = some u → u.isAdministrator = false ∧ d.creator ≠ u.id) :
    o'.document? d.id = some d ∨ ∃ e, o'.document? d.id = some e ∧ o.Reviewed s d e := by
  rcases h.document?_cases hd with ⟨e, he, hfate⟩ | ⟨u, hu, hr⟩
  · cases hfate with
    | kept => exact .inl he
    | refilled hs hu _ hrefill =>
      subst hs
      obtain ⟨hadmin, hcreator⟩ := others _ hu
      obtain ⟨hedit, hdraft, _⟩ := Document.refill_eq_ok_iff.1 hrefill
      obtain ⟨_, _, hreview⟩ := (User.edit_of_others_iff hadmin hcreator).1 hedit
      cases hdraft.symm.trans hreview
    | @moved actor status now u e hs hu hmove =>
      subst hs
      obtain ⟨hadmin, hcreator⟩ := others _ hu
      obtain ⟨hedit, hpermits, rfl⟩ := Document.move_eq_ok_iff.1 hmove
      obtain ⟨hmember, hvalidator, hreview⟩ := (User.edit_of_others_iff hadmin hcreator).1 hedit
      rw [standard, hreview] at hpermits
      exact .inr ⟨_, he, actor, u, status, now, rfl, hu, hmember, hvalidator, hreview,
        Lifecycle.standard_permits_of_review hpermits, rfl⟩
  · obtain ⟨hadmin, hcreator⟩ := others u hu
    obtain ⟨hedit, hdraft⟩ := Document.ensureRemovable_eq_ok_iff.1 hr
    obtain ⟨_, _, hreview⟩ := (User.edit_of_others_iff hadmin hcreator).1 hedit
    cases hdraft.symm.trans hreview

end Office

namespace Run

/-- No admin acts in a run. -/
def NoAdminActs (r : Run) : Prop := ∀ n u, r.Acts n u → u.isAdministrator = false

/-- Who acts in a run is not the author of a document. -/
def OthersAct (r : Run) (d : Document) : Prop := ∀ n u, r.Acts n u → d.creator ≠ u.id

/-- Step `n` takes a document out of its review, for a validator of its organization. -/
def Reviews (r : Run) (n : Nat) (d e : Document) : Prop :=
  ∃ s a, r.Accepts n s a ∧ (r.state n).Reviewed s d e

variable {r : Run} {k n : Nat} (standard : r.start.lifecycle = .standard) (plain : r.NoAdminActs)
  (others : r.OthersAct d)

include standard plain others

theorem document?_succ_cases (hd : (r.state n).document? d.id = some d) :
    (r.state (n + 1)).document? d.id = some d ∨
      ∃ e, (r.state (n + 1)).document? d.id = some e ∧ r.Reviews n d e := by
  rcases accepts_or_state_succ_eq r n with ⟨s, a, h⟩ | ⟨_, hsame⟩
  · have hothers : ∀ u, (r.state n).user? s.actor = some u → u.isAdministrator = false ∧ d.creator ≠ u.id :=
      fun u hu => ⟨plain n u ⟨s, a, h, hu⟩, others n u ⟨s, a, h, hu⟩⟩
    rcases h.effect.kept_or_reviewed hd ((lifecycle_state r n).trans standard) hothers with hkept | ⟨e, he, hreviewed⟩
    · exact .inl hkept
    · exact .inr ⟨e, he, s, a, h, hreviewed⟩
  · exact .inl (hsame ▸ hd)

/-- Others leave a document alone that is not in review. -/
theorem document?_state_of_ne_review (hkn : k ≤ n) (hd : (r.state k).document? d.id = some d)
    (hreview : d.status ≠ .review) : (r.state n).document? d.id = some d := by
  induction hkn with
  | refl => exact hd
  | @step n _ ih =>
    rcases document?_succ_cases standard plain others ih with hkept | ⟨e, _, _, _, _, hreviewed⟩
    · exact hkept
    · obtain ⟨_, _, _, _, _, _, _, _, hstatus, _⟩ := hreviewed
      exact absurd hstatus hreview

/-- In the standard lifecycle, whatever is done by users who are no admins to a document that none of them has made: it
stays as it is in every field, or it is in review and a validator of its organization takes it out of the review, once
in the whole run. -/
theorem kept_or_reviewed_once (hd : r.start.document? d.id = some d) :
    (∀ n, (r.state n).document? d.id = some d) ∨
      ∃ k e, r.Reviews k d e ∧ (∀ n ≤ k, (r.state n).document? d.id = some d) ∧
        ∀ n, k < n → (r.state n).document? d.id = some e := by
  by_cases hall : ∀ n, (r.state n).document? d.id = some d
  · exact .inl hall
  -- the first state in which the document is another one comes after the review
  · rw [not_forall] at hall
    have hfirst := Nat.find_spec hall
    have hbefore : ∀ n < Nat.find hall, (r.state n).document? d.id = some d :=
      fun n hn => not_not.1 (Nat.find_min hall hn)
    obtain ⟨k, hk⟩ : ∃ k, Nat.find hall = k + 1 := by
      refine Nat.exists_eq_succ_of_ne_zero fun hzero => ?_
      rw [hzero] at hfirst
      exact hfirst hd
    rw [hk] at hfirst hbefore
    rcases document?_succ_cases standard plain others (hbefore k (Nat.lt_succ_self k)) with hkept | ⟨e, he, hreviews⟩
    · exact absurd hkept hfirst
    · refine .inr ⟨k, e, hreviews, fun n hn => hbefore n (Nat.lt_succ_of_le hn), fun n hn => ?_⟩
      obtain ⟨_, _, _, hreviewed⟩ := hreviews
      have hothers : r.OthersAct e := fun n u hu => hreviewed.creator_eq ▸ others n u hu
      rw [← hreviewed.id_eq] at he ⊢
      exact document?_state_of_ne_review standard plain hothers hn he hreviewed.status_ne

end Run

/-! A validator sends a lease back to its draft, and can do nothing more with it; an editor draws another one under its
identifier. -/

namespace Run

open SmallOffice

def validator : User := ⟨⟨5⟩, "Paul Roy", "paul@acme.fr", User.rolesFor .validator, some acme⟩

/-- A lease in review, by an author who is away. -/
def pending : Document :=
  ⟨⟨1⟩, lease.id, some acme, ⟨9⟩, .review, tenant "SCI Horizon", "Bail de SCI Horizon", noon, none⟩

def reviewing : Run where
  start := { office with users := [editor, validator], documents := [pending] }
  steps := [
    .drawDocument editor.id lease.id pending.id (tenant "Boulangerie Martin") noon,
    .refillDocument editor.id pending.id lease.id (tenant "Boulangerie Martin") noon,
    .removeDocument editor.id pending.id,
    .moveDocument validator.id pending.id .draft evening,
    .refillDocument validator.id pending.id lease.id (tenant "Boulangerie Martin") evening,
    .moveDocument validator.id pending.id .review evening,
    .removeDocument validator.id pending.id]

theorem reviewing_reviewed_once :
    reviewing.start.document? pending.id = some pending ∧ reviewing.NoAdminActs ∧ reviewing.OthersAct pending ∧
      (∃ k e, reviewing.Reviews k pending e ∧ (∀ n ≤ k, (reviewing.state n).document? pending.id = some pending) ∧
        ∀ n, k < n → (reviewing.state n).document? pending.id = some e) ∧
      (reviewing.state 7).documents.map Document.status = [.draft, .draft] ∧
      (reviewing.state 7).documents.map Document.content = ["Bail de SCI Horizon", "Bail de Boulangerie Martin"] := by
  have hpending : reviewing.start.document? pending.id = some pending := by decide +kernel
  have hcheck : ∀ n < 7, ∀ s ∈ reviewing.steps[n]?, ∀ u ∈ (reviewing.state n).user? s.actor,
      u.isAdministrator = false ∧ pending.creator ≠ u.id := by
    decide +kernel
  have hacts : ∀ n u, reviewing.Acts n u → u.isAdministrator = false ∧ pending.creator ≠ u.id := by
    rintro n u ⟨s, a, ⟨hs, _⟩, hu⟩
    exact hcheck n (List.getElem?_eq_some_iff.1 hs).1 s hs u hu
  have plain : reviewing.NoAdminActs := fun n u h => (hacts n u h).1
  have others : reviewing.OthersAct pending := fun n u h => (hacts n u h).2
  have hreviewed := (kept_or_reviewed_once rfl plain others hpending).resolve_left fun hkept =>
    absurd (hkept 7) (by decide +kernel)
  exact ⟨hpending, plain, others, hreviewed, by decide +kernel, by decide +kernel⟩

end Run

end Formulary
