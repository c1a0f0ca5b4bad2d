import Formulary.Proofs.Office.Identifiers
import Formulary.Proofs.Office.Run
import Formulary.Proofs.Template.Form

/-!
# The history of a template

Templates are never removed and each is revised in its place in the list of the office, so a template is known by its
place, whatever the identifiers are; a revision is of the first template with the identifier.  The record of a template
tells its history (`Template.Records`): who made it and when, how often it was revised and when last.  Its form is at
all times the form of its text, and it has an organization at all times but those at which it is for everyone, so that
it goes from one organization to another only by way of everyone (`Run.KeepsTemplate`).
-/

namespace Formulary

namespace Template

/-- The record of a template that a user made on request at a time and that was revised at some times since. -/
structure Records (t : Template) (rules : Ruleset) (maker : UserId) (request : TemplateRequest) (made : Instant)
    (revisions : List Instant) : Prop where
  id : t.id = request.id
  creator : t.creator = maker
  createdAt : t.createdAt = made
  /-- The form is the one of the text as it is. -/
  form : t.form = rules.formOf t.body
  names : (t.form.map Variable.name).Nodup
  organization : t.organization = none ↔ t.audience = .everyone
  /-- The version counts the revisions, as long as their number fits. -/
  version : revisions.length + 1 < UInt32.size → t.version.toNat = revisions.length + 1
  updatedAt : t.updatedAt = revisions.getLast?

variable {rules : Ruleset} {u : User} {t t' : Template} {maker : UserId} {request : TemplateRequest}
  {revision : TemplateRevision} {made now : Instant} {revisions : List Instant}

theorem organization_eq_none_iff_of_owner {audience : Audience} {current organization : Option OrganizationId}
    (h : audience.owner u current = .ok organization) : organization = none ↔ audience = .everyone := by
  rcases Audience.owner_eq_ok_iff.1 h with ⟨rfl, rfl⟩ | ⟨rfl, _, hne⟩
  · exact iff_of_true rfl rfl
  · exact iff_of_false hne nofun

theorem records_of_create (h : create rules u request now = .ok t) : t.Records rules u.id request now [] := by
  obtain ⟨_, _, howner, rfl⟩ := create_eq_ok_iff.1 h
  exact {
    id := rfl
    creator := rfl
    createdAt := rfl
    form := rfl
    names := nodup_formOf _ _
    organization := organization_eq_none_iff_of_owner howner
    version := fun _ => rfl
    updatedAt := rfl }

theorem Records.revise (h : t.Records rules maker request made revisions)
    (hr : t.revise rules u revision now = .ok t') : t'.Records rules maker request made (revisions ++ [now]) := by
  obtain ⟨_, _, _, howner, rfl⟩ := revise_eq_ok_iff.1 hr
  exact {
    id := h.id
    creator := h.creator
    createdAt := h.createdAt
    form := rfl
    names := nodup_formOf _ _
    organization := organization_eq_none_iff_of_owner howner
    version := by
      rw [List.length_append, List.length_singleton]
      intro hfits
      rw [UInt32.toNat_add, h.version (by omega)]
      exact Nat.mod_eq_of_lt hfits
    updatedAt := List.getLast?_concat.symm }

theorem Records.updatedAt_eq_none_iff (h : t.Records rules maker request made revisions)
    (hfits : revisions.length + 1 < UInt32.size) : t.updatedAt = none ↔ t.version = 1 := by
  rw [h.updatedAt, List.getLast?_eq_none_iff, ← UInt32.toNat_inj, h.version hfits]
  cases revisions <;> simp

theorem organization_of_revise {b : OrganizationId} (hr : t.revise rules u revision now = .ok t')
    (hb : t.organization = some b) : t'.organization = some b ∨ t'.audience = .everyone := by
  obtain ⟨_, _, organization, howner, rfl⟩ := revise_eq_ok_iff.1 hr
  rcases Audience.owner_eq_ok_iff.1 howner with ⟨haudience, _⟩ | ⟨_, rfl, _⟩
  · exact .inr haudience
  -- the organization that a template has goes before the one of the user
  · exact .inl (by rw [hb]; rfl)

end Template

/-! ### The template at a place -/

namespace Office

/-- When a step revises the template at a place, if it succeeds. -/
def revisionAt? (o : Office) (i : Nat) : Step → Option Instant
  | .reviseTemplate _ template _ now =>
    if o.templates.findIdx? (fun t => t.id = template) = some i then some now else none
  | _ => none

variable {o o' : Office} {s : Step} {a : Answer} {t : Template} {i : Nat}

theorem revisionAt?_eq_none (h : o.templates.length ≤ i) : o.revisionAt? i s = none := by
  cases s with
  | reviseTemplate actor template revision now =>
    refine if_neg fun hi => ?_
    have := (List.findIdx?_eq_some_iff_getElem.1 hi).1
    omega
  | _ => rfl

/-- In a step that succeeds the template at a place stays as it is or is revised. -/
theorem Effect.template_cases (h : o.Effect s o' a) (ht : o.templates[i]? = some t) :
    (o'.templates[i]? = some t ∧ o.revisionAt? i s = none) ∨
      ∃ u revision now t', t.revise o.rules u revision now = .ok t' ∧ o'.templates[i]? = some t' ∧
        o.revisionAt? i s = some now := by
  cases h with
  | addTemplate =>
    refine .inl ⟨?_, rfl⟩
    rw [List.getElem?_append_left (List.getElem?_eq_some_iff.1 ht).1]
    exact ht
  | @reviseTemplate actor template revision now u c c' hu hc hc' =>
    have hnext := getElem?_replaceFirst (fun t => decide (t.id = template)) c' o.templates i
    -- the template that the step finds and replaces is the first one with the identifier, which is at place `i` or not
    by_cases hi : o.templates.findIdx? (fun t => t.id = template) = some i
    · obtain rfl := eq_of_findIdx? hc hi ht
      rw [if_pos hi] at hnext
      exact .inr ⟨u, revision, now, c', hc', hnext, if_pos hi⟩
    · rw [if_neg hi, ht] at hnext
      exact .inl ⟨hnext, if_neg hi⟩
  | drawDocument | refillDocument | moveDocument | removeDocument | addUser | reviseUser | removeUser =>
    exact .inl ⟨ht, rfl⟩

/-- No template is removed. -/
theorem Effect.length_templates_le (h : o.Effect s o' a) : o.templates.length ≤ o'.templates.length := by
  by_contra hlt
  have hlast : o.templates[o'.templates.length]? = some _ := List.getElem?_eq_getElem (by omega)
  rcases h.template_cases hlast with ⟨hnext, _⟩ | ⟨_, _, _, _, _, hnext, _⟩
  · simp at hnext
  · simp at hnext

end Office

namespace Run

/-- Step `k` makes the template at place `i`. -/
def Makes (r : Run) (k i : Nat) (actor : UserId) (request : TemplateRequest) (now : Instant) : Prop :=
  (∃ a, r.Accepts k (.addTemplate actor request now) a) ∧ (r.state k).templates.length = i

/-- When step `n` revises the template at place `i`, if it does. -/
def revisedAt? (r : Run) (i n : Nat) : Option Instant := do
  let s ← r.steps[n]?
  if ((r.state n).step s).2.isOk then (r.state n).revisionAt? i s else none

/-- The times at which the template at place `i` is revised before state `n`, in order. -/
def revisions (r : Run) (i : Nat) : Nat → List Instant
  | 0 => []
  | n + 1 => r.revisions i n ++ (r.revisedAt? i n).toList

/-- The template at place `i` that step `k` makes is there from then on, and its record tells its history. -/
structure KeepsTemplate (r : Run) (k i : Nat) (actor : UserId) (request : TemplateRequest) (made : Instant) : Prop where
  records : ∀ n, k < n → ∃ t, (r.state n).templates[i]? = some t ∧
    t.Records r.start.rules actor request made (r.revisions i n) ∧
    ((r.revisions i n).length + 1 < UInt32.size → (t.updatedAt = none ↔ t.version = 1))
  /-- Between two organizations the template is for everyone. -/
  organization : ∀ m n, k < m → m ≤ n → ∀ t t' b c, (r.state m).templates[i]? = some t → t.organization = some b →
    (r.state n).templates[i]? = some t' → t'.organization = some c → b ≠ c →
    ∃ j g, m < j ∧ j < n ∧ (r.state j).templates[i]? = some g ∧ g.audience = .everyone ∧ g.organization = none

variable {r : Run} {k n i : Nat} {s : Step} {a : Answer} {t : Template} {actor : UserId} {request : TemplateRequest}
  {made : Instant}

theorem revisedAt?_of_accepts (h : r.Accepts n s a) : r.revisedAt? i n = (r.state n).revisionAt? i s := by
  unfold revisedAt?
  rw [h.1, Option.bind_eq_bind, Option.bind_some, h.2]
  rfl

theorem revisedAt?_eq_none_of_not_accepts (h : ∀ s a, ¬ r.Accepts n s a) : r.revisedAt? i n = none := by
  unfold revisedAt?
  cases hs : r.steps[n]? with
  | none => rfl
  | some s =>
    cases ha : ((r.state n).step s).2 with
    | error e => simp [ha, Except.isOk, Except.toBool]
    | ok a => exact absurd ⟨hs, ha⟩ (h s a)

theorem revisedAt?_eq_none_of_length_le (h : (r.state n).templates.length ≤ i) : r.revisedAt? i n = none := by
  unfold revisedAt?
  cases r.steps[n]? with
  | none => rfl
  | some s => simp [Office.revisionAt?_eq_none h]

theorem template_succ_cases (ht : (r.state n).templates[i]? = some t) :
    ((r.state (n + 1)).templates[i]? = some t ∧ r.revisedAt? i n = none) ∨
      ∃ u revision now t', t.revise r.start.rules u revision now = .ok t' ∧
        (r.state (n + 1)).templates[i]? = some t' ∧ r.revisedAt? i n = some now := by
  rcases accepts_or_state_succ_eq r n with ⟨s, a, h⟩ | ⟨hnone, hsame⟩
  · rw [revisedAt?_of_accepts h, ← rules_state r n]
    exact h.effect.template_cases ht
  · exact .inl ⟨hsame ▸ ht, revisedAt?_eq_none_of_not_accepts hnone⟩

theorem length_templates_mono (hkn : k ≤ n) : (r.state k).templates.length ≤ (r.state n).templates.length := by
  induction hkn with
  | refl => exact le_rfl
  | @step n _ ih =>
    rcases state_succ_cases r n with ⟨_, _, _, h⟩ | h
    · exact ih.trans h.length_templates_le
    · exact h ▸ ih

theorem revisions_eq_nil (h : (r.state k).templates.length ≤ i) (hnk : n ≤ k + 1) : r.revisions i n = [] := by
  induction n with
  | zero => rfl
  | succ n ih =>
    have hlength := (length_templates_mono (show n ≤ k by omega)).trans h
    rw [revisions, ih (by omega), revisedAt?_eq_none_of_length_le hlength]
    rfl

theorem Makes.exists_records (h : r.Makes k i actor request made) (hkn : k < n) :
    ∃ t, (r.state n).templates[i]? = some t ∧ t.Records r.start.rules actor request made (r.revisions i n) := by
  induction hkn with
  | refl =>
    -- before step `k` there was nothing to revise at this place
    obtain ⟨⟨a, ha⟩, rfl⟩ := h
    rw [revisions_eq_nil le_rfl le_rfl, ← rules_state r k]
    obtain ⟨o', hnext, he⟩ := ha.exists_effect
    rw [hnext]
    cases he with
    | addTemplate hu ht =>
      obtain rfl := (mem_of_find?_key hu).2
      exact ⟨_, by simp, Template.records_of_create ht⟩
  | @step n _ ih =>
    obtain ⟨t, ht, hrecords⟩ := ih
    rw [revisions]
    rcases template_succ_cases ht with ⟨hnext, hnone⟩ | ⟨u, revision, now, t', hr, hnext, hsome⟩
    · rw [hnone, Option.toList_none, List.append_nil]
      exact ⟨t, hnext, hrecords⟩
    · rw [hsome]
      exact ⟨t', hnext, hrecords.revise hr⟩

/-- A template keeps its organization until it is made one for everyone. -/
theorem organization_cases {m : Nat} {b : OrganizationId} (hmn : m ≤ n) (ht : (r.state m).templates[i]? = some t)
    (hb : t.organization = some b) :
    (∃ t', (r.state n).templates[i]? = some t' ∧ t'.organization = some b) ∨
      ∃ j g, m < j ∧ j ≤ n ∧ (r.state j).templates[i]? = some g ∧ g.audience = .everyone := by
  induction hmn with
  | refl => exact .inl ⟨t, ht, hb⟩
  | @step n hmn ih =>
    rcases ih with ⟨c, hc, hcb⟩ | ⟨j, g, hmj, hjn, hg, heveryone⟩
    · rcases template_succ_cases hc with ⟨hnext, _⟩ | ⟨u, revision, now, c', hr, hnext, _⟩
      · exact .inl ⟨c, hnext, hcb⟩
      · rcases Template.organization_of_revise hr hcb with hb' | heveryone
        · exact .inl ⟨c', hnext, hb'⟩
        · exact .inr ⟨n + 1, c', Nat.lt_succ_of_le hmn, le_rfl, hnext, heveryone⟩
    · exact .inr ⟨j, g, hmj, by omega, hg, heveryone⟩

/-- Over every run the record of a template that is made in it tells its history, and the template goes from one
organization to another only by way of everyone. -/
theorem Makes.keepsTemplate (h : r.Makes k i actor request made) : r.KeepsTemplate k i actor request made where
  records n hkn := by
    obtain ⟨t, ht, hrecords⟩ := h.exists_records hkn
    exact ⟨t, ht, hrecords, hrecords.updatedAt_eq_none_iff⟩
  organization m n hkm hmn t t' b c ht hb ht' hc hbc := by
    rcases organization_cases hmn ht hb with ⟨e, he, heb⟩ | ⟨j, g, hmj, hjn, hg, heveryone⟩
    · obtain rfl := Option.some.inj (he.symm.trans ht')
      exact absurd (Option.some.inj (heb.symm.trans hc)) hbc
    · obtain ⟨g', hg', hrecords⟩ := h.exists_records (show k < j by omega)
      obtain rfl := Option.some.inj (hg.symm.trans hg')
      have hnone := hrecords.organization.2 heveryone
      -- a template with an organization is not for everyone, so state `j` comes before state `n`
      have hne : j ≠ n := by
        rintro rfl
        obtain rfl := Option.some.inj (hg.symm.trans ht')
        rw [hnone] at hc
        cases hc
      exact ⟨j, g, hmj, by omega, hg, heveryone, hnone⟩

section Mandate

open SmallOffice

def mandate : TemplateRequest := ⟨⟨2⟩, "Mandat", none, "Mandat de {{mandant}}", .organization⟩

/-- A super admin of another organization. -/
def chief : User := { root with id := ⟨5⟩, organization := owner.organization }

/-- The editor makes a template, a stranger tries to change it, the editor opens it to everyone, and a super admin takes
it for another organization. -/
def mandating : Run where
  start := { office with users := [editor, owner, chief] }
  steps := [
    .addTemplate editor.id mandate noon,
    .reviseTemplate owner.id mandate.id ⟨"Mandat", none, "Mandat de {{preneur}}", .organization⟩ noon,
    .reviseTemplate editor.id mandate.id ⟨"Mandat", none, "Mandat du {{date_mandat}}", .everyone⟩ noon,
    .reviseTemplate chief.id mandate.id ⟨"Mandat", none, "Mandat de {{mandant}}", .organization⟩ evening]

theorem mandating_keepsTemplate :
    mandating.Makes 0 1 editor.id mandate noon ∧ mandating.KeepsTemplate 0 1 editor.id mandate noon ∧
      mandating.revisions 1 4 = [noon, evening] ∧
      ∃ t, (mandating.state 4).templates[1]? = some t ∧ t.version = 3 ∧ t.updatedAt = some evening ∧
        t.organization = owner.organization ∧ t.form.map Variable.name = ["mandant"] := by
  have h : mandating.Makes 0 1 editor.id mandate noon :=
    ⟨⟨.template ⟨⟨2⟩, "Mandat", none, "Mandat de {{mandant}}", [⟨"mandant", "Mandant", .text, true, []⟩], .organization,
      some acme, editor.id, 1, noon, none⟩, rfl, by decide +kernel⟩, rfl⟩
  exact ⟨h, h.keepsTemplate, by decide +kernel, _, rfl, by decide +kernel, by decide +kernel, by decide +kernel,
    by decide +kernel⟩

end Mandate

end Run

end Formulary
