import Formulary.Proofs.Office.Effect
import Formulary.Proofs.Office.Identifiers

/-!
# What a step does to one document

Where the documents of an office have distinct identifiers, a step that succeeds keeps, refills, moves or removes each
of them (`Effect.fate`), and each document after it comes from one before it or is drawn by the step (`Effect.origin`).
Drawing under an identifier that is not in use keeps the identifiers distinct (`Effect.documentsDistinct`).
-/

namespace Formulary.Office

/-- No two documents have one identifier. -/
def DocumentsDistinct (o : Office) : Prop := (o.documents.map Document.id).Nodup

instance (o : Office) : Decidable o.DocumentsDistinct := inferInstanceAs (Decidable (List.Nodup _))

/-- What a step that succeeds makes of a document that stays. -/
inductive Fate (o : Office) (s : Step) (d : Document) : Document → Prop
  | kept : Fate o s d d
  | refilled {actor template values now u t e} (hs : s = .refillDocument actor d.id template values now)
      (hu : o.user? actor = some u) (ht : o.template? template = some t)
      (he : d.refill o.rules u t values now = .ok e) : Fate o s d e
  | moved {actor status now u e} (hs : s = .moveDocument actor d.id status now) (hu : o.user? actor = some u)
      (he : d.move o.lifecycle u status now = .ok e) : Fate o s d e

variable {o o' : Office} {s : Step} {a : Answer} {d e : Document}

theorem eq_of_id_eq (distinct : o.DocumentsDistinct) (hd : d ∈ o.documents) (he : e ∈ o.documents)
    (h : d.id = e.id) : d = e :=
  List.inj_on_of_nodup_map distinct hd he h

theorem Fate.id_eq (h : o.Fate s d e) : e.id = d.id := by
  cases h with
  | kept => rfl
  | refilled _ _ _ he =>
    obtain ⟨_, _, _, _, rfl⟩ := Document.refill_eq_ok_iff.1 he
    rfl
  | moved _ _ he =>
    obtain ⟨_, _, rfl⟩ := Document.move_eq_ok_iff.1 he
    rfl

theorem Fate.status_cases (h : o.Fate s d e) : e.status = d.status ∨ e.status ∈ o.lifecycle.successors d.status := by
  cases h with
  | kept => exact .inl rfl
  | refilled _ _ _ he =>
    obtain ⟨_, _, _, _, rfl⟩ := Document.refill_eq_ok_iff.1 he
    exact .inl rfl
  | moved _ _ he =>
    obtain ⟨_, hp, rfl⟩ := Document.move_eq_ok_iff.1 he
    exact .inr (of_decide_eq_true hp)

/-- Only a refilled draft gets other data or another text. -/
theorem Fate.content_cases (h : o.Fate s d e) :
    (e.data = d.data ∧ e.content = d.content) ∨
      d.status = .draft ∧ e.status = .draft ∧
        ∃ actor template values now, s = .refillDocument actor d.id template values now := by
  cases h with
  | kept => exact .inl ⟨rfl, rfl⟩
  | refilled hs _ _ he =>
    obtain ⟨_, hd, _, _, rfl⟩ := Document.refill_eq_ok_iff.1 he
    exact .inr ⟨hd, hd, _, _, _, _, hs⟩
  | moved _ _ he =>
    obtain ⟨_, _, rfl⟩ := Document.move_eq_ok_iff.1 he
    exact .inl ⟨rfl, rfl⟩

/-- A document that no status can follow and that is no draft stays as it is. -/
theorem Fate.eq_of_final (h : o.Fate s d e) (hd : d.status ≠ .draft) (hf : o.lifecycle.successors d.status = []) :
    e = d := by
  cases h with
  | kept => rfl
  | refilled _ _ _ he => exact absurd (Document.refill_eq_ok_iff.1 he).2.1 hd
  | moved _ _ he =>
    have hp := of_decide_eq_true (Document.move_eq_ok_iff.1 he).2.1
    rw [hf] at hp
    cases hp

/-! ### One document in place of another -/

theorem fate_of_putDocument {c c' : Document} (distinct : o.DocumentsDistinct) (hc : c ∈ o.documents)
    (hf : o.Fate s c c') (hd : d ∈ o.documents) :
    ∃ e ∈ (o.putDocument c.id c').documents, o.Fate s d e := by
  have hput := fun e => mem_replaceFirst_iff (a := c') (c := e) distinct hc rfl
  by_cases hid : d.id = c.id
  · obtain rfl := eq_of_id_eq distinct hd hc hid
    exact ⟨c', (hput c').2 (.inl rfl), hf⟩
  · exact ⟨d, (hput d).2 (.inr ⟨hd, hid⟩), .kept⟩

theorem origin_of_putDocument {c c' : Document} (distinct : o.DocumentsDistinct) (hc : c ∈ o.documents)
    (hf : o.Fate s c c') (he : e ∈ (o.putDocument c.id c').documents) : ∃ d ∈ o.documents, o.Fate s d e := by
  rcases (mem_replaceFirst_iff distinct hc rfl).1 he with rfl | ⟨he, _⟩
  · exact ⟨c, hc, hf⟩
  · exact ⟨e, he, .kept⟩

/-! ### The documents after a step -/

/-- What becomes of a document in a step that succeeds: it stays, or it is a draft and is removed. -/
theorem Effect.fate (h : o.Effect s o' a) (distinct : o.DocumentsDistinct) (hd : d ∈ o.documents) :
    (∃ e ∈ o'.documents, o.Fate s d e) ∨ d.status = .draft ∧ ∃ actor, s = .removeDocument actor d.id := by
  cases h with
  | addTemplate | reviseTemplate | addUser | reviseUser | removeUser => exact .inl ⟨d, hd, .kept⟩
  | drawDocument => exact .inl ⟨d, List.mem_append_left _ hd, .kept⟩
  | refillDocument hu ht hc hc' =>
    obtain ⟨hcm, rfl⟩ := mem_of_find?_key hc
    exact .inl (fate_of_putDocument distinct hcm (.refilled rfl hu ht hc') hd)
  | moveDocument hu hc hc' =>
    obtain ⟨hcm, rfl⟩ := mem_of_find?_key hc
    exact .inl (fate_of_putDocument distinct hcm (.moved rfl hu hc') hd)
  | @removeDocument actor document u c hu hc hr =>
    obtain ⟨hcm, rfl⟩ := mem_of_find?_key hc
    by_cases hid : d.id = c.id
    · obtain rfl := eq_of_id_eq distinct hd hcm hid
      exact .inr ⟨(Document.ensureRemovable_eq_ok_iff.1 hr).2, actor, rfl⟩
    · exact .inl ⟨d, List.mem_filter.2 ⟨hd, decide_eq_true hid⟩, .kept⟩

/-- Where a document after a step that succeeds comes from. -/
theorem Effect.origin (h : o.Effect s o' a) (distinct : o.DocumentsDistinct) (he : e ∈ o'.documents) :
    (∃ d ∈ o.documents, o.Fate s d e) ∨
      e.status = .draft ∧ a = .document e ∧ ∃ actor template values now,
        s = .drawDocument actor template e.id values now := by
  cases h with
  | addTemplate | reviseTemplate | addUser | reviseUser | removeUser => exact .inl ⟨e, he, .kept⟩
  | drawDocument hu ht hd =>
    rcases List.mem_append.1 he with he | he
    · exact .inl ⟨e, he, .kept⟩
    · obtain rfl := List.mem_singleton.1 he
      obtain ⟨_, _, rfl⟩ := Document.draw_eq_ok_iff.1 hd
      exact .inr ⟨rfl, rfl, _, _, _, _, rfl⟩
  | refillDocument hu ht hc hc' =>
    obtain ⟨hcm, rfl⟩ := mem_of_find?_key hc
    exact .inl (origin_of_putDocument distinct hcm (.refilled rfl hu ht hc') he)
  | moveDocument hu hc hc' =>
    obtain ⟨hcm, rfl⟩ := mem_of_find?_key hc
    exact .inl (origin_of_putDocument distinct hcm (.moved rfl hu hc') he)
  | removeDocument => exact .inl ⟨e, (List.mem_filter.1 he).1, .kept⟩

/-! ### The document that an identifier names -/

theorem document?_putDocument {c c' : Document} (hc : o.document? c.id = some c) (hid : c'.id = c.id)
    (j : DocumentId) : (o.putDocument c.id c').document? j = if j = c.id then some c' else o.document? j := by
  have hput := find?_replaceFirst hid o.documents j
  rw [show o.documents.find? (fun x => decide (x.id = c.id)) = some c from hc, Option.map_some] at hput
  exact hput

theorem document?_of_putDocument {c c' : Document} (hd : o.document? d.id = some d) (hc : o.document? c.id = some c)
    (hf : o.Fate s c c') : ∃ e, (o.putDocument c.id c').document? d.id = some e ∧ o.Fate s d e := by
  rw [document?_putDocument hc hf.id_eq]
  by_cases hid : d.id = c.id
  · rw [hid, hc] at hd
    obtain rfl := Option.some.inj hd
    exact ⟨c', if_pos rfl, hf⟩
  · exact ⟨d, by rw [if_neg hid, hd], .kept⟩

/-- What becomes of the document that an identifier names, be there others with that identifier or not: it stays, or a
user who may remove it does. -/
theorem Effect.document?_cases (h : o.Effect s o' a) (hd : o.document? d.id = some d) :
    (∃ e, o'.document? d.id = some e ∧ o.Fate s d e) ∨
      ∃ u, o.user? s.actor = some u ∧ d.ensureRemovable u = .ok () := by
  cases h with
  | addTemplate | reviseTemplate | addUser | reviseUser | removeUser => exact .inl ⟨d, hd, .kept⟩
  | drawDocument =>
    refine .inl ⟨d, ?_, .kept⟩
    rw [document?, List.find?_append, ← document?, hd, Option.some_or]
  | refillDocument hu ht hc hc' =>
    obtain ⟨_, rfl⟩ := mem_of_find?_key hc
    exact .inl (document?_of_putDocument hd hc (.refilled rfl hu ht hc'))
  | moveDocument hu hc hc' =>
    obtain ⟨_, rfl⟩ := mem_of_find?_key hc
    exact .inl (document?_of_putDocument hd hc (.moved rfl hu hc'))
  | @removeDocument actor document u c hu hc hr =>
    by_cases hid : d.id = document
    · subst hid
      obtain rfl := Option.some.inj (hc.symm.trans hd)
      exact .inr ⟨u, hu, hr⟩
    · have hsame (e : Document) : (e.id ≠ document ∧ e.id = d.id) ↔ e.id = d.id :=
        and_iff_right_of_imp fun he => he ▸ hid
      refine .inl ⟨d, ?_, .kept⟩
      simp only [document?, List.find?_filter, decide_eq_true_iff, hsame]
      exact hd

/-- Identifiers stay distinct if a document is drawn under one that is not in use. -/
theorem Effect.documentsDistinct (h : o.Effect s o' a) (distinct : o.DocumentsDistinct)
    (fresh : ∀ actor template id values now, s = .drawDocument actor template id values now →
      ∀ d ∈ o.documents, d.id ≠ id) : o'.DocumentsDistinct := by
  cases h with
  | addTemplate | reviseTemplate | addUser | reviseUser | removeUser => exact distinct
  | drawDocument hu ht hd =>
    obtain ⟨_, _, rfl⟩ := Document.draw_eq_ok_iff.1 hd
    exact nodup_map_append_singleton distinct (fresh _ _ _ _ _ rfl)
  | refillDocument hu ht hc hc' =>
    have hid := (Fate.refilled rfl hu ht hc').id_eq
    exact nodup_map_replaceFirst distinct (hid.trans (mem_of_find?_key hc).2)
  | moveDocument hu hc hc' =>
    have hid := (Fate.moved rfl hu hc').id_eq
    exact nodup_map_replaceFirst distinct (hid.trans (mem_of_find?_key hc).2)
  | removeDocument => exact distinct.sublist (List.filter_sublist.map Document.id)

end Formulary.Office
