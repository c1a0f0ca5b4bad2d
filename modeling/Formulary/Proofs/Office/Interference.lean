import Formulary.Proofs.Interleaving
import Formulary.Proofs.Office.Identifiers
import Formulary.Proofs.Office.Run

/-!
# Work on different documents

Refilling and moving a document reads of the other records of an office only those that such work leaves as they are,
and it writes nothing but that document.  So it goes together with any change of another document
(`step_putDocument`), and two sequences of such work on different documents do not interfere: whatever their
interleaving, the office comes out the same and each step gets the same answer (`run_interleaving`).
-/

namespace Formulary

/-- The document on which a refilling or a move works. -/
def Step.worksOn? : Step → Option DocumentId
  | refillDocument _ document .. | moveDocument _ document .. => some document
  | _ => none

namespace Office

/-- What can be seen of work on a document: the document as the step finds it, and the outcome. -/
def reply (o : Office) (s : Step) : Option Document × Except StepError Answer :=
  (s.worksOn?.bind o.document?, (o.step s).2)

variable {o : Office} {s t : Step} {i j : DocumentId} {d e : Document}

/-! ### Writing two documents -/

theorem document?_putDocument_of_ne (he : e.id = j) (hij : i ≠ j) :
    (o.putDocument j e).document? i = o.document? i := by
  rw [document?, putDocument, find?_replaceFirst he, if_neg hij, document?]

theorem putDocument_comm (hd : d.id = i) (he : e.id = j) (hij : i ≠ j) :
    (o.putDocument i d).putDocument j e = (o.putDocument j e).putDocument i d := by
  unfold putDocument
  rw [replaceFirst_comm hd he hij]

/-! ### Work on one document and changes of another -/

/-- Work on a document writes that document, or it is refused and writes nothing. -/
theorem step_of_worksOn? (hs : s.worksOn? = some i) :
    (∃ d, d.id = i ∧ o.step s = (o.putDocument i d, .ok (.document d))) ∨ ∃ e, o.step s = (o, .error e) := by
  rcases step_cases o s with ⟨a, ha, h⟩ | h
  · left
    obtain ⟨o', ho'⟩ : ∃ o', (o.step s).1 = o' := ⟨_, rfl⟩
    have hstep : o.step s = (o', .ok a) := Prod.ext ho' ha
    rw [ho'] at h
    rw [hstep]
    cases h with
    | refillDocument hu ht hd hd' =>
      obtain rfl := Option.some.inj hs
      obtain ⟨_, _, _, _, rfl⟩ := Document.refill_eq_ok_iff.1 hd'
      refine ⟨_, ?_, rfl⟩
      exact (mem_of_find?_key hd).2
    | moveDocument hu hd hd' =>
      obtain rfl := Option.some.inj hs
      obtain ⟨_, _, rfl⟩ := Document.move_eq_ok_iff.1 hd'
      refine ⟨_, ?_, rfl⟩
      exact (mem_of_find?_key hd).2
    | addTemplate | reviseTemplate | drawDocument | removeDocument | addUser | reviseUser | removeUser => cases hs
  · exact .inr h

theorem step_snd (o : Office) (s : Step) : (o.step s).2 = (o.perform s).map Prod.snd := by
  unfold step
  cases o.perform s <;> rfl

theorem map_bind_congr {ε α β γ δ : Type} {x : Except ε α} {f : α → Except ε β} {f' : α → Except ε γ} {g : β → δ}
    {g' : γ → δ} (h : ∀ a, (f a).map g = (f' a).map g') : (x >>= f).map g = (x >>= f').map g' := by
  cases x with
  | error e => rfl
  | ok a => exact h a

/-- Of the documents, the outcome depends on the one that the work is on. -/
theorem outcome_putDocument (hs : s.worksOn? = some i) (he : e.id = j) (hij : i ≠ j) :
    ((o.putDocument j e).step s).2 = (o.step s).2 := by
  have hdocument := document?_putDocument_of_ne (o := o) he hij
  rw [step_snd, step_snd]
  cases s with
  | addTemplate | reviseTemplate | drawDocument | removeDocument | addUser | reviseUser | removeUser => cases hs
  | refillDocument actor document template values now =>
    obtain rfl := Option.some.inj hs
    refine map_bind_congr fun _ => map_bind_congr fun _ => ?_
    rw [hdocument]
    exact map_bind_congr fun _ => map_bind_congr fun _ => rfl
  | moveDocument actor document status now =>
    obtain rfl := Option.some.inj hs
    refine map_bind_congr fun _ => ?_
    dsimp only
    rw [hdocument]
    exact map_bind_congr fun _ => map_bind_congr fun _ => rfl

/-- Work on a document goes together with a change of another one. -/
theorem step_putDocument (hs : s.worksOn? = some i) (he : e.id = j) (hij : i ≠ j) :
    (o.putDocument j e).step s = ((o.step s).1.putDocument j e, (o.step s).2) := by
  have houtcome := outcome_putDocument (o := o) hs he hij
  rcases step_of_worksOn? (o := o) hs with ⟨d, hd, h⟩ | ⟨r, h⟩
  · rw [h] at houtcome ⊢
    rcases step_of_worksOn? (o := o.putDocument j e) hs with ⟨d', _, h'⟩ | ⟨r', h'⟩
    · rw [h'] at houtcome ⊢
      obtain rfl := Answer.document.inj (Except.ok.inj houtcome)
      rw [putDocument_comm hd he hij]
    · rw [h'] at houtcome
      cases houtcome
  · rw [h] at houtcome ⊢
    rcases step_of_worksOn? (o := o.putDocument j e) hs with ⟨d', _, h'⟩ | ⟨r', h'⟩
    · rw [h'] at houtcome
      cases houtcome
    · rw [h'] at houtcome ⊢
      exact Prod.ext rfl houtcome

/-! ### Work on different documents -/

/-- Of two works on different documents the second one finds and does what it would without the first, and the first
could as well come second. -/
theorem step_step (hs : s.worksOn? = some i) (ht : t.worksOn? = some j) (hij : i ≠ j) :
    (o.step s).1.step t = (((o.step t).1.step s).1, (o.step t).2) := by
  rcases step_of_worksOn? (o := o) hs with ⟨d, hd, hstep⟩ | ⟨r, hstep⟩
  · rw [hstep, step_putDocument ht hd hij.symm]
    rcases step_of_worksOn? (o := o) ht with ⟨e, he, hstep'⟩ | ⟨r', hstep'⟩
    · rw [hstep', step_putDocument hs he hij, hstep, putDocument_comm hd he hij]
    · rw [hstep', hstep]
  · rw [hstep]
    rcases step_of_worksOn? (o := o) ht with ⟨e, he, hstep'⟩ | ⟨r', hstep'⟩
    · rw [hstep', step_putDocument hs he hij, hstep]
    · rw [hstep', hstep]

theorem document?_step_of_ne (hs : s.worksOn? = some i) (hij : i ≠ j) :
    (o.step s).1.document? j = o.document? j := by
  rcases step_of_worksOn? (o := o) hs with ⟨d, hd, hstep⟩ | ⟨r, hstep⟩
  · rw [hstep, document?_putDocument_of_ne hd hij.symm]
  · rw [hstep]

theorem reply_step (hs : s.worksOn? = some i) (ht : t.worksOn? = some j) (hij : i ≠ j) :
    (o.step s).1.reply t = o.reply t := by
  rw [reply, reply, ht, Option.bind_some, Option.bind_some, document?_step_of_ne hs hij, step_step hs ht hij]

theorem independent_of_worksOn?_ne (hs : s.worksOn? ≠ none) (ht : t.worksOn? ≠ none)
    (hst : s.worksOn? ≠ t.worksOn?) : Independent (fun o s => (o.step s).1) reply s t := by
  obtain ⟨i, hi⟩ := Option.ne_none_iff_exists'.1 hs
  obtain ⟨j, hj⟩ := Option.ne_none_iff_exists'.1 ht
  have hij : i ≠ j := fun h => hst (by rw [hi, hj, h])
  refine ⟨fun o => ?_, fun o => reply_step hi hj hij, fun o => reply_step hj hi hij.symm⟩
  show ((o.step s).1.step t).1 = ((o.step t).1.step s).1
  rw [step_step hi hj hij]

/-- The steps of a list, each with what is seen of it. -/
def replies (o : Office) (steps : List Step) : List (Step × Option Document × Except StepError Answer) :=
  repliesFrom (fun o s => (o.step s).1) reply o steps

/-- Two sequences of work on different documents can be interleaved in any way: the office becomes what it becomes by
one after the other, and each step finds its document and answers as if the other sequence were not there. -/
theorem run_interleaving (o : Office) {xs ys zs : List Step} (hxs : ∀ s ∈ xs, s.worksOn? ≠ none)
    (hys : ∀ t ∈ ys, t.worksOn? ≠ none) (different : ∀ s ∈ xs, ∀ t ∈ ys, s.worksOn? ≠ t.worksOn?)
    (h : Interleaving xs ys zs) :
    o.run zs = (o.run xs).run ys ∧ Interleaving (o.replies xs) (o.replies ys) (o.replies zs) := by
  have independent : ∀ s ∈ xs, ∀ t ∈ ys, Independent (fun o s => (o.step s).1) reply s t :=
    fun s hs t ht => independent_of_worksOn?_ne (hxs s hs) (hys t ht) (different s hs t ht)
  exact ⟨h.foldl_eq independent o, h.repliesFrom independent o⟩

section Desks

open SmallOffice

/-- An office with two drafts of two users. -/
def desks : Office where
  rules := .standard
  lifecycle := .standard
  users := [editor, admin]
  templates := [lease]
  documents := [
    ⟨⟨1⟩, lease.id, some acme, editor.id, .draft, tenant "SCI Horizon", "Bail de SCI Horizon", noon, none⟩,
    ⟨⟨2⟩, lease.id, some acme, admin.id, .draft, tenant "Garage Petit", "Bail de Garage Petit", noon, none⟩]

/-- One draft is refilled, sent to the review and then refused another name, while the other one, which the editor may
not touch, goes to the review and back. -/
theorem desks_run_interleaving :
    let refilling := Step.refillDocument editor.id ⟨1⟩ lease.id (tenant "Boulangerie Martin") evening
    let sending := Step.moveDocument editor.id ⟨1⟩ .review evening
    let intruding := Step.refillDocument editor.id ⟨2⟩ lease.id (tenant "Boulangerie Martin") evening
    let reviewing := Step.moveDocument admin.id ⟨2⟩ .review evening
    let returning := Step.moveDocument admin.id ⟨2⟩ .draft evening
    let xs := [refilling, sending, refilling]
    let ys := [intruding, reviewing, returning]
    let zs := [intruding, refilling, sending, reviewing, refilling, returning]
    (∀ s ∈ xs, s.worksOn? ≠ none) ∧ (∀ t ∈ ys, t.worksOn? ≠ none) ∧
      (∀ s ∈ xs, ∀ t ∈ ys, s.worksOn? ≠ t.worksOn?) ∧ Interleaving xs ys zs ∧
      desks.run zs = (desks.run xs).run ys ∧
      Interleaving (desks.replies xs) (desks.replies ys) (desks.replies zs) := by
  intro refilling sending intruding reviewing returning xs ys zs
  have hxs : ∀ s ∈ xs, s.worksOn? ≠ none := by decide
  have hys : ∀ t ∈ ys, t.worksOn? ≠ none := by decide
  have different : ∀ s ∈ xs, ∀ t ∈ ys, s.worksOn? ≠ t.worksOn? := by decide
  have h : Interleaving xs ys zs := .right (.left (.left (.right (.left (.right .nil)))))
  exact ⟨hxs, hys, different, h, run_interleaving desks hxs hys different h⟩

end Desks

end Office

end Formulary
