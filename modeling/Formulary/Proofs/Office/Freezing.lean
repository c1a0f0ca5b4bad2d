import Formulary.Proofs.Office.Fate
import Formulary.Proofs.Office.Run

/-!
# The lifecycle of the documents of a run

Over a whole run the statuses of a document are a walk in the lifecycle of the office, its data and text change only
when it is refilled as a draft, and it is removed only as a draft (`Run.KeepsLifecycle`).  So past its draft it holds
what it held when it last was one.  In the standard lifecycle nothing leads from the signature back, and signed and
archived documents are frozen for ever (`Run.FreezesSigned`).  The identifiers of the documents are taken to be
distinct, as those who choose them see to.
-/

namespace Formulary

namespace Run

/-- Step `n` draws a document. -/
def Draws (r : Run) (n : Nat) (d : Document) : Prop :=
  ∃ actor template id values now, r.Accepts n (.drawDocument actor template id values now) (.document d)

/-- Step `n` refills the document with an identifier. -/
def Refills (r : Run) (n : Nat) (id : DocumentId) : Prop :=
  ∃ actor template values now a, r.Accepts n (.refillDocument actor id template values now) a

/-- Step `n` removes the document with an identifier. -/
def Removes (r : Run) (n : Nat) (id : DocumentId) : Prop :=
  ∃ actor a, r.Accepts n (.removeDocument actor id) a

/-- A document is drawn under an identifier that is not in use. -/
def DrawsFresh (r : Run) : Prop :=
  ∀ n d, r.Draws n d → ∀ e ∈ (r.state n).documents, e.id ≠ d.id

/-- Before state `n` the document with an identifier was last a draft in state `j`, and it was `y` there. -/
def LastDraft (r : Run) (id : DocumentId) (n j : Nat) (y : Document) : Prop :=
  j < n ∧ y ∈ (r.state j).documents ∧ y.id = id ∧ y.status = .draft ∧
    ∀ i, j < i → i ≤ n → ∀ z ∈ (r.state i).documents, z.id = id → z.status ≠ .draft

/-- Documents go through the lifecycle of their office, and only drafts are refilled or removed. -/
structure KeepsLifecycle (r : Run) : Prop where
  /-- A document starts as a draft. -/
  drawn : ∀ n d, r.Draws n d → d ∈ (r.state (n + 1)).documents ∧ d.status = .draft
  /-- A document that changes its status gets one that can follow. -/
  walks : ∀ n, ∀ d ∈ (r.state n).documents, ∀ e ∈ (r.state (n + 1)).documents, e.id = d.id →
    e.status = d.status ∨ e.status ∈ r.start.lifecycle.successors d.status
  /-- A document gets other data or another text only when it is refilled as a draft. -/
  refilled : ∀ n, ∀ d ∈ (r.state n).documents, ∀ e ∈ (r.state (n + 1)).documents, e.id = d.id →
    e.data ≠ d.data ∨ e.content ≠ d.content → r.Refills n d.id ∧ d.status = .draft
  /-- A document disappears only when it is removed as a draft. -/
  removed : ∀ n, ∀ d ∈ (r.state n).documents, (∀ e ∈ (r.state (n + 1)).documents, e.id ≠ d.id) →
    r.Removes n d.id ∧ d.status = .draft
  /-- Past its draft a document holds what it held when it last was one. -/
  lastDraft : ∀ k n, k ≤ n → ∀ x ∈ (r.state k).documents, x.status = .draft → ∀ d ∈ (r.state n).documents,
    d.id = x.id → d.status ≠ .draft →
    ∃ j y, k ≤ j ∧ r.LastDraft d.id n j y ∧ d.data = y.data ∧ d.content = y.content

/-- Signed documents keep their data and text and can only be archived, and archived ones stay as they are. -/
structure FreezesSigned (r : Run) : Prop where
  signed : ∀ n m, n ≤ m → ∀ d ∈ (r.state n).documents, d.status = .signed →
    ∃ e ∈ (r.state m).documents, e.id = d.id ∧ e.data = d.data ∧ e.content = d.content ∧
      (e.status = .signed ∨ e.status = .archived)
  archived : ∀ n m, n ≤ m → ∀ d ∈ (r.state n).documents, d.status = .archived → d ∈ (r.state m).documents

variable {r : Run} {n : Nat} {d e : Document}

/-! ### From one state to the next -/

theorem documentsDistinct_state (distinct : r.start.DocumentsDistinct) (fresh : r.DrawsFresh) (n : Nat) :
    (r.state n).DocumentsDistinct := by
  refine invariant distinct (fun n s a h ih => h.effect.documentsDistinct ih ?_) n
  rintro actor template id values now rfl c hc
  obtain ⟨o', _, he⟩ := h.exists_effect
  cases he with
  | drawDocument hu ht hd =>
    have hf := fresh n _ ⟨_, _, _, _, _, h⟩ c hc
    obtain ⟨_, _, rfl⟩ := Document.draw_eq_ok_iff.1 hd
    exact hf

/-- A document of state `n + 1` that comes from one of state `n`. -/
def Next (r : Run) (n : Nat) (d e : Document) : Prop :=
  e = d ∨ ∃ s a, r.Accepts n s a ∧ (r.state n).Fate s d e

theorem Next.id_eq (h : r.Next n d e) : e.id = d.id := by
  rcases h with rfl | ⟨_, _, _, h⟩
  · rfl
  · exact h.id_eq

theorem Next.status_cases (h : r.Next n d e) :
    e.status = d.status ∨ e.status ∈ r.start.lifecycle.successors d.status := by
  rcases h with rfl | ⟨_, _, _, h⟩
  · exact .inl rfl
  · exact lifecycle_state r n ▸ h.status_cases

theorem Next.content_cases (h : r.Next n d e) :
    (e.data = d.data ∧ e.content = d.content) ∨ d.status = .draft ∧ e.status = .draft ∧ r.Refills n d.id := by
  rcases h with rfl | ⟨_, a, ha, h⟩
  · exact .inl ⟨rfl, rfl⟩
  · rcases h.content_cases with h | ⟨hd, he, _, _, _, _, rfl⟩
    · exact .inl h
    · exact .inr ⟨hd, he, _, _, _, _, _, ha⟩

theorem Next.eq_of_final (h : r.Next n d e) (hd : d.status ≠ .draft)
    (hf : r.start.lifecycle.successors d.status = []) : e = d := by
  rcases h with rfl | ⟨_, _, _, h⟩
  · rfl
  · exact h.eq_of_final hd (lifecycle_state r n ▸ hf)

/-- A document stays in the next state, or it is a draft and is removed. -/
theorem exists_next (distinct : (r.state n).DocumentsDistinct) (hd : d ∈ (r.state n).documents) :
    (∃ e ∈ (r.state (n + 1)).documents, r.Next n d e) ∨ d.status = .draft ∧ r.Removes n d.id := by
  rcases state_succ_cases r n with ⟨s, a, ha, h⟩ | h
  · rcases h.fate distinct hd with ⟨e, he, hf⟩ | ⟨hs, actor, rfl⟩
    · exact .inl ⟨e, he, .inr ⟨s, a, ha, hf⟩⟩
    · exact .inr ⟨hs, actor, a, ha⟩
  · exact .inl ⟨d, h ▸ hd, .inl rfl⟩

/-- A document comes from the state before, or it is drawn as a draft. -/
theorem exists_prev (distinct : (r.state n).DocumentsDistinct) (he : e ∈ (r.state (n + 1)).documents) :
    (∃ d ∈ (r.state n).documents, r.Next n d e) ∨ e.status = .draft ∧ r.Draws n e := by
  rcases state_succ_cases r n with ⟨s, a, ha, h⟩ | h
  · rcases h.origin distinct he with ⟨d, hd, hf⟩ | ⟨hs, rfl, actor, template, values, now, rfl⟩
    · exact .inl ⟨d, hd, .inr ⟨s, a, ha, hf⟩⟩
    · exact .inr ⟨hs, _, _, _, _, _, ha⟩
  · exact .inl ⟨e, h ▸ he, .inl rfl⟩

section Distinct

variable (distinct : r.start.DocumentsDistinct) (fresh : r.DrawsFresh)

include distinct fresh

/-- Documents of two successive states with one identifier are versions of one document. -/
theorem next_of_id_eq (hd : d ∈ (r.state n).documents) (he : e ∈ (r.state (n + 1)).documents) (h : e.id = d.id) :
    r.Next n d e := by
  have hn := documentsDistinct_state distinct fresh n
  rcases exists_prev hn he with ⟨c, hc, hce⟩ | ⟨_, hdraw⟩
  · have hcd : c = d := Office.eq_of_id_eq hn hc hd (hce.id_eq.symm.trans h)
    exact hcd ▸ hce
  · exact absurd h.symm (fresh n e hdraw d hd)

/-! ### From one state to any later one -/

/-- By induction on the later state: a document that has just left its draft was last one in the state before, and
any other has the last draft that it had there. -/
theorem exists_lastDraft {k : Nat} {x : Document} (hkn : k ≤ n) (hx : x ∈ (r.state k).documents)
    (hxs : x.status = .draft) (hd : d ∈ (r.state n).documents) (hid : d.id = x.id) (hds : d.status ≠ .draft) :
    ∃ j y, k ≤ j ∧ r.LastDraft d.id n j y ∧ d.data = y.data ∧ d.content = y.content := by
  have hdistinct := documentsDistinct_state distinct fresh
  induction hkn generalizing d with
  | refl =>
    have hdx : d = x := Office.eq_of_id_eq (hdistinct k) hd hx hid
    exact absurd (hdx ▸ hxs) hds
  | @step n hkn ih =>
    rcases exists_prev (hdistinct n) hd with ⟨c, hc, hcd⟩ | ⟨hs, _⟩
    · have hcontent : d.data = c.data ∧ d.content = c.content :=
        hcd.content_cases.resolve_right fun h => hds h.2.1
      have honly : ∀ z ∈ (r.state (n + 1)).documents, z.id = d.id → z.status ≠ .draft := by
        intro z hz hzd
        have hzd : z = d := Office.eq_of_id_eq (hdistinct (n + 1)) hz hd hzd
        exact hzd ▸ hds
      by_cases hcs : c.status = .draft
      · refine ⟨n, c, hkn, ⟨by omega, hc, hcd.id_eq.symm, hcs, fun i hi hin => ?_⟩, hcontent⟩
        obtain rfl : i = n + 1 := by omega
        exact honly
      · obtain ⟨j, y, hkj, ⟨hjn, hy, hyc, hys, hlast⟩, hdata, htext⟩ :=
          ih hc (hcd.id_eq.symm.trans hid) hcs
        refine ⟨j, y, hkj, ⟨by omega, hy, hyc.trans hcd.id_eq.symm, hys, fun i hi hin => ?_⟩,
          hcontent.1.trans hdata, hcontent.2.trans htext⟩
        rcases Nat.lt_or_ge n i with h | h
        · obtain rfl : i = n + 1 := by omega
          exact honly
        · rw [hcd.id_eq]
          exact hlast i hi h
    · exact absurd hs hds

theorem keepsLifecycle : r.KeepsLifecycle where
  drawn n d h := by
    obtain ⟨actor, template, id, values, now, h⟩ := h
    obtain ⟨o', hnext, he⟩ := h.exists_effect
    rw [hnext]
    cases he with
    | drawDocument hu ht hd =>
      obtain ⟨_, _, rfl⟩ := Document.draw_eq_ok_iff.1 hd
      exact ⟨List.mem_append_right _ (List.mem_singleton_self _), rfl⟩
  walks n d hd e he h := (next_of_id_eq distinct fresh hd he h).status_cases
  refilled n d hd e he h hne := by
    rcases (next_of_id_eq distinct fresh hd he h).content_cases with ⟨hdata, htext⟩ | ⟨hs, _, hr⟩
    · rcases hne with hne | hne
      · exact absurd hdata hne
      · exact absurd htext hne
    · exact ⟨hr, hs⟩
  removed n d hd hgone := by
    rcases exists_next (documentsDistinct_state distinct fresh n) hd with ⟨e, he, h⟩ | ⟨hs, hr⟩
    · exact absurd h.id_eq (hgone e he)
    · exact ⟨hr, hs⟩
  lastDraft k n hkn x hx hxs d hd hid hds := exists_lastDraft distinct fresh hkn hx hxs hd hid hds

theorem freezesSigned (standard : r.start.lifecycle = .standard) : r.FreezesSigned where
  signed n m hnm d hd hs := by
    induction hnm with
    | refl => exact ⟨d, hd, rfl, rfl, rfl, .inl hs⟩
    | @step m hnm ih =>
      obtain ⟨e, he, hid, hdata, htext, hes⟩ := ih
      have hdraft : e.status ≠ .draft := by
        rcases hes with h | h <;> simp [h]
      rcases exists_next (documentsDistinct_state distinct fresh m) he with ⟨c, hc, hec⟩ | ⟨h, _⟩
      · obtain ⟨hdata', htext'⟩ := hec.content_cases.resolve_right fun h => hdraft h.1
        refine ⟨c, hc, hec.id_eq.trans hid, hdata'.trans hdata, htext'.trans htext, ?_⟩
        rcases hec.status_cases with h | h
        · exact h ▸ hes
        · rw [standard] at h
          rcases hes with hes | hes <;> rw [hes] at h
          · exact .inr (List.mem_singleton.1 h)
          · cases h
      · exact absurd h hdraft
  archived n m hnm d hd hs := by
    have hdraft : d.status ≠ .draft := by simp [hs]
    have hfinal : r.start.lifecycle.successors d.status = [] := by rw [standard, hs]; rfl
    induction hnm with
    | refl => exact hd
    | @step m hnm ih =>
      rcases exists_next (documentsDistinct_state distinct fresh m) ih with ⟨c, hc, hdc⟩ | ⟨h, _⟩
      · exact hdc.eq_of_final hdraft hfinal ▸ hc
      · exact absurd h hdraft

end Distinct

/-- In every run a document goes through the lifecycle of its office and changes only as a draft, and in the standard
lifecycle signed and archived documents are frozen for ever. -/
theorem lifecycle_and_freeze (r : Run) (distinct : r.start.DocumentsDistinct) (fresh : r.DrawsFresh) :
    r.KeepsLifecycle ∧ (r.start.lifecycle = .standard → r.FreezesSigned) :=
  ⟨keepsLifecycle distinct fresh, freezesSigned distinct fresh⟩

open SmallOffice in
/-- A lease that goes back from the review to its draft, is refilled and signed, and withstands a change and a removal
before it is archived. -/
def signing : Run where
  start := office
  steps := [
    .drawDocument editor.id lease.id ⟨1⟩ (tenant "SCI Horizon") noon,
    .refillDocument editor.id ⟨1⟩ lease.id (tenant "") noon,
    .moveDocument editor.id ⟨1⟩ .review noon,
    .moveDocument editor.id ⟨1⟩ .draft noon,
    .refillDocument editor.id ⟨1⟩ lease.id (tenant "Boulangerie Martin") noon,
    .moveDocument editor.id ⟨1⟩ .review noon,
    .moveDocument editor.id ⟨1⟩ .approved noon,
    .moveDocument editor.id ⟨1⟩ .signed noon,
    .refillDocument editor.id ⟨1⟩ lease.id (tenant "SCI Horizon") noon,
    .removeDocument editor.id ⟨1⟩,
    .moveDocument editor.id ⟨1⟩ .archived noon]

theorem signing_frozen :
    signing.start.DocumentsDistinct ∧ signing.DrawsFresh ∧ signing.KeepsLifecycle ∧ signing.FreezesSigned ∧
      ∃ d ∈ (signing.state 10).documents, d.status = .signed ∧ d.content = "Bail de Boulangerie Martin" := by
  have distinct : signing.start.DocumentsDistinct := by decide
  have fresh : signing.DrawsFresh := by
    rintro n d ⟨actor, template, id, values, now, hs, _⟩ e he
    rcases n with _ | n
    · cases he
    · have hm : Step.drawDocument actor template id values now ∈ signing.steps.tail :=
        List.mem_of_getElem? (List.getElem?_tail.trans hs)
      simp [signing] at hm
  obtain ⟨hkeeps, hfreezes⟩ := lifecycle_and_freeze signing distinct fresh
  exact ⟨distinct, fresh, hkeeps, hfreezes rfl, by decide +kernel⟩

end Run

end Formulary
