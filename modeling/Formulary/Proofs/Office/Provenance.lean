import Formulary.Proofs.Form.Judgement
import Formulary.Proofs.Office.Freezing

/-!
# Where the contents of a document come from

A document is followed over a run by its place in the list of the office, whatever the identifiers are: it is drawn as
the last one, and it moves up when others before it are removed.  What is said of it at the drawing stays: its
identifier, its template, its organization, its author and its time.  Its data and its text come from one and the same
submission, the last one that was accepted, and from the template as it was then (`Run.Accepts.keepsDocument`).
-/

namespace Formulary

namespace Document

/-- The values that a submission gives for the form of a template, and the text of the template filled by them. -/
structure FilledFrom (d : Document) (rules : Ruleset) (t : Template) (submission : FormValues) : Prop where
  content : d.content = fill t.body d.data
  keys : ∀ name, name ∈ d.data.keys ↔ ∃ v ∈ t.form, v.name = name
  values : ∀ v ∈ t.form, d.data.get? v.name = some (Text.trim ((submission.get? v.name).getD ""))
  /-- A value is right for its variable, or it is empty and none is required. -/
  sound : ∀ v ∈ t.form, ∀ value, d.data.get? v.name = some value →
    (value ≠ "" ∧ rules.settings.valueFault? v value = none) ∨ (value = "" ∧ v.required = false)

/-- What a document keeps from its drawing. -/
structure DrawnBy (d : Document) (id : DocumentId) (template : TemplateId) (maker : User) (made : Instant) : Prop where
  id : d.id = id
  template : d.template = template
  organization : d.organization = maker.organization
  creator : d.creator = maker.id
  createdAt : d.createdAt = made

variable {rules : Ruleset} {u : User} {t : Template} {d e : Document} {values : FormValues}

theorem filledFrom_of_report (hvalid : (rules.report t.form values).isValid = true)
    (hdata : d.data = (rules.report t.form values).data) (hcontent : d.content = fill t.body d.data) :
    d.FilledFrom rules t values where
  content := hcontent
  keys _ := by rw [hdata]; exact Report.mem_keys_data_iff hvalid
  values _ hv := by rw [hdata]; exact Report.get?_data hvalid hv
  sound v hv value hget := by
    rw [hdata] at hget
    exact Report.sound_of_mem hvalid hv (Option.some.inj (hget.symm.trans (Report.get?_data hvalid hv)))

theorem FilledFrom.congr (h : d.FilledFrom rules t values) (hdata : e.data = d.data)
    (hcontent : e.content = d.content) :
    e.FilledFrom rules t values where
  content := by rw [hcontent, hdata]; exact h.content
  keys := by rw [hdata]; exact h.keys
  values := by rw [hdata]; exact h.values
  sound := by rw [hdata]; exact h.sound

end Document

/-! ### The document at a place -/

namespace Office

/-- Where the document at a place stands after a step that succeeds; nowhere if the step removes it. -/
def placeAfter? (o : Office) (i : Nat) : Step → Option Nat
  | .removeDocument _ document =>
    if (o.documents[i]?).any (fun d => d.id = document) then none
    else some ((o.documents.take i).filter (fun d => d.id ≠ document)).length
  | _ => some i

/-- The template and the submission from which a step that succeeds fills the document at a place, if it does: it
refills the first document with the identifier, or it draws one that comes last. -/
def fillingAt? (o : Office) (i : Nat) : Step → Option (Template × FormValues)
  | .drawDocument _ template _ values _ =>
    if o.documents.length = i then (o.template? template).map (·, values) else none
  | .refillDocument _ document template values _ =>
    if o.documents.findIdx? (fun d => d.id = document) = some i then (o.template? template).map (·, values) else none
  | _ => none

variable {o o' : Office} {s : Step} {a : Answer} {u : User} {t : Template} {values : FormValues} {d e : Document}
  {i : Nat}

theorem Fate.drawnBy {id : DocumentId} {template : TemplateId} {maker : User} {made : Instant} (h : o.Fate s d e)
    (hd : d.DrawnBy id template maker made) : e.DrawnBy id template maker made := by
  cases h with
  | kept => exact hd
  | refilled _ _ _ he =>
    obtain ⟨_, _, _, _, rfl⟩ := Document.refill_eq_ok_iff.1 he
    exact ⟨hd.id, hd.template, hd.organization, hd.creator, hd.createdAt⟩
  | moved _ _ he =>
    obtain ⟨_, _, rfl⟩ := Document.move_eq_ok_iff.1 he
    exact ⟨hd.id, hd.template, hd.organization, hd.creator, hd.createdAt⟩

theorem placeAfter?_of_fillingAt? {filling : Template × FormValues} (h : o.fillingAt? i s = some filling) :
    o.placeAfter? i s = some i := by
  cases s with
  | removeDocument => cases h
  | _ => rfl

/-- A document that a step draws comes last, and the step fills it. -/
theorem Effect.drawn {actor : UserId} {template : TemplateId} {id : DocumentId} {now : Instant}
    (h : o.Effect (.drawDocument actor template id values now) o' a) :
    ∃ u t d, o.user? actor = some u ∧ o'.documents[o.documents.length]? = some d ∧ d.DrawnBy id template u now ∧
      o.fillingAt? o.documents.length (.drawDocument actor template id values now) = some (t, values) := by
  cases h with
  | @drawDocument _ _ _ _ _ u t d hu ht hd =>
    obtain ⟨_, _, rfl⟩ := Document.draw_eq_ok_iff.1 hd
    refine ⟨u, t, _, hu, List.getElem?_concat_length, ⟨rfl, (mem_of_find?_key ht).2, rfl, rfl, rfl⟩, ?_⟩
    rw [fillingAt?, if_pos rfl, ht, Option.map_some]

/-- The document that a step fills holds what the template and the submission give. -/
theorem Effect.filled (h : o.Effect s o' a) (hfilling : o.fillingAt? i s = some (t, values)) :
    ∃ d, o'.documents[i]? = some d ∧ d.FilledFrom o.rules t values := by
  cases h with
  | addTemplate | reviseTemplate | moveDocument | removeDocument | addUser | reviseUser | removeUser => cases hfilling
  | drawDocument hu ht hd =>
    rw [fillingAt?, ht, Option.map_some, Option.ite_none_right_eq_some] at hfilling
    obtain ⟨rfl, hfilling⟩ := hfilling
    obtain ⟨rfl, rfl⟩ := Prod.mk.inj (Option.some.inj hfilling)
    obtain ⟨_, hvalid, rfl⟩ := Document.draw_eq_ok_iff.1 hd
    exact ⟨_, List.getElem?_concat_length, Document.filledFrom_of_report hvalid rfl rfl⟩
  | @refillDocument actor document template submission now u c d d' hu ht hd hd' =>
    rw [fillingAt?, ht, Option.map_some, Option.ite_none_right_eq_some] at hfilling
    obtain ⟨hi, hfilling⟩ := hfilling
    obtain ⟨rfl, rfl⟩ := Prod.mk.inj (Option.some.inj hfilling)
    have hnext := getElem?_replaceFirst (fun d => decide (d.id = document)) d' o.documents i
    rw [if_pos hi] at hnext
    obtain ⟨_, _, _, hvalid, rfl⟩ := Document.refill_eq_ok_iff.1 hd'
    exact ⟨_, hnext, Document.filledFrom_of_report hvalid rfl rfl⟩

/-- In a step that succeeds the document at a place is removed, or it stays, and it keeps its contents unless the step
fills it. -/
theorem Effect.document_cases (h : o.Effect s o' a) (hd : o.documents[i]? = some d) :
    (o.placeAfter? i s = none ∧ ∃ actor, s = .removeDocument actor d.id) ∨
      ∃ j e, o.placeAfter? i s = some j ∧ o'.documents[j]? = some e ∧ o.Fate s d e ∧
        ((e.data = d.data ∧ e.content = d.content) ∨ ∃ t values, o.fillingAt? i s = some (t, values)) := by
  have hlt := (List.getElem?_eq_some_iff.1 hd).1
  cases h with
  | addTemplate | reviseTemplate | addUser | reviseUser | removeUser =>
    exact .inr ⟨i, d, rfl, hd, .kept, .inl ⟨rfl, rfl⟩⟩
  | drawDocument =>
    refine .inr ⟨i, d, rfl, ?_, .kept, .inl ⟨rfl, rfl⟩⟩
    rw [List.getElem?_append_left hlt]
    exact hd
  | @refillDocument actor document template values now u t c c' hu ht hc hc' =>
    have hnext := getElem?_replaceFirst (fun d => decide (d.id = document)) c' o.documents i
    by_cases hi : o.documents.findIdx? (fun d => d.id = document) = some i
    · obtain rfl := eq_of_findIdx? hc hi hd
      obtain rfl := (mem_of_find?_key hc).2
      rw [if_pos hi] at hnext
      refine .inr ⟨i, c', rfl, hnext, .refilled rfl hu ht hc', .inr ⟨t, values, ?_⟩⟩
      rw [fillingAt?, if_pos hi, ht, Option.map_some]
    · rw [if_neg hi, hd] at hnext
      exact .inr ⟨i, d, rfl, hnext, .kept, .inl ⟨rfl, rfl⟩⟩
  | @moveDocument actor document status now u c c' hu hc hc' =>
    have hnext := getElem?_replaceFirst (fun d => decide (d.id = document)) c' o.documents i
    by_cases hi : o.documents.findIdx? (fun d => d.id = document) = some i
    · obtain rfl := eq_of_findIdx? hc hi hd
      obtain rfl := (mem_of_find?_key hc).2
      rw [if_pos hi] at hnext
      obtain ⟨_, _, he⟩ := Document.move_eq_ok_iff.1 hc'
      exact .inr ⟨i, c', rfl, hnext, .moved rfl hu hc', .inl ⟨by rw [he], by rw [he]⟩⟩
    · rw [if_neg hi, hd] at hnext
      exact .inr ⟨i, d, rfl, hnext, .kept, .inl ⟨rfl, rfl⟩⟩
  | @removeDocument actor document u c hu hc hr =>
    by_cases hid : d.id = document
    · refine .inl ⟨?_, actor, by rw [hid]⟩
      simp [placeAfter?, hd, hid]
    · refine .inr ⟨_, d, ?_, getElem?_filter_of_getElem? hd (decide_eq_true hid), .kept, .inl ⟨rfl, rfl⟩⟩
      simp [placeAfter?, hd, hid]

end Office

namespace Run

/-- The document at place `i` of state `n` stands at place `j` of the next state. -/
def Leads (r : Run) (n i j : Nat) : Prop :=
  (∃ s a, r.Accepts n s a ∧ (r.state n).placeAfter? i s = some j) ∨ (∀ s a, ¬ r.Accepts n s a) ∧ j = i

/-- The document that step `k` draws stands at a place of a state. -/
inductive Stands (r : Run) (k : Nat) : Nat → Nat → Prop
  | drawn {actor template id values now a} (h : r.Accepts k (.drawDocument actor template id values now) a) :
      Stands r k (k + 1) (r.state k).documents.length
  | next {n i j} (h : Stands r k n i) (hj : r.Leads n i j) : Stands r k (n + 1) j

/-- Step `n` fills the document at place `i`, as it stands afterwards, from a template as it is before the step. -/
def Fills (r : Run) (n i : Nat) (t : Template) (submission : FormValues) : Prop :=
  ∃ s a, r.Accepts n s a ∧ (r.state n).fillingAt? i s = some (t, submission)

/-- The last step to fill the document at place `i` of state `n` fills it from a template and a submission. -/
inductive LastFilled (r : Run) : Nat → Nat → Template → FormValues → Prop
  | filled {n i t submission} (h : r.Fills n i t submission) : LastFilled r (n + 1) i t submission
  | kept {n i j t submission} (h : LastFilled r n i t submission) (hnone : ∀ t' values, ¬ r.Fills n i t' values)
      (hj : r.Leads n i j) : LastFilled r (n + 1) j t submission

/-- As long as it is there, the document that step `k` draws keeps what its drawing says of it, and it holds what its
last filling gives. -/
structure KeepsDocument (r : Run) (k : Nat) (id : DocumentId) (template : TemplateId) (maker : User) (made : Instant) :
    Prop where
  /-- The document is there from its drawing on, until it is removed. -/
  stays : ∀ n, k < n → (∃ i, r.Stands k n i) ∨ ∃ m, k < m ∧ m < n ∧ r.Removes m id
  record : ∀ n i, r.Stands k n i → ∃ d, (r.state n).documents[i]? = some d ∧ d.DrawnBy id template maker made
  contents : ∀ n i d, r.Stands k n i → (r.state n).documents[i]? = some d →
    (∃ t submission, r.LastFilled n i t submission) ∧
      ∀ t submission, r.LastFilled n i t submission → d.FilledFrom r.start.rules t submission

variable {r : Run} {k n i j : Nat} {d : Document} {t : Template} {submission : FormValues}

theorem Leads.place_eq {s : Step} {a : Answer} (h : r.Leads n i j) (hs : r.Accepts n s a) :
    (r.state n).placeAfter? i s = some j := by
  rcases h with ⟨s', _, hs', hplace⟩ | ⟨hnone, _⟩
  · obtain rfl := Option.some.inj (hs'.1.symm.trans hs.1)
    exact hplace
  · exact absurd hs (hnone s a)

theorem Leads.eq_of_fills (h : r.Leads n i j) (hfills : r.Fills n i t submission) : j = i := by
  obtain ⟨s, a, hs, hfilling⟩ := hfills
  have hplace := Office.placeAfter?_of_fillingAt? hfilling
  exact Option.some.inj ((h.place_eq hs).symm.trans hplace)

/-- The document at a place to which a place leads is the one from there, with its contents unless the step fills it. -/
theorem Leads.document_cases (h : r.Leads n i j) (hd : (r.state n).documents[i]? = some d) :
    ∃ e, (r.state (n + 1)).documents[j]? = some e ∧
      (∀ id template maker made, d.DrawnBy id template maker made → e.DrawnBy id template maker made) ∧
      ((e.data = d.data ∧ e.content = d.content) ∨ ∃ t submission, r.Fills n i t submission) := by
  rcases h with ⟨s, a, hs, hplace⟩ | ⟨hnone, rfl⟩
  · rcases hs.effect.document_cases hd with ⟨hplace', _⟩ | ⟨j', e, hplace', he, hfate, hcontents⟩
    · rw [hplace] at hplace'
      cases hplace'
    · obtain rfl := Option.some.inj (hplace'.symm.trans hplace)
      refine ⟨e, he, fun _ _ _ _ => hfate.drawnBy, hcontents.imp_right ?_⟩
      rintro ⟨t, submission, hfilling⟩
      exact ⟨t, submission, s, a, hs, hfilling⟩
  · have hsame := ((accepts_or_state_succ_eq r n).resolve_left fun ⟨s, a, hs⟩ => hnone s a hs).2
    exact ⟨d, by rw [hsame, hd], fun _ _ _ _ hdrawn => hdrawn, .inl ⟨rfl, rfl⟩⟩

theorem exists_leads (hd : (r.state n).documents[i]? = some d) : (∃ j, r.Leads n i j) ∨ r.Removes n d.id := by
  rcases accepts_or_state_succ_eq r n with ⟨s, a, h⟩ | ⟨hnone, _⟩
  · rcases h.effect.document_cases hd with ⟨_, actor, rfl⟩ | ⟨j, _, hplace, _⟩
    · exact .inr ⟨actor, a, h⟩
    · exact .inl ⟨j, .inl ⟨s, a, h, hplace⟩⟩
  · exact .inl ⟨i, .inr ⟨hnone, rfl⟩⟩

/-- What a document was last filled from is still what it holds. -/
theorem LastFilled.filledFrom (h : r.LastFilled n i t submission) :
    ∃ d, (r.state n).documents[i]? = some d ∧ d.FilledFrom r.start.rules t submission := by
  induction h with
  | @filled n i t submission h =>
    obtain ⟨s, a, h, hfilling⟩ := h
    rw [← rules_state r n]
    exact h.effect.filled hfilling
  | kept _ hnone hj ih =>
    obtain ⟨d, hd, hfilled⟩ := ih
    obtain ⟨e, he, _, ⟨hdata, hcontent⟩ | ⟨t, values, hfills⟩⟩ := hj.document_cases hd
    · exact ⟨e, he, hfilled.congr hdata hcontent⟩
    · exact absurd hfills (hnone t values)

theorem Stands.exists_lastFilled (h : r.Stands k n i) : ∃ t submission, r.LastFilled n i t submission := by
  induction h with
  | drawn h =>
    obtain ⟨_, t, _, _, _, _, hfilling⟩ := h.effect.drawn
    exact ⟨t, _, .filled ⟨_, _, h, hfilling⟩⟩
  | @next n i j _ hj ih =>
    obtain ⟨t, submission, hlast⟩ := ih
    by_cases hfills : ∃ t' values, r.Fills n i t' values
    · obtain ⟨t', values, hfills⟩ := hfills
      obtain rfl := hj.eq_of_fills hfills
      exact ⟨t', values, .filled hfills⟩
    · exact ⟨t, submission, .kept hlast (fun t' values h => hfills ⟨t', values, h⟩) hj⟩

section Drawn

variable {actor : UserId} {template : TemplateId} {id : DocumentId} {values : FormValues} {now : Instant} {a : Answer}
  {u : User} (h : r.Accepts k (.drawDocument actor template id values now) a) (hu : (r.state k).user? actor = some u)

include h hu

theorem Stands.exists_drawnBy (hstands : r.Stands k n i) :
    ∃ d, (r.state n).documents[i]? = some d ∧ d.DrawnBy id template u now := by
  induction hstands with
  | drawn h' =>
    obtain ⟨rfl, rfl, rfl, rfl, rfl⟩ := Step.drawDocument.inj (Option.some.inj (h'.1.symm.trans h.1))
    obtain ⟨u', _, d, hu', hd, hdrawn, _⟩ := h'.effect.drawn
    obtain rfl := Option.some.inj (hu'.symm.trans hu)
    exact ⟨d, hd, hdrawn⟩
  | next _ hj ih =>
    obtain ⟨d, hd, hdrawn⟩ := ih
    obtain ⟨e, he, hkept, _⟩ := hj.document_cases hd
    exact ⟨e, he, hkept _ _ _ _ hdrawn⟩

/-- In every run a document that is drawn keeps what its drawing says of it, and its data and text come from the last
submission that was accepted for it and from the template as it was then. -/
theorem Accepts.keepsDocument : r.KeepsDocument k id template u now where
  stays n hkn := by
    induction hkn with
    | refl => exact .inl ⟨_, .drawn h⟩
    | @step n hkn ih =>
      rcases ih with ⟨i, hstands⟩ | ⟨m, hkm, hmn, hremoved⟩
      · obtain ⟨d, hd, hdrawn⟩ := hstands.exists_drawnBy h hu
        rcases exists_leads hd with ⟨j, hj⟩ | hremoved
        · exact .inl ⟨j, .next hstands hj⟩
        · exact .inr ⟨n, hkn, Nat.lt_succ_self n, hdrawn.id ▸ hremoved⟩
      · exact .inr ⟨m, hkm, Nat.lt_succ_of_lt hmn, hremoved⟩
  record _ _ hstands := hstands.exists_drawnBy h hu
  contents n i d hstands hd := by
    refine ⟨hstands.exists_lastFilled, fun t submission hlast => ?_⟩
    obtain ⟨e, he, hfilled⟩ := hlast.filledFrom
    obtain rfl := Option.some.inj (he.symm.trans hd)
    exact hfilled

end Drawn

section Bakery

open SmallOffice

def bakery : DocumentId := ⟨2⟩

/-- The text that the template of the leases gets later. -/
def datedLease : TemplateRevision := ⟨"Bail", none, "Bail du {{date_bail}}", .organization⟩

def bakerySubmission : FormValues := Table.ofList [("preneur", "Boulangerie Martin"), ("date_bail", " 2025-02-01 ")]

/-- A second lease is drawn, its template asks for a date from then on, a submission without one is refused, the lease
before it is removed, it is refilled with a date, and its template loses all blanks before it goes to the review. -/
def redrafting : Run where
  start := office
  steps := [
    .drawDocument editor.id lease.id ⟨1⟩ (tenant "SCI Horizon") noon,
    .drawDocument editor.id lease.id bakery (tenant "Boulangerie") noon,
    .reviseTemplate editor.id lease.id datedLease noon,
    .refillDocument editor.id bakery lease.id (tenant "Boulangerie Martin") noon,
    .removeDocument editor.id ⟨1⟩,
    .refillDocument editor.id bakery lease.id bakerySubmission evening,
    .reviseTemplate editor.id lease.id ⟨"Bail", none, "Bail", .organization⟩ evening,
    .moveDocument editor.id bakery .review evening]

theorem redrafting_keepsDocument :
    (∃ a, redrafting.Accepts 1 (.drawDocument editor.id lease.id bakery (tenant "Boulangerie") noon) a) ∧
      (redrafting.state 1).user? editor.id = some editor ∧
      redrafting.KeepsDocument 1 bakery lease.id editor noon ∧
      (redrafting.state 8).documents.map Document.id = [bakery] ∧
      (redrafting.state 8).documents.map Document.content = ["Bail du 1 février 2025"] := by
  have hdraw : redrafting.Accepts 1 (.drawDocument editor.id lease.id bakery (tenant "Boulangerie") noon)
      (.document ⟨bakery, lease.id, some acme, editor.id, .draft, tenant "Boulangerie", "Bail de Boulangerie", noon,
        none⟩) :=
    ⟨rfl, by decide +kernel⟩
  have heditor : (redrafting.state 1).user? editor.id = some editor := by decide +kernel
  exact ⟨⟨_, hdraw⟩, heditor, hdraw.keepsDocument heditor, by decide +kernel, by decide +kernel⟩

end Bakery

end Run

end Formulary
