import Formulary.Proofs.Office.Provenance
import Formulary.Proofs.Text.Trim

/-!
# Refilling a draft with its own data

The data of a document are values that the form of its template has accepted.  They have no white space left at their
ends, so that they are accepted again and come out as they are (`Document.FilledFrom.report_data`).  As long as the
template asks the same questions and has the same text, whoever may edit a draft can submit its own data again, and
nothing changes but the time of the last change (`Run.LastFilled.refill_own_data`).
-/

namespace Formulary

variable {rules : Ruleset} {u : User} {t t' : Template} {d : Document} {submission : FormValues} {now : Instant}

namespace Document

section FilledFrom

variable (h : d.FilledFrom rules t submission)

include h

/-- The data of a document are their own report. -/
theorem FilledFrom.report_data : rules.report t.form d.data = ⟨d.data, []⟩ := by
  have hget : ∀ v ∈ t.form, (d.data.get? v.name).getD "" = Text.trim ((submission.get? v.name).getD "") := by
    intro v hv
    rw [h.values v hv, Option.getD_some]
  have hvalid : (rules.report t.form d.data).isValid = true := by
    refine Report.isValid_iff.2 fun v hv => ⟨_, Settings.judge_eq_ok_iff.2 ⟨rfl, ?_⟩⟩
    rw [hget v hv, Text.trim_trim]
    rcases h.sound v hv _ (h.values v hv) with ⟨hne, hfault⟩ | ⟨hempty, hrequired⟩
    · exact ⟨fun hempty => absurd hempty hne, fun _ => hfault⟩
    · exact ⟨fun _ => hrequired, fun hne => absurd hempty hne⟩
  have hdata : (rules.report t.form d.data).data = d.data := by
    refine Table.ext_get? fun key => ?_
    by_cases hkey : key ∈ d.data.keys
    · obtain ⟨v, hv, rfl⟩ := (h.keys key).1 hkey
      rw [h.values v hv, ← Text.trim_trim, ← hget v hv]
      exact Report.get?_data hvalid hv
    · have hnone : key ∉ (rules.report t.form d.data).data.keys := by
        rwa [Ruleset.report, Report.mem_keys_data_iff hvalid, ← h.keys key]
      rw [Table.get?_eq_none_iff.2 hkey, Table.get?_eq_none_iff.2 hnone]
  have hrejections : (rules.report t.form d.data).rejections = [] := List.isEmpty_iff.1 hvalid
  calc rules.report t.form d.data
      = ⟨(rules.report t.form d.data).data, (rules.report t.form d.data).rejections⟩ := rfl
    _ = ⟨d.data, []⟩ := by rw [hdata, hrejections]

theorem FilledFrom.refill_data (hbody : t'.body = t.body) (hform : t'.form = t.form) (ht : t'.id = d.template)
    (hdraft : d.status = .draft) (hu : u.may .edit (.document d) = true) :
    d.refill rules u t' d.data now = .ok { d with updatedAt := some now } := by
  have hreport : rules.report t'.form d.data = ⟨d.data, []⟩ := by rw [hform, h.report_data]
  refine refill_eq_ok_iff.2 ⟨hu, hdraft, ht.symm, ?_, ?_⟩
  · rw [hreport]
    rfl
  · rw [hreport, hbody, ← h.content]

end FilledFrom

end Document

namespace Run

variable {r : Run} {n i : Nat}

/-- Whoever may edit a draft submits its own data again with success, as long as its template has the text and the form
that it had when the draft was last filled, and nothing changes but the time of the last change. -/
theorem LastFilled.refill_own_data (hlast : r.LastFilled n i t submission) (hd : (r.state n).documents[i]? = some d)
    (hdraft : d.status = .draft) (ht : t'.id = d.template) (hbody : t'.body = t.body) (hform : t'.form = t.form)
    (hu : u.may .edit (.document d) = true) (now : Instant) :
    d.refill r.start.rules u t' d.data now = .ok { d with updatedAt := some now } ∧
      ∀ actor document template, (r.state n).user? actor = some u → (r.state n).document? document = some d →
        (r.state n).template? template = some t' →
        (r.state n).step (.refillDocument actor document template d.data now) =
          ((r.state n).putDocument document { d with updatedAt := some now },
            .ok (.document { d with updatedAt := some now })) := by
  obtain ⟨e, he, hfilled⟩ := hlast.filledFrom
  obtain rfl := Option.some.inj (he.symm.trans hd)
  have hrefill : e.refill r.start.rules u t' e.data now = .ok { e with updatedAt := some now } :=
    hfilled.refill_data hbody hform ht hdraft hu
  refine ⟨hrefill, fun actor document template hactor hdocument htemplate => ?_⟩
  rw [← rules_state r n] at hrefill
  exact Office.step_of_effect (.refillDocument hactor htemplate hdocument hrefill)

section Engagement

open SmallOffice

/-- A template that asks twice for one date, once as a text. -/
def engagement : Template :=
  { lease with
    body := "Engagement du {{debut}}"
    form := [⟨"debut", "Debut", .date, true, []⟩, ⟨"debut", "Debut", .text, false, []⟩] }

def engagementSubmission : FormValues := Table.ofList [("debut", " 2025-02-01 "), ("page", "2")]

def engagementData : FormValues := Table.ofList [("debut", "2025-02-01")]

/-- An engagement that comes back from the review. -/
def returning : Run where
  start := { office with users := [editor, admin], templates := [engagement] }
  steps := [
    .drawDocument editor.id engagement.id ⟨1⟩ engagementSubmission noon,
    .moveDocument editor.id ⟨1⟩ .review noon,
    .moveDocument admin.id ⟨1⟩ .draft noon]

def returned : Document :=
  ⟨⟨1⟩, engagement.id, some acme, editor.id, .draft, engagementData, "Engagement du 1 février 2025", noon, some noon⟩

theorem returning_refill_own_data :
    returning.LastFilled 3 0 engagement engagementSubmission ∧ (returning.state 3).documents[0]? = some returned ∧
      admin.may .edit (.document returned) = true ∧
      (returning.state 3).step (.refillDocument admin.id returned.id engagement.id engagementData evening) =
        ((returning.state 3).putDocument returned.id { returned with updatedAt := some evening },
          .ok (.document { returned with updatedAt := some evening })) := by
  have hlast : returning.LastFilled 3 0 engagement engagementSubmission := by
    have hfilled : returning.Fills 0 0 engagement engagementSubmission :=
      ⟨_, .document { returned with updatedAt := none }, ⟨rfl, by decide +kernel⟩, by decide +kernel⟩
    -- a move fills nothing and leaves the document at its place
    have hmove : ∀ n actor status now a, returning.Accepts n (.moveDocument actor returned.id status now) a →
        (∀ t values, ¬ returning.Fills n 0 t values) ∧ returning.Leads n 0 0 := by
      intro n actor status now a h
      refine ⟨?_, .inl ⟨_, a, h, rfl⟩⟩
      rintro t values ⟨s, _, hs, hfilling⟩
      obtain rfl := Option.some.inj (hs.1.symm.trans h.1)
      cases hfilling
    have hreview := hmove 1 editor.id .review noon
      (.document { returned with status := .review }) ⟨rfl, by decide +kernel⟩
    have hdraft := hmove 2 admin.id .draft noon (.document returned) ⟨rfl, by decide +kernel⟩
    exact .kept (.kept (.filled hfilled) hreview.1 hreview.2) hdraft.1 hdraft.2
  have hreturned : (returning.state 3).documents[0]? = some returned := by decide +kernel
  have hedit : admin.may .edit (.document returned) = true := by decide
  have htemplate : engagement.id = returned.template := rfl
  have hsame := hlast.refill_own_data hreturned rfl htemplate rfl rfl hedit evening
  exact ⟨hlast, hreturned, hedit, hsame.2 admin.id returned.id engagement.id (by decide +kernel) (by decide +kernel)
    (by decide +kernel)⟩

end Engagement

end Run

end Formulary
